import LootSpawn.Proofs.Lint.LootChecks
import LootSpawn.Proofs.Session.Files

/-!
# Duplicates and merges

The linter warns about the loot entries that no merge adds. Linting and loading the same files, the
unflagged entries of a table are exactly the ones that a merge adds to an empty table, and a table
with entries of its own receives those of them whose items it does not have.
-/

namespace LootSpawn

def Config.linter (config : Config) : Linter := { itemPrefix := config.itemPrefix }

def Session.loadAll (session : Session) (files : List (NamedText × Source)) : Session :=
  files.foldl (fun session file => (session.loadText file.1).1) session

/-- The checks about the entries of one table. -/
def checksUnder (key : String) (checks : List LootCheck) : List LootCheck :=
  checks.filter fun check => check.tableKey = key

/-! ## The log of the checks -/

namespace Linter

theorem loots_checksIn (linter : Linter) (origin : String)
    (loots : List (Numbered (String × LootEntry))) :
    (linter.checksIn origin loots).map (fun check => (check.origin, check.loot)) =
      loots.map (origin, ·) := by
  induction loots generalizing linter with
  | nil => rfl
  | cons loot rest ih => exact congrArg ((origin, loot) :: ·) (ih _)

theorem loots_checksOf (linter : Linter) (files : List (NamedText × Source)) :
    (linter.checksOf files).map (fun check => (check.origin, check.loot)) =
      files.flatMap fun file => file.2.lootEntries.map (file.1.origin, ·) := by
  induction files generalizing linter with
  | nil => rfl
  | cons file rest ih =>
      rw [checksOf, List.map_append, loots_checksIn, ih, List.flatMap_cons]

theorem loot_values_checksOf (linter : Linter) (files : List (NamedText × Source)) :
    (linter.checksOf files).map (fun check => check.loot.value) =
      files.flatMap fun file => file.2.lootEntries.map Numbered.value := by
  have hloots := congrArg (List.map fun loot => loot.2.value) (linter.loots_checksOf files)
  rw [List.map_map, List.map_flatMap] at hloots
  simp only [List.map_map] at hloots
  exact hloots

end Linter

theorem storedUnder_checks (itemPrefix key : String) (checks : List LootCheck) :
    storedUnder itemPrefix key (checks.map fun check => check.loot.value) =
      (checksUnder key checks).map (·.entry itemPrefix) := by
  rw [storedUnder, List.filter_map, List.map_map]
  rfl

/-! ## The merge of the checked entries -/

/-- The unflagged checks under a key whose items are not among the given entries. -/
def addedChecks (itemPrefix key : String) (base : List LootEntry) (checks : List LootCheck) :
    List LootCheck :=
  (checksUnder key checks).filter fun check =>
    !check.flagged && (check.entry itemPrefix).item ∉ base.map LootEntry.item

def MergesUnflagged (itemPrefix key : String) (base : List LootEntry)
    (checks : List LootCheck) : Prop :=
  newEntries base ((checksUnder key checks).map (·.entry itemPrefix)) =
    (addedChecks itemPrefix key base checks).map (·.entry itemPrefix)

/-- An item is stored under the key of its table already exactly when its check is flagged. -/
theorem Linter.Reflects.mem_items_iff {itemPrefix : String} {done : List LootCheck}
    {check : LootCheck} (h : Linter.Reflects itemPrefix done check.linter) :
    (check.entry itemPrefix).item ∈
      ((checksUnder check.tableKey done).map (·.entry itemPrefix)).map LootEntry.item ↔
        check.flagged = true := by
  rw [h.flagged_iff]
  simp only [checksUnder, List.map_map, List.mem_map, List.mem_filter, decide_eq_true_eq,
    LootCheck.subject, Prod.mk.injEq, Function.comp_apply]
  constructor
  · rintro ⟨earlier, ⟨hearlier, htable⟩, hitem⟩
    exact ⟨earlier, hearlier, htable, hitem⟩
  · rintro ⟨earlier, hearlier, htable, hitem⟩
    exact ⟨earlier, ⟨hearlier, htable⟩, hitem⟩

/-- A further entry is new when its check is not flagged and the table does not have its item. -/
theorem MergesUnflagged.step {itemPrefix key : String} {base : List LootEntry}
    {done : List LootCheck} {check : LootCheck} (h : MergesUnflagged itemPrefix key base done)
    (hreflects : Linter.Reflects itemPrefix done check.linter) :
    MergesUnflagged itemPrefix key base (done ++ [check]) := by
  have hsplit : checksUnder key (done ++ [check]) =
      checksUnder key done ++ if check.tableKey = key then [check] else [] := by
    rw [checksUnder, List.filter_append, List.filter_singleton]
    simp [checksUnder]
  rw [MergesUnflagged, addedChecks, hsplit]
  by_cases hkey : check.tableKey = key
  · subst hkey
    rw [if_pos rfl, List.map_append, List.map_singleton, List.filter_append, List.map_append,
      newEntries_concat, h, addedChecks, List.filter_singleton]
    congr 1
    split
    next hmem =>
      rw [List.map_append, List.mem_append, hreflects.mem_items_iff] at hmem
      rcases hmem with hbase | hflagged
      · simp [hbase]
      · simp [hflagged]
    next hmem =>
      rw [List.map_append, List.mem_append, hreflects.mem_items_iff, not_or] at hmem
      simp [hmem.1, hmem.2]
  · rw [if_neg hkey, List.append_nil]
    exact h

theorem mergesUnflagged_checksOf (itemPrefix key : String) (base : List LootEntry)
    (files : List (NamedText × Source)) :
    MergesUnflagged itemPrefix key base (Linter.checksOf { itemPrefix } files) := by
  -- Which checks are flagged is known from how the checks made so far show in the linter.
  have hrun := Linter.checkAll_induction
    (motive := fun done linter =>
      Linter.Reflects itemPrefix done linter ∧ MergesUnflagged itemPrefix key base done)
    (fun _ _ _ hissues h => ⟨h.1.append_issues hissues, h.2⟩)
    (fun _ _ h => ⟨h.1.step, h.2.step h.1⟩) files ⟨Linter.Reflects.start itemPrefix, rfl⟩
  exact hrun.2

/-! ## Sessions -/

/-- Files that can be read are loaded as their sources. -/
theorem Session.loadAll_eq_foldl_commit {files : List (NamedText × Source)}
    (hread : ∀ file ∈ files, Source.ofText file.1.content = .ok file.2) (session : Session) :
    session.loadAll files = (files.map Prod.snd).foldl commit session := by
  induction files generalizing session with
  | nil => rfl
  | cons file rest ih =>
      have hload : (session.loadText file.1).1 = session.commit file.2 := by
        rw [loadText_of_ok session (hread file List.mem_cons_self)]
      rw [List.map_cons, List.foldl_cons, ← hload]
      exact ih (fun other hother => hread other (List.mem_cons_of_mem file hother)) _

theorem loot_loadAll {files : List (NamedText × Source)}
    (hread : ∀ file ∈ files, Source.ofText file.1.content = .ok file.2) (session : Session) :
    (session.loadAll files).loot = session.loot.recordAll
      (files.flatMap fun file => file.2.lootEntries.map Numbered.value) := by
  rw [Session.loadAll_eq_foldl_commit hread, Session.loot_foldl_commit, List.flatMap_map]

/-- What a session that loaded the files holds for a table: the entries of the checks under its
key. -/
theorem tables_loadAll (config : Config) {files : List (NamedText × Source)}
    (hread : ∀ file ∈ files, Source.ofText file.1.content = .ok file.2) (key : String) :
    ((Session.start config).loadAll files).loot.tables[key]? =
      if checksUnder key (config.linter.checksOf files) = [] then none
      else some ((checksUnder key (config.linter.checksOf files)).map
        (·.entry config.itemPrefix)) := by
  have hlog := config.linter.loot_values_checksOf files
  have hstored : storedUnder config.itemPrefix key
      ((config.linter.checksOf files).map fun check => check.loot.value) =
      (checksUnder key (config.linter.checksOf files)).map (·.entry config.itemPrefix) :=
    storedUnder_checks _ _ _
  have hstart : (Session.start config).loot.tables[key]? = none := Std.ExtTreeMap.getElem?_empty
  rw [loot_loadAll hread, ← hlog, LootStore.tables_recordAll, LootStore.entries, hstart]
  simp only [Session.start, hstored, List.map_eq_nil_iff, Option.getD_none, List.nil_append]

/-- A merge after the files were loaded adds the entries of the added checks and skips the others
under its key. -/
theorem populate_loadAll (config : Config) {files : List (NamedText × Source)}
    (hread : ∀ file ∈ files, Source.ofText file.1.content = .ok file.2) (table : HostTable) :
    let key := hostTableKey table.name
    let here := checksUnder key (config.linter.checksOf files)
    let added := addedChecks config.itemPrefix key table.entries (config.linter.checksOf files)
    let merged := ((Session.start config).loadAll files).populate table
    merged.1 = (if here = [] then .noEntries
      else .merged added.length (here.length - added.length)) ∧
    merged.2.2 = { table with
      entries := table.entries ++ added.map (·.entry config.itemPrefix) } := by
  intro key here added merged
  have htables := tables_loadAll config hread key
  have hnew : newEntries table.entries (here.map (·.entry config.itemPrefix)) =
      added.map (·.entry config.itemPrefix) :=
    mergesUnflagged_checksOf config.itemPrefix key table.entries files
  rcases LootStore.merge_cases ((Session.start config).loadAll files).loot table with
    ⟨hprocessed, -⟩ | ⟨-, hnone, hmerge⟩ | ⟨stored, -, hstored, hmerge⟩
  · rw [LootStore.isProcessed, loot_loadAll hread, LootStore.processed_recordAll] at hprocessed
    cases hprocessed
  · rw [htables] at hnone
    have hhere : here = [] := by
      by_contra hne
      rw [if_neg hne] at hnone
      cases hnone
    rw [hhere, List.map_nil, newEntries_nil] at hnew
    simp only [merged, Session.populate, hmerge, hhere, if_true, ← hnew, List.append_nil,
      and_self]
  · rw [htables] at hstored
    have hhere : here ≠ [] := by
      intro hnil
      rw [if_pos hnil] at hstored
      cases hstored
    rw [if_neg hhere] at hstored
    obtain rfl := Option.some.inj hstored
    simp only [merged, Session.populate, hmerge, HostTable.enriched, if_neg hhere]
    rw [show newEntries table.entries ((checksUnder key (config.linter.checksOf files)).map
      (·.entry config.itemPrefix)) = _ from hnew, List.length_map, List.length_map]
    exact ⟨rfl, rfl⟩

theorem length_sub_unflagged (checks : List LootCheck) :
    checks.length - (checks.filter (!·.flagged)).length = checks.countP (·.flagged) := by
  have hlength := checks.length_eq_length_filter_add (·.flagged)
  rw [List.countP_eq_length_filter]
  omega

/-- The duplicates that the linter reports are the entries that no merge adds. The warnings are
those of the flagged checks, one check for each loot entry, and each names the only unflagged check
about the same item of the same table. After loading the files, a merge into an empty table adds
exactly the unflagged entries of the table, in order, and skips the flagged ones; and a merge into
any table adds the unflagged ones whose items it does not have. -/
theorem Linter.duplicates_agree_with_merge (config : Config) (files : List (NamedText × Source))
    (hread : ∀ file ∈ files, Source.ofText file.1.content = .ok file.2) :
    let checks := config.linter.checksOf files
    let session := (Session.start config).loadAll files
    (config.linter.checkAll files).issues.filter Issue.isDuplicate =
      checks.flatMap LootCheck.repeats ∧
    checks.map (fun check => (check.origin, check.loot)) =
      (files.flatMap fun file => file.2.lootEntries.map (file.1.origin, ·)) ∧
    (∀ check ∈ checks, check.flagged = true → ∃ first,
      (checks.filter fun other => !other.flagged &&
        other.subject config.itemPrefix = check.subject config.itemPrefix) = [first] ∧
      check.repeats = [check.warning first]) ∧
    (∀ table : HostTable, table.entries = [] →
      let here := checksUnder (hostTableKey table.name) checks
      (session.populate table).1 = (if here = [] then .noEntries
        else .merged (here.countP (!·.flagged)) (here.countP (·.flagged))) ∧
      (session.populate table).2.2 = { table with
        entries := (here.filter (!·.flagged)).map (·.entry config.itemPrefix) }) ∧
    (∀ table : HostTable,
      let here := checksUnder (hostTableKey table.name) checks
      (session.populate table).2.2 = { table with
        entries := table.entries ++ (here.filter fun check => !check.flagged &&
          (check.entry config.itemPrefix).item ∉ table.entries.map LootEntry.item).map
            (·.entry config.itemPrefix) }) := by
  intro checks session
  have hreflects := Linter.Reflects.checkAll config.itemPrefix files
  refine ⟨hreflects.issues, config.linter.loots_checksOf files, ?_, ?_, ?_⟩
  · intro check hcheck hflagged
    obtain ⟨first, hfirst, hwarning⟩ := hreflects.first check hcheck
    exact ⟨first, hfirst, hwarning hflagged⟩
  · intro table hempty here
    have hadded : addedChecks config.itemPrefix (hostTableKey table.name) table.entries checks =
        here.filter (!·.flagged) := by
      rw [addedChecks, hempty]
      simp [here]
    obtain ⟨houtcome, htable⟩ := populate_loadAll config hread table
    rw [hadded] at houtcome htable
    rw [hempty, List.nil_append] at htable
    rw [List.countP_eq_length_filter, ← length_sub_unflagged]
    exact ⟨houtcome, htable⟩
  · intro table here
    exact (populate_loadAll config hread table).2

/-- Two files that place a rope in one table under three spellings, and a tea after it. -/
def cabinFiles : List (NamedText × Source) :=
  [(⟨"a.txt", "loottable = Cabin\nitem = GEAR_Rope w = 5\nitem = rope w = 7"⟩,
    ⟨[⟨1, .lootTable "cabin"⟩, ⟨2, .loot "cabin" ⟨"gear_rope", 5⟩⟩,
      ⟨3, .loot "cabin" ⟨"rope", 7⟩⟩]⟩),
    (⟨"b.txt", "loottable = LootTableCabin\nitem = Gear_ROPE w = 1\nitem = tea w = 2"⟩,
    ⟨[⟨1, .lootTable "loottablecabin"⟩, ⟨2, .loot "loottablecabin" ⟨"gear_rope", 1⟩⟩,
      ⟨3, .loot "loottablecabin" ⟨"tea", 2⟩⟩]⟩)]

theorem Linter.duplicates_agree_with_merge_cabin :
    (∀ file ∈ cabinFiles, Source.ofText file.1.content = .ok file.2) ∧
    (((Session.start {}).loadAll cabinFiles).populate ⟨0, "LootTableCabin", []⟩).1 =
      .merged 2 2 ∧
    (((Session.start {}).loadAll cabinFiles).populate ⟨0, "LootTableCabin", []⟩).2.2 =
      ⟨0, "LootTableCabin", [⟨"GEAR_rope", 5⟩, ⟨"GEAR_tea", 2⟩]⟩ := by
  have hread : ∀ file ∈ cabinFiles, Source.ofText file.1.content = .ok file.2 := by
    decide +kernel
  obtain ⟨-, -, -, hempty, -⟩ := Linter.duplicates_agree_with_merge {} cabinFiles hread
  obtain ⟨houtcome, htable⟩ := hempty ⟨0, "LootTableCabin", []⟩ rfl
  rw [houtcome, htable]
  exact ⟨hread, by decide +kernel, by decide +kernel⟩

end LootSpawn
