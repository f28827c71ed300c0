import LootSpawn.Proofs.Line.ItemLine
import LootSpawn.Proofs.Lint.NeverSpawns
import LootSpawn.Proofs.Lint.RepeatedEntries
import LootSpawn.Proofs.Scene.Calls
import LootSpawn.Proofs.Session.World
import LootSpawn.Proofs.Source.FirstOffence

/-!
# Items in scenes and tables

The prefix of an item is added where the item is used: by the resolver of a scene, when a loot entry
is recorded, and when a linter compares it with others. An item that is written without its prefix
is therefore the item that is written with it, for the host and for the loot tables.
-/

namespace LootSpawn

open Text

variable {Slot σ τ ρ Asset Handle : Type}

/-! ## Lines of a file -/

/-- The line with the given number, counted from one. -/
def NamedText.line? (text : NamedText) : Nat → Option String
  | 0 => none
  | number + 1 => (Source.linesOfText text.content)[number]?

theorem exists_of_mem_forall₂ {α β : Type} {rel : α → β → Prop} {as : List α} {bs : List β}
    (h : List.Forall₂ rel as bs) {a : α} (ha : a ∈ as) : ∃ b ∈ bs, rel a b := by
  induction h with
  | nil => cases ha
  | cons hfirst _ ih =>
      rcases List.mem_cons.mp ha with rfl | hrest
      · exact ⟨_, List.mem_cons_self, hfirst⟩
      · obtain ⟨b, hb, hrel⟩ := ih hrest
        exact ⟨b, List.mem_cons_of_mem _ hb, hrel⟩

/-- A record says what its line says. -/
theorem Source.read_of_mem_records {text : NamedText} {source : Source}
    (h : Source.ofText text.content = .ok source) {record : Numbered Record}
    (hrecord : record ∈ source.records) :
    ∃ raw, text.line? record.line = some raw ∧ Line.read raw = .ok (some record.value.line) := by
  obtain ⟨numbered, hnumbered, hplaced⟩ := exists_of_mem_forall₂ (Source.forall₂_places h) hrecord
  refine ⟨numbered.1, ?_, ?_⟩
  · rw [hplaced.number]
    exact List.mk_mem_zipIdx_iff_getElem?.mp (List.mem_filter.mp hnumbered).1
  · have hsaid := hplaced.said
    rw [Line.said?] at hsaid
    split at hsaid
    next hline => rw [hline, hsaid]
    next => cases hsaid

/-- A line of an accepted file is not at fault. -/
theorem Source.read_ne_error {text : NamedText} {source : Source}
    (h : Source.ofText text.content = .ok source) {number : Nat} {raw : String}
    (hraw : text.line? number = some raw) (fault : LineFault) : Line.read raw ≠ .error fault := by
  intro herror
  cases number with
  | zero => cases hraw
  | succ index =>
      obtain ⟨hindex, hraw⟩ := List.getElem?_eq_some_iff.mp hraw
      obtain ⟨before, after, hsplit⟩ := List.append_of_mem (List.mem_of_getElem hraw)
      rcases Reading.offence_cases (Source.linesOfText text.content) with
        ⟨-, hnone⟩ | ⟨_, _, rest, _, hother, hoffends, hsuccess, -⟩
      · exact hnone ⟨before, raw, after, fault, hsplit, .unreadable herror⟩
      · have hfailure := Reading.failure_of_offence hsuccess hoffends rest
        rw [← hother, ((Source.ofLines_eq_ok_iff _ _).mp h).1] at hfailure
        cases hfailure

/-- A line that says something has a record. -/
theorem Source.exists_mem_records {text : NamedText} {source : Source}
    (h : Source.ofText text.content = .ok source) {number : Nat} {raw : String} {said : Line}
    (hraw : text.line? number = some raw) (hsaid : Line.said? raw = some said) :
    ∃ record ∈ source.records, record.line = number ∧ record.value.line = said := by
  cases number with
  | zero => cases hraw
  | succ index =>
      have hmem : (raw, index) ∈ (Source.linesOfText text.content).zipIdx.filter
          fun numbered => (Line.said? numbered.1).isSome :=
        List.mem_filter.mpr ⟨List.mk_mem_zipIdx_iff_getElem?.mpr hraw, by rw [hsaid]; rfl⟩
      obtain ⟨record, hrecord, hplaced⟩ :=
        exists_of_mem_forall₂ (Source.forall₂_places h).flip hmem
      refine ⟨record, hrecord, hplaced.number, ?_⟩
      exact Option.some.inj (hplaced.said.symm.trans hsaid)

theorem Record.prefab?_of_spawn? {record : Record} {spawn : String × Directive}
    (h : record.spawn? = some spawn) : record.line.prefab? = some spawn.2.prefab := by
  cases record with
  | spawn scene directive =>
      cases h
      rfl
  | _ => cases h

theorem Record.prefab?_of_loot? {record : Record} {loot : String × LootEntry}
    (h : record.loot? = some loot) : record.line.prefab? = some loot.2.prefab := by
  cases record with
  | loot table entry =>
      cases h
      rfl
  | _ => cases h

theorem Source.mem_collect {α : Type} {source : Source} {view : Record → Option α}
    {record : Numbered Record} (h : record ∈ source.records) {value : α}
    (hvalue : view record.value = some value) : ⟨record.line, value⟩ ∈ source.collect view :=
  List.mem_filterMap.mpr ⟨record, h, by rw [hvalue]; rfl⟩

theorem Source.mem_records_of_mem_collect {α : Type} {source : Source} {view : Record → Option α}
    {found : Numbered α} (h : found ∈ source.collect view) :
    ∃ record ∈ source.records, record.line = found.line ∧ view record.value = some found.value := by
  obtain ⟨record, hrecord, hview⟩ := List.mem_filterMap.mp h
  obtain ⟨value, hvalue, rfl⟩ := Option.map_eq_some_iff.mp hview
  exact ⟨record, hrecord, rfl, hvalue⟩

namespace PrefixedItem

variable {itemPrefix : String} (item : PrefixedItem itemPrefix) {text : NamedText} {source : Source}

/-- The line of the file places the item. -/
def IsPlacedAt (text : NamedText) (number : Nat) : Prop :=
  ∃ raw, text.line? number = some raw ∧ item.IsPlacedBy raw

/-- A line of an accepted file that places the item is a spawn or a loot entry. -/
theorem exists_of_isPlacedAt (hread : Source.ofText text.content = .ok source) {number : Nat}
    (h : item.IsPlacedAt text number) : (∃ spawn ∈ source.spawns, spawn.line = number) ∨
      ∃ loot ∈ source.lootEntries, loot.line = number := by
  obtain ⟨raw, hraw, hplaced⟩ := h
  obtain ⟨said, hsaid⟩ : ∃ said, Line.read raw = .ok (some said) := by
    obtain ⟨form, start, hstart, rfl⟩ := hplaced
    have hnoError := Source.read_ne_error hread hraw
    rw [form.read_line hstart] at hnoError ⊢
    cases hresult : readItem (start.map Char.toLower ++ item.stem)
        (lower (dropTrailingBlanks form.clauses)) with
    | ok said => exact ⟨said, rfl⟩
    | error fault => exact absurd (congrArg (Except.map some) hresult) (hnoError fault)
  obtain ⟨prefab, hprefab, -⟩ := item.prefab?_of_isPlacedBy hplaced hsaid
  obtain ⟨record, hrecord, hnumber, hline⟩ :=
    Source.exists_mem_records hread hraw (by rw [Line.said?, hsaid])
  rw [← hline] at hprefab
  cases hvalue : record.value with
  | spawn scene directive =>
      exact Or.inl ⟨_, Source.mem_collect hrecord (congrArg Record.spawn? hvalue), hnumber⟩
  | loot table entry =>
      exact Or.inr ⟨_, Source.mem_collect hrecord (congrArg Record.loot? hvalue), hnumber⟩
  | _ =>
      rw [hvalue] at hprefab
      cases hprefab

theorem itemName_of_isPlacedAt (hread : Source.ofText text.content = .ok source)
    {record : Numbered Record} (hrecord : record ∈ source.records)
    (hplaced : item.IsPlacedAt text record.line) :
    ∃ prefab, record.value.line.prefab? = some prefab ∧ itemName prefab itemPrefix = item.name := by
  obtain ⟨raw, hraw, hplaced⟩ := hplaced
  obtain ⟨raw', hraw', hsaid⟩ := Source.read_of_mem_records hread hrecord
  obtain rfl : raw = raw' := Option.some.inj (hraw.symm.trans hraw')
  exact item.prefab?_of_isPlacedBy hplaced hsaid

/-- What a view yields for a line that places the item has the name of the item. -/
theorem itemName_of_mem_collect {α : Type} (hread : Source.ofText text.content = .ok source)
    {view : Record → Option α} {found : Numbered α} (hfound : found ∈ source.collect view)
    (hplaced : item.IsPlacedAt text found.line) {prefab : String}
    (hview : ∀ record, view record = some found.value → record.line.prefab? = some prefab) :
    itemName prefab itemPrefix = item.name := by
  obtain ⟨record, hrecord, hline, hvalue⟩ := Source.mem_records_of_mem_collect hfound
  rw [← hline] at hplaced
  obtain ⟨written, hwritten, hname⟩ := item.itemName_of_isPlacedAt hread hrecord hplaced
  rw [hview record.value hvalue] at hwritten
  rwa [Option.some.inj hwritten]

theorem itemName_spawn (hread : Source.ofText text.content = .ok source)
    {spawn : Numbered (String × Directive)} (hspawn : spawn ∈ source.spawns)
    (hplaced : item.IsPlacedAt text spawn.line) :
    itemName spawn.value.2.prefab itemPrefix = item.name :=
  item.itemName_of_mem_collect hread hspawn hplaced fun _ => Record.prefab?_of_spawn?

theorem prefixed_loot (hread : Source.ofText text.content = .ok source)
    {loot : Numbered (String × LootEntry)} (hloot : loot ∈ source.lootEntries)
    (hplaced : item.IsPlacedAt text loot.line) :
    loot.value.2.prefixed itemPrefix = ⟨item.name, loot.value.2.weight⟩ := by
  rw [LootEntry.prefixed,
    item.itemName_of_mem_collect hread hloot hplaced fun _ => Record.prefab?_of_loot?]

end PrefixedItem

/-! ## Sessions -/

/-- The resolvers and the loot store of the session add the same prefix. -/
structure Session.IsConfigured (session : Session) (itemPrefix : String) : Prop where
  config : session.config.itemPrefix = itemPrefix
  loot : session.loot.itemPrefix = itemPrefix

namespace Session

variable {session : Session} {itemPrefix : String}

theorem isConfigured_start (config : Config) : (start config).IsConfigured config.itemPrefix :=
  ⟨rfl, rfl⟩

theorem IsConfigured.loadText (h : session.IsConfigured itemPrefix) (text : NamedText) :
    (session.loadText text).1.IsConfigured itemPrefix := by
  rw [Session.loadText]
  split
  next source _ =>
    refine ⟨h.config, ?_⟩
    exact (congrArg LootStore.itemPrefix (session.loot.load_eq_recordAll source)).trans
      ((LootStore.itemPrefix_recordAll _ _).trans h.loot)
  next => exact h

theorem IsConfigured.loadAll (h : session.IsConfigured itemPrefix)
    (files : List (NamedText × Source)) : (session.loadAll files).IsConfigured itemPrefix := by
  induction files generalizing session with
  | nil => exact h
  | cons file rest ih => exact ih (h.loadText file.1)

theorem IsConfigured.populate (h : session.IsConfigured itemPrefix) (table : HostTable) :
    (session.populate table).2.1.IsConfigured itemPrefix := by
  refine ⟨h.config, ?_⟩
  rcases session.loot.merge_cases table with ⟨-, hmerge⟩ | ⟨-, -, hmerge⟩ | ⟨stored, -, -, hmerge⟩
  all_goals
    simp only [Session.populate, hmerge]
    exact h.loot

end Session

/-- Every session stays as it was configured, whatever happens to it. -/
theorem World.isConfigured_run [DecidableEq Slot] (config : Config)
    (tables : Slot → HostTable) (stage : Stage σ τ ρ)
    (events : List (Event Slot σ τ ρ Asset Handle)) :
    ((World.start config tables stage : World Slot σ τ ρ Handle).run
      events).session.IsConfigured config.itemPrefix := by
  refine @World.run_invariant _ _ _ _ _ _ _
    (fun _ world => world.session.IsConfigured config.itemPrefix) events ?_ ?_ [] _
    (Session.isConfigured_start config)
  · intro event _ hquiet past world h
    cases event with
    | load text => exact h.loadText text
    | populate => exact hquiet.elim
    | container => exact hquiet.elim
    | _ => exact ⟨h.config, h.loot⟩
  · intro past world slot h
    exact h.populate (world.tables slot)

/-! ## Loot -/

/-- What is stored under a key for some of the loot entries. -/
def storedLines (itemPrefix key : String)
    (loots : List (NamedText × Numbered (String × LootEntry))) : List LootEntry :=
  storedUnder itemPrefix key (loots.map fun loot => loot.2.value)

theorem storedLines_append_cons {itemPrefix key : String}
    {loot : NamedText × Numbered (String × LootEntry)} (hkey : lootTableKey loot.2.value.1 = key)
    (before after : List (NamedText × Numbered (String × LootEntry))) :
    storedLines itemPrefix key (before ++ loot :: after) = storedLines itemPrefix key before ++
      loot.2.value.2.prefixed itemPrefix :: storedLines itemPrefix key after := by
  simp [storedLines, storedUnder, hkey]

theorem entries_loadAll {files : List (NamedText × Source)}
    (hread : ∀ file ∈ files, Source.ofText file.1.content = .ok file.2) {session : Session}
    {itemPrefix : String} (h : session.IsConfigured itemPrefix) (key : String) :
    (session.loadAll files).loot.entries key =
      session.loot.entries key ++ storedLines itemPrefix key (lootLines files) := by
  rw [loot_loadAll hread, LootStore.entries_recordAll, h.loot, storedLines, lootLines,
    List.map_flatMap]
  simp only [List.map_map]
  rfl

theorem read_of_mem_lootLines {files : List (NamedText × Source)}
    (hread : ∀ file ∈ files, Source.ofText file.1.content = .ok file.2)
    {loot : NamedText × Numbered (String × LootEntry)} (h : loot ∈ lootLines files) :
    ∃ source, Source.ofText loot.1.content = .ok source ∧ loot.2 ∈ source.lootEntries := by
  obtain ⟨file, hfile, hloot⟩ := List.mem_flatMap.mp h
  obtain ⟨entry, hentry, rfl⟩ := List.mem_map.mp hloot
  exact ⟨file.2, hread file hfile, hentry⟩

/-- A stored entry whose item was stored before it is skipped, and it makes no other difference to a
merge. -/
theorem LootStore.merge_skipping {store : LootStore} {table : HostTable}
    {earlier later : List LootEntry} {entry : LootEntry}
    (hunmarked : store.isProcessed table.id = false)
    (hstored : store.entries (hostTableKey table.name) = earlier ++ entry :: later)
    (hitem : entry.item ∈ earlier.map LootEntry.item) :
    let added := newEntries table.entries (earlier ++ later)
    (store.merge table).1 =
      .merged added.length ((earlier ++ later).length - added.length + 1) ∧
    (store.merge table).2.2 = table.enriched (earlier ++ later) := by
  intro added
  have hpresent : entry.item ∈ (table.entries ++ earlier).map LootEntry.item := by
    rw [List.map_append]
    exact List.mem_append_right _ hitem
  have hnew : newEntries table.entries (earlier ++ entry :: later) = added :=
    newEntries_append_cons_of_mem hpresent later
  have hle : added.length ≤ (earlier ++ later).length := length_newEntries_le _ _
  rcases store.merge_cases table with
    ⟨hmarked, -⟩ | ⟨-, hnone, -⟩ | ⟨stored, -, hsome, hmerge⟩
  · rw [hunmarked] at hmarked
    cases hmarked
  · rw [entries, hnone] at hstored
    exact absurd hstored.symm (List.append_ne_nil_of_right_ne_nil _ (List.cons_ne_nil _ _))
  · obtain rfl := (entries_of_tables hsome).symm.trans hstored
    have hskipped : (earlier ++ entry :: later).length - added.length =
        (earlier ++ later).length - added.length + 1 := by
      simp only [List.length_append, List.length_cons] at hle ⊢
      omega
    rw [hmerge, hnew, hskipped, HostTable.enriched, HostTable.enriched, hnew]
    exact ⟨rfl, rfl⟩

/-! ## An item with its prefix and without it -/

namespace PrefixedItem

variable {itemPrefix : String} (item : PrefixedItem itemPrefix) {session : Session}
  {files : List (NamedText × Source)}

theorem directives_of_isPlacedAt (hconfigured : session.IsConfigured itemPrefix)
    (hread : ∀ file ∈ files, Source.ofText file.1.content = .ok file.2)
    (host : SceneHost σ Asset Handle) (random : RandomSource ρ) (scaler : Scaler τ)
    {file : NamedText × Source} (hfile : file ∈ files)
    {spawn : Numbered (String × Directive)} (hspawn : spawn ∈ file.2.spawns)
    (hplaced : item.IsPlacedAt file.1 spawn.line) {scene : String}
    (hscene : sceneKey spawn.value.1 = sceneKey scene) :
    let after := session.loadAll files
    let resolver := after.resolver host scaler random
    ∃ before later, after.spawns.directives scene = before ++ spawn.value.2 :: later ∧
      ∀ stage, resolver.asked after.spawns scene stage =
        before.map resolver.assetName ++ item.name :: later.map resolver.assetName := by
  intro after resolver
  have hmem : spawn.value.2 ∈ after.spawns.directives scene := by
    rw [← SpawnStore.directives_sceneKey, ← hscene, SpawnStore.directives_sceneKey]
    exact Session.mem_directives_loadAll hread session hfile hspawn
  have hname : resolver.assetName spawn.value.2 = item.name := by
    rw [← item.itemName_spawn (hread file hfile) hspawn hplaced,
      ← (hconfigured.loadAll files).config]
    rfl
  obtain ⟨before, later, hsplit⟩ := List.append_of_mem hmem
  refine ⟨before, later, hsplit, fun stage => ?_⟩
  rw [Resolver.asked_eq, hsplit, List.map_append, List.map_cons, hname]

theorem prefixed_of_isPlacedAt
    (hread : ∀ file ∈ files, Source.ofText file.1.content = .ok file.2)
    {loot : NamedText × Numbered (String × LootEntry)} (hloot : loot ∈ lootLines files)
    (hplaced : item.IsPlacedAt loot.1 loot.2.line) :
    loot.2.value.2.prefixed itemPrefix = ⟨item.name, loot.2.value.2.weight⟩ := by
  obtain ⟨source, hsource, hmem⟩ := read_of_mem_lootLines hread hloot
  exact item.prefixed_loot hsource hmem hplaced

theorem stored_of_isPlacedAt (hconfigured : session.IsConfigured itemPrefix)
    (hread : ∀ file ∈ files, Source.ofText file.1.content = .ok file.2)
    {loot : NamedText × Numbered (String × LootEntry)} (hloot : loot ∈ lootLines files)
    (hplaced : item.IsPlacedAt loot.1 loot.2.line) :
    ⟨item.name, loot.2.value.2.weight⟩ ∈
      (session.loadAll files).loot.entries (lootTableKey loot.2.value.1) := by
  obtain ⟨before, behind, hsplit⟩ := List.append_of_mem hloot
  rw [entries_loadAll hread hconfigured, hsplit, storedLines_append_cons rfl,
    item.prefixed_of_isPlacedAt hread hloot hplaced]
  exact List.mem_append_right _ (List.mem_append_right _ List.mem_cons_self)

section Repeated

variable {before middle behind : List (NamedText × Numbered (String × LootEntry))}
  {first second : NamedText × Numbered (String × LootEntry)}

theorem mem_and_mem_of_split {α : Type} {list before middle behind : List α} {first second : α}
    (h : list = before ++ first :: (middle ++ second :: behind)) :
    first ∈ list ∧ second ∈ list := by
  subst h
  simp

/-- Two entries for the item in one table are stored under its name. -/
theorem entries_of_repeated (hconfigured : session.IsConfigured itemPrefix)
    (hread : ∀ file ∈ files, Source.ofText file.1.content = .ok file.2)
    (hsplit : lootLines files = before ++ first :: (middle ++ second :: behind))
    (hfirst : item.IsPlacedAt first.1 first.2.line)
    (hsecond : item.IsPlacedAt second.1 second.2.line) {key : String}
    (hfirstKey : lootTableKey first.2.value.1 = key)
    (hsecondKey : lootTableKey second.2.value.1 = key) :
    (session.loadAll files).loot.entries key =
      (session.loot.entries key ++ storedLines itemPrefix key before ++
        ⟨item.name, first.2.value.2.weight⟩ :: storedLines itemPrefix key middle) ++
        ⟨item.name, second.2.value.2.weight⟩ :: storedLines itemPrefix key behind := by
  obtain ⟨hfirstMem, hsecondMem⟩ := mem_and_mem_of_split hsplit
  rw [entries_loadAll hread hconfigured, hsplit, storedLines_append_cons hfirstKey,
    storedLines_append_cons hsecondKey, item.prefixed_of_isPlacedAt hread hfirstMem hfirst,
    item.prefixed_of_isPlacedAt hread hsecondMem hsecond]
  simp only [List.append_assoc, List.cons_append]

/-- The linter warns about the second of two entries for the item in one table. -/
theorem exists_warning_of_repeated
    (hread : ∀ file ∈ files, Source.ofText file.1.content = .ok file.2)
    (hsplit : lootLines files = before ++ first :: (middle ++ second :: behind))
    (hfirst : item.IsPlacedAt first.1 first.2.line)
    (hsecond : item.IsPlacedAt second.1 second.2.line)
    (hkey : lootTableKey first.2.value.1 = lootTableKey second.2.value.1) :
    ∃ seen ∈ before ++ first :: middle,
      lootSubject itemPrefix seen.2.value = lootSubject itemPrefix second.2.value ∧
        repeatWarning second seen ∈ (Linter.checkAll { itemPrefix } files).issues := by
  obtain ⟨hfirstMem, hsecondMem⟩ := mem_and_mem_of_split hsplit
  have hfirstName : itemName first.2.value.2.prefab itemPrefix = item.name :=
    congrArg LootEntry.prefab (item.prefixed_of_isPlacedAt hread hfirstMem hfirst)
  have hsecondName : itemName second.2.value.2.prefab itemPrefix = item.name :=
    congrArg LootEntry.prefab (item.prefixed_of_isPlacedAt hread hsecondMem hsecond)
  rw [← List.cons_append, ← List.append_assoc] at hsplit
  refine exists_repeatWarning hsplit ⟨first, List.mem_append_right _ List.mem_cons_self, ?_⟩
  rw [lootSubject, lootSubject, hkey, hfirstName, hsecondName]

end Repeated

/-- An item means the same with its prefix and without it. Lines that differ in the prefix only are
read alike, and each line of an accepted file that places the item is a spawn or a loot entry.
Whatever happened to a session that is configured with the prefix, after the files were loaded the
host is asked for the name of the item at the turn of such a spawn, and such a loot entry is stored
under that name. The second of two such entries in one table is skipped by a merge, as though only
the first were stored, and the linter warns that it repeats an earlier one. -/
theorem means_the_same [DecidableEq Slot] (config : Config) (tables : Slot → HostTable)
    (stage : Stage σ τ ρ) (events : List (Event Slot σ τ ρ Asset Handle))
    (item : PrefixedItem config.itemPrefix) (files : List (NamedText × Source))
    (hread : ∀ file ∈ files, Source.ofText file.1.content = .ok file.2) :
    let session := ((World.start config tables stage : World Slot σ τ ρ Handle).run events).session
    let after := session.loadAll files
    let under := Line.prefixed config.itemPrefix
    let stored := storedLines config.itemPrefix
    (∀ form : ItemForm,
      (Line.read (form.line (item.spelling ++ item.stem))).map (Option.map under) =
        (Line.read (form.line item.stem)).map (Option.map under)) ∧
    (∀ file ∈ files, ∀ number, item.IsPlacedAt file.1 number →
      (∃ spawn ∈ file.2.spawns, spawn.line = number) ∨
        ∃ loot ∈ file.2.lootEntries, loot.line = number) ∧
    (∀ file ∈ files, ∀ spawn ∈ file.2.spawns, item.IsPlacedAt file.1 spawn.line →
      ∀ scene, sceneKey spawn.value.1 = sceneKey scene →
      ∀ (host : SceneHost σ Asset Handle) (random : RandomSource ρ) (scaler : Scaler τ),
      let resolver := after.resolver host scaler random
      ∃ before later, after.spawns.directives scene = before ++ spawn.value.2 :: later ∧
        ∀ stage, resolver.asked after.spawns scene stage =
          before.map resolver.assetName ++ item.name :: later.map resolver.assetName) ∧
    (∀ loot ∈ lootLines files, item.IsPlacedAt loot.1 loot.2.line →
      ⟨item.name, loot.2.value.2.weight⟩ ∈ after.loot.entries (lootTableKey loot.2.value.1)) ∧
    ∀ before first middle second behind,
      lootLines files = before ++ first :: (middle ++ second :: behind) →
      item.IsPlacedAt first.1 first.2.line → item.IsPlacedAt second.1 second.2.line →
      ∀ key, lootTableKey first.2.value.1 = key → lootTableKey second.2.value.1 = key →
      let earlier := session.loot.entries key ++ stored key before ++
        ⟨item.name, first.2.value.2.weight⟩ :: stored key middle
      let later := stored key behind
      after.loot.entries key = earlier ++ ⟨item.name, second.2.value.2.weight⟩ :: later ∧
      (∀ table : HostTable, hostTableKey table.name = key →
        after.loot.isProcessed table.id = false →
        let added := newEntries table.entries (earlier ++ later)
        (after.populate table).1 =
          .merged added.length ((earlier ++ later).length - added.length + 1) ∧
        (after.populate table).2.2 = table.enriched (earlier ++ later)) ∧
      ∃ seen ∈ before ++ first :: middle,
        lootSubject config.itemPrefix seen.2.value =
          lootSubject config.itemPrefix second.2.value ∧
        repeatWarning second seen ∈ (config.linter.checkAll files).issues := by
  intro session after under stored
  have hconfigured : session.IsConfigured config.itemPrefix :=
    World.isConfigured_run config tables stage events
  refine ⟨item.read_alike, ?_, ?_, ?_, ?_⟩
  · intro file hfile number hplaced
    exact item.exists_of_isPlacedAt (hread file hfile) hplaced
  · intro file hfile spawn hspawn hplaced scene hscene host random scaler
    exact item.directives_of_isPlacedAt hconfigured hread host random scaler hfile hspawn hplaced
      hscene
  · intro loot hloot hplaced
    exact item.stored_of_isPlacedAt hconfigured hread hloot hplaced
  · intro before first middle second behind hsplit hfirst hsecond key hfirstKey hsecondKey earlier
      later
    have hstored : after.loot.entries key =
        earlier ++ ⟨item.name, second.2.value.2.weight⟩ :: later :=
      item.entries_of_repeated hconfigured hread hsplit hfirst hsecond hfirstKey hsecondKey
    refine ⟨hstored, ?_, item.exists_warning_of_repeated hread hsplit hfirst hsecond
      (hfirstKey.trans hsecondKey.symm)⟩
    rintro table rfl hunmarked
    -- Both entries have the same name, so the item of the second was stored before it.
    have hitem : (⟨item.name, second.2.value.2.weight⟩ : LootEntry).item ∈
        earlier.map LootEntry.item := by
      rw [List.map_append]
      exact List.mem_append_right _ List.mem_cons_self
    exact LootStore.merge_skipping hunmarked hstored hitem

/-- A rope, with its prefix capitalized. -/
def rope : PrefixedItem defaultItemPrefix where
  spelling := "Gear_".toList
  stem := ⟨"rope".toList, by decide, by rw [← List.all_eq_true]; decide⟩
  plain := List.all_iff_forall_prop.mp (by decide)
  same := by decide
  settled := by decide
  bare start hstart := by
    have hnone : ∀ start ∈ "rope".toList.inits,
        sameAsciiCase start defaultItemPrefix.toList = false := by decide
    exact hnone start ((List.mem_inits start _).mpr hstart)

theorem ropeForm_isBlank : ∀ c ∈ ([] : List Char), isBlank c = true := List.forall_mem_nil _

/-- A line with the rope. -/
def ropeForm (clauses : String) (hstops : Stops isWord (lower clauses.toList)) : ItemForm :=
  ⟨⟨[], ropeForm_isBlank⟩, ⟨oneBlank, oneBlank⟩, clauses.toList, hstops⟩

/-- The rope with its prefix and without it, in a scene and in a loot table. -/
def ropes : NamedText :=
  ⟨"ropes.txt", "scene = Camp\nitem = Gear_rope\nitem = rope\nloottable = Cache\n" ++
    "item = rope w = 5\nitem = Gear_rope w = 7"⟩

def ropeSource : Source :=
  ⟨[⟨1, .scene "camp"⟩, ⟨2, .spawn "camp" { prefab := "gear_rope" }⟩,
    ⟨3, .spawn "camp" { prefab := "rope" }⟩, ⟨4, .lootTable "cache"⟩,
    ⟨5, .loot "cache" ⟨"rope", 5⟩⟩, ⟨6, .loot "cache" ⟨"gear_rope", 7⟩⟩]⟩

/-- The two loot entries of the rope. -/
def looseRope : NamedText × Numbered (String × LootEntry) := (ropes, ⟨5, "cache", ⟨"rope", 5⟩⟩)

def gearRope : NamedText × Numbered (String × LootEntry) :=
  (ropes, ⟨6, "cache", ⟨"gear_rope", 7⟩⟩)

theorem means_the_same_rope :
    let files := [(ropes, ropeSource)]
    let session := (Session.start {}).loadAll files
    let host : SceneHost Unit Unit Unit :=
      ⟨fun state _ => (some (), state), fun state _ _ _ => ((), state)⟩
    let resolver := session.resolver host (.ofScaling fun chance _ => chance)
      ⟨fun state _ => (true, state)⟩
    (∀ file ∈ files, Source.ofText file.1.content = .ok file.2) ∧
    rope.name ∈ resolver.asked session.spawns "CAMP" ⟨(), (), ()⟩ ∧
    session.loot.entries (lootTableKey "cache") = [⟨rope.name, 5⟩, ⟨rope.name, 7⟩] ∧
    (session.populate ⟨0, "LootTableCache", []⟩).1 = .merged 1 1 ∧
    (session.populate ⟨0, "LootTableCache", []⟩).2.2 =
      ⟨0, "LootTableCache", [⟨rope.name, 5⟩]⟩ ∧
    repeatWarning gearRope looseRope ∈ ((Config.linter {}).checkAll files).issues := by
  intro files session host resolver
  have hread : ∀ file ∈ files, Source.ofText file.1.content = .ok file.2 := by
    decide +kernel
  have hspawn : rope.IsPlacedAt ropes 2 :=
    ⟨"item = Gear_rope", by decide +kernel, ropeForm "" stops_nil, "Gear_".toList,
      by decide, by decide +kernel⟩
  have hfirst : rope.IsPlacedAt ropes 5 :=
    ⟨"item = rope w = 5", by decide +kernel, ropeForm " w = 5" (stops_cons.mpr (by decide)), [],
      by decide, by decide +kernel⟩
  have hsecond : rope.IsPlacedAt ropes 6 :=
    ⟨"item = Gear_rope w = 7", by decide +kernel,
      ropeForm " w = 7" (stops_cons.mpr (by decide)), "Gear_".toList, by decide, by decide +kernel⟩
  have hunmarked : session.loot.isProcessed 0 = false := by
    rw [LootStore.isProcessed, loot_loadAll hread, LootStore.processed_recordAll]
    rfl
  obtain ⟨-, -, hasked, -, hrepeated⟩ := means_the_same {}
    (fun _ : Unit => ⟨0, "LootTableCache", []⟩) ⟨(), (), ()⟩
    ([] : List (Event Unit Unit Unit Unit Unit Unit)) rope files hread
  obtain ⟨before, later, -, hasked⟩ := hasked _ List.mem_cons_self
    ⟨2, "camp", { prefab := "gear_rope" }⟩ List.mem_cons_self hspawn "CAMP" (by decide +kernel) host
    ⟨fun state _ => (true, state)⟩ (.ofScaling fun chance _ => chance)
  obtain ⟨hentries, hmerge, seen, hseen, -, hwarning⟩ := hrepeated [] looseRope [] gearRope [] rfl
    hfirst hsecond (lootTableKey "cache") rfl rfl
  obtain ⟨houtcome, htable⟩ := hmerge ⟨0, "LootTableCache", []⟩ (by decide +kernel) hunmarked
  refine ⟨hread, ?_, hentries, houtcome, htable, ?_⟩
  · have hturn : resolver.asked session.spawns "CAMP" ⟨(), (), ()⟩ =
        before.map resolver.assetName ++ rope.name :: later.map resolver.assetName :=
      hasked ⟨(), (), ()⟩
    rw [hturn]
    exact List.mem_append_right _ List.mem_cons_self
  · rw [List.mem_singleton.mp hseen] at hwarning
    exact hwarning

end PrefixedItem

end LootSpawn
