import LootSpawn.Lint
import LootSpawn.Proofs.Store.LootContents
import LootSpawn.Proofs.Store.NewEntries
import LootSpawn.Session.Basic

/-!
# The loot entries that a linter checks

A run of the linter over several sources is taken apart into the checks of single loot entries, each
with the linter that it finds. A check is flagged if it adds a warning about a duplicate. The linter
remembers exactly the unflagged checks, so a check is flagged when an earlier one was about the same
item of the same table, and its warning names the only unflagged check about it.
-/

namespace LootSpawn

def Finding.isDuplicate : Finding → Bool
  | .duplicate .. => true
  | _ => false

def Issue.isDuplicate (issue : Issue) : Bool := issue.finding.isDuplicate

/-- The finding is about a loot entry. -/
def Finding.isAboutLoot : Finding → Bool
  | .neverDrawn _ | .duplicate .. => true
  | _ => false

theorem Finding.of_isAboutLoot {P : Finding → Prop} (hweight : ∀ prefab, P (.neverDrawn prefab))
    (hduplicate : ∀ prefab table origin line, P (.duplicate prefab table origin line))
    {finding : Finding} (h : finding.isAboutLoot = true) : P finding := by
  cases finding with
  | neverDrawn prefab => exact hweight prefab
  | duplicate prefab table origin line => exact hduplicate prefab table origin line
  | _ => cases h

/-- A loot entry that a linter checks. -/
structure LootCheck where
  linter : Linter
  origin : String
  loot : Numbered (String × LootEntry)

namespace LootCheck

def after (check : LootCheck) : Linter := Linter.checkLoot check.origin check.linter check.loot

/-- The issues that the check adds. -/
def pushed (check : LootCheck) : List Issue :=
  check.after.issues.drop check.linter.issues.length

/-- The warnings about a duplicate that the check adds. -/
def repeats (check : LootCheck) : List Issue := check.pushed.filter Issue.isDuplicate

def flagged (check : LootCheck) : Bool := !check.repeats.isEmpty

def tableKey (check : LootCheck) : String := lootTableKey check.loot.value.1

def entry (check : LootCheck) (itemPrefix : String) : LootEntry :=
  check.loot.value.2.prefixed itemPrefix

/-- What the entry is about: the key of its table and its item. -/
def subject (check : LootCheck) (itemPrefix : String) : String × String :=
  (check.tableKey, (check.entry itemPrefix).item)

/-- The warning that the entry repeats the one of another check. -/
def warning (check first : LootCheck) : Issue :=
  ⟨check.origin, check.loot.line, .duplicate check.loot.value.2.prefab check.loot.value.1
    first.origin first.loot.line⟩

def sighting (check : LootCheck) (itemPrefix : String) : Sighting :=
  ⟨(check.subject itemPrefix).1, (check.subject itemPrefix).2, check.origin, check.loot.line⟩

end LootCheck

namespace Linter

def checksIn (linter : Linter) (origin : String) :
    List (Numbered (String × LootEntry)) → List LootCheck
  | [] => []
  | loot :: rest => ⟨linter, origin, loot⟩ :: (checkLoot origin linter loot).checksIn origin rest

/-- The checks of the loot entries of several files. -/
def checksOf (linter : Linter) : List (NamedText × Source) → List LootCheck
  | [] => []
  | (text, source) :: rest =>
      { linter with issues := linter.issues ++ spawnIssues text.origin source }.checksIn
        text.origin source.lootEntries ++ (linter.check text.origin source).checksOf rest

def checkAll (linter : Linter) (files : List (NamedText × Source)) : Linter :=
  files.foldl (fun linter file => linter.check file.1.origin file.2) linter

end Linter

/-! ## One check -/

namespace LootCheck

def seen? (check : LootCheck) (itemPrefix : String) : Option Sighting :=
  check.linter.sightings.find? fun seen => (seen.table, seen.item) = check.subject itemPrefix

def weightIssues (check : LootCheck) : List Issue :=
  if check.loot.value.2.weight = 0 then
    [⟨check.origin, check.loot.line, .neverDrawn check.loot.value.2.prefab⟩]
  else []

theorem filter_weightIssues (check : LootCheck) :
    check.weightIssues.filter Issue.isDuplicate = [] := by
  rw [weightIssues]
  split
  · rfl
  · rfl

theorem after_eq {check : LootCheck} {itemPrefix : String}
    (hitemPrefix : check.linter.itemPrefix = itemPrefix) :
    check.after = match check.seen? itemPrefix with
      | some seen => { check.linter with
          issues := check.linter.issues ++ check.weightIssues ++
            [⟨check.origin, check.loot.line, .duplicate check.loot.value.2.prefab
              check.loot.value.1 seen.origin seen.line⟩] }
      | none => { check.linter with
          sightings := check.linter.sightings ++ [check.sighting itemPrefix]
          issues := check.linter.issues ++ check.weightIssues } := by
  subst hitemPrefix
  have hfind : check.seen? check.linter.itemPrefix = check.linter.sightings.find? fun seen =>
      seen.table == lootTableKey check.loot.value.1 && seen.item ==
        Text.lowerString (itemName check.loot.value.2.prefab check.linter.itemPrefix) := by
    rw [seen?]
    congr 1
    funext seen
    rw [subject, Bool.eq_iff_iff]
    simp [tableKey, entry, LootEntry.item, LootEntry.prefixed]
  rw [hfind]
  obtain ⟨linter, origin, line, table, stored⟩ := check
  simp only at hfind ⊢
  simp only [after, Linter.checkLoot]
  cases linter.sightings.find? fun seen => seen.table == lootTableKey table &&
      seen.item == Text.lowerString (itemName stored.prefab linter.itemPrefix) with
  | none => rfl
  | some seen => rfl

theorem issues_after (check : LootCheck) :
    check.after.issues = check.linter.issues ++ check.pushed := by
  have hitemPrefix : check.linter.issues <+: check.after.issues := by
    rw [after_eq rfl]
    split
    · simp only [List.append_assoc]
      exact List.prefix_append _ _
    · exact List.prefix_append _ _
  obtain ⟨added, hadded⟩ := hitemPrefix
  rw [pushed, ← hadded, List.drop_left]

theorem isAboutLoot_of_mem_pushed {check : LootCheck} :
    ∀ issue ∈ check.pushed, issue.finding.isAboutLoot = true := by
  have hweight : ∀ issue ∈ check.weightIssues, issue.finding.isAboutLoot = true := by
    rw [weightIssues]
    split
    · exact List.forall_mem_singleton.mpr rfl
    · exact List.forall_mem_nil _
  rw [pushed, after_eq rfl]
  split
  next =>
    rw [List.append_assoc, List.drop_left]
    exact List.forall_mem_append.mpr ⟨hweight, List.forall_mem_singleton.mpr rfl⟩
  next =>
    rw [List.drop_left]
    exact hweight

@[simp]
theorem itemPrefix_after (check : LootCheck) :
    check.after.itemPrefix = check.linter.itemPrefix := by
  rw [after_eq rfl]
  split
  · rfl
  · rfl

/-- A check that finds a sighting is flagged and names it, and nothing more is remembered. -/
theorem repeats_of_seen {check : LootCheck} {itemPrefix : String} {seen : Sighting}
    (hitemPrefix : check.linter.itemPrefix = itemPrefix) (h : check.seen? itemPrefix = some seen) :
    check.repeats = [⟨check.origin, check.loot.line, .duplicate check.loot.value.2.prefab
      check.loot.value.1 seen.origin seen.line⟩] ∧
      check.after.sightings = check.linter.sightings := by
  have hafter := after_eq hitemPrefix
  rw [h] at hafter
  constructor
  · rw [repeats, pushed, hafter]
    simp only [List.append_assoc, List.drop_left, List.filter_append, filter_weightIssues]
    rfl
  · rw [hafter]

/-- A check that finds no sighting is not flagged, and it is remembered. -/
theorem repeats_of_not_seen {check : LootCheck} {itemPrefix : String}
    (hitemPrefix : check.linter.itemPrefix = itemPrefix) (h : check.seen? itemPrefix = none) :
    check.repeats = [] ∧
      check.after.sightings = check.linter.sightings ++ [check.sighting itemPrefix] := by
  have hafter := after_eq hitemPrefix
  rw [h] at hafter
  constructor
  · rw [repeats, pushed, hafter, List.drop_left, filter_weightIssues]
  · rw [hafter]

end LootCheck

/-! ## Runs -/

namespace Linter

/-- The checks of loot entries add issues about loot entries. -/
theorem exists_issues_foldl_checkLoot (origin : String) (linter : Linter)
    (loots : List (Numbered (String × LootEntry))) :
    ∃ issues, (loots.foldl (checkLoot origin) linter).issues = linter.issues ++ issues ∧
      ∀ issue ∈ issues, issue.finding.isAboutLoot = true := by
  induction loots generalizing linter with
  | nil => exact ⟨[], (List.append_nil _).symm, List.forall_mem_nil _⟩
  | cons loot rest ih =>
      obtain ⟨issues, hissues, hloot⟩ := ih (LootCheck.after ⟨linter, origin, loot⟩)
      rw [LootCheck.issues_after, List.append_assoc] at hissues
      exact ⟨_, hissues, List.forall_mem_append.mpr ⟨LootCheck.isAboutLoot_of_mem_pushed, hloot⟩⟩

section Findings

variable {P : Finding → Prop} {origin : String}

/-- The issues of spawns are about their chances. -/
theorem forall_mem_spawnIssues (hnever : ∀ prefab, P (.neverSpawns prefab))
    (houtside : ∀ prefab chance, P (.chanceOutside prefab chance)) {source : Source} :
    ∀ issue ∈ spawnIssues origin source, P issue.finding := by
  intro issue hissue
  obtain ⟨spawn, -, hspawn⟩ := List.mem_filterMap.mp hissue
  obtain ⟨finding, hfinding, rfl⟩ := Option.map_eq_some_iff.mp hspawn
  simp only [chanceFinding?] at hfinding
  split at hfinding
  next =>
    cases hfinding
    exact hnever _
  next =>
    split at hfinding
    next => cases hfinding
    next =>
      cases hfinding
      exact houtside _ _

theorem emptyFinding?_cases {record : Record} {finding : Finding}
    (h : emptyFinding? record = some finding) :
    ∃ name, finding = .emptyScene name ∨ finding = .emptyLootTable name := by
  cases record with
  | scene name => exact ⟨name, Or.inl (Option.some.inj h).symm⟩
  | lootTable name => exact ⟨name, Or.inr (Option.some.inj h).symm⟩
  | _ => cases h

/-- The issues of declarations are about those without items. -/
theorem forall_mem_emptyIssues (hscene : ∀ name, P (.emptyScene name))
    (htable : ∀ name, P (.emptyLootTable name)) {records : List (Numbered Record)} :
    ∀ issue ∈ emptyIssues origin records, P issue.finding := by
  induction records with
  | nil => exact List.forall_mem_nil _
  | cons record rest ih =>
      rw [emptyIssues]
      split
      next finding hfinding =>
        split
        next => exact ih
        next =>
          refine List.forall_mem_cons.mpr ⟨?_, ih⟩
          obtain ⟨name, rfl | rfl⟩ := emptyFinding?_cases hfinding
          · exact hscene name
          · exact htable name
      next => exact ih

end Findings

theorem isDuplicate_of_mem_spawnIssues {origin : String} {source : Source} :
    ∀ issue ∈ spawnIssues origin source, issue.isDuplicate = false :=
  forall_mem_spawnIssues (P := (·.isDuplicate = false)) (fun _ => rfl) fun _ _ => rfl

theorem isDuplicate_of_mem_emptyIssues {origin : String} {records : List (Numbered Record)} :
    ∀ issue ∈ emptyIssues origin records, issue.isDuplicate = false :=
  forall_mem_emptyIssues (P := (·.isDuplicate = false)) (fun _ => rfl) fun _ => rfl

/-- What holds after some checks, and stays when a further entry is checked and when issues about
something else are added, holds after the checks of any files. -/
theorem checkAll_induction {motive : List LootCheck → Linter → Prop}
    (hissues : ∀ done linter issues, (∀ issue ∈ issues, issue.isDuplicate = false) →
      motive done linter → motive done { linter with issues := linter.issues ++ issues })
    (hcheck : ∀ done check, motive done check.linter → motive (done ++ [check]) check.after)
    {done : List LootCheck} {linter : Linter} (files : List (NamedText × Source))
    (h : motive done linter) :
    motive (done ++ linter.checksOf files) (linter.checkAll files) := by
  -- The loot entries of one source first, by induction on them; then the files.
  have hloots : ∀ (origin : String) (loots : List (Numbered (String × LootEntry)))
      {done : List LootCheck} {linter : Linter}, motive done linter →
      motive (done ++ linter.checksIn origin loots) (loots.foldl (checkLoot origin) linter) := by
    intro origin loots
    induction loots with
    | nil =>
        intro done linter h
        rw [checksIn, List.append_nil]
        exact h
    | cons loot rest ih =>
        intro done linter h
        have hstep := ih (hcheck done ⟨linter, origin, loot⟩ h)
        rw [List.append_assoc] at hstep
        exact hstep
  induction files generalizing done linter with
  | nil =>
      rw [checksOf, List.append_nil]
      exact h
  | cons file rest ih =>
      obtain ⟨text, source⟩ := file
      rw [checksOf, ← List.append_assoc]
      apply ih
      apply hissues
      · exact isDuplicate_of_mem_emptyIssues
      · apply hloots
        exact hissues _ _ _ isDuplicate_of_mem_spawnIssues h

/-- The unflagged ones of some checks that are about the same as the given one. -/
def firsts (itemPrefix : String) (checks : List LootCheck) (check : LootCheck) : List LootCheck :=
  checks.filter fun other => !other.flagged && other.subject itemPrefix = check.subject itemPrefix

/-- How the checks that were made show in the linter: the unflagged ones are remembered, the
warnings are among the issues, and of the checks about one subject one is unflagged, which the
warnings of the others name. -/
structure Reflects (itemPrefix : String) (done : List LootCheck) (linter : Linter) : Prop where
  itemPrefix_eq : linter.itemPrefix = itemPrefix
  sightings : linter.sightings =
    (done.filter fun check => !check.flagged).map (·.sighting itemPrefix)
  issues : linter.issues.filter Issue.isDuplicate = done.flatMap LootCheck.repeats
  first : ∀ check ∈ done, ∃ first, firsts itemPrefix done check = [first] ∧
    (check.flagged = true → check.repeats = [check.warning first])

namespace Reflects

variable {itemPrefix : String} {done : List LootCheck} {linter : Linter}

theorem start (itemPrefix : String) : Reflects itemPrefix [] { itemPrefix } :=
  ⟨rfl, rfl, rfl, nofun⟩

theorem append_issues (h : Reflects itemPrefix done linter) {issues : List Issue}
    (hissues : ∀ issue ∈ issues, issue.isDuplicate = false) :
    Reflects itemPrefix done { linter with issues := linter.issues ++ issues } := by
  have hnone : issues.filter Issue.isDuplicate = [] := by
    rw [List.filter_eq_nil_iff]
    intro issue hissue
    rw [hissues issue hissue]
    decide
  refine ⟨h.itemPrefix_eq, h.sightings, ?_, h.first⟩
  rw [List.filter_append, h.issues, hnone, List.append_nil]

/-- A check finds the sighting of the unflagged check about the same subject. -/
theorem seen?_eq {check : LootCheck} (h : Reflects itemPrefix done check.linter) :
    check.seen? itemPrefix =
      (firsts itemPrefix done check).head?.map (·.sighting itemPrefix) := by
  rw [LootCheck.seen?, h.sightings, List.find?_map, List.find?_filter, firsts, List.head?_filter]
  congr 2
  funext other
  rw [Bool.eq_iff_iff]
  simp [LootCheck.sighting]

/-- A check is flagged when an earlier one was about the same subject. -/
theorem flagged_iff {check : LootCheck} (h : Reflects itemPrefix done check.linter) :
    check.flagged = true ↔
      ∃ earlier ∈ done, earlier.subject itemPrefix = check.subject itemPrefix := by
  constructor
  · intro hflagged
    cases hseen : check.seen? itemPrefix with
    | none =>
        rw [LootCheck.flagged, (LootCheck.repeats_of_not_seen h.itemPrefix_eq hseen).1] at hflagged
        cases hflagged
    | some seen =>
        rw [h.seen?_eq] at hseen
        obtain ⟨earlier, hearlier, -⟩ := Option.map_eq_some_iff.mp hseen
        have hmem := List.mem_of_head? hearlier
        simp only [firsts, List.mem_filter, Bool.and_eq_true, decide_eq_true_eq] at hmem
        exact ⟨earlier, hmem.1, hmem.2.2⟩
  · rintro ⟨earlier, hearlier, hsubject⟩
    obtain ⟨first, hfirst, -⟩ := h.first earlier hearlier
    have hseen : check.seen? itemPrefix = some (first.sighting itemPrefix) := by
      rw [h.seen?_eq, firsts, ← hsubject]
      exact congrArg (fun found => found.head?.map (·.sighting itemPrefix)) hfirst
    rw [LootCheck.flagged, (LootCheck.repeats_of_seen h.itemPrefix_eq hseen).1]
    rfl

theorem step {check : LootCheck} (h : Reflects itemPrefix done check.linter) :
    Reflects itemPrefix (done ++ [check]) check.after := by
  have hissues : check.after.issues.filter Issue.isDuplicate =
      (done ++ [check]).flatMap LootCheck.repeats := by
    rw [check.issues_after, List.filter_append, h.issues, List.flatMap_append,
      List.flatMap_singleton]
    rfl
  have hitemPrefix : check.after.itemPrefix = itemPrefix := by
    rw [check.itemPrefix_after, h.itemPrefix_eq]
  have hsplit : ∀ other, firsts itemPrefix (done ++ [check]) other =
      firsts itemPrefix done other ++ firsts itemPrefix [check] other := by
    intro other
    rw [firsts, List.filter_append]
    rfl
  cases hflagged : check.flagged with
  | true =>
      -- A flagged check is not remembered, and an earlier one has its unflagged check already.
      have hlast : ∀ other, firsts itemPrefix [check] other = [] := by
        intro other
        simp [firsts, hflagged]
      obtain ⟨earlier, hearlier, hsubject⟩ := h.flagged_iff.mp hflagged
      obtain ⟨first, hfirst, -⟩ := h.first earlier hearlier
      have hfirst' : firsts itemPrefix done check = [first] := by
        rw [← hfirst, firsts, firsts, hsubject]
      have hseen : check.seen? itemPrefix = some (first.sighting itemPrefix) := by
        rw [h.seen?_eq, hfirst']
        rfl
      obtain ⟨hrepeats, hsightings⟩ := LootCheck.repeats_of_seen h.itemPrefix_eq hseen
      refine ⟨hitemPrefix, ?_, hissues, ?_⟩
      · rw [hsightings, h.sightings, List.filter_append]
        simp [hflagged]
      · intro other hother
        rw [hsplit, hlast, List.append_nil]
        rcases List.mem_append.mp hother with hother | hother
        · exact h.first other hother
        · obtain rfl := List.mem_singleton.mp hother
          exact ⟨first, hfirst', fun _ => hrepeats⟩
  | false =>
      -- An unflagged check is the first one about its subject and changes none of the others.
      have hnew : ∀ earlier ∈ done, earlier.subject itemPrefix ≠ check.subject itemPrefix := by
        intro earlier hearlier hsubject
        rw [h.flagged_iff.mpr ⟨earlier, hearlier, hsubject⟩] at hflagged
        cases hflagged
      have hnone : firsts itemPrefix done check = [] := by
        rw [firsts, List.filter_eq_nil_iff]
        intro earlier hearlier
        simp [hnew earlier hearlier]
      have hseen : check.seen? itemPrefix = none := by
        rw [h.seen?_eq, hnone]
        rfl
      obtain ⟨-, hsightings⟩ := LootCheck.repeats_of_not_seen h.itemPrefix_eq hseen
      refine ⟨hitemPrefix, ?_, hissues, ?_⟩
      · rw [hsightings, h.sightings, List.filter_append, List.map_append]
        simp [hflagged]
      · intro other hother
        rw [hsplit]
        rcases List.mem_append.mp hother with hother | hother
        · obtain ⟨first, hfirst, hwarning⟩ := h.first other hother
          refine ⟨first, ?_, hwarning⟩
          rw [hfirst]
          simp [firsts, Ne.symm (hnew other hother)]
        · obtain rfl := List.mem_singleton.mp hother
          refine ⟨other, ?_, ?_⟩
          · rw [hnone]
            simp [firsts, hflagged]
          · intro htrue
            rw [hflagged] at htrue
            cases htrue

theorem checkAll (itemPrefix : String) (files : List (NamedText × Source)) :
    Reflects itemPrefix (Linter.checksOf { itemPrefix } files)
      (Linter.checkAll { itemPrefix } files) := by
  have hrun := checkAll_induction (fun _ _ _ hissues h => h.append_issues hissues)
    (fun _ _ h => h.step) files (start itemPrefix)
  exact hrun

end Reflects

end Linter

end LootSpawn
