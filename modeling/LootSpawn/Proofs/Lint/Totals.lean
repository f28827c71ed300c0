import LootSpawn.Proofs.Lint.Duplicates
import LootSpawn.Proofs.Lint.Severity
import Mathlib.Data.Finset.Card

/-!
# Totals of a linter

Which of the loot entries about one item are reported as duplicates depends on the order in which
the files are read. How many are reported does not: of the entries about an item of a table all but
one are. Apart from duplicates a file adds the same issues wherever it is read, so the numbers of
errors and warnings are the same in every order.
-/

namespace LootSpawn

/-- The file is at fault. -/
def NamedText.isRejected (file : NamedText) : Bool := !(Source.ofText file.content).isOk

/-- The files that are accepted, with their sources. -/
def acceptedFiles (files : List NamedText) : List (NamedText × Source) :=
  files.filterMap fun file => (Source.ofText file.content).toOption.map (file, ·)

/-- The loot entries of the accepted files, each with the name of its table. -/
def lootsOf (files : List NamedText) : List (String × LootEntry) :=
  (acceptedFiles files).flatMap fun file => file.2.lootEntries.map Numbered.value

/-- What a loot entry is about: the key of its table and its prefixed name in lower case. -/
def lootSubject (itemPrefix : String) (loot : String × LootEntry) : String × String :=
  (lootTableKey loot.1, Text.lowerString (itemName loot.2.prefab itemPrefix))

namespace Linter

/-- Adds the issues of texts that are read one after the other. -/
def addAll (linter : Linter) (files : List NamedText) : Linter :=
  files.foldl (fun linter file => linter.add file.origin (Source.ofText file.content)) linter

/-! ## Duplicates -/

theorem isDuplicate_rejected (origin : String) (error : ReadError) :
    ∀ issue ∈ [(⟨origin, error.lineNumber, .rejected error.fault⟩ : Issue)],
      issue.isDuplicate = false :=
  List.forall_mem_singleton.mpr rfl

namespace Reflects

variable {itemPrefix : String} {done : List LootCheck} {linter : Linter}

/-- Reading further files makes one check for each loot entry of those that are accepted. -/
theorem exists_addAll (h : Reflects itemPrefix done linter) (files : List NamedText) :
    ∃ checks : List LootCheck, Reflects itemPrefix (done ++ checks) (linter.addAll files) ∧
      checks.map (fun check => check.loot.value) = lootsOf files := by
  induction files generalizing done linter with
  | nil =>
      refine ⟨[], ?_, rfl⟩
      rw [List.append_nil]
      exact h
  | cons file rest ih =>
      rw [addAll, List.foldl_cons, lootsOf, acceptedFiles]
      cases hread : Source.ofText file.content with
      | error error =>
          rw [List.filterMap_cons_none (by rw [hread]; rfl)]
          exact ih (h.append_issues (isDuplicate_rejected file.origin error))
      | ok source =>
          rw [List.filterMap_cons_some (by rw [hread]; rfl), List.flatMap_cons]
          have hfile : Reflects itemPrefix (done ++ linter.checksOf [(file, source)])
              (linter.check file.origin source) :=
            checkAll_induction (fun _ _ _ hissues h => h.append_issues hissues)
              (fun _ _ h => h.step) [(file, source)] h
          obtain ⟨checks, hchecks, hloots⟩ := ih hfile
          refine ⟨linter.checksOf [(file, source)] ++ checks, ?_, ?_⟩
          · rw [← List.append_assoc]
            exact hchecks
          · rw [List.map_append, hloots, loot_values_checksOf, List.flatMap_singleton]
            rfl

/-- One warning is given for each flagged check. -/
theorem countP_isDuplicate (h : Reflects itemPrefix done linter) :
    linter.issues.countP Issue.isDuplicate = done.countP LootCheck.flagged := by
  have hrepeats : ∀ check ∈ done, check.repeats.length = if check.flagged then 1 else 0 := by
    intro check hcheck
    obtain ⟨first, -, hwarning⟩ := h.first check hcheck
    split
    next hflagged => rw [hwarning hflagged, List.length_singleton]
    next hflagged =>
      rw [LootCheck.flagged, Bool.not_eq_true, Bool.not_eq_false', List.isEmpty_iff] at hflagged
      rw [hflagged, List.length_nil]
  rw [List.countP_eq_length_filter, h.issues]
  clear h
  induction done with
  | nil => rfl
  | cons check rest ih =>
      have hrest := ih fun other hother => hrepeats other (List.mem_cons_of_mem check hother)
      rw [List.flatMap_cons, List.length_append, hrest, hrepeats check List.mem_cons_self,
        List.countP_cons, Nat.add_comm]

/-- No two unflagged checks are about the same. -/
theorem nodup_subjects (h : Reflects itemPrefix done linter) :
    ((done.filter fun check => !check.flagged).map (·.subject itemPrefix)).Nodup := by
  rw [List.nodup_iff_count_eq_one]
  intro subject hsubject
  obtain ⟨check, hcheck, rfl⟩ := List.mem_map.mp hsubject
  obtain ⟨first, hfirst, -⟩ := h.first check (List.mem_of_mem_filter hcheck)
  have hfirsts : ((done.filter fun check => !check.flagged).filter fun other =>
      other.subject itemPrefix == check.subject itemPrefix) = firsts itemPrefix done check := by
    simp [firsts, List.filter_filter, Bool.and_comm, beq_eq_decide]
  rw [List.count, List.countP_map, List.countP_eq_length_filter]
  exact congrArg List.length (hfirsts.trans hfirst)

/-- Whatever a check is about, an unflagged one is about it. -/
theorem mem_subjects_iff (h : Reflects itemPrefix done linter) (subject : String × String) :
    subject ∈ (done.filter fun check => !check.flagged).map (·.subject itemPrefix) ↔
      subject ∈ done.map (·.subject itemPrefix) := by
  simp only [List.mem_map, List.mem_filter]
  constructor
  · rintro ⟨check, ⟨hcheck, -⟩, hsubject⟩
    exact ⟨check, hcheck, hsubject⟩
  · rintro ⟨check, hcheck, rfl⟩
    obtain ⟨first, hfirst, -⟩ := h.first check hcheck
    have hmem : first ∈ firsts itemPrefix done check := by
      rw [hfirst]
      exact List.mem_singleton_self first
    simp only [firsts, List.mem_filter, Bool.and_eq_true, decide_eq_true_eq] at hmem
    exact ⟨first, ⟨hmem.1, hmem.2.1⟩, hmem.2.2⟩

/-- There are as many unflagged checks as there are things that checks are about. -/
theorem card_subjects (h : Reflects itemPrefix done linter) :
    (done.map (·.subject itemPrefix)).toFinset.card = done.countP (!·.flagged) := by
  have hsame : (done.map (·.subject itemPrefix)).toFinset =
      ((done.filter fun check => !check.flagged).map (·.subject itemPrefix)).toFinset := by
    ext subject
    rw [List.mem_toFinset, List.mem_toFinset, h.mem_subjects_iff]
  rw [hsame, List.toFinset_card_of_nodup h.nodup_subjects, List.length_map,
    List.countP_eq_length_filter]

end Reflects

/-- Among the loot entries of the accepted files that are about one thing, all but one are reported
as duplicates. -/
theorem duplicates_addAll (itemPrefix : String) (files : List NamedText) :
    (({ itemPrefix } : Linter).addAll files).issues.countP Issue.isDuplicate +
        ((lootsOf files).map (lootSubject itemPrefix)).toFinset.card = (lootsOf files).length := by
  obtain ⟨checks, hreflects, hloots⟩ := (Reflects.start itemPrefix).exists_addAll files
  rw [List.nil_append] at hreflects
  have hsubjects : (lootsOf files).map (lootSubject itemPrefix) =
      checks.map (·.subject itemPrefix) := by
    rw [← hloots, List.map_map]
    rfl
  rw [hsubjects, hreflects.countP_isDuplicate, hreflects.card_subjects, ← hloots, List.length_map,
    checks.length_eq_length_filter_add LootCheck.flagged, List.countP_eq_length_filter,
    List.countP_eq_length_filter]

/-! ## Other issues -/

/-- The issues that are not about duplicates. -/
def otherIssues (linter : Linter) : List Issue := linter.issues.filter (!·.isDuplicate)

/-- The issue about the weight of a loot entry, if there is one. -/
def unweightedIssues (origin : String) (loot : Numbered (String × LootEntry)) : List Issue :=
  if loot.value.2.weight = 0 then
    [⟨origin, loot.line, .neverDrawn loot.value.2.prefab⟩]
  else []

/-- The issues that a file adds whatever was read before it. -/
def ownIssues (origin : String) : Except ReadError Source → List Issue
  | .ok source =>
      spawnIssues origin source ++ source.lootEntries.flatMap (unweightedIssues origin) ++
        emptyIssues origin source.records
  | .error error => [⟨origin, error.lineNumber, .rejected error.fault⟩]

theorem otherIssues_append (linter : Linter) {issues : List Issue}
    (h : ∀ issue ∈ issues, issue.isDuplicate = false) :
    ({ linter with issues := linter.issues ++ issues } : Linter).otherIssues =
      linter.otherIssues ++ issues := by
  have hall : issues.filter (!·.isDuplicate) = issues := by
    rw [List.filter_eq_self]
    intro issue hissue
    rw [h issue hissue]
    rfl
  rw [otherIssues, List.filter_append, hall]
  rfl

theorem otherIssues_after (check : LootCheck) :
    check.after.otherIssues =
      check.linter.otherIssues ++ unweightedIssues check.origin check.loot := by
  have hweight : ∀ issue ∈ check.weightIssues, issue.isDuplicate = false := by
    intro issue hissue
    exact Bool.eq_false_of_not_eq_true
      (List.filter_eq_nil_iff.mp check.filter_weightIssues issue hissue)
  have hother := otherIssues_append check.linter hweight
  rw [LootCheck.after_eq rfl]
  split
  next =>
    rw [otherIssues, List.filter_append, List.filter_singleton]
    exact (List.append_nil _).trans hother
  next => exact hother

theorem otherIssues_foldl_checkLoot (origin : String) (linter : Linter)
    (loots : List (Numbered (String × LootEntry))) :
    (loots.foldl (checkLoot origin) linter).otherIssues =
      linter.otherIssues ++ loots.flatMap (unweightedIssues origin) := by
  induction loots generalizing linter with
  | nil => exact (List.append_nil _).symm
  | cons loot rest ih =>
      rw [List.foldl_cons, ih, List.flatMap_cons, ← List.append_assoc]
      exact congrArg (· ++ _) (otherIssues_after ⟨linter, origin, loot⟩)

theorem otherIssues_add (linter : Linter) (origin : String) (result : Except ReadError Source) :
    (linter.add origin result).otherIssues = linter.otherIssues ++ ownIssues origin result := by
  cases result with
  | error error => exact otherIssues_append linter (isDuplicate_rejected origin error)
  | ok source =>
      rw [add, check, otherIssues_append _ isDuplicate_of_mem_emptyIssues,
        otherIssues_foldl_checkLoot, otherIssues_append _ isDuplicate_of_mem_spawnIssues]
      simp only [ownIssues, List.append_assoc]

/-- What a file adds apart from duplicates does not depend on the files before it. -/
theorem otherIssues_addAll (linter : Linter) (files : List NamedText) :
    (linter.addAll files).otherIssues = linter.otherIssues ++
      files.flatMap fun file => ownIssues file.origin (Source.ofText file.content) := by
  induction files generalizing linter with
  | nil => exact (List.append_nil _).symm
  | cons file rest ih =>
      rw [addAll, List.foldl_cons, List.flatMap_cons, ← List.append_assoc, ← otherIssues_add]
      exact ih _

theorem length_issues (linter : Linter) :
    linter.issues.length = linter.issues.countP Issue.isDuplicate + linter.otherIssues.length := by
  rw [linter.issues.length_eq_length_filter_add Issue.isDuplicate, List.countP_eq_length_filter]
  rfl

/-! ## Errors -/

theorem errorCount_add (linter : Linter) (file : NamedText) :
    (linter.add file.origin (Source.ofText file.content)).errorCount =
      linter.errorCount + if file.isRejected then 1 else 0 := by
  rw [NamedText.isRejected]
  cases Source.ofText file.content with
  | error error => exact linter.errorCount_reject file.origin error
  | ok source => exact linter.errorCount_check file.origin source

/-- The errors are the rejected files. -/
theorem errorCount_addAll (linter : Linter) (files : List NamedText) :
    (linter.addAll files).errorCount =
      linter.errorCount + files.countP NamedText.isRejected := by
  induction files generalizing linter with
  | nil => rfl
  | cons file rest ih =>
      rw [addAll, List.foldl_cons, List.countP_cons]
      have hrest := ih (linter.add file.origin (Source.ofText file.content))
      rw [addAll, errorCount_add] at hrest
      rw [hrest, Nat.add_assoc, Nat.add_comm (List.countP _ _)]

/-! ## Orders -/

theorem lootsOf_perm {files files' : List NamedText} (h : files.Perm files') :
    (lootsOf files).Perm (lootsOf files') :=
  (h.filterMap _).flatMap_right _

theorem duplicates_perm (itemPrefix : String) {files files' : List NamedText}
    (h : files.Perm files') :
    (({ itemPrefix } : Linter).addAll files').issues.countP Issue.isDuplicate =
      (({ itemPrefix } : Linter).addAll files).issues.countP Issue.isDuplicate := by
  have hloots := lootsOf_perm h
  have hsubjects := List.toFinset_eq_of_perm _ _ (hloots.map (lootSubject itemPrefix))
  have hcount := duplicates_addAll itemPrefix files
  have hcount' := duplicates_addAll itemPrefix files'
  rw [hsubjects, hloots.length_eq] at hcount
  omega

theorem otherIssues_perm (linter : Linter) {files files' : List NamedText}
    (h : files.Perm files') :
    (linter.addAll files').otherIssues.Perm (linter.addAll files).otherIssues := by
  rw [otherIssues_addAll, otherIssues_addAll]
  exact (h.symm.flatMap_right _).append_left _

/-- The totals of a linter do not depend on the order of the files. Two orders of the same files end
with as many errors and as many warnings. At every point on the way, the errors are as many as the
files that were rejected, the errors and the warnings together are all issues, and the duplicate
warnings and the distinct things that the accepted loot entries are about are together as many as
these entries. -/
theorem totals_in_any_order (itemPrefix : String) {files files' : List NamedText}
    (hperm : files.Perm files') :
    let read := fun files => ({ itemPrefix } : Linter).addAll files
    ((read files').errorCount = (read files).errorCount ∧
      (read files').warningCount = (read files).warningCount) ∧
    ∀ before, before <+: files →
      (read before).errorCount = before.countP NamedText.isRejected ∧
      (read before).errorCount + (read before).warningCount = (read before).issues.length ∧
      (read before).issues.countP Issue.isDuplicate +
        ((lootsOf before).map (lootSubject itemPrefix)).toFinset.card =
          (lootsOf before).length := by
  intro read
  have herrors : ∀ files, (read files).errorCount = files.countP NamedText.isRejected := by
    intro files
    exact (errorCount_addAll _ files).trans (Nat.zero_add _)
  have hsame : (read files').errorCount = (read files).errorCount := by
    rw [herrors, herrors, hperm.countP_eq]
  refine ⟨⟨hsame, ?_⟩, ?_⟩
  · have hduplicates := duplicates_perm itemPrefix hperm
    have hother := (otherIssues_perm { itemPrefix } hperm).length_eq
    have hlength := length_issues (read files)
    have hlength' := length_issues (read files')
    have htotal := (read files).errorCount_add_warningCount
    have htotal' := (read files').errorCount_add_warningCount
    simp only [read] at *
    omega
  · intro before _
    exact ⟨herrors before, errorCount_add_warningCount _, duplicates_addAll itemPrefix before⟩

end Linter

/-- Three ropes in one table under different spellings, one of which is never drawn, and a file
that is at fault. -/
def millFiles : List NamedText :=
  [⟨"a.txt", "loottable = Mill\nitem = GEAR_Rope w = 5"⟩,
    ⟨"b.txt", "loottable = LootTableMILL\nitem = rope w = 0\nitem = gear_ROPE w = 2"⟩,
    ⟨"c.txt", "item rope"⟩]

theorem Linter.totals_in_any_order_mill :
    let read := fun files => ({ itemPrefix := "GEAR_" } : Linter).addAll files
    ((read millFiles.reverse).errorCount = 1 ∧ (read millFiles.reverse).warningCount = 3) ∧
      (read millFiles).issues.countP Issue.isDuplicate + 1 = 3 ∧
      (read millFiles.reverse).issues.filter Issue.isDuplicate ≠
        (read millFiles).issues.filter Issue.isDuplicate := by
  intro read
  obtain ⟨⟨herrors, hwarnings⟩, hpoints⟩ :=
    Linter.totals_in_any_order "GEAR_" millFiles.reverse_perm.symm
  obtain ⟨-, -, hduplicates⟩ := hpoints millFiles (List.prefix_refl millFiles)
  -- What the files hold is evaluated once.
  obtain ⟨hone, hthree, hropes, hloots, hblamed⟩ :
      (read millFiles).errorCount = 1 ∧ (read millFiles).warningCount = 3 ∧
        ((lootsOf millFiles).map (lootSubject "GEAR_")).toFinset.card = 1 ∧
        (lootsOf millFiles).length = 3 ∧
        (read millFiles.reverse).issues.filter Issue.isDuplicate ≠
          (read millFiles).issues.filter Issue.isDuplicate := by
    decide +kernel
  rw [hropes, hloots] at hduplicates
  exact ⟨⟨herrors.trans hone, hwarnings.trans hthree⟩, hduplicates, hblamed⟩

end LootSpawn
