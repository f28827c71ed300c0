import LootSpawn.Proofs.Lint.Totals

/-!
# Warnings about repeated entries

A linter takes the loot entries of its files in their order. If an item was placed in the table
before, it warns that the entry repeats an earlier one.
-/

namespace LootSpawn

/-! ## Checks -/

/-- Each check that repeats an earlier one warns about it and names one before it. -/
def Linter.NamesEarlier (itemPrefix : String) (done : List LootCheck) : Prop :=
  ∀ before check after, done = before ++ check :: after →
    (∃ earlier ∈ before, earlier.subject itemPrefix = check.subject itemPrefix) →
      ∃ first ∈ before, first.subject itemPrefix = check.subject itemPrefix ∧
        check.repeats = [check.warning first]

namespace Linter

variable {itemPrefix : String}

theorem NamesEarlier.step {done : List LootCheck} {check : LootCheck}
    (h : NamesEarlier itemPrefix done) (hreflects : Reflects itemPrefix done check.linter) :
    NamesEarlier itemPrefix (done ++ [check]) := by
  intro before other after hsplit hearlier
  rcases concat_eq_append_cons_iff.mp hsplit with ⟨rfl, rfl, rfl⟩ | ⟨front, rfl, hdone⟩
  · have hflagged := hreflects.flagged_iff.mpr hearlier
    obtain ⟨first, hfirst, hwarning⟩ := hreflects.step.first check
      (List.mem_append_right _ (List.mem_singleton_self check))
    have hmem : first ∈ firsts itemPrefix (done ++ [check]) check :=
      hfirst ▸ List.mem_singleton_self first
    simp only [firsts, List.mem_filter, List.mem_append, List.mem_singleton, Bool.and_eq_true,
      Bool.not_eq_true', decide_eq_true_eq] at hmem
    obtain ⟨hmem | rfl, hunflagged, hsubject⟩ := hmem
    · exact ⟨first, hmem, hsubject, hwarning hflagged⟩
    · rw [hflagged] at hunflagged
      cases hunflagged
  · exact h before other front hdone hearlier

/-- The linter warns about an entry if it checked one about the same item of the same table
before. -/
theorem exists_warning_of_subject {files : List (NamedText × Source)}
    {before after : List LootCheck} {check : LootCheck}
    (hsplit : Linter.checksOf { itemPrefix } files = before ++ check :: after)
    (hearlier : ∃ earlier ∈ before, earlier.subject itemPrefix = check.subject itemPrefix) :
    ∃ first ∈ before, first.subject itemPrefix = check.subject itemPrefix ∧
      check.warning first ∈ (Linter.checkAll { itemPrefix } files).issues := by
  have hrun := checkAll_induction
    (motive := fun done linter => Reflects itemPrefix done linter ∧ NamesEarlier itemPrefix done)
    (fun _ _ _ hissues h => ⟨h.1.append_issues hissues, h.2⟩)
    (fun _ _ h => ⟨h.1.step, h.2.step h.1⟩) files
    ⟨Reflects.start itemPrefix, fun before _ _ hnil =>
      absurd hnil.symm (List.append_ne_nil_of_right_ne_nil before (List.cons_ne_nil _ _))⟩
  rw [List.nil_append] at hrun
  obtain ⟨hreflects, hnames⟩ := hrun
  obtain ⟨first, hfirst, hsubject, hrepeats⟩ := hnames before check after hsplit hearlier
  refine ⟨first, hfirst, hsubject, ?_⟩
  have hwarning : check.warning first ∈
      (Linter.checksOf { itemPrefix } files).flatMap LootCheck.repeats := by
    rw [hsplit]
    apply List.mem_flatMap_of_mem (List.mem_append_right _ List.mem_cons_self)
    rw [hrepeats]
    exact List.mem_singleton_self _
  rw [← hreflects.issues] at hwarning
  exact List.mem_of_mem_filter hwarning

end Linter

/-! ## Entries -/

/-- The loot entries of several files, each with its file. -/
def lootLines (files : List (NamedText × Source)) :
    List (NamedText × Numbered (String × LootEntry)) :=
  files.flatMap fun file => file.2.lootEntries.map (file.1, ·)

/-- The linter checks the loot entries of the files in their order. -/
theorem loots_checksOf_lootLines (itemPrefix : String) (files : List (NamedText × Source)) :
    (Linter.checksOf { itemPrefix } files).map (fun check => (check.origin, check.loot)) =
      (lootLines files).map fun loot => (loot.1.origin, loot.2) := by
  rw [Linter.loots_checksOf, lootLines, List.map_flatMap]
  simp only [List.map_map]
  rfl

/-- The warning that a loot entry repeats another one. -/
def repeatWarning (loot first : NamedText × Numbered (String × LootEntry)) : Issue :=
  ⟨loot.1.origin, loot.2.line, .duplicate loot.2.value.2.prefab loot.2.value.1 first.1.origin
    first.2.line⟩

/-- The linter warns about the second of two entries for one item in one table. -/
theorem exists_repeatWarning {itemPrefix : String} {files : List (NamedText × Source)}
    {before after : List (NamedText × Numbered (String × LootEntry))}
    {second : NamedText × Numbered (String × LootEntry)}
    (hsplit : lootLines files = before ++ second :: after)
    (hearlier : ∃ first ∈ before,
      lootSubject itemPrefix first.2.value = lootSubject itemPrefix second.2.value) :
    ∃ first ∈ before,
      lootSubject itemPrefix first.2.value = lootSubject itemPrefix second.2.value ∧
        repeatWarning second first ∈ (Linter.checkAll { itemPrefix } files).issues := by
  have hchecks := loots_checksOf_lootLines itemPrefix files
  rw [hsplit, List.map_append, List.map_cons] at hchecks
  obtain ⟨checks, rest, hparts, hbefore, hrest⟩ := List.map_eq_append_iff.mp hchecks
  obtain ⟨check, later, rfl, hcheck, -⟩ := List.map_eq_cons_iff.mp hrest
  obtain ⟨horigin, hloot⟩ := Prod.mk.inj hcheck
  -- A check and an entry of the files at the same place have the same subject.
  have hsubject : ∀ (check : LootCheck) (loot : NamedText × Numbered (String × LootEntry)),
      (check.origin, check.loot) = (loot.1.origin, loot.2) →
        check.subject itemPrefix = lootSubject itemPrefix loot.2.value := by
    rintro check loot hsame
    rw [← (Prod.mk.inj hsame).2]
    rfl
  have hearlierCheck : ∃ earlier ∈ checks,
      earlier.subject itemPrefix = check.subject itemPrefix := by
    obtain ⟨first, hfirst, hsame⟩ := hearlier
    have hmem : (first.1.origin, first.2) ∈ checks.map fun check => (check.origin, check.loot) := by
      rw [hbefore]
      exact List.mem_map_of_mem hfirst
    obtain ⟨earlier, hearlier, heq⟩ := List.mem_map.mp hmem
    refine ⟨earlier, hearlier, ?_⟩
    rw [hsubject earlier first heq, hsame, hsubject check second hcheck]
  obtain ⟨found, hfound, hsame, hwarning⟩ :=
    Linter.exists_warning_of_subject hparts hearlierCheck
  have hmem : (found.origin, found.loot) ∈ before.map fun loot => (loot.1.origin, loot.2) := by
    rw [← hbefore]
    exact List.mem_map_of_mem hfound
  obtain ⟨first, hfirst, heq⟩ := List.mem_map.mp hmem
  refine ⟨first, hfirst, ?_, ?_⟩
  · rw [← hsubject found first heq.symm, hsame, hsubject check second hcheck]
  · obtain ⟨hfirstOrigin, hfirstLoot⟩ := Prod.mk.inj heq
    rw [LootCheck.warning, horigin, hloot, ← hfirstOrigin, ← hfirstLoot] at hwarning
    exact hwarning

end LootSpawn
