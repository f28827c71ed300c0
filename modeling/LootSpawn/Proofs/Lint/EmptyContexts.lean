import LootSpawn.Proofs.Lint.LootChecks
import LootSpawn.Proofs.Source.Governing

/-!
# Declarations without items

An item belongs to the last scene or loot table that is declared before its line. The linter warns
of a declaration exactly if no item belongs to it. The same declarations are found without any
context, from the lists of an accepted source alone: they are those with no item between their line
and the line of the next declaration.
-/

namespace LootSpawn

def Finding.isEmptyContext : Finding → Bool
  | .emptyScene _ | .emptyLootTable _ => true
  | _ => false

def Issue.isEmptyContext (issue : Issue) : Bool := issue.finding.isEmptyContext

/-- What is wrong with a declaration without items. -/
def Place.emptyFinding : Place → Finding
  | .scene name => .emptyScene name
  | .lootTable name => .emptyLootTable name

def Record.place? (record : Record) : Option Place := record.line.place?

/-- The places that lines declare, in line order. -/
def declarationsOf (lines : List String) : List (Numbered Place) :=
  lines.zipIdx.filterMap fun numbered =>
    ((Line.said? numbered.1).bind Line.place?).map (⟨numbered.2 + 1, ·⟩)

/-- The last of some declarations before a line. -/
def lastBefore? (declared : List (Numbered Place)) (number : Nat) : Option (Numbered Place) :=
  (declared.filter fun declaration => declaration.line < number).getLast?

/-- The declarations that are the last one before none of the items. -/
def unusedBy (items : List Nat) (declared : List (Numbered Place)) : List (Numbered Place) :=
  declared.filter fun declaration =>
    ∀ number ∈ items, lastBefore? declared number ≠ some declaration

/-- The declarations with none of the items between their line and that of the next declaration. -/
def gapsBetween (items : List Nat) : List (Numbered Place) → List (Numbered Place)
  | [] => []
  | declaration :: rest =>
      if ∃ number ∈ items, declaration.line < number ∧ ∀ next ∈ rest.head?, number < next.line then
        gapsBetween items rest
      else declaration :: gapsBetween items rest

namespace Source

/-- The numbers of the lines with spawns and loot entries. -/
def itemLines (source : Source) : List Nat :=
  source.spawns.map Numbered.line ++ source.lootEntries.map Numbered.line

/-- The declared scenes and the declared loot tables in one list, by line. -/
def declarations (source : Source) : List (Numbered Place) :=
  let scenes : List (Numbered Place) :=
    source.scenes.map fun scene => ⟨scene.line, .scene scene.value⟩
  let lootTables : List (Numbered Place) :=
    source.lootTables.map fun table => ⟨table.line, .lootTable table.value⟩
  (scenes ++ lootTables).mergeSort fun first second => first.line ≤ second.line

end Source

/-! ## Gaps between declarations -/

/-- Declarations, or other values, stand in line order. -/
abbrev InLineOrder {α : Type} (list : List (Numbered α)) : Prop :=
  list.Pairwise fun first second => first.line < second.line

theorem InLineOrder.eq_of_line_eq {α : Type} {list : List (Numbered α)} (h : InLineOrder list)
    {first second : Numbered α} (hfirst : first ∈ list) (hsecond : second ∈ list)
    (hline : first.line = second.line) : first = second := by
  have hnumbers : (list.map Numbered.line).Nodup :=
    (List.pairwise_map.mpr h).imp Nat.ne_of_lt
  exact List.inj_on_of_nodup_map hnumbers hfirst hsecond hline

theorem getLast?_eq_some_iff_of_inLineOrder {α : Type} {list : List (Numbered α)}
    (h : InLineOrder list) (last : Numbered α) :
    list.getLast? = some last ↔ last ∈ list ∧ ∀ other ∈ list, other.line ≤ last.line := by
  constructor
  · intro hlast
    refine ⟨List.mem_of_getLast? hlast, ?_⟩
    obtain ⟨front, rfl⟩ := List.getLast?_eq_some_iff.mp hlast
    intro other hother
    rcases List.mem_append.mp hother with hother | hother
    · exact Nat.le_of_lt ((List.pairwise_append.mp h).2.2 other hother last List.mem_cons_self)
    · rw [List.mem_singleton.mp hother]
  · rintro ⟨hmem, hmost⟩
    rcases List.eq_nil_or_concat list with rfl | ⟨front, final, rfl⟩
    · cases hmem
    · rw [List.concat_eq_append] at h hmem hmost ⊢
      rcases List.mem_append.mp hmem with hfront | hfinal
      · have hlt := (List.pairwise_append.mp h).2.2 last hfront final List.mem_cons_self
        have hle := hmost final (List.mem_append_right _ List.mem_cons_self)
        omega
      · rw [List.mem_singleton.mp hfinal, List.getLast?_concat]

/-- The last declaration before a line is the one with the greatest number below it. -/
theorem lastBefore?_eq_some_iff {declared : List (Numbered Place)} (h : InLineOrder declared)
    (number : Nat) (declaration : Numbered Place) :
    lastBefore? declared number = some declaration ↔
      declaration ∈ declared ∧ declaration.line < number ∧
        ∀ other ∈ declared, other.line < number → other.line ≤ declaration.line := by
  unfold lastBefore?
  rw [getLast?_eq_some_iff_of_inLineOrder (List.Pairwise.filter _ h)]
  simp only [List.mem_filter, decide_eq_true_eq, and_assoc, and_imp]

/-- A declaration is the last one before a line if the line stands after it and not after the next
one. -/
theorem lastBefore?_append_cons_iff {earlier rest : List (Numbered Place)}
    {declaration : Numbered Place} (h : InLineOrder (earlier ++ declaration :: rest))
    (number : Nat) :
    lastBefore? (earlier ++ declaration :: rest) number = some declaration ↔
      declaration.line < number ∧ ∀ next ∈ rest.head?, number ≤ next.line := by
  obtain ⟨-, hlater, hearlier⟩ := List.pairwise_append.mp h
  obtain ⟨hafter, hrest⟩ := List.pairwise_cons.mp hlater
  rw [lastBefore?_eq_some_iff h]
  constructor
  · rintro ⟨-, hbefore, hmost⟩
    refine ⟨hbefore, fun next hnext => ?_⟩
    have hmem := List.mem_of_head? hnext
    have hlt := hafter next hmem
    have hmost := hmost next (List.mem_append_right _ (List.mem_cons_of_mem _ hmem))
    omega
  · rintro ⟨hbefore, hnext⟩
    refine ⟨List.mem_append_right _ List.mem_cons_self, hbefore, ?_⟩
    intro other hother hlt
    rcases List.mem_append.mp hother with hother | hother
    · exact Nat.le_of_lt (hearlier other hother declaration List.mem_cons_self)
    rcases List.mem_cons.mp hother with rfl | hother
    · exact Nat.le_refl _
    -- Nothing after the next declaration stands before the line either.
    cases rest with
    | nil => cases hother
    | cons next rest =>
        have hle := hnext next rfl
        rcases List.mem_cons.mp hother with rfl | hother
        · omega
        · have hmore := (List.pairwise_cons.mp hrest).1 other hother
          omega

/-- Where no item stands on the line of a declaration, a declaration without items before the next
one is one that is not the last before any item. -/
theorem gapsBetween_eq {items : List Nat} {earlier rest : List (Numbered Place)}
    (h : InLineOrder (earlier ++ rest)) (hapart : ∀ declaration ∈ rest, declaration.line ∉ items) :
    gapsBetween items rest = rest.filter fun declaration =>
      ∀ number ∈ items, lastBefore? (earlier ++ rest) number ≠ some declaration := by
  induction rest generalizing earlier with
  | nil => rfl
  | cons declaration rest ih =>
      have htail := ih (by rwa [List.append_cons] at h)
        (fun other hother => hapart other (List.mem_cons_of_mem _ hother))
      rw [← List.append_cons] at htail
      have hiff : (∃ number ∈ items,
          declaration.line < number ∧ ∀ next ∈ rest.head?, number < next.line) ↔
          ∃ number ∈ items,
            lastBefore? (earlier ++ declaration :: rest) number = some declaration := by
        simp only [lastBefore?_append_cons_iff h]
        constructor
        · rintro ⟨number, hitem, hbefore, hnext⟩
          exact ⟨number, hitem, hbefore, fun next hhead => Nat.le_of_lt (hnext next hhead)⟩
        · rintro ⟨number, hitem, hbefore, hnext⟩
          refine ⟨number, hitem, hbefore, fun next hhead => ?_⟩
          apply Nat.lt_of_le_of_ne (hnext next hhead)
          rintro rfl
          exact hapart next (List.mem_cons_of_mem _ (List.mem_of_head? hhead)) hitem
      rw [gapsBetween, List.filter_cons, htail]
      by_cases hused : ∃ number ∈ items,
          lastBefore? (earlier ++ declaration :: rest) number = some declaration
      · rw [if_pos (hiff.mpr hused), if_neg]
        simpa using hused
      · rw [if_neg (fun hgap => hused (hiff.mp hgap)), if_pos]
        simpa using hused

/-! ## Records -/

namespace Linter

theorem isItem_iff (record : Record) :
    isItem record = true ↔ record.spawn?.isSome = true ∨ record.loot?.isSome = true := by
  cases record with
  | _ => simp [isItem, Record.spawn?, Record.loot?]

theorem emptyFinding?_eq (record : Record) :
    emptyFinding? record = record.place?.map Place.emptyFinding := by
  cases record with
  | _ => rfl

theorem isItem_of_place? {record : Record} {place : Place} (h : record.place? = some place) :
    isItem record = false := by
  cases record with
  | scene => rfl
  | lootTable => rfl
  | _ => cases h

end Linter

namespace Source

theorem mem_lines_collect_iff {α : Type} (source : Source) (view : Record → Option α)
    (number : Nat) : number ∈ (source.collect view).map Numbered.line ↔
      ∃ record ∈ source.records, (view record.value).isSome = true ∧ record.line = number := by
  unfold collect
  simp only [List.mem_map, List.mem_filterMap, Option.map_eq_some_iff, Option.isSome_iff_exists]
  constructor
  · rintro ⟨_, ⟨record, hrecord, value, hvalue, rfl⟩, rfl⟩
    exact ⟨record, hrecord, ⟨value, hvalue⟩, rfl⟩
  · rintro ⟨record, hrecord, ⟨value, hvalue⟩, rfl⟩
    exact ⟨_, ⟨record, hrecord, value, hvalue, rfl⟩, rfl⟩

theorem mem_itemLines_iff (source : Source) (number : Nat) :
    number ∈ source.itemLines ↔
      ∃ record ∈ source.records, Linter.isItem record.value = true ∧ record.line = number := by
  unfold itemLines spawns lootEntries
  rw [List.mem_append, mem_lines_collect_iff, mem_lines_collect_iff]
  simp only [Linter.isItem_iff, or_and_right, and_or_left, exists_or]

/-- The declared places, in line order. -/
def declaredPlaces (source : Source) : List (Numbered Place) := source.collect Record.place?

theorem declaredPlaces_cons_of_none {record : Numbered Record} (h : record.value.place? = none)
    (rest : List (Numbered Record)) : declaredPlaces ⟨record :: rest⟩ = declaredPlaces ⟨rest⟩ := by
  simp [declaredPlaces, collect, h]

theorem declaredPlaces_cons_of_some {record : Numbered Record} {place : Place}
    (h : record.value.place? = some place) (rest : List (Numbered Record)) :
    declaredPlaces ⟨record :: rest⟩ = ⟨record.line, place⟩ :: declaredPlaces ⟨rest⟩ := by
  simp [declaredPlaces, collect, h]

theorem exists_of_mem_declaredPlaces {source : Source} {declaration : Numbered Place}
    (h : declaration ∈ source.declaredPlaces) :
    ∃ record ∈ source.records, record.line = declaration.line ∧
      record.value.place? = some declaration.value := by
  obtain ⟨record, hrecord, hview⟩ := List.mem_filterMap.mp h
  obtain ⟨place, hplace, rfl⟩ := Option.map_eq_some_iff.mp hview
  exact ⟨record, hrecord, rfl, hplace⟩

/-- A line has one record, so no item stands on the line of a declaration. -/
theorem line_notMem_itemLines {source : Source} (h : InLineOrder source.records) :
    ∀ declaration ∈ source.declaredPlaces, declaration.line ∉ source.itemLines := by
  intro declaration hdeclaration hitem
  obtain ⟨record, hrecord, hline, hplace⟩ := exists_of_mem_declaredPlaces hdeclaration
  obtain ⟨other, hother, hitem, hnumber⟩ := (source.mem_itemLines_iff _).mp hitem
  obtain rfl := h.eq_of_line_eq hother hrecord (hnumber.trans hline.symm)
  rw [Linter.isItem_of_place? hplace] at hitem
  cases hitem

theorem declared_perm (source : Source) :
    (source.scenes.map (fun scene => (⟨scene.line, .scene scene.value⟩ : Numbered Place)) ++
        source.lootTables.map fun table => (⟨table.line, .lootTable table.value⟩ : Numbered Place))
      |>.Perm source.declaredPlaces := by
  obtain ⟨records⟩ := source
  simp only [scenes, lootTables, declaredPlaces, collect]
  induction records with
  | nil => exact .nil
  | cons record rest ih =>
      obtain ⟨line, value⟩ := record
      cases value with
      | scene name => exact ih.cons ⟨line, .scene name⟩
      | lootTable name => exact List.perm_middle.trans (ih.cons ⟨line, .lootTable name⟩)
      | _ => exact ih

/-- Sorted by line, the declarations are in the order of the source again. -/
theorem declarations_eq {source : Source} (h : InLineOrder source.declaredPlaces) :
    source.declarations = source.declaredPlaces := by
  have hsorted : ∀ list : List (Numbered Place),
      (list.mergeSort fun first second => decide (first.line ≤ second.line)).Pairwise
        fun first second => decide (first.line ≤ second.line) = true := by
    apply List.pairwise_mergeSort
    · intro first second third hfirst hsecond
      simp only [decide_eq_true_eq] at hfirst hsecond ⊢
      omega
    · intro first second
      simp only [Bool.or_eq_true, decide_eq_true_eq]
      omega
  have hplaces : source.declaredPlaces.Pairwise fun first second =>
      decide (first.line ≤ second.line) = true :=
    h.imp fun hlt => by simpa using Nat.le_of_lt hlt
  have hperm := (List.mergeSort_perm _ fun first second : Numbered Place =>
    decide (first.line ≤ second.line)).trans source.declared_perm
  refine List.Perm.eq_of_pairwise ?_ (hsorted _) hplaces hperm
  intro first second hfirst hsecond hle hge
  apply h.eq_of_line_eq (hperm.mem_iff.mp hfirst) hsecond
  simp only [decide_eq_true_eq] at hle hge
  omega

end Source

namespace Linter

/-- Among records in line order, an item comes before the next declaration if some item stands above
the line of that declaration. -/
theorem startsWithItem_iff {records : List (Numbered Record)} (h : InLineOrder records) :
    startsWithItem records = true ↔ ∃ record ∈ records, isItem record.value = true ∧
      ∀ next ∈ (Source.declaredPlaces ⟨records⟩).head?, record.line < next.line := by
  induction records with
  | nil => simp [startsWithItem]
  | cons record rest ih =>
      obtain ⟨hafter, hrest⟩ := List.pairwise_cons.mp h
      rw [startsWithItem, emptyFinding?_eq]
      cases hplace : record.value.place? with
      | some place =>
          -- The next declaration is the first record, and no item stands above it.
          rw [isItem_of_place? hplace, Source.declaredPlaces_cons_of_some hplace]
          refine iff_of_false (by simp) ?_
          rintro ⟨other, hother, hitem, habove⟩
          have hlt := habove _ rfl
          rcases List.mem_cons.mp hother with rfl | hother
          · exact absurd hlt (Nat.lt_irrefl _)
          · exact absurd (hafter other hother) (Nat.lt_asymm hlt)
      | none =>
          rw [Source.declaredPlaces_cons_of_none hplace, Option.map_none, Option.isNone_none,
            Bool.true_and, Bool.or_eq_true, ih hrest]
          constructor
          · rintro (hitem | ⟨other, hother, hitem, habove⟩)
            · refine ⟨record, List.mem_cons_self, hitem, fun next hnext => ?_⟩
              obtain ⟨declared, hdeclared, hline, -⟩ :=
                Source.exists_of_mem_declaredPlaces (List.mem_of_head? hnext)
              rw [← hline]
              exact hafter declared hdeclared
            · exact ⟨other, List.mem_cons_of_mem _ hother, hitem, habove⟩
          · rintro ⟨other, hother, hitem, habove⟩
            rcases List.mem_cons.mp hother with rfl | hother
            · exact Or.inl hitem
            · exact Or.inr ⟨other, hother, hitem, habove⟩

/-- The warning that a declaration has no items. -/
def emptyWarning (origin : String) (declaration : Numbered Place) : Issue :=
  ⟨origin, declaration.line, declaration.value.emptyFinding⟩

/-- The declarations that no item follows are the gaps between declarations. The records may follow
others, whose items stand above all of them. -/
theorem emptyIssues_eq (origin : String) {items : List Nat} {records : List (Numbered Record)}
    (h : InLineOrder records)
    (hitems : ∀ record ∈ records, isItem record.value = true → record.line ∈ items)
    (hearlier : ∀ number ∈ items,
      (∃ record ∈ records, isItem record.value = true ∧ record.line = number) ∨
        ∀ record ∈ records, number < record.line) :
    emptyIssues origin records =
      (gapsBetween items (Source.declaredPlaces ⟨records⟩)).map (emptyWarning origin) := by
  induction records with
  | nil => rfl
  | cons record rest ih =>
      obtain ⟨hafter, hrest⟩ := List.pairwise_cons.mp h
      have htail := ih hrest (fun other hother => hitems other (List.mem_cons_of_mem _ hother)) (by
        intro number hnumber
        rcases hearlier number hnumber with ⟨other, hother, hitem, rfl⟩ | habove
        · rcases List.mem_cons.mp hother with rfl | hother
          · exact Or.inr hafter
          · exact Or.inl ⟨other, hother, hitem, rfl⟩
        · exact Or.inr fun other hother => habove other (List.mem_cons_of_mem _ hother))
      rw [emptyIssues, emptyFinding?_eq]
      cases hplace : record.value.place? with
      | none =>
          rw [Source.declaredPlaces_cons_of_none hplace]
          exact htail
      | some place =>
          have hgap : startsWithItem rest = true ↔ ∃ number ∈ items, record.line < number ∧
              ∀ next ∈ (Source.declaredPlaces ⟨rest⟩).head?, number < next.line := by
            rw [startsWithItem_iff hrest]
            constructor
            · rintro ⟨other, hother, hitem, hnext⟩
              exact ⟨other.line, hitems other (List.mem_cons_of_mem _ hother) hitem,
                hafter other hother, hnext⟩
            · rintro ⟨number, hnumber, hbelow, hnext⟩
              rcases hearlier number hnumber with ⟨other, hother, hitem, rfl⟩ | habove
              · rcases List.mem_cons.mp hother with rfl | hother
                · exact absurd hbelow (Nat.lt_irrefl _)
                · exact ⟨other, hother, hitem, hnext⟩
              · exact absurd (habove record List.mem_cons_self) (Nat.lt_asymm hbelow)
          rw [Source.declaredPlaces_cons_of_some hplace, gapsBetween, htail]
          simp only [Option.map_some, hgap]
          split
          · rfl
          · rfl

end Linter

/-! ## Accepted sources -/

namespace Source

/-- The places of an accepted source are those that its lines declare. -/
theorem declaredPlaces_eq {lines : List String} {source : Source} (h : ofLines lines = .ok source) :
    source.declaredPlaces = declarationsOf lines := by
  have hlines : declarationsOf lines =
      (lines.zipIdx.filter fun numbered => (Line.said? numbered.1).isSome).filterMap
        fun numbered => ((Line.said? numbered.1).bind Line.place?).map (⟨numbered.2 + 1, ·⟩) := by
    unfold declarationsOf
    rw [List.filterMap_filter]
    apply List.filterMap_congr
    intro numbered _
    cases Line.said? numbered.1 with
    | _ => rfl
  have hplaces := forall₂_places h
  rw [hlines]
  unfold declaredPlaces collect
  generalize source.records = records at hplaces ⊢
  generalize (lines.zipIdx.filter fun numbered => (Line.said? numbered.1).isSome) = said
    at hplaces ⊢
  induction hplaces with
  | nil => rfl
  | cons hfirst _ ih =>
      rw [List.filterMap_cons, List.filterMap_cons, ih, hfirst.number, hfirst.said]
      rfl

end Source

/-! ## Declarations and contexts -/

theorem declarationsOf_append (first rest : List String) :
    declarationsOf (first ++ rest) = declarationsOf first ++
      (rest.zipIdx first.length).filterMap fun numbered =>
        ((Line.said? numbered.1).bind Line.place?).map (⟨numbered.2 + 1, ·⟩) := by
  unfold declarationsOf
  rw [List.zipIdx_append, List.filterMap_append, Nat.zero_add]

/-- The last place that lines declare is the one that governs what follows them. -/
theorem map_getLast?_declarationsOf (lines : List String) :
    (declarationsOf lines).getLast?.map Numbered.value = lastSaid? Line.place? lines := by
  induction lines using List.reverseRecOn with
  | nil => rfl
  | append_singleton lines raw ih =>
      rw [declarationsOf_append, List.getLast?_append, lastSaid?_concat, ← ih,
        List.zipIdx_singleton, List.filterMap_cons]
      cases (Line.said? raw).bind Line.place? with
      | _ => rfl

/-- Before a line, the last declaration is the last one of the lines before it. -/
theorem lastBefore?_declarationsOf (before rest : List String) :
    lastBefore? (declarationsOf (before ++ rest)) (before.length + 1) =
      (declarationsOf before).getLast? := by
  unfold lastBefore?
  rw [declarationsOf_append, List.filter_append, List.filter_eq_self.mpr,
    List.filter_eq_nil_iff.mpr, List.append_nil]
  · intro declaration hdeclaration
    obtain ⟨numbered, hnumbered, hplace⟩ := List.mem_filterMap.mp hdeclaration
    obtain ⟨place, -, rfl⟩ := Option.map_eq_some_iff.mp hplace
    have hbound := (List.mem_zipIdx hnumbered).1
    simpa using hbound
  · intro declaration hdeclaration
    obtain ⟨numbered, hnumbered, hplace⟩ := List.mem_filterMap.mp hdeclaration
    obtain ⟨place, -, rfl⟩ := Option.map_eq_some_iff.mp hplace
    have hbound := (List.mem_zipIdx hnumbered).2.1
    simpa using hbound

namespace Source

/-- A record stands for a line, and the last declaration before that line is what governs it. -/
theorem exists_governing {lines : List String} {source : Source} (h : ofLines lines = .ok source)
    {record : Numbered Record} (hrecord : record ∈ source.records) :
    ∃ context : Context, context.record record.value.line = .ok record.value ∧
      (lastBefore? (declarationsOf lines) record.line).map Numbered.value = context.place := by
  have hexists : ∃ numbered ∈ lines.zipIdx, Places lines record numbered := by
    obtain ⟨index, hindex, rfl⟩ := List.getElem_of_mem hrecord
    have hplaces := forall₂_places h
    have hlength := hplaces.length_eq
    refine ⟨_, List.mem_of_mem_filter (List.getElem_mem (hlength ▸ hindex)), ?_⟩
    exact hplaces.get hindex (hlength ▸ hindex)
  obtain ⟨numbered, hmem, hnumber, -, hgoverned⟩ := hexists
  refine ⟨_, hgoverned, ?_⟩
  have hbound : (lines.take numbered.2).length = numbered.2 := by
    have hlt := (List.mem_zipIdx hmem).2.1
    rw [List.length_take]
    omega
  have hlast := lastBefore?_declarationsOf (lines.take numbered.2) (lines.drop numbered.2)
  rw [List.take_append_drop, hbound] at hlast
  rw [hnumber, hlast, map_getLast?_declarationsOf]
  rfl

/-- An item belongs to a declaration of its own kind, with the name that it is recorded under. -/
def ItemsBelong (source : Source) (declared : List (Numbered Place)) : Prop :=
  (∀ spawn ∈ source.spawns,
    (lastBefore? declared spawn.line).map Numbered.value = some (.scene spawn.value.1)) ∧
  ∀ loot ∈ source.lootEntries,
    (lastBefore? declared loot.line).map Numbered.value = some (.lootTable loot.value.1)

theorem itemsBelong {lines : List String} {source : Source} (h : ofLines lines = .ok source) :
    source.ItemsBelong (declarationsOf lines) := by
  constructor
  · intro spawn hspawn
    obtain ⟨⟨line, value⟩, hrecord, hview⟩ := List.mem_filterMap.mp hspawn
    obtain ⟨⟨scene, directive⟩, hvalue, rfl⟩ := Option.map_eq_some_iff.mp hview
    obtain ⟨context, hgoverned, hlast⟩ := exists_governing h hrecord
    cases value with
    | spawn =>
        cases hvalue
        rw [hlast, (Context.place_of_record_spawn hgoverned).1]
    | _ => cases hvalue
  · intro loot hloot
    obtain ⟨⟨line, value⟩, hrecord, hview⟩ := List.mem_filterMap.mp hloot
    obtain ⟨⟨table, entry⟩, hvalue, rfl⟩ := Option.map_eq_some_iff.mp hview
    obtain ⟨context, hgoverned, hlast⟩ := exists_governing h hrecord
    cases value with
    | loot =>
        cases hvalue
        rw [hlast, Context.place_of_record_loot hgoverned]
    | _ => cases hvalue

end Source

namespace Linter

/-- The issues that stand before those about empty declarations. -/
theorem exists_issues_check (linter : Linter) (origin : String) (source : Source) :
    ∃ earlier, (linter.check origin source).issues =
        linter.issues ++ earlier ++ emptyIssues origin source.records ∧
      ∀ issue ∈ earlier, issue.isEmptyContext = false := by
  obtain ⟨issues, hissues, hloot⟩ := exists_issues_foldl_checkLoot origin
    { linter with issues := linter.issues ++ spawnIssues origin source } source.lootEntries
  refine ⟨spawnIssues origin source ++ issues, ?_, ?_⟩
  · rw [check, hissues]
    simp only [List.append_assoc]
  · intro issue hissue
    rcases List.mem_append.mp hissue with hspawn | hissue
    · exact forall_mem_spawnIssues (P := (·.isEmptyContext = false)) (fun _ => rfl)
        (fun _ _ => rfl) issue hspawn
    · exact Finding.of_isAboutLoot (P := (·.isEmptyContext = false)) (fun _ => rfl)
        (fun _ _ _ _ => rfl) (hloot issue hissue)

/-- The warnings about declarations without items are exact. In an accepted source every item
belongs to the last declaration before its line. Checking the source adds one warning for each
declared scene or loot table to which no spawn and no loot entry belongs, with the line, the kind
and the name of the declaration. These warnings come last, in increasing line order, and no other
issue is of their kind. Without regard to contexts they are those of the declared scenes and loot
tables, sorted by line, with no item between their line and that of the next. -/
theorem empty_declarations_exact (linter : Linter) (origin : String) {text : String}
    {source : Source} (hread : Source.ofText text = .ok source) :
    let declared := declarationsOf (Source.linesOfText text)
    let unused := unusedBy source.itemLines declared
    let warnings := unused.map (emptyWarning origin)
    source.ItemsBelong declared ∧
    (∃ earlier, (linter.check origin source).issues = linter.issues ++ earlier ++ warnings ∧
      ∀ issue ∈ earlier, issue.isEmptyContext = false) ∧
    warnings.Pairwise (fun first second => first.line < second.line) ∧
    unused = gapsBetween source.itemLines source.declarations := by
  intro declared unused warnings
  have hrecords : InLineOrder source.records := Source.records_increasing hread
  have hplaces : InLineOrder source.declaredPlaces := Source.collect_increasing hread _
  have hsame : source.declaredPlaces = declared := Source.declaredPlaces_eq hread
  have hapart := Source.line_notMem_itemLines hrecords
  have hgaps : gapsBetween source.itemLines source.declaredPlaces = unused := by
    have horder : InLineOrder ([] ++ source.declaredPlaces) := hplaces
    rw [gapsBetween_eq horder hapart, hsame]
    rfl
  refine ⟨Source.itemsBelong hread, ?_, ?_, ?_⟩
  · obtain ⟨earlier, hissues, hother⟩ := linter.exists_issues_check origin source
    refine ⟨earlier, ?_, hother⟩
    have hempty := emptyIssues_eq origin hrecords
      (fun record hrecord hitem =>
        (source.mem_itemLines_iff _).mpr ⟨record, hrecord, hitem, rfl⟩)
      (fun number hnumber => Or.inl ((source.mem_itemLines_iff number).mp hnumber))
    rw [hissues, hempty]
    exact congrArg (fun list => linter.issues ++ earlier ++ list.map (emptyWarning origin)) hgaps
  · apply List.pairwise_map.mpr
    rw [hsame] at hplaces
    exact hplaces.filter _
  · rw [Source.declarations_eq hplaces, hgaps]

end Linter

/-- A text with a scene declared twice in a row, a tag and a comment between a scene and its only
item, and a loot table at the end. -/
def pierText : String :=
  "scene = Pier\nscene = Pier\ntag = rare\n# ropes\nitem = rope\nloottable = crate\n" ++
    "item = tea w = 0\nscene = Pier\nloottable = Locker"

def pierSource : Source :=
  ⟨[⟨1, .scene "pier"⟩, ⟨2, .scene "pier"⟩, ⟨3, .tag "rare"⟩,
    ⟨5, .spawn "pier" { prefab := "rope", tag := "rare" }⟩, ⟨6, .lootTable "crate"⟩,
    ⟨7, .loot "crate" ⟨"tea", 0⟩⟩, ⟨8, .scene "pier"⟩, ⟨9, .lootTable "locker"⟩]⟩

theorem Linter.empty_declarations_exact_pier :
    Source.ofText pierText = .ok pierSource ∧
      ∃ earlier, (({ itemPrefix := "GEAR_" } : Linter).check "pier.txt" pierSource).issues =
          earlier ++ [⟨"pier.txt", 1, .emptyScene "pier"⟩, ⟨"pier.txt", 8, .emptyScene "pier"⟩,
            ⟨"pier.txt", 9, .emptyLootTable "locker"⟩] ∧
        ∀ issue ∈ earlier, issue.isEmptyContext = false := by
  have hread : Source.ofText pierText = .ok pierSource := by
    decide +kernel
  obtain ⟨-, ⟨earlier, hissues, hother⟩, -, -⟩ :=
    Linter.empty_declarations_exact { itemPrefix := "GEAR_" } "pier.txt" hread
  refine ⟨hread, earlier, ?_, hother⟩
  rw [hissues]
  have hwarnings : (unusedBy pierSource.itemLines
      (declarationsOf (Source.linesOfText pierText))).map (emptyWarning "pier.txt") =
        [⟨"pier.txt", 1, .emptyScene "pier"⟩, ⟨"pier.txt", 8, .emptyScene "pier"⟩,
          ⟨"pier.txt", 9, .emptyLootTable "locker"⟩] := by
    decide +kernel
  rw [hwarnings]
  rfl

end LootSpawn
