import LootSpawn.Proofs.Line.Reading
import LootSpawn.Source.Reading
import Mathlib.Data.List.Forall2

/-!
# What governs a line

Reading carries the place and the tag from line to line. Neither is anything but the nearest
declaration before a line: the place is that of the last scene or loot table, and the tag is that of
the last tag, however many places lie between. The records of an accepted source are its lines under
what governs each of them.
-/

namespace LootSpawn

namespace Line

/-- What a line says; nothing if it is silent or at fault. -/
def said? (raw : String) : Option Line :=
  match read raw with
  | .ok line => line
  | .error _ => none

def place? : Line → Option Place
  | .scene name => some (.scene name)
  | .lootTable name => some (.lootTable name)
  | _ => none

def tag? : Line → Option String
  | .tag name => some name
  | _ => none

end Line

/-- A place in a list with one more element is the last one or a place in the list. -/
theorem concat_eq_append_cons_iff {α : Type} {list before after : List α} {last value : α} :
    list ++ [last] = before ++ value :: after ↔
      (after = [] ∧ list = before ∧ last = value) ∨
        ∃ front, after = front ++ [last] ∧ list = before ++ value :: front := by
  constructor
  · intro hsplit
    rcases List.eq_nil_or_concat after with rfl | ⟨front, other, rfl⟩
    · obtain ⟨rfl, hlast⟩ := List.append_inj' hsplit rfl
      exact Or.inl ⟨rfl, rfl, List.singleton_inj.mp hlast⟩
    · rw [List.concat_eq_append, ← List.cons_append, ← List.append_assoc] at hsplit
      obtain ⟨hlist, hlast⟩ := List.append_inj' hsplit rfl
      obtain rfl : last = other := List.singleton_inj.mp hlast
      exact Or.inr ⟨front, List.concat_eq_append, hlist⟩
  · rintro (⟨rfl, rfl, rfl⟩ | ⟨front, rfl, rfl⟩)
    · rfl
    · simp

def linesOfShape (shape : Shape) (lines : List String) : List (String × Nat) :=
  lines.zipIdx.filter fun numbered => (Line.said? numbered.1).map Line.shape = some shape

/-- The last value that `view` yields for a line. -/
def lastSaid? {α : Type} (view : Line → Option α) (lines : List String) : Option α :=
  lines.reverse.findSome? fun raw => (Line.said? raw).bind view

theorem lastSaid?_concat {α : Type} (view : Line → Option α) (lines : List String) (raw : String) :
    lastSaid? view (lines ++ [raw]) = ((Line.said? raw).bind view).or (lastSaid? view lines) := by
  rw [lastSaid?, List.reverse_append, List.reverse_singleton, List.singleton_append,
    List.findSome?_cons]
  cases (Line.said? raw).bind view with
  | none => rfl
  | some value => rfl

namespace Context

/-- What governs a line after these ones: the last declaration of a place and the last tag. -/
def governing (earlier : List String) : Context :=
  ⟨lastSaid? Line.place? earlier, (lastSaid? Line.tag? earlier).getD defaultTag⟩

theorem governing_concat_of_silent {earlier : List String} {raw : String}
    (h : Line.said? raw = none) : governing (earlier ++ [raw]) = governing earlier := by
  rw [governing, lastSaid?_concat, lastSaid?_concat, h]
  rfl

theorem governing_concat_of_record {earlier : List String} {raw : String} {line : Line}
    {record : Record} (hsaid : Line.said? raw = some line)
    (hrecord : (governing earlier).record line = .ok record) :
    governing (earlier ++ [raw]) = (governing earlier).after record := by
  have hline := line_of_record hrecord
  rw [governing, lastSaid?_concat, lastSaid?_concat, hsaid, ← hline]
  cases record with
  | _ => rfl

/-- What a line says is recorded, and a fault in the line comes before one of its context. -/
theorem readLine_eq (context : Context) (raw : String) :
    context.readLine raw =
      match Line.read raw with
      | .error fault => .error fault
      | .ok none => .ok none
      | .ok (some line) => (context.record line).map some := by
  rw [readLine]
  rcases Line.read raw with fault | _ | line
  · rfl
  · rfl
  · cases hrecord : context.record line with
    | _ => simp [bind, Except.bind, pure, Except.pure, Except.map, hrecord]

theorem readLine_eq_none_iff (context : Context) (raw : String) :
    context.readLine raw = .ok none ↔ Line.read raw = .ok none := by
  rw [readLine_eq]
  rcases Line.read raw with fault | _ | line
  · exact iff_of_false nofun nofun
  · exact iff_of_true rfl rfl
  · cases hrecord : context.record line with
    | _ => exact iff_of_false (by simp [Except.map, hrecord]) nofun

theorem readLine_eq_some_iff (context : Context) (raw : String) (record : Record) :
    context.readLine raw = .ok (some record) ↔
      ∃ line, Line.read raw = .ok (some line) ∧ context.record line = .ok record := by
  rw [readLine_eq]
  rcases Line.read raw with fault | _ | line
  · simp
  · simp
  · cases hrecord : context.record line with
    | _ => simp [Except.map, hrecord]

/-- Only a scene lets a spawn be recorded, and the spawn has the tag of the context. -/
theorem place_of_record_spawn {context : Context} {line : Line} {scene : String}
    {directive : Directive} (h : context.record line = .ok (.spawn scene directive)) :
    context.place = some (.scene scene) ∧ directive.tag = context.tag := by
  obtain ⟨prefab, position, rotation, chance, tag⟩ := directive
  obtain rfl := line_of_record h
  simp only [Record.line, record] at h
  split at h
  next hplace =>
    cases h
    exact ⟨hplace, rfl⟩
  next => cases h

theorem place_of_record_loot {context : Context} {line : Line} {table : String}
    {entry : LootEntry} (h : context.record line = .ok (.loot table entry)) :
    context.place = some (.lootTable table) := by
  obtain rfl := line_of_record h
  simp only [Record.line, record] at h
  split at h
  next hplace =>
    cases h
    exact hplace
  next => cases h

end Context

/-- The record of a line is that line under what governs it. -/
structure Places (lines : List String) (record : Numbered Record) (numbered : String × Nat) :
    Prop where
  number : record.line = numbered.2 + 1
  said : Line.said? numbered.1 = some record.value.line
  governed : (Context.governing (lines.take numbered.2)).record record.value.line =
    .ok record.value

namespace Reading

/-- Reading under the governing context places every line that says something, in order. -/
theorem forall₂_places (earlier rest : List String)
    (h : (readFrom (Context.governing earlier) (earlier.length + 1) rest).failure = none) :
    List.Forall₂ (Places (earlier ++ rest))
      (readFrom (Context.governing earlier) (earlier.length + 1) rest).records
      ((rest.zipIdx earlier.length).filter fun numbered => (Line.said? numbered.1).isSome) := by
  -- The induction is on the lines that are left, and the context is that of the lines before them.
  induction rest generalizing earlier with
  | nil => exact List.Forall₂.nil
  | cons raw rest ih =>
      have htail := ih (earlier ++ [raw])
      rw [List.append_assoc, List.singleton_append, List.length_append,
        List.length_singleton] at htail
      rw [List.zipIdx_cons, List.filter_cons]
      rw [readFrom] at h ⊢
      split at h
      next => cases h
      next hread =>
        have hsaid : Line.said? raw = none := by
          rw [Line.said?, (Context.readLine_eq_none_iff _ raw).mp hread]
        rw [Context.governing_concat_of_silent hsaid] at htail
        simp only [hsaid]
        exact htail h
      next record hread =>
        obtain ⟨line, hline, hrecord⟩ := (Context.readLine_eq_some_iff _ raw record).mp hread
        have hsaid : Line.said? raw = some line := by rw [Line.said?, hline]
        rw [Context.governing_concat_of_record hsaid hrecord] at htail
        simp only [hsaid]
        obtain rfl := Context.line_of_record hrecord
        refine List.Forall₂.cons ⟨rfl, hsaid, ?_⟩ (htail h)
        rw [List.take_left]
        exact hrecord

end Reading

/-- In an accepted source the lines that say something are placed one by one. -/
theorem Source.forall₂_places {lines : List String} {source : Source}
    (h : Source.ofLines lines = .ok source) :
    List.Forall₂ (Places lines) source.records
      (lines.zipIdx.filter fun numbered => (Line.said? numbered.1).isSome) := by
  rw [Source.ofLines, Reading.result] at h
  split at h
  next => cases h
  next hnone =>
    cases h
    exact Reading.forall₂_places [] lines hnone

/-- What a view yields for the records of an accepted source stands, one by one and in order, for
the lines of one shape, if the view yields a value for the records of that shape only. -/
theorem Source.forall₂_collect {α : Type} {lines : List String} {source : Source}
    (h : Source.ofLines lines = .ok source) (shape : Shape) (view : Record → Option α)
    (stands : Numbered α → String × Nat → Prop)
    (hview : ∀ record, (view record).isSome ↔ record.line.shape = shape)
    (hstands : ∀ record numbered value, Places lines record numbered →
      view record.value = some value → stands ⟨record.line, value⟩ numbered) :
    List.Forall₂ stands (source.collect view) (linesOfShape shape lines) := by
  have hlines : linesOfShape shape lines =
      (lines.zipIdx.filter fun numbered => (Line.said? numbered.1).isSome).filter
        fun numbered => (Line.said? numbered.1).map Line.shape = some shape := by
    rw [linesOfShape, List.filter_filter]
    apply List.filter_congr
    intro numbered _
    cases Line.said? numbered.1 with
    | _ => simp
  have hplaces := Source.forall₂_places h
  rw [hlines, collect]
  -- Records and lines are taken together; the view and the shape pass over the same pairs.
  generalize source.records = records at hplaces ⊢
  generalize (lines.zipIdx.filter fun numbered => (Line.said? numbered.1).isSome) = said
    at hplaces ⊢
  induction hplaces with
  | nil => exact List.Forall₂.nil
  | @cons record numbered records rest hplaces _ ih =>
      rw [List.filterMap_cons, List.filter_cons, hplaces.said]
      cases hvalue : view record.value with
      | none =>
          have hshape : ¬ record.value.line.shape = shape := by
            rw [← hview, hvalue]
            exact Bool.false_ne_true
          rw [if_neg (by simp [hshape])]
          exact ih
      | some value =>
          have hshape : record.value.line.shape = shape := by
            rw [← hview, hvalue]
            rfl
          rw [if_pos (by simp [hshape])]
          exact List.Forall₂.cons (hstands record numbered value hplaces hvalue) ih

namespace Source

/-- The records of an accepted source are in line order. -/
theorem records_increasing {lines : List String} {source : Source}
    (h : ofLines lines = .ok source) :
    source.records.Pairwise fun first second => first.line < second.line := by
  have hnumbers : ∀ {records : List (Numbered Record)} {said : List (String × Nat)},
      List.Forall₂ (Places lines) records said →
        records.map Numbered.line = said.map fun numbered => numbered.2 + 1 := by
    intro records said hplaces
    induction hplaces with
    | nil => rfl
    | cons hfirst _ ih => rw [List.map_cons, List.map_cons, hfirst.number, ih]
  apply List.pairwise_map.mp
  rw [hnumbers (forall₂_places h), List.pairwise_map]
  apply List.Pairwise.filter
  rw [← List.pairwise_map (f := Prod.snd) (R := fun first second => first + 1 < second + 1),
    List.zipIdx_map_snd]
  exact (List.pairwise_lt_range' ..).imp Nat.succ_lt_succ

/-- So is every view of them. -/
theorem collect_increasing {α : Type} {lines : List String} {source : Source}
    (h : ofLines lines = .ok source) (view : Record → Option α) :
    (source.collect view).Pairwise fun first second => first.line < second.line := by
  apply (records_increasing h).filterMap
  intro first second hlt value hvalue other hother
  obtain ⟨_, -, rfl⟩ := Option.map_eq_some_iff.mp hvalue
  obtain ⟨_, -, rfl⟩ := Option.map_eq_some_iff.mp hother
  exact hlt

end Source

/-- A spawn is that of a line: it has the number of the line, the scene that governs it, all that
the line says, and the tag that governs it. -/
structure StagesSpawn (lines : List String) (spawn : Numbered (String × Directive))
    (numbered : String × Nat) : Prop where
  number : spawn.line = numbered.2 + 1
  said : Line.said? numbered.1 = some (.spawn spawn.value.2.prefab spawn.value.2.position
    spawn.value.2.rotation spawn.value.2.chance)
  scene : (Context.governing (lines.take numbered.2)).place = some (.scene spawn.value.1)
  tag : spawn.value.2.tag = (Context.governing (lines.take numbered.2)).tag

/-- A loot entry is that of a line: it has the number of the line, the loot table that governs it
and what the line says. -/
structure StagesLoot (lines : List String) (loot : Numbered (String × LootEntry))
    (numbered : String × Nat) : Prop where
  number : loot.line = numbered.2 + 1
  said : Line.said? numbered.1 = some (.lootEntry loot.value.2)
  table : (Context.governing (lines.take numbered.2)).place = some (.lootTable loot.value.1)

/-- The views of an accepted source are its lines, shape by shape: each line of the shape has one
element, in line order and under what governs the line, and there is no other element. -/
theorem Source.views_of_lines {lines : List String} {source : Source}
    (h : Source.ofLines lines = .ok source) :
    List.Forall₂ (StagesSpawn lines) source.spawns (linesOfShape .spawn lines) ∧
      List.Forall₂ (StagesLoot lines) source.lootEntries (linesOfShape .lootEntry lines) ∧
      List.Forall₂ (fun scene numbered => scene.line = numbered.2 + 1 ∧
          Line.said? numbered.1 = some (.scene scene.value))
        source.scenes (linesOfShape .scene lines) ∧
      List.Forall₂ (fun table numbered => table.line = numbered.2 + 1 ∧
          Line.said? numbered.1 = some (.lootTable table.value))
        source.lootTables (linesOfShape .lootTable lines) := by
  refine ⟨?_, ?_, ?_, ?_⟩
  · apply Source.forall₂_collect h
    · intro record
      cases record with
      | _ => simp [Record.spawn?, Record.line, Line.shape]
    · rintro ⟨number, record⟩ numbered value ⟨hnumber, hsaid, hgoverned⟩ hvalue
      cases record with
      | spawn scene directive =>
          cases hvalue
          obtain ⟨hplace, htag⟩ := Context.place_of_record_spawn hgoverned
          exact ⟨hnumber, hsaid, hplace, htag⟩
      | _ => cases hvalue
  · apply Source.forall₂_collect h
    · intro record
      cases record with
      | _ => simp [Record.loot?, Record.line, Line.shape]
    · rintro ⟨number, record⟩ numbered value ⟨hnumber, hsaid, hgoverned⟩ hvalue
      cases record with
      | loot table entry =>
          cases hvalue
          exact ⟨hnumber, hsaid, Context.place_of_record_loot hgoverned⟩
      | _ => cases hvalue
  · apply Source.forall₂_collect h
    · intro record
      cases record with
      | _ => simp [Record.scene?, Record.line, Line.shape]
    · rintro ⟨number, record⟩ numbered value ⟨hnumber, hsaid, -⟩ hvalue
      cases record with
      | scene name =>
          cases hvalue
          exact ⟨hnumber, hsaid⟩
      | _ => cases hvalue
  · apply Source.forall₂_collect h
    · intro record
      cases record with
      | _ => simp [Record.lootTable?, Record.line, Line.shape]
    · rintro ⟨number, record⟩ numbered value ⟨hnumber, hsaid, -⟩ hvalue
      cases record with
      | lootTable name =>
          cases hvalue
          exact ⟨hnumber, hsaid⟩
      | _ => cases hvalue

/-- Lines with two scenes, a loot table between them, and one tag. -/
def campAndLake : List String :=
  ["tag = Rare", "scene = Camp", "item = rope c = 5", "loottable = cache", "item = lamp w = 4",
    "# an island", "scene = Lake", "item = raft p = 1, 2, 3"]

theorem views_of_campAndLake :
    ∃ source, Source.ofLines campAndLake = .ok source ∧
      source.spawns.map (fun spawn => (spawn.line, spawn.value.1, spawn.value.2.tag)) =
        [(3, "camp", "rare"), (8, "lake", "rare")] ∧
      List.Forall₂ (StagesSpawn campAndLake) source.spawns (linesOfShape .spawn campAndLake) := by
  have hread : Source.ofLines campAndLake = .ok ⟨(Reading.ofLines campAndLake).records⟩ := by
    decide +kernel
  exact ⟨_, hread, by decide +kernel, (Source.views_of_lines hread).1⟩

end LootSpawn
