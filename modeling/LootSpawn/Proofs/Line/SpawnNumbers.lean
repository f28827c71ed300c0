import LootSpawn.Proofs.Line.SpawnForm
import LootSpawn.Proofs.Number.SingleRange

/-!
# The numbers of a spawn

The text of a number may have any count of digits, and no number is refused for its size. A spawn
therefore holds an infinite number wherever its reading has a decimal beyond the range of the
format, and nowhere else.
-/

namespace LootSpawn

open Number

def Vector3.components (vector : Vector3) : List Single := [vector.x, vector.y, vector.z]

/-- The seven numbers of a spawn. -/
def Line.numbers : Line → List Single
  | .spawn _ position rotation chance => position.components ++ (rotation.components ++ [chance])
  | _ => []

def VectorForm.decimals (form : VectorForm) : List DecimalForm := [form.x, form.y, form.z]

/-- The decimals of a reading. -/
def SpawnForm.decimals (form : SpawnForm) : List DecimalForm :=
  (form.position.elim [] (·.value.decimals)) ++
    ((form.rotation.elim [] (·.value.decimals)) ++ (form.chance.map (·.value)).toList)

theorem isFinite_zero : Single.zero.isFinite = true := rfl

theorem isFinite_defaultChance : defaultChance.isFinite = true := rfl

theorem ne_of_isFinite {number other : Single} (hnumber : number.isFinite = false)
    (hother : other.isFinite = true) : number ≠ other := by
  rintro rfl
  rw [hnumber] at hother
  cases hother

section

variable {number : Single} (hnumber : number.isFinite = false)

include hnumber

theorem mem_components_vectorOf (clause : Option (ClauseForm VectorForm)) :
    number ∈ (vectorOf clause).components ↔
      ∃ decimal ∈ clause.elim [] (·.value.decimals), decimal.number = number := by
  have hzero : number ≠ .zero := ne_of_isFinite hnumber isFinite_zero
  cases clause with
  | none => simp [vectorOf, Vector3.components, Vector3.zero, hzero]
  | some clause =>
      simp [vectorOf, Vector3.components, VectorForm.vector, VectorForm.decimals, eq_comm]

theorem eq_chanceOf_iff (clause : Option (ClauseForm DecimalForm)) :
    number = chanceOf clause ↔
      ∃ decimal ∈ (clause.map (·.value)).toList, decimal.number = number := by
  have hchance : number ≠ defaultChance := ne_of_isFinite hnumber isFinite_defaultChance
  cases clause with
  | none => simp [chanceOf, hchance]
  | some clause => simp [chanceOf, eq_comm]

/-- What a spawn has by default is finite, so any other number is written in the line. -/
theorem SpawnForm.mem_numbers_iff (form : SpawnForm) :
    number ∈ form.line.numbers ↔ ∃ decimal ∈ form.decimals, decimal.number = number := by
  simp only [line, Line.numbers, decimals, List.mem_append, List.mem_singleton,
    mem_components_vectorOf hnumber, eq_chanceOf_iff hnumber, or_and_right, exists_or]

end

namespace SpawnForm

theorem nan_notMem_numbers (form : SpawnForm) : .nan ∉ form.line.numbers := by
  rw [form.mem_numbers_iff rfl]
  rintro ⟨decimal, -, hnan⟩
  exact decimal.number_ne_nan hnan

theorem infinite_mem_numbers_iff (form : SpawnForm) (negative : Bool) :
    .infinite negative ∈ form.line.numbers ↔
      ∃ decimal ∈ form.decimals, decimal.negative = negative ∧ ¬ decimal.InRange := by
  rw [form.mem_numbers_iff rfl]
  simp only [DecimalForm.number_eq_infinite_iff]

theorem isFinite_numbers_iff (form : SpawnForm) :
    (∀ number ∈ form.line.numbers, number.isFinite = true) ↔
      ∀ decimal ∈ form.decimals, decimal.InRange := by
  constructor
  · intro hfinite decimal hdecimal
    by_contra hrange
    cases hfinite _ ((form.infinite_mem_numbers_iff decimal.negative).mpr
      ⟨decimal, hdecimal, rfl, hrange⟩)
  · intro hrange number hnumber
    cases number with
    | nan => exact absurd hnumber form.nan_notMem_numbers
    | infinite negative =>
        obtain ⟨decimal, hdecimal, -, hlarge⟩ := (form.infinite_mem_numbers_iff _).mp hnumber
        exact absurd (hrange decimal hdecimal) hlarge
    | finite => rfl

end SpawnForm

/-- The numbers of a spawn are those of its reading, and none of them is undefined. An infinity
stands exactly where a decimal reaches the halfway point between the largest finite number and the
power of two after it, with the sign of that decimal, so all of them are finite exactly if every
decimal lies below this point. -/
theorem Line.spawn_numbers_range {raw prefab : String} {position rotation : Vector3}
    {chance : Single} (h : Line.read raw = .ok (some (.spawn prefab position rotation chance))) :
    ∃ form : SpawnForm, form.text = Line.normalize raw ∧
      form.line = .spawn prefab position rotation chance ∧
      .nan ∉ form.line.numbers ∧
      (∀ negative, .infinite negative ∈ form.line.numbers ↔
        ∃ decimal ∈ form.decimals, decimal.negative = negative ∧ ¬ decimal.InRange) ∧
      ((∀ number ∈ form.line.numbers, number.isFinite = true) ↔
        ∀ decimal ∈ form.decimals, decimal.InRange) := by
  obtain ⟨texts, hmatch, hread⟩ := match?_of_read h
  obtain ⟨form, htext, hline⟩ := exists_of_match? hmatch hread
  exact ⟨form, htext, hline, form.nan_notMem_numbers, form.infinite_mem_numbers_iff,
    form.isFinite_numbers_iff⟩

/-- A position whose second number is just below the halfway point and whose third number is the
negative of that point: the largest finite number and an infinity. -/
theorem Line.spawn_numbers_range_rope :
    ∃ form : SpawnForm,
      form.line = .spawn "rope" ⟨.one, .ofBits 0x7F7FFFFF, .infinite true⟩ .zero .hundred ∧
      ∃ decimal ∈ form.decimals, decimal.negative = true ∧ ¬ decimal.InRange := by
  have hread : Line.read ("item = rope p = 1, 340282356779733661637539395458142568447.9, " ++
      "-340282356779733661637539395458142568448") = .ok (some (.spawn "rope"
        ⟨.one, .ofBits 0x7F7FFFFF, .infinite true⟩ .zero .hundred)) := by
    decide +kernel
  obtain ⟨form, -, hline, -, hinfinite, -⟩ := Line.spawn_numbers_range hread
  refine ⟨form, hline, (hinfinite true).mp ?_⟩
  rw [hline]
  exact List.mem_append_left _ (by simp [Vector3.components])

/-- A chance beyond the range of the format is accepted, and it is not finite. A weight beyond its
range is refused. -/
theorem Line.oversized_chance_accepted :
    Line.read "item = rope c = 999999999999999999999999999999999999999" =
        .ok (some (.spawn "rope" .zero .zero (.infinite false))) ∧
      (Single.infinite false).isFinite = false ∧
      Line.read "item = rope w = 4294967296" = .error (.invalidNumber "4294967296") := by
  decide +kernel

end LootSpawn
