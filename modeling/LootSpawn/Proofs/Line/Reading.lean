import LootSpawn.Proofs.Line.Exclusion

/-!
# Lines by their shape

A line that has a shape is read as that shape reads it, and what a line says tells which shape it
has. The other shapes play no part, since a line has at most one.
-/

namespace LootSpawn

def Line.shape : Line → Shape
  | .scene _ => .scene
  | .tag _ => .tag
  | .spawn .. => .spawn
  | .lootTable _ => .lootTable
  | .lootEntry _ => .lootEntry

theorem Shape.eq_shape_of_read? {shape : Shape} {line : List Char} {said : Line}
    (h : shape.read? line = some (.ok said)) : said.shape = shape := by
  cases shape with
  | scene =>
      obtain ⟨name, -, hname⟩ := Option.map_eq_some_iff.mp h
      cases hname
      rfl
  | tag =>
      obtain ⟨name, -, hname⟩ := Option.map_eq_some_iff.mp h
      cases hname
      rfl
  | spawn =>
      obtain ⟨texts, -, hread⟩ := Option.map_eq_some_iff.mp h
      simp only [toLine_eq, bind_eq_ok_iff] at hread
      obtain ⟨chance, -, position, -, rotation, -, hsaid⟩ := hread
      cases hsaid
      rfl
  | lootTable =>
      obtain ⟨name, -, hname⟩ := Option.map_eq_some_iff.mp h
      cases hname
      rfl
  | lootEntry =>
      obtain ⟨⟨name, token⟩, -, hread⟩ := Option.map_eq_some_iff.mp h
      obtain ⟨weight, -, hsaid⟩ := bind_eq_ok_iff.mp hread
      cases hsaid
      rfl

/-- A line with a shape begins with a letter, so it is neither blank nor a comment. -/
theorem Shape.isSilent_of_matches {shape : Shape} {line : List Char}
    (h : shape.pattern.Matches line) : Line.isSilent line = false := by
  have hhead := Shape.head?_of_matches h
  cases line with
  | nil =>
      cases shape with
      | _ => cases hhead
  | cons c line =>
      cases shape with
      | _ =>
          cases hhead
          rfl

/-- A line is read by the shape that recognises it. -/
theorem Line.read_of_read? {shape : Shape} {raw : String} {result : Except LineFault Line}
    (h : shape.read? (normalize raw) = some result) : Line.read raw = result.map some := by
  have hmatch : ∀ {other : Shape}, (other.read? (normalize raw)).isSome = true →
      other.pattern.Matches (normalize raw) := fun hsome => (Shape.read?_isSome_iff _ _).mp hsome
  have hshape := hmatch (Option.isSome_of_mem h)
  have hfind : Shape.all.findSome? (·.read? (normalize raw)) = some result := by
    have hsome : (Shape.all.findSome? (·.read? (normalize raw))).isSome = true :=
      List.findSome?_isSome_iff.mpr ⟨shape, shape.mem_all, Option.isSome_of_mem h⟩
    obtain ⟨found, hfound⟩ := Option.isSome_iff_exists.mp hsome
    obtain ⟨other, -, hother⟩ := List.exists_of_findSome?_eq_some hfound
    obtain rfl := Shape.eq_of_matches (hmatch (Option.isSome_of_mem hother)) hshape
    rw [hfound, ← hother, h]
  simp only [Line.read, Line.readTrying, Shape.isSilent_of_matches hshape, hfind,
    Bool.false_eq_true, if_false]

/-- What a line says is what its shape reads. -/
theorem Line.read_eq_some_iff (raw : String) (said : Line) :
    Line.read raw = .ok (some said) ↔ said.shape.read? (normalize raw) = some (.ok said) := by
  constructor
  · intro h
    simp only [Line.read, Line.readTrying] at h
    split at h
    next => cases h
    next =>
      split at h
      next result hfind =>
        obtain ⟨shape, -, hshape⟩ := List.exists_of_findSome?_eq_some hfind
        cases result with
        | error fault => cases h
        | ok found =>
            obtain rfl := Option.some.inj (Except.ok.inj h)
            rw [Shape.eq_shape_of_read? hshape]
            exact hshape
      next => cases h
  · exact fun h => Line.read_of_read? h

end LootSpawn
