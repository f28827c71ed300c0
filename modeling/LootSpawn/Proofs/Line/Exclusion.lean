import LootSpawn.Proofs.Line.Pattern
import LootSpawn.Proofs.Line.SpawnForm

/-!
# The shapes exclude each other

The shape of a line is a pattern, and it is recognised on exactly the texts of that pattern. No text
has two shapes: the keys at the front tell all of them apart but spawns and loot entries, and these
differ in the key after the first separator. The order in which the shapes are tried is therefore of
no consequence.
-/

namespace LootSpawn

open Text

/-- What may follow the name of a spawn. -/
def Pattern.spawnClauses : Pattern :=
  optional (clause 'p' vector) ++ (optional (clause 'r' vector) ++ optional (clause 'c' token))

namespace Shape

/-- The key that a line of the shape begins with. -/
def key : Shape → String
  | scene => "scene"
  | tag => "tag"
  | spawn => "item"
  | lootTable => "loottable"
  | lootEntry => "item"

/-- What follows the key and its equals sign. -/
def value : Shape → Pattern
  | spawn => .name ++ .spawnClauses
  | lootEntry => .name ++ .clause 'w' .token
  | _ => .name

def pattern (shape : Shape) : Pattern := .keyed shape.key.toList shape.value

end Shape

namespace Pattern

theorem spares_clause {key : Char} {value : Pattern} : (clause key value).Spares isWord :=
  Spares.run_append (by simp)

theorem Spares.optional {body : Pattern} {kind : Char → Bool} (hbody : body.Spares kind) :
    (optional body).Spares kind := by
  rintro line (rfl | hline)
  · exact stops_nil
  · exact hbody line hline

theorem Spares.optional_clause_append {key : Char} {value next : Pattern}
    (hnext : next.Spares isWord) : (Pattern.optional (clause key value) ++ next).Spares isWord := by
  intro line h
  rcases optional_append.mp h with h | h
  · exact spares_clause line (clause_append.mp h)
  · exact hnext line h

theorem spares_spawnClauses : spawnClauses.Spares isWord :=
  spares_clause.optional.optional_clause_append.optional_clause_append

theorem spares_token : token.Spares isBlank :=
  Spares.run fun _ => isBlank_of_isNumeric

theorem spares_vector_append {next : Pattern} : (vector ++ next).Spares isBlank := by
  intro line h
  rw [vector, append_assoc] at h
  exact Spares.run_append (fun _ => isBlank_of_isNumeric) line h

end Pattern

/-! ## Recognition -/

namespace SpawnText

theorem chance?_isSome_iff (line : List Char) :
    (chance? line).isSome = true ↔
      (Pattern.optional (.clause 'c' .token)).Matches line := by
  rw [chance?]
  split
  next hempty => exact iff_of_true rfl (Or.inl (List.isEmpty_iff.mp hempty))
  next hempty =>
    have hne : line ≠ [] := fun hnil => hempty (List.isEmpty_iff.mpr hnil)
    have hclause : (Pattern.clause 'c' .token).Matches line ↔ _ :=
      Pattern.clause_iff (by decide) Pattern.spares_token
    rw [Pattern.Matches, or_iff_right hne, hclause]
    simp only [Pattern.token_iff, Option.isSome_iff_exists, Option.bind_eq_bind,
      Option.bind_eq_some_iff, Option.pure_def, Option.some.injEq]
    constructor
    · rintro ⟨_, rest, hrest, token, htoken, -⟩
      exact ⟨rest, hrest, token, htoken⟩
    · rintro ⟨rest, hrest, token, htoken⟩
      exact ⟨_, rest, hrest, token, htoken, rfl⟩

/-- What follows is read after a vector clause or in its place. -/
theorem vectorThen?_isSome {α : Type} (key : Char) (next : List Char → Option α)
    (line : List Char) :
    (vectorThen? key next line).isSome = true ↔
      (∃ rest, afterSeparatedKey? key line = some rest ∧
        ∃ size tail, (size, tail) ∈ vectorEnds rest ∧ (next tail).isSome = true) ∨
      (next line).isSome = true := by
  simp only [vectorThen?]
  split
  next result hpresent =>
    simp only [Option.bind_eq_bind, Option.bind_eq_some_iff] at hpresent
    obtain ⟨rest, hrest, hfind⟩ := hpresent
    obtain ⟨⟨size, tail⟩, hmem, hnext⟩ := List.exists_of_findSome?_eq_some hfind
    obtain ⟨following, hfollowing, -⟩ := Option.map_eq_some_iff.mp hnext
    refine iff_of_true rfl (Or.inl ⟨rest, hrest, size, tail, hmem, ?_⟩)
    rw [hfollowing]
    rfl
  next habsent =>
    rw [Option.isSome_map, or_iff_right]
    rintro ⟨rest, hrest, size, tail, hmem, hnext⟩
    rw [Option.bind_eq_bind, hrest, Option.bind_some, List.findSome?_eq_none_iff] at habsent
    have hnone := habsent (size, tail) hmem
    rw [Option.map_eq_none_iff] at hnone
    rw [hnone] at hnext
    cases hnext

theorem vectorThen?_isSome_iff {α : Type} {key : Char} (hkey : isWord key = true)
    {next : List Char → Option α} {body : Pattern}
    (hnext : ∀ line, (next line).isSome = true ↔ body.Matches line) (line : List Char) :
    (vectorThen? key next line).isSome = true ↔
      (Pattern.optional (.clause key .vector) ++ body).Matches line := by
  rw [Pattern.optional_append, Pattern.clause_append,
    Pattern.clause_iff hkey Pattern.spares_vector_append, vectorThen?_isSome, hnext]
  apply or_congr_left
  apply exists_congr
  intro rest
  apply and_congr_right
  intro hrest
  obtain ⟨separator, equals, -, hstops⟩ := (afterSeparatedKey?_eq_some_iff hkey _ _).mp hrest
  rw [Pattern.vector_append_iff hstops]
  simp only [hnext]

theorem clauses?_isSome_iff (line : List Char) :
    (clauses? line).isSome = true ↔ Pattern.spawnClauses.Matches line :=
  vectorThen?_isSome_iff (by decide)
    (vectorThen?_isSome_iff (by decide) chance?_isSome_iff) line

end SpawnText

namespace Shape

theorem spares_value (shape : Shape) : shape.value.Spares isBlank := by
  cases shape with
  | spawn => exact Pattern.Spares.run_append fun _ => isBlank_of_isWord
  | lootEntry => exact Pattern.Spares.run_append fun _ => isBlank_of_isWord
  | _ => exact Pattern.Spares.run fun _ => isBlank_of_isWord

theorem pattern_iff (shape : Shape) (line : List Char) :
    shape.pattern.Matches line ↔
      ∃ rest, afterKey? shape.key.toList line = some rest ∧ shape.value.Matches rest :=
  Pattern.keyed_iff shape.spares_value

end Shape

theorem declaredName?_isSome_iff (key line : List Char) :
    (declaredName? key line).isSome = true ↔ (Pattern.keyed key .name).Matches line := by
  have hname : Pattern.name.Spares isBlank := Pattern.Spares.run fun _ => isBlank_of_isWord
  rw [Pattern.keyed_iff hname]
  simp only [declaredName?, Option.isSome_iff_exists, Option.bind_eq_bind, Option.bind_eq_some_iff,
    Pattern.name_iff]
  constructor
  · rintro ⟨text, rest, hrest, ⟨front, tail⟩, hfront, hdeclared⟩
    split at hdeclared
    next htail =>
      obtain rfl : tail = [] := List.isEmpty_iff.mp htail
      exact ⟨rest, hrest, front, hfront⟩
    next => cases hdeclared
  · rintro ⟨rest, hrest, front, hfront⟩
    exact ⟨String.ofList front, rest, hrest, (front, []), hfront, rfl⟩

theorem SpawnText.match?_isSome_iff (line : List Char) :
    (SpawnText.match? line).isSome = true ↔ Shape.spawn.pattern.Matches line := by
  rw [Shape.pattern_iff]
  simp only [Shape.value, Shape.key, Pattern.name_append_iff Pattern.spares_spawnClauses,
    ← clauses?_isSome_iff, SpawnText.match?, Option.isSome_iff_exists, Option.bind_eq_bind,
    Option.bind_eq_some_iff]
  constructor
  · rintro ⟨_, rest, hrest, ⟨name, tail⟩, hname, texts, htexts, -⟩
    exact ⟨rest, hrest, name, tail, hname, texts, htexts⟩
  · rintro ⟨rest, hrest, name, tail, hname, texts, htexts⟩
    exact ⟨_, rest, hrest, (name, tail), hname, texts, htexts, rfl⟩

theorem lootText?_isSome_iff (line : List Char) :
    (lootText? line).isSome = true ↔ Shape.lootEntry.pattern.Matches line := by
  have hclause : ∀ tail, (Pattern.clause 'w' .token).Matches tail ↔ _ := fun tail =>
    Pattern.clause_iff (by decide) Pattern.spares_token
  rw [Shape.pattern_iff]
  simp only [Shape.value, Shape.key, Pattern.name_append_iff Pattern.spares_clause, hclause,
    Pattern.token_iff, lootText?, Option.isSome_iff_exists, Option.bind_eq_bind,
    Option.bind_eq_some_iff]
  constructor
  · rintro ⟨_, rest, hrest, ⟨name, tail⟩, hname, weight, hweight, token, htoken, -⟩
    exact ⟨rest, hrest, name, tail, hname, weight, hweight, token, htoken⟩
  · rintro ⟨rest, hrest, name, tail, hname, weight, hweight, token, htoken⟩
    exact ⟨_, rest, hrest, (name, tail), hname, weight, hweight, token, htoken, rfl⟩

/-- A shape is recognised on the texts of its pattern. -/
theorem Shape.read?_isSome_iff (shape : Shape) (line : List Char) :
    (shape.read? line).isSome = true ↔ shape.pattern.Matches line := by
  cases shape with
  | scene =>
      rw [read?, Option.isSome_map]
      exact declaredName?_isSome_iff _ line
  | tag =>
      rw [read?, Option.isSome_map]
      exact declaredName?_isSome_iff _ line
  | spawn =>
      rw [read?, Option.isSome_map]
      exact SpawnText.match?_isSome_iff line
  | lootTable =>
      rw [read?, Option.isSome_map]
      exact declaredName?_isSome_iff _ line
  | lootEntry =>
      rw [read?, Option.isSome_map]
      exact lootText?_isSome_iff line

/-! ## Exclusion -/

theorem Shape.mem_all (shape : Shape) : shape ∈ Shape.all := by
  cases shape with
  | _ => decide

/-- The first letters of the keys tell the shapes apart, except spawns and loot entries. -/
theorem Shape.eq_or_items_of_head? : ∀ first ∈ Shape.all, ∀ second ∈ Shape.all,
    first.key.toList.head? = second.key.toList.head? →
      first = second ∨ first.key = "item" ∧ second.key = "item" := by
  decide

theorem Shape.head?_of_matches {shape : Shape} {line : List Char}
    (h : shape.pattern.Matches line) : line.head? = shape.key.toList.head? := by
  obtain ⟨rest, hrest, -⟩ := (shape.pattern_iff line).mp h
  obtain ⟨equals, rfl, -⟩ := (afterKey?_eq_some_iff _ _ _).mp hrest
  apply List.head?_append_of_ne_nil
  cases shape with
  | _ => decide

theorem afterSeparatedKey?_inj {first second : Char} (hfirst : isWord first = true)
    (hsecond : isWord second = true) {cs rest rest' : List Char}
    (h : afterSeparatedKey? first cs = some rest)
    (h' : afterSeparatedKey? second cs = some rest') : first = second := by
  obtain ⟨separator, equals, rfl, -⟩ := (afterSeparatedKey?_eq_some_iff hfirst _ _).mp h
  obtain ⟨separator', equals', heq, -⟩ := (afterSeparatedKey?_eq_some_iff hsecond _ _).mp h'
  exact (Separator.append_key_inj hfirst hsecond heq).2.1

/-- A clause under another key is none of the clauses of a spawn. -/
theorem not_matches_clauses {key : Char} (hkey : isWord key = true) {value : Pattern}
    (hvalue : value.Spares isBlank) (hother : key ∉ ['p', 'r', 'c']) {line : List Char}
    (h : (Pattern.clause key value).Matches line) :
    ¬ Pattern.spawnClauses.Matches line := by
  obtain ⟨rest, hrest, -⟩ := (Pattern.clause_iff hkey hvalue).mp h
  have hne : ∀ found ∈ ['p', 'r', 'c'], ∀ tail, afterSeparatedKey? found line ≠ some tail := by
    intro found hfound tail htail
    apply hother
    rw [afterSeparatedKey?_inj hkey (isWord_of_mem_keys hfound).1 hrest htail]
    exact hfound
  rw [Pattern.spawnClauses, Pattern.optional_append, Pattern.clause_append,
    Pattern.clause_iff (by decide) Pattern.spares_vector_append, Pattern.optional_append,
    Pattern.clause_append, Pattern.clause_iff (by decide) Pattern.spares_vector_append]
  rintro (⟨tail, htail, -⟩ | ⟨tail, htail, -⟩ | rfl | hchance)
  · exact hne 'p' (by decide) tail htail
  · exact hne 'r' (by decide) tail htail
  · cases hrest
  · obtain ⟨tail, htail, -⟩ := (Pattern.clause_iff (by decide) Pattern.spares_token).mp hchance
    exact hne 'c' (by decide) tail htail

theorem Shape.not_spawn_and_lootEntry {line : List Char}
    (hspawn : Shape.spawn.pattern.Matches line) : ¬ Shape.lootEntry.pattern.Matches line := by
  intro hloot
  obtain ⟨rest, hrest, hspawn⟩ := (Shape.spawn.pattern_iff line).mp hspawn
  obtain ⟨rest', hrest', hloot⟩ := (Shape.lootEntry.pattern_iff line).mp hloot
  -- Both have the same name in front, so the same text is left for their clauses.
  obtain rfl : rest = rest' := Option.some.inj (hrest.symm.trans hrest')
  obtain ⟨name, tail, hname, hspawn⟩ :=
    (Pattern.name_append_iff Pattern.spares_spawnClauses).mp hspawn
  obtain ⟨name', tail', hname', hloot⟩ := (Pattern.name_append_iff Pattern.spares_clause).mp hloot
  obtain ⟨-, rfl⟩ := Prod.mk.inj (Option.some.inj (hname.symm.trans hname'))
  exact not_matches_clauses (by decide) Pattern.spares_token (by decide) hloot hspawn

theorem Shape.eq_of_matches {first second : Shape} {line : List Char}
    (hfirst : first.pattern.Matches line) (hsecond : second.pattern.Matches line) :
    first = second := by
  have hhead := (head?_of_matches hfirst).symm.trans (head?_of_matches hsecond)
  rcases eq_or_items_of_head? first first.mem_all second second.mem_all hhead with heq | hitems
  · exact heq
  · cases first with
    | spawn =>
        cases second with
        | spawn => rfl
        | lootEntry => exact absurd hsecond (not_spawn_and_lootEntry hfirst)
        | _ => exact absurd hitems.2 (by decide)
    | lootEntry =>
        cases second with
        | spawn => exact absurd hfirst (not_spawn_and_lootEntry hsecond)
        | lootEntry => rfl
        | _ => exact absurd hitems.2 (by decide)
    | _ => exact absurd hitems.1 (by decide)

/-- A search for which at most one element counts does not depend on the order. -/
theorem findSome?_eq_of_perm {α β : Type} {f : α → Option β} {first second : List α}
    (hperm : first.Perm second)
    (hone : ∀ a b, (f a).isSome = true → (f b).isSome = true → a = b) :
    first.findSome? f = second.findSome? f := by
  cases hfind : first.findSome? f with
  | none =>
      symm
      rw [List.findSome?_eq_none_iff] at hfind ⊢
      intro a ha
      exact hfind a (hperm.mem_iff.mpr ha)
  | some b =>
      obtain ⟨a, ha, hb⟩ := List.exists_of_findSome?_eq_some hfind
      have hsome : (second.findSome? f).isSome = true := by
        rw [List.findSome?_isSome_iff]
        exact ⟨a, hperm.mem_iff.mp ha, by rw [hb]; rfl⟩
      obtain ⟨other, hother⟩ := Option.isSome_iff_exists.mp hsome
      obtain ⟨a', -, hb'⟩ := List.exists_of_findSome?_eq_some hother
      obtain rfl : a = a' := hone a a' (by rw [hb]; rfl) (by rw [hb']; rfl)
      rw [hother, ← hb, hb']

/-- The shapes exclude each other. Each is recognised on the texts of its pattern and on no other,
no text matches the patterns of two shapes, the two shapes of items included, and a line is read the
same in whatever order the shapes are tried. -/
theorem Line.shapes_exclusive :
    (∀ (shape : Shape) (line : List Char),
      (shape.read? line).isSome = true ↔ shape.pattern.Matches line) ∧
    (∀ (line : List Char) (first second : Shape),
      first.pattern.Matches line → second.pattern.Matches line → first = second) ∧
    (∀ line : List Char,
      ¬ (Shape.spawn.pattern.Matches line ∧ Shape.lootEntry.pattern.Matches line)) ∧
    ∀ (shapes : List Shape) (raw : String), shapes.Perm Shape.all →
      Line.readTrying shapes raw = Line.read raw := by
  refine ⟨Shape.read?_isSome_iff, fun _ _ _ => Shape.eq_of_matches, ?_, ?_⟩
  · rintro line ⟨hspawn, hloot⟩
    exact Shape.not_spawn_and_lootEntry hspawn hloot
  · intro shapes raw hperm
    have hfind : shapes.findSome? (·.read? (Line.normalize raw)) =
        Shape.all.findSome? (·.read? (Line.normalize raw)) := by
      apply findSome?_eq_of_perm hperm
      intro first second hfirst hsecond
      rw [Shape.read?_isSome_iff] at hfirst hsecond
      exact Shape.eq_of_matches hfirst hsecond
    rw [Line.read, Line.readTrying, Line.readTrying, hfind]

/-- A weight after a separator full of other signs, tried as a loot entry first. -/
theorem Line.shapes_exclusive_flare :
    [Shape.lootEntry, .lootTable, .spawn, .tag, .scene].Perm Shape.all ∧
      Line.readTrying [.lootEntry, .lootTable, .spawn, .tag, .scene] "Item=Flare =-., w = 07" =
        .ok (some (.lootEntry ⟨"flare", 7⟩)) ∧
      ¬ Shape.spawn.pattern.Matches (Line.normalize "Item=Flare =-., w = 07") := by
  have hperm : [Shape.lootEntry, .lootTable, .spawn, .tag, .scene].Perm Shape.all := by decide
  have hloot : Shape.lootEntry.pattern.Matches (Line.normalize "Item=Flare =-., w = 07") := by
    apply (Line.shapes_exclusive.1 _ _).mp
    rfl
  refine ⟨hperm, ?_, fun hspawn => Line.shapes_exclusive.2.2.1 _ ⟨hspawn, hloot⟩⟩
  rw [Line.shapes_exclusive.2.2.2 _ _ hperm]
  rfl

end LootSpawn
