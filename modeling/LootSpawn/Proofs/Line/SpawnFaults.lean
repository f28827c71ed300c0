import LootSpawn.Proofs.Line.FirstMatch
import LootSpawn.Proofs.Line.LootForm
import LootSpawn.Proofs.Text.LowerParts

/-!
# Faults of spawn lines

A line with the shape of a spawn is refused for a token in it that is no decimal, or for a vector in
it with another count of tokens than three, and for nothing else. The tokens and the vectors are
those of the first way through the line.
-/

namespace LootSpawn

open Text Number

/-! ## Lists of tokens -/

/-- The text lists the tokens, with single commas between them and blanks around the commas. -/
inductive ListsTokens : List Token → List Char → Prop where
  | one (token : Token) : ListsTokens [token] token
  | more (token : Token) (after before : Blanks) {tokens : List Token} {rest : List Char}
      (h : ListsTokens tokens rest) :
      ListsTokens (token :: tokens) (token ++ (after ++ ',' :: (before ++ rest)))

namespace ListsTokens

theorem exists_of_vector {value : List Char} (h : Pattern.vector.Matches value) :
    ∃ tokens, ListsTokens tokens value := by
  refine Pattern.vector_induction (motive := fun value => ∃ tokens, ListsTokens tokens value)
    ?_ ?_ h
  · intro front hfront
    exact ⟨_, one ⟨front, hfront⟩⟩
  · rintro front after before rest hfront hafter hbefore - ⟨tokens, hrest⟩
    exact ⟨_, more ⟨front, hfront⟩ ⟨after, hafter⟩ ⟨before, hbefore⟩ hrest⟩

theorem ne_nil {tokens : List Token} {value : List Char} (h : ListsTokens tokens value) :
    tokens ≠ [] := by
  cases h with
  | _ => exact List.cons_ne_nil _ _

end ListsTokens

/-- What a vector is taken apart into. -/
def components (value : List Char) : List (List Char) := (splitCommas value).map trim

theorem components_blanks_append (blanks : Blanks) (rest : List Char) :
    components (blanks ++ rest) = components rest := by
  by_cases hcomma : ',' ∈ rest
  · obtain ⟨front, tail, rfl, hfront⟩ := List.eq_append_cons_of_mem hcomma
    have hnone : ',' ∉ blanks.val ++ front := by simp [blanks.notMem_comma, hfront]
    rw [components, components, ← List.append_assoc, splitCommas_append hnone,
      splitCommas_append hfront, List.map_cons, List.map_cons,
      trim_blanks_append blanks.property]
  · have hnone : ',' ∉ blanks.val ++ rest := by simp [blanks.notMem_comma, hcomma]
    rw [components, components, splitCommas_of_notMem hnone, splitCommas_of_notMem hcomma,
      List.map_singleton, List.map_singleton, trim_blanks_append blanks.property]

theorem Token.notMem_comma (token : Token) : ',' ∉ token.val := fun h =>
  absurd (token.property.2 ',' h) (by decide)

theorem Token.trim_append (token : Token) (after : Blanks) : trim (token.val ++ after) = token := by
  have htrim := Text.trim_append (List.forall_mem_nil _)
    (fun c hc => isBlank_of_isNumeric (token.property.2 c hc)) after.property
  exact htrim

/-- The components of a list are its tokens. -/
theorem ListsTokens.components_eq {tokens : List Token} {value : List Char}
    (h : ListsTokens tokens value) : components value = tokens.map Subtype.val := by
  induction h with
  | one token =>
      have htrim := token.trim_append ⟨[], List.forall_mem_nil _⟩
      rw [List.append_nil] at htrim
      rw [components, splitCommas_of_notMem token.notMem_comma, List.map_singleton, htrim]
      rfl
  | more token after before h ih =>
      have hnone : ',' ∉ token.val ++ after.val := by
        simp [token.notMem_comma, after.notMem_comma]
      rw [components, ← List.append_assoc, splitCommas_append hnone, List.map_cons,
        token.trim_append, List.map_cons, ← ih, ← components_blanks_append before]
      rfl

/-! ## Numbers -/

def IsDecimal (token : List Char) : Prop := ∃ form : DecimalForm, form.text = token

theorem readDecimal_cases (token : List Char) :
    (∃ number, readDecimal token = .ok number ∧ IsDecimal token) ∨
      (readDecimal token = .error (.invalidNumber (String.ofList token)) ∧ ¬ IsDecimal token) := by
  by_cases hdecimal : IsDecimal token
  · obtain ⟨form, rfl⟩ := hdecimal
    exact Or.inl ⟨form.number, readDecimal_text form, form, rfl⟩
  · refine Or.inr ⟨?_, hdecimal⟩
    rw [readDecimal]
    split
    next decimal hplain =>
      obtain ⟨form, hform, -⟩ := Decimal.exists_form_of_plain? hplain
      exact absurd ⟨form, hform⟩ hdecimal
    next => rfl

/-- A vector of three decimals. -/
structure IsVector (value : List Char) : Prop where
  arity : (components value).length = 3
  decimals : ∀ token ∈ components value, IsDecimal token

/-- What may be wrong with a vector: it has another count of components than three, or one of the
components is no decimal. -/
inductive VectorFault (value : List Char) : LineFault → Prop where
  | arity (h : (components value).length ≠ 3) :
      VectorFault value (.vectorArity (components value).length)
  | number (token : List Char) (h : token ∈ components value) (hnot : ¬ IsDecimal token) :
      VectorFault value (.invalidNumber (String.ofList token))

theorem readVector_cases (value : List Char) :
    (∃ vector, readVector (some value) = .ok vector ∧ IsVector value) ∨
      ∃ fault, readVector (some value) = .error fault ∧ VectorFault value fault := by
  by_cases harity : (components value).length = 3
  · obtain ⟨x, y, z, hcomponents⟩ := List.length_eq_three.mp harity
    have hread : readVector (some value) = do
        let x ← readDecimal x
        let y ← readDecimal y
        let z ← readDecimal z
        return ⟨x, y, z⟩ := by
      rw [components] at hcomponents
      rw [readVector, hcomponents]
    -- The first of the three that is no decimal is the fault.
    rcases readDecimal_cases x with ⟨first, hx, hdecimalX⟩ | ⟨hx, hnot⟩
    · rcases readDecimal_cases y with ⟨second, hy, hdecimalY⟩ | ⟨hy, hnot⟩
      · rcases readDecimal_cases z with ⟨third, hz, hdecimalZ⟩ | ⟨hz, hnot⟩
        · rw [hx, hy, hz] at hread
          exact Or.inl ⟨_, hread, harity, by simp [hcomponents, hdecimalX, hdecimalY, hdecimalZ]⟩
        · rw [hx, hy, hz] at hread
          exact Or.inr ⟨_, hread, .number z (by simp [hcomponents]) hnot⟩
      · rw [hx, hy] at hread
        exact Or.inr ⟨_, hread, .number y (by simp [hcomponents]) hnot⟩
    · rw [hx] at hread
      exact Or.inr ⟨_, hread, .number x (by simp [hcomponents]) hnot⟩
  · refine Or.inr ⟨_, ?_, .arity harity⟩
    rw [readVector]
    split
    next x y z hcomponents =>
      rw [components, hcomponents] at harity
      exact absurd rfl harity
    next => rfl

/-! ## Spawns -/

namespace SpawnText

/-- The captured vectors. -/
def vectors (texts : SpawnText) : List (List Char) :=
  texts.position.toList ++ texts.rotation.toList

/-- The captured tokens: the components of the vectors and the chance. -/
def tokens (texts : SpawnText) : List (List Char) :=
  texts.vectors.flatMap components ++ texts.chance.toList

/-- All captured numbers can be read. -/
structure IsSpawn (texts : SpawnText) : Prop where
  vectors : ∀ value ∈ texts.vectors, IsVector value
  chance : ∀ token ∈ texts.chance, IsDecimal token

/-- What may be wrong with the texts of a spawn. -/
inductive Fault (texts : SpawnText) : LineFault → Prop where
  | arity (value : List Char) (h : value ∈ texts.vectors) (hne : (components value).length ≠ 3) :
      Fault texts (.vectorArity (components value).length)
  | number (token : List Char) (h : token ∈ texts.tokens) (hnot : ¬ IsDecimal token) :
      Fault texts (.invalidNumber (String.ofList token))

theorem fault_of_vectorFault {texts : SpawnText} {value : List Char} {fault : LineFault}
    (hvalue : value ∈ texts.vectors) (h : VectorFault value fault) : texts.Fault fault := by
  cases h with
  | arity h => exact .arity value hvalue h
  | number token h hnot =>
      exact .number token (List.mem_append_left _ (List.mem_flatMap.mpr ⟨value, hvalue, h⟩)) hnot

theorem readOptional_cases (texts : SpawnText) (value? : Option (List Char))
    (hvalue : ∀ value ∈ value?, value ∈ texts.vectors) :
    (∃ vector, readVector value? = .ok vector ∧ ∀ value ∈ value?, IsVector value) ∨
      ∃ fault, readVector value? = .error fault ∧ texts.Fault fault := by
  cases value? with
  | none =>
      refine Or.inl ⟨.zero, rfl, ?_⟩
      intro value hvalue
      cases hvalue
  | some value =>
      rcases readVector_cases value with ⟨vector, hread, hvector⟩ | ⟨fault, hread, hfault⟩
      · refine Or.inl ⟨vector, hread, ?_⟩
        intro other hother
        obtain rfl := Option.some.inj hother
        exact hvector
      · exact Or.inr ⟨fault, hread, fault_of_vectorFault (hvalue value rfl) hfault⟩

theorem readChance_cases (texts : SpawnText) :
    (∃ number, readChance texts.chance = .ok number ∧ ∀ token ∈ texts.chance, IsDecimal token) ∨
      ∃ fault, readChance texts.chance = .error fault ∧ texts.Fault fault := by
  cases hchance : texts.chance with
  | none =>
      refine Or.inl ⟨defaultChance, rfl, ?_⟩
      intro token htoken
      cases htoken
  | some token =>
      rcases readDecimal_cases token with ⟨number, hread, hdecimal⟩ | ⟨hread, hnot⟩
      · refine Or.inl ⟨number, hread, ?_⟩
        intro other hother
        obtain rfl := Option.some.inj hother
        exact hdecimal
      · exact Or.inr ⟨_, hread, .number token (by simp [tokens, hchance]) hnot⟩

/-- The numbers are read in order, and the first one that cannot be read is the fault. -/
theorem toLine_cases (texts : SpawnText) :
    (∃ prefab position rotation chance,
      texts.toLine = .ok (.spawn prefab position rotation chance) ∧ texts.IsSpawn) ∨
      ∃ fault, texts.toLine = .error fault ∧ texts.Fault fault := by
  have hposition : ∀ value ∈ texts.position, value ∈ texts.vectors := fun value hvalue =>
    List.mem_append_left _ (Option.mem_toList.mpr hvalue)
  have hrotation : ∀ value ∈ texts.rotation, value ∈ texts.vectors := fun value hvalue =>
    List.mem_append_right _ (Option.mem_toList.mpr hvalue)
  rw [toLine_eq]
  rcases texts.readChance_cases with ⟨chance, hc, hchance⟩ | ⟨fault, hc, hfault⟩
  · rcases texts.readOptional_cases _ hposition with ⟨position, hp, hvectorP⟩ | ⟨fault, hp, hfault⟩
    · rcases texts.readOptional_cases _ hrotation with ⟨rotation, hr, hvectorR⟩ |
        ⟨fault, hr, hfault⟩
      · rw [hc, hp, hr]
        refine Or.inl ⟨_, position, rotation, chance, rfl, ?_, hchance⟩
        intro value hvalue
        rcases List.mem_append.mp hvalue with hvalue | hvalue
        · exact hvectorP value (Option.mem_toList.mp hvalue)
        · exact hvectorR value (Option.mem_toList.mp hvalue)
      · rw [hc, hp, hr]
        exact Or.inr ⟨fault, rfl, hfault⟩
    · rw [hc, hp]
      exact Or.inr ⟨fault, rfl, hfault⟩
  · rw [hc]
    exact Or.inr ⟨fault, rfl, hfault⟩

theorem not_isSpawn_of_fault {texts : SpawnText} {fault : LineFault} (h : texts.Fault fault) :
    ¬ texts.IsSpawn := by
  intro hspawn
  cases h with
  | arity value hvalue hne => exact hne (hspawn.vectors value hvalue).arity
  | number token htoken hnot =>
      apply hnot
      rcases List.mem_append.mp htoken with htoken | htoken
      · obtain ⟨value, hvalue, htoken⟩ := List.mem_flatMap.mp htoken
        exact (hspawn.vectors value hvalue).decimals token htoken
      · exact hspawn.chance token (Option.mem_toList.mp htoken)

/-! ## Captures -/

open Pattern

theorem mem_clauseThen {α : Type} {key : Char} {value : Pattern} {nexts : List Char → List α}
    {cs : List Char} {found : Option (List Char)} {following : α}
    (h : (found, following) ∈ clauseThen key value nexts cs) :
    (∀ text ∈ found, value.Matches text) ∧ ∃ rest, following ∈ nexts rest := by
  rcases List.mem_append.mp h with h | h
  · obtain ⟨start, -, h⟩ := List.mem_flatMap.mp h
    obtain ⟨rest, hrest, h⟩ := List.mem_flatMap.mp h
    obtain ⟨other, hother, hpair⟩ := List.mem_map.mp h
    obtain ⟨rfl, rfl⟩ := Prod.mk.inj hpair
    obtain ⟨front, rfl, hfront⟩ := mem_rests_iff.mp hrest
    refine ⟨?_, rest, hother⟩
    intro text htext
    obtain rfl := Option.some.inj htext
    rw [captured_append]
    exact hfront
  · obtain ⟨other, hother, hpair⟩ := List.mem_map.mp h
    obtain ⟨rfl, rfl⟩ := Prod.mk.inj hpair
    refine ⟨?_, cs, hother⟩
    intro text htext
    cases htext

/-- What is captured for a vector is one. -/
theorem matches_of_mem_search {line : List Char} {texts : SpawnText} (h : texts ∈ search line) :
    ∀ value ∈ texts.vectors, Pattern.vector.Matches value := by
  obtain ⟨start, -, h⟩ := List.mem_flatMap.mp h
  obtain ⟨rest, -, h⟩ := List.mem_flatMap.mp h
  obtain ⟨⟨position, rotation, chance⟩, hclauses, rfl⟩ := List.mem_map.mp h
  obtain ⟨hposition, _, hclauses⟩ := mem_clauseThen hclauses
  obtain ⟨hrotation, -⟩ := mem_clauseThen hclauses
  intro value hvalue
  rcases List.mem_append.mp hvalue with hvalue | hvalue
  · exact hposition value (Option.mem_toList.mp hvalue)
  · exact hrotation value (Option.mem_toList.mp hvalue)

end SpawnText

/-- Faults of spawn lines are justified. If a line has the shape of a spawn, the first way through
it captures vectors that list tokens. A fault of the line is then a token among those captured that
is no decimal, or the count of the tokens of a captured vector, which is not three. And the line is
a spawn if and only if the captured vectors are three decimals each and the captured chance is one.
-/
theorem Line.spawn_faults_justified {raw : String}
    (h : Shape.spawn.pattern.Matches (Line.normalize raw)) :
    ∃ texts, (SpawnText.search (Line.normalize raw)).head? = some texts ∧
      (∀ value ∈ texts.vectors, ∃ tokens : List Token, ListsTokens tokens value ∧
        components value = tokens.map Subtype.val) ∧
      (∀ fault, Line.read raw = .error fault →
        (∃ token ∈ texts.tokens, ¬ IsDecimal token ∧
          fault = .invalidNumber (String.ofList token)) ∨
        ∃ value ∈ texts.vectors, ∃ tokens : List Token, ListsTokens tokens value ∧
          1 ≤ tokens.length ∧ tokens.length ≠ 3 ∧ fault = .vectorArity tokens.length) ∧
      ((∃ prefab position rotation chance,
          Line.read raw = .ok (some (.spawn prefab position rotation chance))) ↔
        texts.IsSpawn) := by
  obtain ⟨texts, htexts⟩ := Option.isSome_iff_exists.mp ((SpawnText.match?_isSome_iff _).mpr h)
  have hshape : Shape.spawn.read? (Line.normalize raw) = some texts.toLine := by
    rw [Shape.read?, htexts, Option.map_some]
  have hread : Line.read raw = texts.toLine.map some := Line.read_of_read? hshape
  rw [SpawnText.match?_eq_head?_search] at htexts
  have hlists : ∀ value ∈ texts.vectors, ∃ tokens : List Token, ListsTokens tokens value := by
    intro value hvalue
    exact ListsTokens.exists_of_vector
      (SpawnText.matches_of_mem_search (List.mem_of_head? htexts) value hvalue)
  refine ⟨texts, htexts, ?_, ?_, ?_⟩
  · intro value hvalue
    obtain ⟨tokens, htokens⟩ := hlists value hvalue
    exact ⟨tokens, htokens, htokens.components_eq⟩
  · intro fault hfault
    rcases texts.toLine_cases with ⟨_, _, _, _, hok, -⟩ | ⟨found, herror, hfound⟩
    · rw [hread, hok] at hfault
      cases hfault
    · rw [hread, herror] at hfault
      obtain rfl : found = fault := Except.error.inj hfault
      cases hfound with
      | number token htoken hnot => exact Or.inl ⟨token, htoken, hnot, rfl⟩
      | arity value hvalue hne =>
          obtain ⟨tokens, htokens⟩ := hlists value hvalue
          have hlength : (components value).length = tokens.length := by
            rw [htokens.components_eq, List.length_map]
          rw [hlength] at hne ⊢
          exact Or.inr ⟨value, hvalue, tokens, htokens,
            List.length_pos_iff.mpr htokens.ne_nil, hne, rfl⟩
  · rcases texts.toLine_cases with ⟨prefab, position, rotation, chance, hok, hspawn⟩ |
      ⟨fault, herror, hfault⟩
    · rw [hread, hok]
      exact iff_of_true ⟨prefab, position, rotation, chance, rfl⟩ hspawn
    · rw [hread, herror]
      refine iff_of_false ?_ (SpawnText.not_isSpawn_of_fault hfault)
      rintro ⟨_, _, _, _, hok⟩
      cases hok

/-- A position that runs into the separator of the rotation: it takes the first of the two minus
signs, and the second one is left for the separator. -/
theorem Line.spawn_faults_justified_rope :
    Line.read "Item = Rope p = 1, 2, 3--r = 4, 5, 6" = .error (.invalidNumber "3-") ∧
      ∃ texts, (SpawnText.search (Line.normalize "Item = Rope p = 1, 2, 3--r = 4, 5, 6")).head? =
          some texts ∧
        (∃ token ∈ texts.tokens, ¬ IsDecimal token ∧ String.ofList token = "3-") ∧
        ¬ texts.IsSpawn := by
  have hread : Line.read "Item = Rope p = 1, 2, 3--r = 4, 5, 6" = .error (.invalidNumber "3-") :=
    rfl
  have hmatch : Shape.spawn.pattern.Matches
      (Line.normalize "Item = Rope p = 1, 2, 3--r = 4, 5, 6") :=
    (SpawnText.match?_isSome_iff _).mp rfl
  obtain ⟨texts, htexts, -, hfault, haccepted⟩ := Line.spawn_faults_justified hmatch
  refine ⟨hread, texts, htexts, ?_, ?_⟩
  · rcases hfault _ hread with ⟨token, htoken, hnot, hfound⟩ | ⟨_, -, tokens, -, -, -, hfound⟩
    · exact ⟨token, htoken, hnot, (LineFault.invalidNumber.inj hfound).symm⟩
    · cases hfound
  · intro hspawn
    obtain ⟨_, _, _, _, hok⟩ := haccepted.mpr hspawn
    rw [hread] at hok
    cases hok

end LootSpawn
