import LootSpawn.Proofs.Line.Reading
import LootSpawn.Proofs.Number.Positional

/-!
# Loot entry lines

A reading of a line as a loot entry is a division into `item`, a name and a weight after a
separator. No line has two readings. A line with a reading is a loot entry if the token of its
weight is digits for a number of 32 bits, and otherwise the token is reported, whatever else stands
in it.
-/

namespace LootSpawn

open Text Number

/-- One or more numeric characters. -/
abbrev Token := { cs : List Char // cs ≠ [] ∧ ∀ c ∈ cs, isNumeric c = true }

/-- A reading of a line as a loot entry. -/
structure LootForm where
  equals : EqualsForm
  name : Name
  weight : ClauseForm Token

namespace LootForm

def token (form : LootForm) : List Char := form.weight.value

/-- The line of a reading. -/
def text (form : LootForm) : List Char :=
  "item".toList ++ (form.equals.text ++ (form.name ++
    (form.weight.separator ++ 'w' :: (form.weight.equals.text ++ form.token))))

end LootForm

/-- The token is a weight: digits whose number has 32 bits. -/
def IsWeight (token : List Char) : Prop := IsDigits token ∧ placeValue token < 2 ^ 32

/-! ## Division -/

theorem Token.stops_isBlank (token : Token) : Stops isBlank token.val := by
  rw [← List.append_nil token.val]
  exact Stops.append_of_ne_nil [] token.property.1 fun c hc =>
    isBlank_of_isNumeric (token.property.2 c hc)

/-- A line has at most one reading as a loot entry. -/
theorem LootForm.text_inj {first second : LootForm} (h : first.text = second.text) :
    first = second := by
  obtain ⟨equals, name, separator, weightEquals, token⟩ := first
  obtain ⟨equals', name', separator', weightEquals', token'⟩ := second
  obtain ⟨rfl, hname⟩ := EqualsForm.text_append_inj (name.stops_isBlank _)
    (name'.stops_isBlank _) (List.append_cancel_left h)
  obtain ⟨hnames, hclause⟩ := run_append_inj name.property.2 (separator.stops _)
    name'.property.2 (separator'.stops _) hname
  obtain rfl := Subtype.ext hnames
  obtain ⟨rfl, -, hequals⟩ := Separator.append_key_inj (by decide) (by decide) hclause
  obtain ⟨rfl, htoken⟩ := EqualsForm.text_append_inj token.stops_isBlank token'.stops_isBlank
    hequals
  obtain rfl := Subtype.ext htoken
  rfl

/-- What is recognised as a loot entry has a reading with its name and its token. -/
theorem lootText?_eq_some_iff (line name token : List Char) :
    lootText? line = some (name, token) ↔
      ∃ form : LootForm, form.text = line ∧ form.name = name ∧ form.token = token := by
  simp only [lootText?, Option.bind_eq_bind, Option.bind_eq_some_iff]
  constructor
  · rintro ⟨value, hvalue, ⟨found, rest⟩, hname, weight, hweight, last, htoken, hresult⟩
    obtain ⟨rfl, rfl⟩ := Prod.mk.inj (Option.some.inj hresult)
    obtain ⟨equals, rfl, -⟩ := (afterKey?_eq_some_iff _ _ _).mp hvalue
    obtain ⟨name, rfl, rfl, -⟩ := (name?_eq_some_iff _ _ _).mp hname
    obtain ⟨separator, weightEquals, rfl, -⟩ :=
      (afterSeparatedKey?_eq_some_iff (by decide) _ _).mp hweight
    obtain ⟨rfl, hnumeric⟩ := (wholeToken?_eq_some_iff _ _).mp htoken
    exact ⟨⟨equals, name, separator, weightEquals, _, hnumeric⟩, rfl, rfl, rfl⟩
  · rintro ⟨⟨equals, name, separator, weightEquals, token⟩, rfl, rfl, rfl⟩
    have hvalue := (afterKey?_eq_some_iff "item".toList _ _).mpr
      ⟨equals, rfl, name.stops_isBlank (separator.val ++ 'w' :: (weightEquals.text ++ token.val))⟩
    have hname := (name?_eq_some_iff (name.val ++ _) name.val _).mpr
      ⟨name, rfl, rfl, separator.stops ('w' :: (weightEquals.text ++ token.val))⟩
    have hweight : afterSeparatedKey? 'w' _ = some token.val :=
      (afterSeparatedKey?_eq_some_iff (by decide) _ _).mpr
        ⟨separator, weightEquals, rfl, token.stops_isBlank⟩
    have htoken := (wholeToken?_eq_some_iff _ _).mpr ⟨rfl, token.property⟩
    exact ⟨_, hvalue, (name.val, _), hname, _, hweight, _, htoken, rfl⟩

/-! ## Weights -/

theorem readWeight_eq_ok_iff (token : List Char) (weight : UInt32) :
    readWeight token = .ok weight ↔ IsDigits token ∧ placeValue token = weight.toNat := by
  rw [readWeight]
  constructor
  · intro h
    split at h
    next value hvalue =>
      obtain ⟨hdigits, rfl⟩ := (natural?_eq_some_iff _ _).mp hvalue
      split at h
      next hlt =>
        obtain rfl := Except.ok.inj h
        exact ⟨hdigits, (UInt32.toNat_ofNat_of_lt' hlt).symm⟩
      next => cases h
    next => cases h
  · rintro ⟨hdigits, hvalue⟩
    rw [(natural?_eq_some_iff _ _).mpr ⟨hdigits, hvalue⟩]
    simp only [if_pos weight.toNat_lt, UInt32.ofNat_toNat]

theorem readWeight_eq_error {token : List Char} (h : ¬ IsWeight token) :
    readWeight token = .error (.invalidNumber (String.ofList token)) := by
  rw [readWeight]
  split
  next value hvalue =>
    obtain ⟨hdigits, rfl⟩ := (natural?_eq_some_iff _ _).mp hvalue
    rw [if_neg]
    exact fun hlt => h ⟨hdigits, hlt⟩
  next => rfl

/-! ## Lines -/

theorem LootForm.read_text {form : LootForm} {raw : String}
    (h : form.text = Line.normalize raw) :
    Line.read raw = (readWeight form.token).map fun weight =>
      some (.lootEntry ⟨String.ofList form.name, weight⟩) := by
  have hloot := (lootText?_eq_some_iff (Line.normalize raw) _ _).mpr ⟨form, h, rfl, rfl⟩
  have hshape : Shape.lootEntry.read? (Line.normalize raw) =
      some ((readWeight form.token).map fun weight =>
        .lootEntry ⟨String.ofList form.name, weight⟩) := by
    rw [Shape.read?, hloot, Option.map_some]
  rw [Line.read_of_read? hshape]
  cases readWeight form.token with
  | _ => rfl

/-- Loot entries are read exactly. A line says a loot entry if and only if it has a reading with
that name whose token is digits for that weight. A line with a reading whose token is anything else
is refused with the token: a sign, a point, a letter, a digit of another script, or a number that
needs more than 32 bits. And no line has two readings. -/
theorem Line.read_loot_exact (raw : String) :
    (∀ prefab weight, Line.read raw = .ok (some (.lootEntry ⟨prefab, weight⟩)) ↔
      ∃ form : LootForm, form.text = Line.normalize raw ∧ String.ofList form.name = prefab ∧
        IsDigits form.token ∧ placeValue form.token = weight.toNat) ∧
    (∀ form : LootForm, form.text = Line.normalize raw → ¬ IsWeight form.token →
      Line.read raw = .error (.invalidNumber (String.ofList form.token))) ∧
    (∀ first second : LootForm, first.text = Line.normalize raw →
      second.text = Line.normalize raw → first = second) := by
  refine ⟨fun prefab weight => ⟨?_, ?_⟩, ?_, ?_⟩
  · intro h
    obtain ⟨⟨name, token⟩, hloot, hread⟩ :=
      Option.map_eq_some_iff.mp ((Line.read_eq_some_iff _ _).mp h)
    obtain ⟨found, hweight, hentry⟩ := bind_eq_ok_iff.mp hread
    obtain ⟨form, htext, rfl, rfl⟩ := (lootText?_eq_some_iff _ _ _).mp hloot
    cases hentry
    exact ⟨form, htext, rfl, (readWeight_eq_ok_iff _ _).mp hweight⟩
  · rintro ⟨form, htext, rfl, htoken⟩
    rw [form.read_text htext, (readWeight_eq_ok_iff _ _).mpr htoken]
    rfl
  · intro form htext hweight
    rw [form.read_text htext, readWeight_eq_error hweight]
    rfl
  · intro first second hfirst hsecond
    exact LootForm.text_inj (hfirst.trans hsecond.symm)

/-- The reading of a line whose separator holds the signs of numbers and of keys, with a weight that
is one too large for 32 bits. -/
def flareForm : LootForm where
  equals := ⟨oneBlank, oneBlank⟩
  name := ⟨"flare".toList, by decide, by rw [← List.all_eq_true]; decide⟩
  weight := ⟨⟨[' ', '=', '-', '.', ',', ' '], by decide,
      by
        simp only [List.mem_cons, List.not_mem_nil, or_false, forall_eq_or_imp, forall_eq]
        decide⟩,
    ⟨oneBlank, oneBlank⟩,
    "004294967296".toList, by decide, by rw [← List.all_eq_true]; decide⟩

theorem Line.read_loot_exact_flare :
    flareForm.text = Line.normalize "Item = Flare =-., w = 004294967296" ∧
      Line.read "Item = Flare =-., w = 004294967296" = .error (.invalidNumber "004294967296") := by
  have htext : flareForm.text = Line.normalize "Item = Flare =-., w = 004294967296" := by
    decide +kernel
  refine ⟨htext, (Line.read_loot_exact _).2.1 flareForm htext ?_⟩
  rintro ⟨-, hlt⟩
  exact absurd hlt (by decide)

end LootSpawn
