import LootSpawn.Proofs.Text.Runs

/-!
# Plain decimals

A plain decimal is an optional minus, digits, and optionally a point with more digits. Reading
accepts these texts and no others, and where such a text ends is determined by what follows it.
-/

namespace LootSpawn.Number

open Text

/-- One or more digits. -/
def IsDigits (cs : List Char) : Prop := cs ≠ [] ∧ ∀ c ∈ cs, isDigit c = true

instance (cs : List Char) : Decidable (IsDigits cs) :=
  decidable_of_iff (cs ≠ [] ∧ cs.all isDigit = true) (by rw [IsDigits, List.all_eq_true])

/-- A plain decimal taken apart. -/
structure DecimalForm where
  negative : Bool
  whole : List Char
  fraction : Option (List Char)
  isDigits_whole : IsDigits whole
  isDigits_fraction : ∀ digits ∈ fraction, IsDigits digits

namespace DecimalForm

def sign (form : DecimalForm) : List Char := if form.negative then ['-'] else []

/-- The point and the digits after it, if there are any. -/
def places (form : DecimalForm) : List Char :=
  match form.fraction with
  | none => []
  | some digits => '.' :: digits

def text (form : DecimalForm) : List Char := form.sign ++ (form.whole ++ form.places)

def decimal (form : DecimalForm) : Decimal :=
  Decimal.ofParts form.negative form.whole (form.fraction.getD []) 0

def number (form : DecimalForm) : Single := form.decimal.toSingle

theorem isDigit_of_eq_minus {c : Char} (h : (c == '-') = true) : isDigit c = false := by
  rw [beq_iff_eq.mp h]
  decide

theorem mem_sign {form : DecimalForm} {c : Char} (h : c ∈ form.sign) : c = '-' := by
  rw [sign] at h
  split at h
  · exact List.mem_singleton.mp h
  · cases h

theorem stops_whole (form : DecimalForm) (rest : List Char) :
    Stops (· == '-') (form.whole ++ rest) := by
  apply Stops.append_of_ne_nil rest form.isDigits_whole.1
  intro c hc
  exact eq_false_of_disjoint (fun _ => isDigit_of_eq_minus) c (form.isDigits_whole.2 c hc)

theorem stops_places (form : DecimalForm) {rest : List Char} (hrest : Stops isDigit rest) :
    Stops isDigit (form.places ++ rest) := by
  rw [places]
  split
  · exact hrest
  · exact stops_cons.mpr (by decide)

/-- Up to its first digit a decimal has no word character. -/
theorem exists_digit (form : DecimalForm) :
    ∃ front digit rest, form.text = front ++ digit :: rest ∧
      (∀ c ∈ front, isWord c = false) ∧ isDigit digit = true := by
  obtain ⟨hne, hdigits⟩ := form.isDigits_whole
  obtain ⟨digit, rest, hwhole⟩ := List.exists_cons_of_ne_nil hne
  refine ⟨form.sign, digit, rest ++ form.places, ?_, ?_, ?_⟩
  · rw [text, hwhole, List.cons_append]
  · intro c hc
    rw [mem_sign hc]
    decide
  · exact hdigits digit (hwhole ▸ List.mem_cons_self)

theorem isNumeric_of_mem_text {form : DecimalForm} {c : Char} (h : c ∈ form.text) :
    isNumeric c = true := by
  have hdigit : ∀ d, isDigit d = true → isNumeric d = true := fun d hd =>
    isNumeric_of_isWord (isWord_of_isDigit hd)
  rcases List.mem_append.mp h with h | h
  · rw [mem_sign h]
    decide
  rcases List.mem_append.mp h with h | h
  · exact hdigit c (form.isDigits_whole.2 c h)
  · rw [places] at h
    split at h
    next => cases h
    next digits hfraction =>
      rcases List.mem_cons.mp h with rfl | h
      · decide
      · exact hdigit c ((form.isDigits_fraction digits hfraction).2 c h)

theorem text_ne_nil (form : DecimalForm) : form.text ≠ [] := by
  obtain ⟨front, digit, rest, htext, -, -⟩ := form.exists_digit
  rw [htext]
  exact List.append_ne_nil_of_right_ne_nil front (List.cons_ne_nil digit rest)

theorem isBlank_of_mem_text {form : DecimalForm} {c : Char} (h : c ∈ form.text) :
    isBlank c = false := isBlank_of_isNumeric (isNumeric_of_mem_text h)

theorem stops_isBlank (form : DecimalForm) (rest : List Char) :
    Stops isBlank (form.text ++ rest) :=
  Stops.append_of_ne_nil rest form.text_ne_nil fun _ hc => isBlank_of_mem_text hc

/-- What follows does not continue a decimal: neither a digit nor a point before a digit. -/
def Ends (rest : List Char) : Prop :=
  Stops isDigit rest ∧ ∀ digits, rest = '.' :: digits → Stops isDigit digits

theorem ends_nil : Ends [] := ⟨stops_nil, nofun⟩

/-- A text begins with one decimal only, if what follows does not continue it. -/
theorem text_append_inj {first second : DecimalForm} {rest rest' : List Char} (hrest : Ends rest)
    (hrest' : Ends rest') (h : first.text ++ rest = second.text ++ rest') :
    first = second ∧ rest = rest' := by
  have hsign : ∀ form : DecimalForm, ∀ c ∈ form.sign, (c == '-') = true := fun form c hc =>
    beq_iff_eq.mpr (mem_sign hc)
  rw [text, text, List.append_assoc, List.append_assoc, List.append_assoc, List.append_assoc] at h
  obtain ⟨hnegative, h⟩ := run_append_inj (hsign first) (stops_whole first _) (hsign second)
    (stops_whole second _) h
  obtain ⟨hwhole, h⟩ := run_append_inj first.isDigits_whole.2 (first.stops_places hrest.1)
    second.isDigits_whole.2 (second.stops_places hrest'.1) h
  obtain ⟨negative, whole, fraction, _, hfraction⟩ := first
  obtain ⟨negative', whole', fraction', _, hfraction'⟩ := second
  obtain rfl : negative = negative' := by
    cases negative with
    | _ => cases negative' with
      | _ => first | rfl | cases hnegative
  obtain rfl : whole = whole' := hwhole
  -- A point and a digit after the shorter of two decimals would continue it.
  cases fraction with
  | none =>
      cases fraction' with
      | none => exact ⟨rfl, h⟩
      | some digits =>
          obtain ⟨hne, hdigits⟩ := hfraction' digits rfl
          obtain ⟨digit, more, rfl⟩ := List.exists_cons_of_ne_nil hne
          have hstop := stops_cons.mp (hrest.2 _ h)
          rw [hdigits digit List.mem_cons_self] at hstop
          cases hstop
  | some digits =>
      cases fraction' with
      | none =>
          obtain ⟨hne, hdigits⟩ := hfraction digits rfl
          obtain ⟨digit, more, rfl⟩ := List.exists_cons_of_ne_nil hne
          have hstop := stops_cons.mp (hrest'.2 _ h.symm)
          rw [hdigits digit List.mem_cons_self] at hstop
          cases hstop
      | some digits' =>
          obtain ⟨rfl, hrest⟩ := run_append_inj (hfraction digits rfl).2 hrest.1
            (hfraction' digits' rfl).2 hrest'.1 (List.cons.inj h).2
          exact ⟨rfl, hrest⟩

end DecimalForm

namespace Decimal

theorem minus_text (form : DecimalForm) :
    minus form.text = (form.negative, form.whole ++ form.places) := by
  obtain ⟨digit, rest, hwhole⟩ := List.exists_cons_of_ne_nil form.isDigits_whole.1
  have hstops := form.stops_whole form.places
  rw [hwhole, List.cons_append, stops_cons] at hstops
  rw [DecimalForm.text, DecimalForm.sign, hwhole]
  cases form.negative with
  | true => rfl
  | false => simp [minus, hstops]

theorem plain?_text (form : DecimalForm) : plain? form.text = some form.decimal := by
  have hspan : (form.whole ++ form.places).span isDigit = (form.whole, form.places) := by
    have hstops := form.stops_places stops_nil
    rw [List.append_nil] at hstops
    exact span_run form.isDigits_whole.2 hstops
  have hne : form.whole.isEmpty = false := List.isEmpty_eq_false_iff.mpr form.isDigits_whole.1
  rw [plain?, minus_text]
  simp only [hspan, hne, Bool.false_eq_true, if_false]
  cases hfraction : form.fraction with
  | none => simp only [DecimalForm.places, DecimalForm.decimal, hfraction, Option.getD_none]
  | some digits =>
      obtain ⟨hdigits, hall⟩ := form.isDigits_fraction digits hfraction
      simp only [DecimalForm.places, DecimalForm.decimal, hfraction, Option.getD_some, BEq.rfl,
        List.isEmpty_eq_false_iff.mpr hdigits, List.all_eq_true.mpr hall, Bool.not_false,
        Bool.and_true, if_true]

theorem eq_minus_append (cs : List Char) :
    cs = (if (minus cs).1 then ['-'] else []) ++ (minus cs).2 := by
  cases cs with
  | nil => rfl
  | cons c cs =>
      rw [minus]
      split
      next h => rw [beq_iff_eq.mp h]; rfl
      next => rfl

/-- What is read as a plain decimal is one. -/
theorem exists_form_of_plain? {cs : List Char} {decimal : Decimal}
    (h : plain? cs = some decimal) :
    ∃ form : DecimalForm, form.text = cs ∧ form.decimal = decimal := by
  have hcs := eq_minus_append cs
  rw [plain?] at h
  generalize minus cs = split at h hcs
  obtain ⟨negative, body⟩ := split
  have hbody := eq_run_append isDigit body
  have hdigits : ∀ c ∈ body.takeWhile isDigit, isDigit c = true := fun c hc => mem_takeWhile hc
  simp only [List.span_eq_takeWhile_dropWhile] at h
  generalize body.takeWhile isDigit = whole at h hbody hdigits
  generalize body.dropWhile isDigit = rest at h hbody
  subst hcs hbody
  split at h
  next => cases h
  next hempty =>
    have hwhole : IsDigits whole := ⟨fun hnil => hempty (hnil ▸ rfl), hdigits⟩
    split at h
    next =>
      cases h
      exact ⟨⟨negative, whole, none, hwhole, nofun⟩, rfl, rfl⟩
    next c places =>
      split at h
      next hplaces =>
        cases h
        simp only [Bool.and_eq_true, beq_iff_eq, Bool.not_eq_true', List.isEmpty_eq_false_iff,
          List.all_eq_true] at hplaces
        obtain ⟨⟨rfl, hne⟩, hall⟩ := hplaces
        refine ⟨⟨negative, whole, some places, hwhole, ?_⟩, rfl, rfl⟩
        rintro _ ⟨⟩
        exact ⟨hne, hall⟩
      next => cases h

end Decimal

end LootSpawn.Number
