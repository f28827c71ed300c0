import LootSpawn.Literal.Token
import LootSpawn.Proofs.Text.Runs

/-!
# Numerals are read back

Documents hold natural numbers in two places: weights are written with decimal digits, and the
codes of unseen characters with hexadecimal ones. The digits of a number are read as that number,
as long as nothing follows that could be taken for more digits.
-/

namespace LootSpawn.Literal

open Text

/-- What follows a value or a key in a document, if anything does: a comma or a colon. -/
def Ends (rest : List Char) : Prop := ∀ c ∈ rest.head?, c = ',' ∨ c = ':'

theorem ends_nil : Ends [] := by
  intro c hc
  cases hc

theorem ends_comma (rest : List Char) : Ends (',' :: rest) := by
  simp [Ends]

theorem ends_colon (rest : List Char) : Ends (':' :: rest) := by
  simp [Ends]

theorem Ends.stops {rest : List Char} (h : Ends rest) {p : Char → Bool} (hcomma : p ',' = false)
    (hcolon : p ':' = false) : Stops p rest := by
  intro c hc
  rcases h c hc with rfl | rfl
  · exact hcomma
  · exact hcolon

/-! ## Digits -/

/-- Induction on a number by its last digit, together with its digits. -/
theorem toDigits_induction {base : Nat} (hbase : 1 < base) {motive : Nat → List Char → Prop}
    (single : ∀ digit < base, motive digit [digit.digitChar])
    (concat : ∀ n, ∀ digit < base, motive n (Nat.toDigits base n) →
      motive (n * base + digit) (Nat.toDigits base n ++ [digit.digitChar]))
    (n : Nat) : motive n (Nat.toDigits base n) := by
  induction n using Nat.strongRecOn with
  | _ n ih =>
      by_cases hn : n < base
      · rw [Nat.toDigits_of_lt_base hn]
        exact single n hn
      · have hmore := ih (n / base) (Nat.div_lt_self (by omega) hbase)
        have hlast := concat (n / base) (n % base) (Nat.mod_lt n (by omega)) hmore
        rwa [Nat.div_add_mod', ← Nat.toDigits_of_base_le hbase (Nat.le_of_not_lt hn)] at hlast

/-- Every character of a numeral is a digit of its base. -/
theorem exists_digit_of_mem_toDigits {base n : Nat} (hbase : 1 < base) :
    ∀ c ∈ Nat.toDigits base n, ∃ digit < base, c = digit.digitChar := by
  refine toDigits_induction hbase (motive := fun _ cs =>
    ∀ c ∈ cs, ∃ digit < base, c = digit.digitChar) ?_ ?_ n
  · intro digit hdigit c hc
    exact ⟨digit, hdigit, List.mem_singleton.mp hc⟩
  · intro n digit hdigit ih c hc
    rcases List.mem_append.mp hc with hc | hc
    · exact ih c hc
    · exact ⟨digit, hdigit, List.mem_singleton.mp hc⟩

theorem hexValue?_digitChar : ∀ digit < 16,
    hexValue? digit.digitChar = some digit ∧ (digit.digitChar == '\x7d') = false ∧
      (digit.digitChar == '_') = false := by
  decide

theorem bracedCode?_digitChar {digit : Nat} (h : digit < 16) (room value : Nat)
    (rest : List Char) :
    bracedCode? (room + 1) value (digit.digitChar :: rest) =
      bracedCode? room (value * 16 + digit) rest := by
  obtain ⟨hvalue, hbrace, -⟩ := hexValue?_digitChar digit h
  rw [bracedCode?, hbrace, if_neg Bool.false_ne_true]
  exact hvalue

theorem bracedCode?_brace (room value : Nat) (rest : List Char) :
    bracedCode? room value ('\x7d' :: rest) = some (value, rest) := by
  unfold bracedCode?
  rw [if_pos BEq.rfl]

/-- The digits of a code are read as that code, if there is room for them. -/
theorem bracedCode?_toDigits (n : Nat) {room : Nat} (h : (Nat.toDigits 16 n).length ≤ room)
    (rest : List Char) :
    bracedCode? room 0 (Nat.toDigits 16 n ++ rest) =
      bracedCode? (room - (Nat.toDigits 16 n).length) n rest := by
  refine toDigits_induction (by decide) (motive := fun n cs => cs.length ≤ room → ∀ rest,
    bracedCode? room 0 (cs ++ rest) = bracedCode? (room - cs.length) n rest) ?_ ?_ n h rest
  · intro digit hdigit h rest
    obtain ⟨room, rfl⟩ := Nat.exists_eq_add_of_le' h
    rw [List.singleton_append, List.length_singleton, bracedCode?_digitChar hdigit, Nat.zero_mul,
      Nat.zero_add, Nat.add_sub_cancel]
  · intro n digit hdigit ih h rest
    rw [List.length_append, List.length_singleton] at h ⊢
    obtain ⟨left, hleft⟩ : ∃ left, room - (Nat.toDigits 16 n).length = left + 1 :=
      Nat.exists_eq_add_of_le' (by omega)
    rw [List.append_assoc, ih (by omega), hleft, List.singleton_append,
      bracedCode?_digitChar hdigit, Nat.sub_add_eq, hleft, Nat.add_sub_cancel]

theorem digitsValue?_digitChar {digit : Nat} (h : digit < 10) (value : Nat) (rest : List Char) :
    digitsValue? 10 value (digit.digitChar :: rest) =
      digitsValue? 10 (value * 10 + digit) rest := by
  obtain ⟨hvalue, -, hplain⟩ := hexValue?_digitChar digit (Nat.lt_trans h (by decide))
  rw [digitsValue?, hplain, if_neg Bool.false_ne_true, hvalue]
  exact if_pos h

/-- The digits of a number are read as that number. -/
theorem digitsValue?_toDigits (n : Nat) (rest : List Char) :
    digitsValue? 10 0 (Nat.toDigits 10 n ++ rest) = digitsValue? 10 n rest := by
  refine toDigits_induction (by decide) (motive := fun n cs => ∀ rest,
    digitsValue? 10 0 (cs ++ rest) = digitsValue? 10 n rest) ?_ ?_ n rest
  · intro digit hdigit rest
    rw [List.singleton_append, digitsValue?_digitChar hdigit, Nat.zero_mul, Nat.zero_add]
  · intro n digit hdigit ih rest
    rw [List.append_assoc, ih, List.singleton_append, digitsValue?_digitChar hdigit]

/-! ## Decimal numbers -/

theorem digitChar_parts : ∀ digit < 10, isIntegerPart digit.digitChar = true ∧
    isFloatPart digit.digitChar = true ∧
      digit.digitChar ∉ ['_', 'x', 'b', 'o', '+', '-'] := by
  decide

/-- A run of decimal digits. -/
def IsNumeral (cs : List Char) : Prop := cs ≠ [] ∧ ∀ c ∈ cs, ∃ digit < 10, c = digit.digitChar

theorem isNumeral_toDigits (n : Nat) : IsNumeral (Nat.toDigits 10 n) :=
  ⟨Nat.toDigits_ne_nil, exists_digit_of_mem_toDigits (by decide)⟩

namespace IsNumeral

variable {cs rest : List Char}

theorem parts (h : IsNumeral cs) {c : Char} (hc : c ∈ cs) : isIntegerPart c = true ∧
    isFloatPart c = true ∧ c ∉ ['_', 'x', 'b', 'o', '+', '-'] := by
  obtain ⟨digit, hdigit, rfl⟩ := h.2 c hc
  exact digitChar_parts digit hdigit

theorem baseAndDigits_eq (h : IsNumeral cs) : baseAndDigits cs = (10, cs) := by
  unfold baseAndDigits
  split
  next => exact absurd (h.parts (c := 'x') (by simp)).2.2 (by decide)
  next => exact absurd (h.parts (c := 'b') (by simp)).2.2 (by decide)
  next => exact absurd (h.parts (c := 'o') (by simp)).2.2 (by decide)
  next => rfl

theorem integerValue?_eq (h : IsNumeral cs) : integerValue? cs = digitsValue? 10 0 cs := by
  unfold integerValue?
  rw [h.baseAndDigits_eq]
  split
  next heq => exact absurd (congrArg Prod.snd heq) h.1
  next heq =>
    obtain ⟨-, rfl⟩ := Prod.mk.inj heq
    exact absurd (h.parts List.mem_cons_self).2.2 (by decide)
  next heq =>
    obtain ⟨rfl, rfl⟩ := Prod.mk.inj heq
    rfl

/-- No mark of another base comes second: neither in the numeral nor right after it. -/
theorem second_notMem (h : IsNumeral cs) (hrest : Ends rest) {first second : Char}
    {more : List Char} (hcs : cs ++ rest = first :: second :: more) :
    second ∉ ['x', 'b', 'o'] := by
  obtain ⟨digit, digits, rfl⟩ := List.exists_cons_of_ne_nil h.1
  have htail : digits ++ rest = second :: more := (List.cons.inj hcs).2
  cases digits with
  | nil =>
      rcases hrest second (by rw [← List.nil_append rest, htail]; rfl) with rfl | rfl
      · decide
      · decide
  | cons next digits =>
      obtain rfl : next = second := (List.cons.inj htail).1
      have hmarks := (h.parts (List.mem_cons_of_mem digit List.mem_cons_self)).2.2
      simp only [List.mem_cons, not_or] at hmarks ⊢
      exact ⟨hmarks.2.1, hmarks.2.2.1, hmarks.2.2.2.1, List.not_mem_nil⟩

theorem spanInteger_append (h : IsNumeral cs) (hrest : Ends rest) :
    spanInteger (cs ++ rest) = (cs, rest) := by
  unfold spanInteger
  split
  next heq => exact absurd (by decide) (h.second_notMem hrest heq)
  next heq => exact absurd (by decide) (h.second_notMem hrest heq)
  next heq => exact absurd (by decide) (h.second_notMem hrest heq)
  next => exact span_run (fun _ hc => (h.parts hc).1) (hrest.stops (by decide) (by decide))

/-- A numeral starts with a digit, and so with no sign. -/
theorem exists_cons (h : IsNumeral cs) (rest : List Char) :
    ∃ first more, cs ++ rest = first :: more ∧ first ≠ '+' ∧ first ≠ '-' := by
  obtain ⟨digit, digits, rfl⟩ := List.exists_cons_of_ne_nil h.1
  have hmarks := (h.parts List.mem_cons_self).2.2
  simp only [List.mem_cons, not_or] at hmarks
  exact ⟨digit, digits ++ rest, rfl, hmarks.2.2.2.2.1, hmarks.2.2.2.2.2.1⟩

theorem integer?_append (h : IsNumeral cs) (hrest : Ends rest) {value : Nat}
    (hvalue : integerValue? cs = some value) (hbound : value < UInt64.size) :
    integer? (cs ++ rest) = some (String.ofList cs, rest) := by
  obtain ⟨first, more, hcs, hplus, hminus⟩ := h.exists_cons rest
  have hspan := h.spanInteger_append hrest
  rw [hcs] at hspan ⊢
  simp [integer?, hplus, hminus, hspan, hvalue, hbound]

/-- A numeral is read up to its end, and kept as it is written. -/
theorem number?_append (h : IsNumeral cs) (hrest : Ends rest) {value : Nat}
    (hvalue : integerValue? cs = some value) (hbound : value < UInt64.size) :
    number? (cs ++ rest) = some (String.ofList cs, rest) := by
  have hinteger : (cs ++ rest).takeWhile isIntegerPart = cs :=
    takeWhile_run (fun _ hc => (h.parts hc).1) (hrest.stops (by decide) (by decide))
  have hfloat : (cs ++ rest).takeWhile isFloatPart = cs :=
    takeWhile_run (fun _ hc => (h.parts hc).2.1) (hrest.stops (by decide) (by decide))
  have hread := h.integer?_append hrest hvalue hbound
  obtain ⟨first, more, hcs, hplus, hminus⟩ := h.exists_cons rest
  rw [hcs] at hinteger hfloat hread ⊢
  simp [number?, hplus, hminus, hinteger, hfloat, hread]

end IsNumeral

/-- The digits of a number are its value. -/
theorem integerValue?_toDigits (n : Nat) : integerValue? (Nat.toDigits 10 n) = some n := by
  have hdigits := digitsValue?_toDigits n []
  rw [List.append_nil] at hdigits
  rw [(isNumeral_toDigits n).integerValue?_eq, hdigits]
  rfl

theorem number?_toDigits {n : Nat} (hbound : n < UInt64.size) {rest : List Char}
    (hrest : Ends rest) : number? (Nat.toDigits 10 n ++ rest) = some (toString n, rest) := by
  rw [Nat.toString_eq_ofList_toDigits]
  exact (isNumeral_toDigits n).number?_append hrest (integerValue?_toDigits n) hbound

end LootSpawn.Literal
