import LootSpawn.Proofs.Literal.Numeral
import LootSpawn.Proofs.Text.ByteOrder
import LootSpawn.Text.Quoted

/-!
# Quoted texts are read back

Between quotation marks a character is written as itself or as an escape, and an escape is read as
the character that it was written for. Nothing that is written for a character ends the text, so
the first quotation mark that stands on its own is the closing one.
-/

namespace LootSpawn.Literal

open Text

/-! ## Characters -/

/-- A character is read from the digits of its code. -/
theorem escape?_hexDigits (c : Char) (rest : List Char) :
    escape? ('u' :: '\x7b' :: (hexDigits c.toNat ++ '\x7d' :: rest)) = some (c, rest) := by
  have hlength : (hexDigits c.toNat).length ≤ 6 :=
    (Nat.length_toDigits_le_iff (by decide) (by decide)).mpr
      (Nat.lt_trans (toNat_lt_of_char c) (by decide))
  have hcode := bracedCode?_toDigits c.toNat hlength ('\x7d' :: rest)
  rw [← hexDigits, bracedCode?_brace] at hcode
  -- The first digit is read by itself, as there has to be one.
  obtain ⟨first, digits, hdigits⟩ := List.exists_cons_of_ne_nil
    (show hexDigits c.toNat ≠ [] from Nat.toDigits_ne_nil)
  obtain ⟨digit, hdigit, rfl⟩ : ∃ digit < 16, first = digit.digitChar :=
    exists_digit_of_mem_toDigits (by decide) _ (hdigits ▸ List.mem_cons_self)
  rw [hdigits, List.cons_append, bracedCode?_digitChar hdigit, Nat.zero_mul, Nat.zero_add] at hcode
  have hvalid : c.toNat.isValidChar := c.valid
  rw [hdigits, List.cons_append, escape?]
  simp only [(hexValue?_digitChar digit hdigit).1, hcode, hvalid, if_true, Char.ofNat_toNat]

/-- A character is written as itself, and then it ends no text and starts no escape, or as an
escape that is read as the character. -/
theorem quoteChar_cases (c : Char) :
    (quoteChar c = [c] ∧ c ≠ '"' ∧ c ≠ '\\') ∨
      ∃ escape, quoteChar c = '\\' :: escape ∧
        ∀ rest, escape? (escape ++ rest) = some (c, rest) := by
  by_cases hmark : c ∈ ['\x00', '\t', '\r', '\n', '\\', '"', '\x27']
  · right
    simp only [List.mem_cons, List.not_mem_nil, or_false] at hmark
    rcases hmark with rfl | rfl | rfl | rfl | rfl | rfl | rfl
    all_goals exact ⟨[_], rfl, fun rest => rfl⟩
  · simp only [List.mem_cons, List.not_mem_nil, or_false, not_or] at hmark
    obtain ⟨hnull, htab, hreturn, hfeed, hslash, hquote, happly⟩ := hmark
    by_cases hescaped : isEscaped c = true
    · right
      refine ⟨'u' :: '\x7b' :: (hexDigits c.toNat ++ ['\x7d']), ?_, fun rest => ?_⟩
      · simp [quoteChar, *]
      · simpa using escape?_hexDigits c rest
    · left
      simp [quoteChar, *]

/-! ## Texts -/

theorem quoteChar_ne_nil (c : Char) : quoteChar c ≠ [] := by
  rcases quoteChar_cases c with ⟨hself, -⟩ | ⟨escape, hescape, -⟩
  · rw [hself]
    exact List.cons_ne_nil c []
  · rw [hescape]
    exact List.cons_ne_nil _ escape

/-- One more character in front is read before the others. -/
theorem quotedFrom?_quoteChar (fuel : Nat) (c : Char) (cs : List Char) :
    quotedFrom? (fuel + 1) (quoteChar c ++ cs) =
      (quotedFrom? fuel cs).map fun (more, rest) => (c :: more, rest) := by
  rcases quoteChar_cases c with ⟨hself, hquote, hslash⟩ | ⟨escape, hescape, hread⟩
  · rw [hself, List.singleton_append, quotedFrom?, if_neg (by simpa using hquote),
      if_neg (by simpa using hslash)]
    cases quotedFrom? fuel cs <;> rfl
  · rw [hescape, List.cons_append, quotedFrom?, if_neg (by decide), if_pos BEq.rfl, hread cs,
      Option.bind_eq_bind, Option.bind_some]
    dsimp only
    cases quotedFrom? fuel cs <;> rfl

/-- The characters of a text are read up to its closing quotation mark. -/
theorem quotedFrom?_flatMap (cs rest : List Char) {fuel : Nat} (h : cs.length < fuel) :
    quotedFrom? fuel (cs.flatMap quoteChar ++ '"' :: rest) = some (cs, rest) := by
  induction cs generalizing fuel with
  | nil =>
      obtain ⟨fuel, rfl⟩ := Nat.exists_eq_add_of_lt h
      rw [List.flatMap_nil, List.nil_append, quotedFrom?, if_pos BEq.rfl]
  | cons c cs ih =>
      obtain ⟨fuel, rfl⟩ := Nat.exists_eq_succ_of_ne_zero (Nat.ne_zero_of_lt h)
      rw [List.flatMap_cons, List.append_assoc, quotedFrom?_quoteChar,
        ih (Nat.lt_of_succ_lt_succ h), Option.map_some]

theorem length_le_length_flatMap_quoteChar (cs : List Char) :
    cs.length ≤ (cs.flatMap quoteChar).length := by
  induction cs with
  | nil => exact Nat.le_refl 0
  | cons c cs ih =>
      have hpos := List.length_pos_iff.mpr (quoteChar_ne_nil c)
      rw [List.flatMap_cons, List.length_append, List.length_cons]
      omega

/-- A quoted text is read as the text, whatever follows it. -/
theorem text?_quote (cs rest : List Char) :
    text? (quote cs ++ rest) = some (String.ofList cs, rest) := by
  have hlength : cs.length < (cs.flatMap quoteChar ++ '"' :: rest).length + 1 := by
    have hle := length_le_length_flatMap_quoteChar cs
    rw [List.length_append]
    omega
  rw [quote, List.cons_append, List.cons_append, List.append_assoc, List.singleton_append, text?,
    quotedFrom?_flatMap cs rest hlength, Option.map_some]

end LootSpawn.Literal
