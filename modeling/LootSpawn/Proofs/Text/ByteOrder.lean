import Mathlib.Algebra.Group.Nat.Defs
import Mathlib.Tactic.SplitIfs

/-!
# The order of bytes

Texts are kept in UTF-8. A character takes a lead byte, which tells how many continuation bytes
follow, and each of these holds six bits of its code, the highest first. The order of texts by their
characters is therefore the order of their bytes.
-/

namespace LootSpawn.Text

/-- The bytes of a text. -/
def bytes (text : String) : List UInt8 := text.toUTF8.data.toList

/-- The number of bytes after the lead byte of a code. -/
def continuations (code : Nat) : Nat :=
  if code ≤ 127 then 0 else if code ≤ 2047 then 1 else if code ≤ 65535 then 2 else 3

/-- The lead byte of a code. -/
def leadByte (code : Nat) : Nat :=
  if code ≤ 127 then code
  else if code ≤ 2047 then code / 64 + 192
  else if code ≤ 65535 then code / 4096 + 224
  else code / 262144 + 240

/-- The last `count` bytes of a code. -/
def continuationBytes : Nat → Nat → List UInt8
  | 0, _ => []
  | count + 1, code => continuationBytes count (code / 64) ++ [UInt8.ofNat (code % 64 + 128)]

theorem bytes_eq_flatMap (text : String) :
    bytes text = text.toList.flatMap String.utf8EncodeChar := by
  rw [bytes, String.toUTF8_eq_toByteArray, ← String.utf8Encode_toList, List.utf8Encode,
    List.data_toByteArray]

theorem toNat_lt_of_char (c : Char) : c.toNat < 1114112 := by
  rcases c.valid with h | h
  · exact Nat.lt_trans h (by decide)
  · exact h.2

theorem utf8EncodeChar_eq (c : Char) :
    String.utf8EncodeChar c = UInt8.ofNat (leadByte c.toNat) ::
      continuationBytes (continuations c.toNat) c.toNat := by
  have hcode := toNat_lt_of_char c
  have hval : c.val.toNat = c.toNat := rfl
  unfold String.utf8EncodeChar leadByte continuations
  simp only [hval]
  split_ifs with hone htwo hthree
  · rfl
  · rw [Nat.mod_eq_of_lt (by omega)]
    rfl
  · rw [Nat.mod_eq_of_lt (show c.toNat / 4096 < 16 by omega)]
    simp [continuationBytes]
  · rw [Nat.mod_eq_of_lt (show c.toNat / 262144 < 8 by omega)]
    simp [continuationBytes, Nat.div_div_eq_div_mul]

theorem leadByte_lt {code : Nat} (h : code < 1114112) : leadByte code < 256 := by
  unfold leadByte
  split_ifs with hone htwo hthree
  · omega
  · omega
  · omega
  · omega

/-- The lead byte decides between two codes, or leaves it to equally many continuation bytes. -/
theorem leadByte_cases {first second : Nat} (hlt : first < second) :
    leadByte first < leadByte second ∨
      leadByte first = leadByte second ∧ continuations first = continuations second ∧
        first / 64 ^ continuations first = second / 64 ^ continuations first := by
  -- A code with more bytes has the greater lead byte; with as many, the high parts decide.
  unfold leadByte continuations
  split_ifs <;> omega

theorem ofNat_lt_ofNat {first second : Nat} (hlt : first < second) (hsecond : second < 256) :
    UInt8.ofNat first < UInt8.ofNat second := by
  rw [UInt8.lt_iff_toNat_lt, UInt8.toNat_ofNat_of_lt' hsecond,
    UInt8.toNat_ofNat_of_lt' (Nat.lt_trans hlt hsecond)]
  exact hlt

/-- Codes that agree above their last digits are ordered by these, whatever follows. -/
theorem continuationBytes_append_lt (count : Nat) {first second : Nat} (hlt : first < second)
    (hhigh : first / 64 ^ count = second / 64 ^ count) (rest rest' : List UInt8) :
    continuationBytes count first ++ rest < continuationBytes count second ++ rest' := by
  induction count generalizing first second rest rest' with
  | zero =>
      rw [Nat.pow_zero, Nat.div_one, Nat.div_one] at hhigh
      omega
  | succ count ih =>
      simp only [continuationBytes, List.append_assoc, List.singleton_append]
      by_cases heq : first / 64 = second / 64
      · rw [heq]
        apply List.append_left_lt
        rw [List.cons_lt_cons_iff]
        exact Or.inl (ofNat_lt_ofNat (by omega) (by omega))
      · apply ih
        · omega
        · rw [Nat.div_div_eq_div_mul, Nat.div_div_eq_div_mul, ← Nat.pow_succ']
          exact hhigh

theorem utf8EncodeChar_append_lt {first second : Char} (hlt : first < second)
    (rest rest' : List UInt8) :
    String.utf8EncodeChar first ++ rest < String.utf8EncodeChar second ++ rest' := by
  rw [utf8EncodeChar_eq, utf8EncodeChar_eq, List.cons_append, List.cons_append,
    List.cons_lt_cons_iff]
  have hcodes : first.toNat < second.toNat := hlt
  rcases leadByte_cases hcodes with hlead | ⟨hlead, hcount, hhigh⟩
  · exact Or.inl (ofNat_lt_ofNat hlead (leadByte_lt (toNat_lt_of_char second)))
  · right
    rw [← hcount, hlead]
    exact ⟨rfl, continuationBytes_append_lt _ hcodes hhigh rest rest'⟩

theorem flatMap_utf8EncodeChar_lt {first second : List Char} (hlt : first < second) :
    first.flatMap String.utf8EncodeChar < second.flatMap String.utf8EncodeChar := by
  induction first generalizing second with
  | nil =>
      cases second with
      | nil => exact absurd hlt (List.lt_irrefl [])
      | cons d second =>
          rw [List.flatMap_nil, List.flatMap_cons, utf8EncodeChar_eq]
          exact List.nil_lt_cons _ _
  | cons c first ih =>
      cases second with
      | nil => exact absurd hlt (List.not_lt_nil _)
      | cons d second =>
          rw [List.flatMap_cons, List.flatMap_cons]
          rcases List.cons_lt_cons_iff.mp hlt with hhead | ⟨rfl, htail⟩
          · exact utf8EncodeChar_append_lt hhead _ _
          · exact List.append_left_lt (ih htail)

/-- Texts are ordered as their bytes are. -/
theorem bytes_lt_bytes {first second : String} (hlt : first < second) :
    bytes first < bytes second := by
  rw [bytes_eq_flatMap, bytes_eq_flatMap]
  exact flatMap_utf8EncodeChar_lt (String.lt_iff.mp hlt)

end LootSpawn.Text
