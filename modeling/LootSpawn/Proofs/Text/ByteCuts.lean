import LootSpawn.Proofs.Text.AsciiSpelling
import LootSpawn.Proofs.Text.ByteOrder

/-!
# Cuts between bytes

A text may be cut at an offset in bytes, where a character starts or the text ends. Anywhere else
the cut is refused, so a cut that is made is one between characters. ASCII letters are single bytes
that are no part of any other character, so folding them is the same for bytes and for characters.
-/

namespace LootSpawn.Text

/-- The byte is one of those that follow a lead byte. -/
def isContinuation (byte : UInt8) : Bool := 0x80 ≤ byte && byte < 0xC0

/-- A character starts at the offset, or the text ends there. -/
def isBoundary (bytes : List UInt8) (offset : Nat) : Bool :=
  if offset = 0 then true
  else match bytes[offset]? with
    | some byte => !isContinuation byte
    | none => offset == bytes.length

/-- The text up to an offset. -/
def upTo? (bytes : List UInt8) (offset : Nat) : Option (List UInt8) :=
  if isBoundary bytes offset then some (bytes.take offset) else none

/-- The text from an offset on. -/
def from? (bytes : List UInt8) (offset : Nat) : Option (List UInt8) :=
  if isBoundary bytes offset then some (bytes.drop offset) else none

/-- The small letter of a byte that is a capital of ASCII; any other byte stays as it is. -/
def lowerByte (byte : UInt8) : UInt8 :=
  if 0x41 ≤ byte && byte ≤ 0x5A then byte + 0x20 else byte

/-- Equal once the bytes of ASCII letters are in lower case. -/
def sameAsciiCaseBytes (first second : List UInt8) : Bool :=
  first.map lowerByte == second.map lowerByte

/-- The bytes of characters. -/
def encode (text : List Char) : List UInt8 := text.flatMap String.utf8EncodeChar

theorem bytes_eq_encode (text : String) : bytes text = encode text.toList := bytes_eq_flatMap text

theorem encode_append (first second : List Char) :
    encode (first ++ second) = encode first ++ encode second := List.flatMap_append

theorem encode_injective {first second : List Char} (h : encode first = encode second) :
    first = second := by
  have harrays : (String.ofList first).toByteArray = (String.ofList second).toByteArray := by
    rw [String.toByteArray_ofList, String.toByteArray_ofList, List.utf8Encode, List.utf8Encode]
    exact congrArg List.toByteArray h
  exact String.ofList_inj.mp (String.toByteArray_inj.mp harrays)

/-! ## Lead and continuation bytes -/

theorem isContinuation_of_mem {count code : Nat} {byte : UInt8}
    (h : byte ∈ continuationBytes count code) : isContinuation byte = true := by
  induction count generalizing code with
  | zero => cases h
  | succ count ih =>
      rw [continuationBytes, List.mem_append, List.mem_singleton] at h
      rcases h with h | rfl
      · exact ih h
      · have hlt : code % 64 + 128 < 192 := Nat.add_lt_add_right (Nat.mod_lt code (by decide)) 128
        have hbyte : (UInt8.ofNat (code % 64 + 128)).toNat = code % 64 + 128 :=
          UInt8.toNat_ofNat_of_lt' (hlt.trans (by decide))
        simp only [isContinuation, Bool.and_eq_true, decide_eq_true_eq, UInt8.le_iff_toNat_le,
          UInt8.lt_iff_toNat_lt, hbyte]
        exact ⟨Nat.le_add_left 128 _, hlt⟩

theorem leadByte_ranges {code : Nat} (h : code < 1114112) :
    code < 128 ∧ leadByte code = code ∨ 128 ≤ code ∧ 192 ≤ leadByte code := by
  unfold leadByte
  split_ifs with hone htwo hthree
  all_goals omega

theorem toNat_leadByte (c : Char) :
    (UInt8.ofNat (leadByte c.toNat)).toNat = leadByte c.toNat :=
  UInt8.toNat_ofNat_of_lt' (leadByte_lt (toNat_lt_of_char c))

theorem not_isContinuation_leadByte (c : Char) :
    isContinuation (UInt8.ofNat (leadByte c.toNat)) = false := by
  have hranges := leadByte_ranges (toNat_lt_of_char c)
  simp only [isContinuation, Bool.and_eq_false_iff, decide_eq_false_iff_not,
    UInt8.le_iff_toNat_le, UInt8.lt_iff_toNat_lt, toNat_leadByte, UInt8.reduceToNat]
  omega

/-! ## Boundaries -/

theorem isBoundary_length_append {first second : List UInt8}
    (h : ∀ byte ∈ second.head?, isContinuation byte = false) :
    isBoundary (first ++ second) first.length = true := by
  rw [isBoundary]
  split
  next => rfl
  next =>
    rw [List.getElem?_append_right (Nat.le_refl _), Nat.sub_self, ← List.head?_eq_getElem?]
    cases second with
    | nil => simp
    | cons byte second => simpa using h byte rfl

theorem head?_encode (text : List Char) :
    ∀ byte ∈ (encode text).head?, isContinuation byte = false := by
  cases text with
  | nil => exact fun _ h => nomatch h
  | cons c text =>
      rw [encode, List.flatMap_cons, utf8EncodeChar_eq]
      rintro _ ⟨⟩
      exact not_isContinuation_leadByte c

/-- Behind a character, offsets are counted from its end. -/
theorem isBoundary_append {first second : List UInt8} {offset : Nat} (hne : offset ≠ 0) :
    isBoundary (first ++ second) (first.length + offset) = isBoundary second offset := by
  rw [isBoundary, isBoundary, if_neg hne, if_neg (by omega),
    List.getElem?_append_right (Nat.le_add_right _ _), Nat.add_sub_cancel_left, List.length_append]
  cases second[offset]? with
  | some byte => rfl
  | none => simp [Nat.add_left_cancel_iff]

/-- No character starts inside another one. -/
theorem le_of_isBoundary {c : Char} {rest : List UInt8} {offset : Nat} (hne : offset ≠ 0)
    (h : isBoundary (String.utf8EncodeChar c ++ rest) offset = true) :
    (String.utf8EncodeChar c).length ≤ offset := by
  by_contra hlt
  rw [not_le] at hlt
  obtain ⟨before, rfl⟩ := Nat.exists_eq_succ_of_ne_zero hne
  rw [isBoundary, if_neg hne, List.getElem?_append_left hlt] at h
  rw [utf8EncodeChar_eq, List.length_cons, Nat.succ_lt_succ_iff] at hlt
  rw [utf8EncodeChar_eq, List.getElem?_cons_succ, List.getElem?_eq_getElem hlt] at h
  simp [isContinuation_of_mem (List.getElem_mem hlt)] at h

/-- The boundaries of a text are the ends of its beginnings. -/
theorem isBoundary_encode_iff {text : List Char} {offset : Nat} :
    isBoundary (encode text) offset = true ↔
      ∃ start rest, text = start ++ rest ∧ (encode start).length = offset := by
  constructor
  · intro h
    induction text generalizing offset with
    | nil =>
        have hzero : offset = 0 := by simpa [isBoundary, encode] using h
        exact ⟨[], [], rfl, hzero.symm⟩
    | cons c text ih =>
        by_cases hzero : offset = 0
        · exact ⟨[], c :: text, rfl, hzero.symm⟩
        · rw [encode, List.flatMap_cons] at h
          obtain ⟨more, rfl⟩ := Nat.exists_eq_add_of_le (le_of_isBoundary hzero h)
          by_cases hmore : more = 0
          · refine ⟨[c], text, rfl, ?_⟩
            simp [encode, hmore]
          · rw [isBoundary_append hmore] at h
            obtain ⟨start, rest, rfl, rfl⟩ := ih h
            exact ⟨c :: start, rest, rfl, by simp [encode]⟩
  · rintro ⟨start, rest, rfl, rfl⟩
    rw [encode_append]
    exact isBoundary_length_append (head?_encode rest)

theorem upTo?_encode_eq_some_iff {text : List Char} {offset : Nat} {head : List UInt8} :
    upTo? (encode text) offset = some head ↔
      ∃ start rest, text = start ++ rest ∧ (encode start).length = offset ∧
        encode start = head := by
  rw [upTo?, Option.ite_none_right_eq_some, isBoundary_encode_iff, Option.some_inj]
  constructor
  · rintro ⟨⟨start, rest, rfl, rfl⟩, hhead⟩
    rw [encode_append, List.take_left] at hhead
    exact ⟨start, rest, rfl, rfl, hhead⟩
  · rintro ⟨start, rest, rfl, rfl, rfl⟩
    rw [encode_append, List.take_left]
    exact ⟨⟨start, rest, rfl, rfl⟩, rfl⟩

theorem from?_encode_append (start rest : List Char) :
    from? (encode (start ++ rest)) (encode start).length = some (encode rest) := by
  have hboundary : isBoundary (encode (start ++ rest)) (encode start).length = true :=
    isBoundary_encode_iff.mpr ⟨start, rest, rfl, rfl⟩
  rw [from?, if_pos hboundary, encode_append, List.drop_left]

/-! ## ASCII letters -/

theorem utf8EncodeChar_toLower_ascii : ∀ code < 0x80,
    String.utf8EncodeChar (Char.ofNat code).toLower =
      (String.utf8EncodeChar (Char.ofNat code)).map lowerByte := by
  decide

theorem lowerByte_of_le {byte : UInt8} (h : 128 ≤ byte.toNat) : lowerByte byte = byte := by
  rw [lowerByte, if_neg]
  simp only [Bool.and_eq_true, decide_eq_true_eq, UInt8.le_iff_toNat_le, UInt8.reduceToNat]
  omega

theorem encode_map_toLower (text : List Char) :
    encode (text.map Char.toLower) = (encode text).map lowerByte := by
  have hchar : ∀ c, String.utf8EncodeChar c.toLower = (String.utf8EncodeChar c).map lowerByte := by
    intro c
    by_cases hascii : c.toNat < 0x80
    · rw [← Char.ofNat_toNat c]
      exact utf8EncodeChar_toLower_ascii c.toNat hascii
    · have hbytes : ∀ byte ∈ String.utf8EncodeChar c, lowerByte byte = id byte := by
        rw [utf8EncodeChar_eq, List.forall_mem_cons]
        constructor
        · have hranges := leadByte_ranges (toNat_lt_of_char c)
          apply lowerByte_of_le
          rw [toNat_leadByte]
          omega
        · intro byte hbyte
          have hcontinuation := isContinuation_of_mem hbyte
          rw [isContinuation, Bool.and_eq_true, decide_eq_true_eq, UInt8.le_iff_toNat_le]
            at hcontinuation
          exact lowerByte_of_le hcontinuation.1
      rw [toLower_of_not_ascii hascii, List.map_congr_left hbytes, List.map_id]
  simp only [encode, List.flatMap_map, List.map_flatMap, hchar]

/-- Bytes and characters agree on what is equal up to ASCII case. -/
theorem sameAsciiCaseBytes_encode (first second : List Char) :
    sameAsciiCaseBytes (encode first) (encode second) = sameAsciiCase first second := by
  rw [Bool.eq_iff_iff, sameAsciiCase_iff, sameAsciiCaseBytes, beq_iff_eq, ← encode_map_toLower,
    ← encode_map_toLower]
  exact ⟨encode_injective, congrArg encode⟩

theorem length_encode_of_sameAsciiCase {first second : List Char}
    (h : sameAsciiCase first second = true) : (encode first).length = (encode second).length := by
  rw [← sameAsciiCaseBytes_encode, sameAsciiCaseBytes, beq_iff_eq] at h
  simpa using congrArg List.length h

end LootSpawn.Text
