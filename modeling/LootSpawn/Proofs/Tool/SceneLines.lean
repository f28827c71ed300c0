import LootSpawn.Proofs.Literal.Numeral
import LootSpawn.Proofs.Number.Positional
import LootSpawn.Tool.Preview

/-!
# Scene lines of the preview shell

A line asks for runs of a scene with the name of the scene and a numeral. It is read as the command
that it spells out as long as the number has 64 bits. With a greater number, as with no number at
all, it asks for a single run.
-/

namespace LootSpawn.Tool.Preview

open Number Text

/-! ## Words -/

/-- The text is a single word. -/
structure IsShellWord (text : String) : Prop where
  ne_nil : text.toList ≠ []
  plain : ∀ c ∈ text.toList, isBlank c = false

theorem isShellWord_iff (text : String) : IsShellWord text ↔
    (!text.toList.isEmpty && text.toList.all fun c => !isBlank c) = true := by
  simp only [Bool.and_eq_true, Bool.not_eq_true', List.isEmpty_eq_false_iff, List.all_eq_true]
  exact ⟨fun h => ⟨h.ne_nil, h.plain⟩, fun h => ⟨h.1, h.2⟩⟩

instance (text : String) : Decidable (IsShellWord text) :=
  decidable_of_iff _ (isShellWord_iff text).symm

theorem words_append {word : List Char} (hne : word ≠ []) (hword : ∀ c ∈ word, isBlank c = false)
    {rest : List Char} (hrest : ∀ c ∈ rest.head?, isBlank c = true) :
    words (word ++ rest) = word :: words rest := by
  induction word with
  | nil => exact absurd rfl hne
  | cons c word ih =>
      have hc := hword c List.mem_cons_self
      cases word with
      | nil =>
          cases rest with
          | nil => simp [words, hc]
          | cons blank rest => simp [words, hc, hrest blank rfl]
      | cons d word =>
          have hd := hword d (List.mem_cons_of_mem c List.mem_cons_self)
          have hmore := ih (List.cons_ne_nil d word) fun e he => hword e (List.mem_cons_of_mem c he)
          rw [List.cons_append] at hmore
          rw [List.cons_append, List.cons_append, words.eq_def]
          simp only [hc, hd, hmore, Bool.false_eq_true, if_false]

theorem words_space (rest : List Char) : words (' ' :: rest) = words rest := by
  rw [words.eq_def]
  exact if_pos (by decide)

/-! ## Numerals -/

theorem digitChar_values : ∀ digit < 10, digitValue digit.digitChar = digit ∧
    isDigit digit.digitChar = true ∧ isBlank digit.digitChar = false ∧ digit.digitChar ≠ '+' := by
  decide

theorem placeValue_toDigits (n : Nat) : placeValue (Nat.toDigits 10 n) = n := by
  refine Literal.toDigits_induction (by decide) (motive := fun n cs => placeValue cs = n) ?_ ?_ n
  · intro digit hdigit
    rw [← List.nil_append [_], placeValue_concat, (digitChar_values digit hdigit).1]
    exact Nat.zero_add digit
  · intro n digit hdigit ih
    rw [placeValue_concat, ih, (digitChar_values digit hdigit).1]

theorem isShellWord_toString (n : Nat) : IsShellWord (toString n) := by
  rw [Nat.toString_eq_ofList_toDigits]
  constructor
  · rw [String.toList_ofList]
    exact Nat.toDigits_ne_nil
  · intro c hc
    rw [String.toList_ofList] at hc
    obtain ⟨digit, hdigit, rfl⟩ := Literal.exists_digit_of_mem_toDigits (by decide) c hc
    exact (digitChar_values digit hdigit).2.2.1

/-- A numeral is read as its number if that has 64 bits. -/
theorem word64?_toString (n : Nat) :
    word64? (toString n) = if n < UInt64.size then some (UInt64.ofNat n) else none := by
  have hdigit : ∀ c ∈ Nat.toDigits 10 n, ∃ digit < 10, c = digit.digitChar :=
    Literal.exists_digit_of_mem_toDigits (by decide)
  have hnatural : natural? (Nat.toDigits 10 n) = some n := by
    refine (natural?_eq_some_iff _ _).mpr ⟨⟨Nat.toDigits_ne_nil, fun c hc => ?_⟩,
      placeValue_toDigits n⟩
    obtain ⟨digit, hlt, rfl⟩ := hdigit c hc
    exact (digitChar_values digit hlt).2.1
  rw [word64?, Nat.toString_eq_ofList_toDigits, String.toList_ofList]
  split
  next rest heq =>
    obtain ⟨digit, hlt, hplus⟩ := hdigit '+' (heq ▸ List.mem_cons_self)
    exact absurd hplus.symm (digitChar_values digit hlt).2.2.2
  next => rw [hnatural, Option.bind_some]

/-! ## Lines -/

/-- The line that asks for runs of a scene. -/
def sceneLine (scene : String) (runs : Nat) : String := "scene " ++ scene ++ " " ++ toString runs

theorem words_sceneLine {scene : String} (h : IsShellWord scene) (runs : Nat) :
    (words (sceneLine scene runs).toList).map String.ofList = ["scene", scene, toString runs] := by
  have hcommand : IsShellWord "scene" := by decide
  have hruns := isShellWord_toString runs
  have hline : (sceneLine scene runs).toList =
      "scene".toList ++ ' ' :: (scene.toList ++ ' ' :: ((toString runs).toList ++ [])) := by
    simp [sceneLine]
  have hspace : ∀ rest : List Char, ∀ c ∈ (' ' :: rest).head?, isBlank c = true := by
    rintro rest _ ⟨⟩
    decide
  rw [hline, words_append hcommand.ne_nil hcommand.plain (hspace _), words_space,
    words_append h.ne_nil h.plain (hspace _), words_space,
    words_append hruns.ne_nil hruns.plain (by simp)]
  simp only [words, List.map_cons, List.map_nil, String.ofList_toList]

/-- The line is read as the scene and the number of runs, which is one if the number is not read. -/
theorem ofLine_sceneLine {scene : String} (h : IsShellWord scene) (runs : Nat) :
    Command.ofLine (sceneLine scene runs) =
      .scene scene (if runs < UInt64.size then max runs 1 else 1) := by
  have hcommand : lowerString "scene" = "scene" := by decide +kernel
  rw [Command.ofLine, words_sceneLine h, Command.ofWords, hcommand]
  simp only [List.head?_cons, runCount, Option.bind_some, word64?_toString]
  by_cases hruns : runs < UInt64.size
  · simp only [if_pos hruns, UInt64.toNat_ofNat_of_lt' hruns]
  · simp only [if_neg hruns]

end LootSpawn.Tool.Preview
