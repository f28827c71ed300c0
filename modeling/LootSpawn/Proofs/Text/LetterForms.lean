import LootSpawn.Proofs.Text.Runs
import LootSpawn.Proofs.Text.SettledCase

/-!
# What letters become

Every character of a text in lower case is the form of a character of the text. Blanks and the
byte-order mark are no forms of letters, so lower-casing neither makes nor removes them, and they
separate what stands on their two sides. The forms of word characters are word characters.
-/

namespace LootSpawn.Text

/-- The lower-case form of a character between the text before it, nearest character first, and the
text after it. -/
def formAt (before : List Char) (c : Char) (after : List Char) : List Char :=
  if c == 'Σ' then [lowerSigma before after] else lowerChar c

theorem lowerAfter_cons (before : List Char) (c : Char) (cs : List Char) :
    lowerAfter before (c :: cs) = formAt before c cs ++ lowerAfter (c :: before) cs := rfl

theorem formAt_of_isSettled {c : Char} (h : IsSettled c) (before after : List Char) :
    formAt before c after = [c] := by
  rw [formAt, if_neg (by simpa using h.1), h.2]

theorem lowerChar_ne_nil (c : Char) : lowerChar c ≠ [] := by
  rcases lowerChar_cases c with ⟨-, hlower⟩ | ⟨-, hlower⟩ | ⟨run, -, -, hlower⟩ | ⟨-, -, -, hlower⟩
  all_goals
    rw [hlower]
    exact List.cons_ne_nil _ _

theorem formAt_ne_nil (before : List Char) (c : Char) (after : List Char) :
    formAt before c after ≠ [] := by
  rw [formAt]
  split
  · exact List.cons_ne_nil _ _
  · exact lowerChar_ne_nil c

theorem lower_ne_nil {text : List Char} (h : text ≠ []) : lower text ≠ [] := by
  cases text with
  | nil => exact absurd rfl h
  | cons c cs => exact List.append_ne_nil_of_left_ne_nil (formAt_ne_nil [] c cs) _

/-- The second character occurs in the lower-case form of the first one, somewhere in a text. -/
inductive IsForm : Char → Char → Prop where
  | same (c : Char) : IsForm c c
  | ascii {c : Char} (hascii : c.toNat < 0x80) : IsForm c c.toLower
  | dotless : IsForm 'İ' 'i'
  | dot : IsForm 'İ' '\u0307'
  | finalSigma : IsForm 'Σ' 'ς'
  | innerSigma : IsForm 'Σ' 'σ'
  | letter {c d : Char} {run : CaseRun} (hrun : run ∈ caseRuns)
      (hcovers : run.covers c.toNat = true) (hform : d.toNat = run.image c.toNat) : IsForm c d

theorem isForm_of_mem_lowerChar {c d : Char} (h : d ∈ lowerChar c) : IsForm c d := by
  rcases lowerChar_cases c with ⟨hascii, hlower⟩ | ⟨rfl, hlower⟩ | ⟨run, hrun, hcovers, hlower⟩ |
    ⟨-, -, -, hlower⟩
  · rw [hlower] at h
    obtain rfl := List.mem_singleton.mp h
    exact .ascii hascii
  · rw [hlower, List.mem_cons, List.mem_singleton] at h
    rcases h with rfl | rfl
    · exact .dotless
    · exact .dot
  · rw [hlower] at h
    obtain rfl := List.mem_singleton.mp h
    exact .letter hrun hcovers (toNat_ofNat_image hrun hcovers)
  · rw [hlower] at h
    obtain rfl := List.mem_singleton.mp h
    exact .same d

theorem isForm_of_mem_formAt {before after : List Char} {c d : Char}
    (h : d ∈ formAt before c after) : IsForm c d := by
  rw [formAt] at h
  split at h
  next hsigma =>
    obtain rfl : c = 'Σ' := by simpa using hsigma
    rw [List.mem_singleton.mp h]
    rcases lowerSigma_cases before after with hform | hform
    · rw [hform]
      exact .finalSigma
    · rw [hform]
      exact .innerSigma
  next => exact isForm_of_mem_lowerChar h

theorem exists_isForm_of_mem_lowerAfter {before text : List Char} {d : Char}
    (h : d ∈ lowerAfter before text) : ∃ c ∈ text, IsForm c d := by
  induction text generalizing before with
  | nil => cases h
  | cons c text ih =>
      rcases List.mem_append.mp h with h | h
      · exact ⟨c, List.mem_cons_self, isForm_of_mem_formAt h⟩
      · obtain ⟨e, he, hform⟩ := ih h
        exact ⟨e, List.mem_cons_of_mem c he, hform⟩

/-! ## Dividers -/

/-- Blanks, and the byte-order mark that a text may start with. -/
def dividers : CodeRanges := (0xFEFF, 0xFEFF) :: blankRanges

theorem dividers_of_isBlank {c : Char} (h : isBlank c = true) :
    dividers.holds c.toNat = true := by
  rw [dividers, CodeRanges.holds, List.any_cons, Bool.or_eq_true]
  exact Or.inr h

set_option maxRecDepth 4000 in
theorem caseRuns_miss_dividers : ∀ run ∈ caseRuns, dividers.misses run.first run.last = true ∧
    dividers.misses run.target run.lastForm = true := by
  decide

theorem isSettled_of_divider_ascii :
    ∀ code < 0x80, dividers.holds code = true → IsSettled (Char.ofNat code) := by
  decide

theorem eq_of_divider_toLower_ascii : ∀ code < 0x80,
    dividers.holds (Char.ofNat code).toLower.toNat = true →
      Char.ofNat code = (Char.ofNat code).toLower := by
  decide

theorem isSettled_of_divider {c : Char} (h : dividers.holds c.toNat = true) : IsSettled c := by
  by_cases hascii : c.toNat < 0x80
  · rw [← Char.ofNat_toNat c]
    exact isSettled_of_divider_ascii c.toNat hascii h
  · apply isSettled_of_find?_eq_none hascii
    · rintro rfl
      exact absurd h (by decide)
    · rw [List.find?_eq_none]
      intro run hrun hcovers
      obtain ⟨hfirst, hlast, -⟩ := (run.covers_iff c.toNat).mp hcovers
      rw [CodeRanges.holds_of_misses (caseRuns_miss_dividers run hrun).1 hfirst hlast] at h
      cases h

/-- A divider is the form of no other character. -/
theorem eq_of_isForm_divider {c d : Char} (hd : dividers.holds d.toNat = true)
    (h : IsForm c d) : c = d := by
  cases h with
  | same => rfl
  | ascii hascii =>
      rw [← Char.ofNat_toNat c] at hd ⊢
      exact eq_of_divider_toLower_ascii c.toNat hascii hd
  | dotless => exact absurd hd (by decide)
  | dot => exact absurd hd (by decide)
  | finalSigma => exact absurd hd (by decide)
  | innerSigma => exact absurd hd (by decide)
  | @letter _ _ run hrun hcovers hform =>
      obtain ⟨hfirst, hlast, -⟩ := (run.covers_iff c.toNat).mp hcovers
      have hnone : dividers.holds d.toNat = false := by
        apply CodeRanges.holds_of_misses (caseRuns_miss_dividers run hrun).2
        · rw [hform, CaseRun.image]
          omega
        · rw [hform, CaseRun.image, CaseRun.lastForm]
          omega
      rw [hnone] at hd
      cases hd

/-- Lower-casing makes no divider. -/
theorem mem_of_mem_lowerAfter_divider {before text : List Char} {d : Char}
    (hd : dividers.holds d.toNat = true) (h : d ∈ lowerAfter before text) : d ∈ text := by
  obtain ⟨c, hc, hform⟩ := exists_isForm_of_mem_lowerAfter h
  exact eq_of_isForm_divider hd hform ▸ hc

theorem isBlank_of_mem_formAt {before after : List Char} {c d : Char} (hc : isBlank c = false)
    (h : d ∈ formAt before c after) : isBlank d = false := by
  by_contra hd
  rw [Bool.not_eq_false] at hd
  obtain rfl := eq_of_isForm_divider (dividers_of_isBlank hd) (isForm_of_mem_formAt h)
  rw [hd] at hc
  cases hc

/-! ## Blanks have no case -/

set_option maxRecDepth 4000 in
theorem blankRanges_apart_cased : blankRanges.Apart casedRanges := by
  decide

set_option maxRecDepth 4000 in
theorem blankRanges_apart_caseIgnorable : blankRanges.Apart caseIgnorableRanges := by
  decide

theorem caseless_of_isBlank_ascii : ∀ code < 0x80, blankRanges.holds code = true →
    isCased (Char.ofNat code) = false ∧ isCaseIgnorable (Char.ofNat code) = false := by
  decide

theorem caseless_of_isBlank {c : Char} (h : isBlank c = true) :
    isCased c = false ∧ isCaseIgnorable c = false := by
  by_cases hascii : c.toNat < 0x80
  · rw [← Char.ofNat_toNat c]
    exact caseless_of_isBlank_ascii c.toNat hascii h
  · rw [isCased, isCaseIgnorable, if_neg hascii, if_neg hascii]
    exact ⟨blankRanges_apart_cased.holds_eq_false h,
      blankRanges_apart_caseIgnorable.holds_eq_false h⟩

/-! ## Word characters -/

/-- One range holds all code points from the first to the last. The comparisons are those that the
kernel computes with. -/
def CodeRanges.within (ranges : CodeRanges) (first last : Nat) : Bool :=
  ranges.any fun range => Nat.ble last range.2 && Nat.ble range.1 first

theorem CodeRanges.within_iff (ranges : CodeRanges) (first last : Nat) :
    ranges.within first last = true ↔ ∃ range ∈ ranges, range.1 ≤ first ∧ last ≤ range.2 := by
  simp only [within, List.any_eq_true, Bool.and_eq_true, Nat.ble_eq, and_comm]

/-- The ranges of word characters that hold the forms of letters. -/
def formRanges : CodeRanges := [
  (0xD8, 0xF6), (0xF8, 0x2C1), (0x300, 0x374), (0x376, 0x377), (0x37A, 0x37D), (0x3A3, 0x3F5),
  (0x3F7, 0x481), (0x483, 0x52F), (0x560, 0x588), (0x10D0, 0x10FA), (0x10FC, 0x1248),
  (0x13F8, 0x13FD), (0x1C80, 0x1C8A), (0x1D00, 0x1F15), (0x1F20, 0x1F45), (0x1F50, 0x1F57),
  (0x1F5F, 0x1F7D), (0x1F80, 0x1FB4), (0x1FC2, 0x1FC4), (0x1FD0, 0x1FD3), (0x1FE0, 0x1FEC),
  (0x1FF2, 0x1FF4), (0x214E, 0x214E), (0x2160, 0x2188), (0x24B6, 0x24E9), (0x2C00, 0x2CE4),
  (0x2CEB, 0x2CF3), (0x2D00, 0x2D25), (0x2D27, 0x2D27), (0x2D2D, 0x2D2D), (0xA640, 0xA672),
  (0xA67F, 0xA6F1), (0xA722, 0xA788), (0xA78B, 0xA7CD), (0xA7F2, 0xA827), (0xAB30, 0xAB5A),
  (0xAB70, 0xABEA), (0xFF41, 0xFF5A), (0x10400, 0x1049D), (0x104D8, 0x104FB), (0x10597, 0x105A1),
  (0x105A3, 0x105B1), (0x105B3, 0x105B9), (0x105BB, 0x105BC), (0x10CC0, 0x10CF2),
  (0x10D6F, 0x10D85), (0x118A0, 0x118E9), (0x16E40, 0x16E7F), (0x1E900, 0x1E94B)]

set_option maxRecDepth 4000 in
theorem formRanges_sublist : formRanges.Sublist wordRanges := by
  decide

/-- The letters of the run that are word characters have forms that are, one by one. -/
def CaseRun.keepsWords (run : CaseRun) : Bool :=
  (List.range (run.last + 1 - run.first)).all fun place =>
    place % run.step != 0 || !wordRanges.within (run.first + place) (run.first + place) ||
      wordRanges.within (run.target + place) (run.target + place)

set_option maxRecDepth 4000 in
/-- Only one letter has an ASCII form in the table, and that is a k. -/
theorem caseRuns_ascii : ∀ run ∈ caseRuns, 0x80 ≤ run.first ∧
    (0x80 ≤ run.target ∨ run.first = run.last ∧ run.target = 'k'.toNat) := by
  decide

set_option maxRecDepth 4000 in
/-- A run leads to k or into one range of word characters, or none of its letters is one, or it
keeps each that is. -/
theorem caseRuns_words : ∀ run ∈ caseRuns, run.target = 'k'.toNat ∨
    formRanges.within run.target run.lastForm = true ∨
      wordRanges.misses run.first run.last = true ∨ run.keepsWords = true := by
  decide

theorem isWord_toLower_ascii :
    ∀ code < 0x80, isWord (Char.ofNat code) = true → isWord (Char.ofNat code).toLower = true := by
  decide

theorem isWord_sigma : isWord 'ς' = true ∧ isWord 'σ' = true := by
  decide

theorem isWord_of_isForm {c d : Char} (hc : isWord c = true) (h : IsForm c d) :
    isWord d = true := by
  cases h with
  | same => exact hc
  | ascii hascii =>
      rw [← Char.ofNat_toNat c] at hc ⊢
      exact isWord_toLower_ascii c.toNat hascii hc
  | dotless => decide
  | dot => decide
  | finalSigma => exact isWord_sigma.1
  | innerSigma => exact isWord_sigma.2
  | @letter _ _ run hrun hcovers hform =>
      obtain ⟨hfirst, hlast, hstep⟩ := (run.covers_iff c.toNat).mp hcovers
      obtain ⟨hletters, hforms⟩ := caseRuns_ascii run hrun
      rw [CaseRun.image] at hform
      rcases hforms with hforms | ⟨hone, hkelvin⟩
      · rw [isWord, if_neg (by omega)] at hc ⊢
        rcases caseRuns_words run hrun with hkelvin | hwithin | hmisses | hkeeps
        · rw [hkelvin] at hforms
          exact absurd hforms (by decide)
        · obtain ⟨range, hrange, hlow, hhigh⟩ := (CodeRanges.within_iff _ _ _).mp hwithin
          rw [CaseRun.lastForm] at hhigh
          exact (CodeRanges.holds_iff _ _).mpr
            ⟨range, formRanges_sublist.subset hrange, by omega, by omega⟩
        · rw [CodeRanges.holds_of_misses hmisses hfirst hlast] at hc
          cases hc
        · rw [CodeRanges.holds_iff, ← CodeRanges.within_iff] at hc ⊢
          have hplace := List.all_eq_true.mp hkeeps (c.toNat - run.first)
            (List.mem_range.mpr (by omega))
          rw [Nat.add_sub_cancel' hfirst, ← hform, hc, hstep] at hplace
          simpa using hplace
      · have hd : d.toNat = 'k'.toNat := by omega
        rw [Char.toNat_inj.mp hd]
        decide

/-- A name stays a name in lower case. -/
theorem isWord_of_mem_lower {text : List Char} (h : ∀ c ∈ text, isWord c = true) :
    ∀ d ∈ lower text, isWord d = true := by
  intro d hd
  obtain ⟨c, hc, hform⟩ := exists_isForm_of_mem_lowerAfter hd
  exact isWord_of_isForm (h c hc) hform

end LootSpawn.Text
