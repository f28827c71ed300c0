import LootSpawn.Proofs.Text.LowerParts
import LootSpawn.Text.AsciiCase

/-!
# Spellings in ASCII

Texts that are equal up to ASCII case are equal in lower case. Lower-casing folds further letters,
so the converse does not hold, unless one of the texts is plain: no letter beyond ASCII becomes one
of its characters.
-/

namespace LootSpawn.Text

theorem toLower_of_not_ascii {c : Char} (h : ¬ c.toNat < 0x80) : c.toLower = c := by
  apply dif_neg
  rintro ⟨-, hlast⟩
  have hcapital : c.toNat ≤ 0x5A := UInt32.le_iff_toNat_le.mp hlast
  omega

theorem ascii_toLower_ascii : ∀ code < 0x80, (Char.ofNat code).toLower.toNat < 0x80 ∧
    (Char.ofNat code).toLower.toLower = (Char.ofNat code).toLower := by
  decide

theorem ascii_toLower {c : Char} (h : c.toNat < 0x80) :
    c.toLower.toNat < 0x80 ∧ c.toLower.toLower = c.toLower := by
  rw [← Char.ofNat_toNat c]
  exact ascii_toLower_ascii c.toNat h

theorem caseless_toLower_ascii : ∀ code < 0x80,
    isCased (Char.ofNat code).toLower = isCased (Char.ofNat code) ∧
      isCaseIgnorable (Char.ofNat code).toLower = isCaseIgnorable (Char.ofNat code) := by
  decide

/-- Case rules do not tell a capital from a small letter. -/
theorem caseless_toLower (c : Char) :
    isCased c.toLower = isCased c ∧ isCaseIgnorable c.toLower = isCaseIgnorable c := by
  by_cases hascii : c.toNat < 0x80
  · rw [← Char.ofNat_toNat c]
    exact caseless_toLower_ascii c.toNat hascii
  · rw [toLower_of_not_ascii hascii]
    exact ⟨rfl, rfl⟩

theorem startsCased_map_toLower (text : List Char) :
    startsCased (text.map Char.toLower) = startsCased text := by
  induction text with
  | nil => rfl
  | cons c text ih =>
      obtain ⟨hcased, hignorable⟩ := caseless_toLower c
      rw [List.map_cons, startsCased_cons, startsCased_cons, ih, hcased, hignorable]

theorem formAt_ascii {c : Char} (h : c.toNat < 0x80) (before after : List Char) :
    formAt before c after = [c.toLower] := by
  have hsigma : c ≠ 'Σ' := by
    rintro rfl
    exact absurd h (by decide)
  rw [formAt, if_neg (by simpa using hsigma), lowerChar, if_pos h]

theorem formAt_toLower (before : List Char) (c : Char) (after : List Char) :
    formAt before c.toLower after = formAt before c after := by
  by_cases hascii : c.toNat < 0x80
  · obtain ⟨hlower, htwice⟩ := ascii_toLower hascii
    rw [formAt_ascii hascii, formAt_ascii hlower, htwice]
  · rw [toLower_of_not_ascii hascii]

theorem lowerAfter_map_toLower (before text : List Char) :
    lowerAfter (before.map Char.toLower) (text.map Char.toLower) = lowerAfter before text := by
  induction text generalizing before with
  | nil => rfl
  | cons c text ih =>
      rw [List.map_cons, lowerAfter_cons, lowerAfter_cons, formAt_toLower,
        formAt_congr (startsCased_map_toLower before) (startsCased_map_toLower text), ← ih]
      rfl

/-- Texts that are equal up to ASCII case have the same lower case. -/
theorem lower_eq_of_sameAsciiCase {text other : List Char} (h : sameAsciiCase text other = true) :
    lower text = lower other := by
  have htext := lowerAfter_map_toLower [] text
  rw [(sameAsciiCase_iff text other).mp h] at htext
  exact htext.symm.trans (lowerAfter_map_toLower [] other)

/-! ## Plain texts -/

/-- An ASCII character other than the k, which the Kelvin sign becomes in lower case. -/
def IsPlain (c : Char) : Prop := c.toNat < 0x80 ∧ c.toLower ≠ 'k'

instance : DecidablePred IsPlain := fun c =>
  inferInstanceAs (Decidable (c.toNat < 0x80 ∧ c.toLower ≠ 'k'))

theorem IsPlain.toLower {c : Char} (h : IsPlain c) : IsPlain c.toLower := by
  obtain ⟨hlower, htwice⟩ := ascii_toLower h.1
  exact ⟨hlower, htwice.symm ▸ h.2⟩

/-- Beyond ASCII only the capital i with a dot has a plain character in its lower-case form. -/
theorem IsForm.ascii_or_dotted {c d : Char} (h : IsForm c d) (hd : IsPlain d) :
    c.toNat < 0x80 ∨ c = 'İ' := by
  cases h with
  | same => exact Or.inl hd.1
  | ascii hascii => exact Or.inl hascii
  | dotless => exact Or.inr rfl
  | dot => exact Or.inr rfl
  | finalSigma => exact absurd hd (by decide)
  | innerSigma => exact absurd hd (by decide)
  | @letter _ _ run hrun hcovers hform =>
      obtain ⟨hfirst, hlast, -⟩ := (run.covers_iff c.toNat).mp hcovers
      obtain ⟨hascii, hne⟩ := hd
      rw [CaseRun.image] at hform
      rcases (caseRuns_ascii run hrun).2 with htarget | ⟨hone, hkelvin⟩
      · omega
      · have hk : d.toNat = 'k'.toNat := by omega
        rw [Char.toNat_inj.mp hk] at hne
        exact absurd rfl hne

/-- A letter beyond ASCII does not become plain. -/
theorem exists_not_isPlain_formAt {c : Char} (h : ¬ c.toNat < 0x80) (before after : List Char) :
    ∃ d ∈ formAt before c after, ¬ IsPlain d := by
  by_cases hdotted : c = 'İ'
  · subst hdotted
    exact ⟨'\u0307', List.mem_cons_of_mem _ (List.mem_singleton_self _), by decide⟩
  · obtain ⟨d, hd⟩ := List.exists_mem_of_ne_nil _ (formAt_ne_nil before c after)
    refine ⟨d, hd, fun hplain => ?_⟩
    exact ((isForm_of_mem_formAt hd).ascii_or_dotted hplain).elim h hdotted

/-- A text whose lower case starts with a plain character starts with that character or its
capital, unless it starts with a dotted i. -/
theorem exists_of_lower_eq_cons {text rest : List Char} {d : Char} (h : lower text = d :: rest)
    (hplain : IsPlain d) (hdotted : d ≠ 'i') : ∃ c more, text = c :: more ∧ c.toLower = d := by
  cases text with
  | nil => cases h
  | cons c more =>
      obtain ⟨e, forms, hforms⟩ := List.exists_cons_of_ne_nil (formAt_ne_nil [] c more)
      rw [lower, lowerAfter_cons, hforms] at h
      obtain rfl : e = d := (List.cons_eq_cons.mp h).1
      refine ⟨c, more, rfl, ?_⟩
      have hform : IsForm c e := isForm_of_mem_formAt (hforms ▸ List.mem_cons_self)
      rcases hform.ascii_or_dotted hplain with hascii | rfl
      · rw [formAt_ascii hascii] at hforms
        exact (List.cons_eq_cons.mp hforms).1
      · exact absurd (List.cons_eq_cons.mp hforms).1.symm hdotted

theorem lowerAfter_ascii_append (before : List Char) {first : List Char}
    (h : ∀ c ∈ first, c.toNat < 0x80) (second : List Char) :
    lowerAfter before (first ++ second) =
      first.map Char.toLower ++ lowerAfter (first.reverse ++ before) second := by
  induction first generalizing before with
  | nil => rfl
  | cons c first ih =>
      rw [List.cons_append, lowerAfter_cons, formAt_ascii (h c List.mem_cons_self),
        ih (c :: before) fun d hd => h d (List.mem_cons_of_mem c hd), List.reverse_cons,
        List.append_assoc]
      rfl

theorem lowerAfter_ascii (before : List Char) {text : List Char} (h : ∀ c ∈ text, c.toNat < 0x80) :
    lowerAfter before text = text.map Char.toLower := by
  have happend := lowerAfter_ascii_append before h []
  rw [List.append_nil] at happend
  exact happend.trans (List.append_nil _)

theorem ascii_of_isPlain_lowerAfter {before text : List Char}
    (h : ∀ d ∈ lowerAfter before text, IsPlain d) : ∀ c ∈ text, c.toNat < 0x80 := by
  induction text generalizing before with
  | nil => exact List.forall_mem_nil _
  | cons c text ih =>
      rw [lowerAfter_cons, List.forall_mem_append] at h
      refine List.forall_mem_cons.mpr ⟨?_, ih h.2⟩
      by_contra hascii
      obtain ⟨d, hd, hplain⟩ := exists_not_isPlain_formAt hascii before text
      exact hplain (h.1 d hd)

/-- What equals a plain text in lower case equals it up to ASCII case. -/
theorem sameAsciiCase_iff_lower_eq {plain : List Char} (hplain : ∀ c ∈ plain, IsPlain c)
    (text : List Char) : sameAsciiCase plain text = true ↔ lower plain = lower text := by
  refine ⟨lower_eq_of_sameAsciiCase, fun h => ?_⟩
  have hlower : lower plain = plain.map Char.toLower :=
    lowerAfter_ascii [] fun c hc => (hplain c hc).1
  have htext : ∀ c ∈ text, c.toNat < 0x80 := by
    apply ascii_of_isPlain_lowerAfter
    intro d hd
    rw [← lower, ← h, hlower] at hd
    obtain ⟨c, hc, rfl⟩ := List.mem_map.mp hd
    exact (hplain c hc).toLower
  rw [sameAsciiCase_iff, ← hlower, h]
  exact lowerAfter_ascii [] htext

end LootSpawn.Text
