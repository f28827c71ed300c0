import LootSpawn.Text.Lowercase

/-!
# Lower case is settled

A text in lower case has no letter left to change: the table of letters leads to none of the letters
that it starts from, and no capital sigma remains, so nothing depends on the surroundings any more.
Lower-casing such a text, alone or as a part of another, leaves it as it is.
-/

namespace LootSpawn.Text

/-- Lower-casing keeps the character wherever it stands. -/
def IsSettled (c : Char) : Prop := c ≠ 'Σ' ∧ lowerChar c = [c]

instance : DecidablePred IsSettled := fun c =>
  inferInstanceAs (Decidable (c ≠ 'Σ' ∧ lowerChar c = [c]))

/-! ## The table of letters -/

namespace CaseRun

/-- The lower-case form of the last letter. -/
def lastForm (run : CaseRun) : Nat := run.target + (run.last - run.first)

/-- The forms of the run lie where letters of the other one lie. The comparison is the one that the
kernel computes with. -/
def meets (run other : CaseRun) : Bool :=
  Nat.ble other.first run.lastForm && Nat.ble run.target other.last

/-- Where forms of the run meet letters of the other one, the two alternate. -/
def Alternates (run other : CaseRun) : Prop :=
  (run.step = 2 ∨ run.first = run.last) ∧ other.step = 2 ∧ (run.target + other.first) % 2 = 1

instance (run other : CaseRun) : Decidable (run.Alternates other) :=
  inferInstanceAs (Decidable (_ ∧ _ ∧ _))

theorem covers_iff (run : CaseRun) (code : Nat) :
    run.covers code = true ↔
      run.first ≤ code ∧ code ≤ run.last ∧ (code - run.first) % run.step = 0 := by
  simp [covers, and_assoc]

end CaseRun

theorem caseRuns_alternate :
    ∀ run ∈ caseRuns, ∀ other ∈ caseRuns.filter run.meets, run.Alternates other := by
  decide +kernel

set_option maxRecDepth 2000 in
/-- No form of a run is a surrogate, an ASCII capital or the capital i with a dot. -/
theorem caseRuns_forms : ∀ run ∈ caseRuns,
    (run.lastForm < 0xD800 ∨ 0xE000 ≤ run.target ∧ run.lastForm < 0x110000) ∧
      0x5A < run.target ∧
      (run.lastForm < 0x130 ∨ 0x130 < run.target ∨ run.step = 2 ∧ run.target % 2 = 1) := by
  decide

/-- The lower-case form of a letter is not a letter of the table. -/
theorem covers_image_eq_false {run other : CaseRun} (hrun : run ∈ caseRuns)
    (hother : other ∈ caseRuns) {code : Nat} (hcode : run.covers code = true) :
    other.covers (run.image code) = false := by
  obtain ⟨hfirst, hlast, hstep⟩ := (run.covers_iff code).mp hcode
  rw [Bool.eq_false_iff]
  intro hcovers
  obtain ⟨hlow, hhigh, hplace⟩ := (other.covers_iff _).mp hcovers
  rw [CaseRun.image] at hlow hhigh hplace
  have hmeets : run.meets other = true := by
    rw [CaseRun.meets, CaseRun.lastForm, Bool.and_eq_true, Nat.ble_eq, Nat.ble_eq]
    omega
  obtain ⟨hsteps, htwo, hodd⟩ :=
    caseRuns_alternate run hrun other (List.mem_filter.mpr ⟨hother, hmeets⟩)
  rw [htwo] at hplace
  rcases hsteps with hsteps | hsteps
  · rw [hsteps] at hstep
    omega
  · omega

theorem find?_image_eq_none {run : CaseRun} (hrun : run ∈ caseRuns) {code : Nat}
    (hcode : run.covers code = true) :
    caseRuns.find? (·.covers (run.image code)) = none := by
  rw [List.find?_eq_none]
  intro other hother
  rw [covers_image_eq_false hrun hother hcode]
  exact Bool.false_ne_true

theorem toNat_ofNat_image {run : CaseRun} (hrun : run ∈ caseRuns) {code : Nat}
    (hcode : run.covers code = true) : (Char.ofNat (run.image code)).toNat = run.image code := by
  obtain ⟨hfirst, hlast, -⟩ := (run.covers_iff code).mp hcode
  have hvalid : (run.image code).isValidChar := by
    have hforms := (caseRuns_forms run hrun).1
    rw [CaseRun.lastForm] at hforms
    unfold Nat.isValidChar CaseRun.image
    omega
  rw [Char.ofNat, dif_pos hvalid]
  rfl

theorem image_ne_dotted {run : CaseRun} (hrun : run ∈ caseRuns) {code : Nat}
    (hcode : run.covers code = true) : run.image code ≠ 0x130 := by
  obtain ⟨hfirst, hlast, hstep⟩ := (run.covers_iff code).mp hcode
  have hforms := (caseRuns_forms run hrun).2.2
  rw [CaseRun.lastForm] at hforms
  rw [CaseRun.image]
  rcases hforms with h | h | ⟨htwo, hodd⟩
  · omega
  · omega
  · rw [htwo] at hstep
    omega

/-! ## Characters -/

theorem isSettled_ascii :
    ∀ code < 0x80, (code < 0x41 ∨ 0x5A < code) → IsSettled (Char.ofNat code) := by
  decide

theorem isSettled_toLower_ascii : ∀ code < 0x80, IsSettled (Char.ofNat code).toLower := by
  decide

theorem isSettled_dotted : IsSettled 'i' ∧ IsSettled '\u0307' := by
  decide

theorem isSettled_sigma : IsSettled 'ς' ∧ IsSettled 'σ' := by
  decide

theorem find?_sigma : caseRuns.find? (·.covers 'Σ'.toNat) ≠ none := by
  decide

/-- A character from 0x80 on that is no letter of the table is settled. -/
theorem isSettled_of_find?_eq_none {c : Char} (hascii : ¬ c.toNat < 0x80) (hdotted : c ≠ 'İ')
    (hfind : caseRuns.find? (·.covers c.toNat) = none) : IsSettled c := by
  constructor
  · rintro rfl
    exact find?_sigma hfind
  · rw [lowerChar, if_neg hascii, if_neg (by simpa using hdotted), hfind]

theorem isSettled_image {run : CaseRun} (hrun : run ∈ caseRuns) {code : Nat}
    (hcode : run.covers code = true) : IsSettled (Char.ofNat (run.image code)) := by
  have himage := toNat_ofNat_image hrun hcode
  by_cases hascii : run.image code < 0x80
  · apply isSettled_ascii _ hascii
    have hforms := (caseRuns_forms run hrun).2.1
    rw [CaseRun.image]
    omega
  · apply isSettled_of_find?_eq_none
    · rwa [himage]
    · intro hdotted
      apply image_ne_dotted hrun hcode
      rw [← himage, hdotted]
      rfl
    · rw [himage]
      exact find?_image_eq_none hrun hcode

/-- What becomes of a character: ASCII has its own rule, the capital i with a dot becomes two
characters, a letter of the table becomes its form, and any other character stays. -/
theorem lowerChar_cases (c : Char) :
    (c.toNat < 0x80 ∧ lowerChar c = [c.toLower]) ∨
      (c = 'İ' ∧ lowerChar c = ['i', '\u0307']) ∨
      (∃ run ∈ caseRuns, run.covers c.toNat = true ∧
        lowerChar c = [Char.ofNat (run.image c.toNat)]) ∨
      (¬ c.toNat < 0x80 ∧ c ≠ 'İ' ∧ caseRuns.find? (·.covers c.toNat) = none ∧
        lowerChar c = [c]) := by
  rw [lowerChar]
  split
  next hascii => exact Or.inl ⟨hascii, rfl⟩
  next hascii =>
    split
    next hdotted => exact Or.inr (Or.inl ⟨by simpa using hdotted, rfl⟩)
    next hdotted =>
      split
      next run hfind =>
        have hcovers : run.covers c.toNat = true := by simpa using List.find?_some hfind
        exact Or.inr (Or.inr (Or.inl ⟨run, List.mem_of_find?_eq_some hfind, hcovers, rfl⟩))
      next hfind =>
        exact Or.inr (Or.inr (Or.inr ⟨hascii, by simpa using hdotted, hfind, rfl⟩))

/-- Lower-casing a character leaves nothing to lower-case. -/
theorem isSettled_of_mem_lowerChar {c d : Char} (h : d ∈ lowerChar c) : IsSettled d := by
  rcases lowerChar_cases c with ⟨hascii, hlower⟩ | ⟨-, hlower⟩ | ⟨run, hrun, hcovers, hlower⟩ |
    ⟨hascii, hdotted, hfind, hlower⟩
  · rw [hlower] at h
    rw [List.mem_singleton.mp h, ← Char.ofNat_toNat c]
    exact isSettled_toLower_ascii c.toNat hascii
  · rw [hlower, List.mem_cons, List.mem_singleton] at h
    rcases h with rfl | rfl
    · exact isSettled_dotted.1
    · exact isSettled_dotted.2
  · rw [hlower] at h
    rw [List.mem_singleton.mp h]
    exact isSettled_image hrun hcovers
  · rw [hlower] at h
    rw [List.mem_singleton.mp h]
    exact isSettled_of_find?_eq_none hascii hdotted hfind

/-- A sigma in lower case ends a word or stands inside one. -/
theorem lowerSigma_cases (before after : List Char) :
    lowerSigma before after = 'ς' ∨ lowerSigma before after = 'σ' := by
  rw [lowerSigma]
  split
  · exact Or.inl rfl
  · exact Or.inr rfl

theorem isSettled_lowerSigma (before after : List Char) : IsSettled (lowerSigma before after) := by
  rcases lowerSigma_cases before after with hsigma | hsigma
  · rw [hsigma]
    exact isSettled_sigma.1
  · rw [hsigma]
    exact isSettled_sigma.2

/-! ## Texts -/

theorem isSettled_of_mem_lowerAfter {before text : List Char} {d : Char}
    (h : d ∈ lowerAfter before text) : IsSettled d := by
  induction text generalizing before with
  | nil => cases h
  | cons c text ih =>
      rcases List.mem_append.mp h with h | h
      · split at h
        next =>
          rw [List.mem_singleton.mp h]
          exact isSettled_lowerSigma before text
        next => exact isSettled_of_mem_lowerChar h
      · exact ih h

/-- A settled text stays as it is, whatever comes before it. -/
theorem lowerAfter_of_isSettled (before : List Char) {text : List Char}
    (h : ∀ c ∈ text, IsSettled c) : lowerAfter before text = text := by
  induction text generalizing before with
  | nil => rfl
  | cons c text ih =>
      obtain ⟨hsigma, hlower⟩ := h c List.mem_cons_self
      rw [lowerAfter, ih _ fun d hd => h d (List.mem_cons_of_mem c hd),
        if_neg (by simpa using hsigma), hlower]
      rfl

theorem lower_of_isSettled {text : List Char} (h : ∀ c ∈ text, IsSettled c) : lower text = text :=
  lowerAfter_of_isSettled [] h

theorem isSettled_of_mem_lower {text : List Char} {c : Char} (h : c ∈ lower text) : IsSettled c :=
  isSettled_of_mem_lowerAfter h

/-- Lower-casing twice is lower-casing once. -/
@[simp]
theorem lower_lower (text : List Char) : lower (lower text) = lower text :=
  lower_of_isSettled fun _ => isSettled_of_mem_lower

@[simp]
theorem lowerString_lowerString (text : String) :
    lowerString (lowerString text) = lowerString text := by
  simp [lowerString]

end LootSpawn.Text
