import LootSpawn.Line.Clause
import LootSpawn.Number.Decimal
import Mathlib.Data.List.TakeDrop
import Mathlib.Data.List.TakeWhile

/-!
# Runs of characters

Lines are read run by run: blanks, names, separators, digits. A run ends where a character of
another class stands, so a text is divided in only one way. No blank is a word character, and
neither are the signs between the parts of a line.
-/

namespace LootSpawn.Text

/-! ## Classes -/

/-- No range holds a code point from the first to the last. The comparisons are those that the
kernel computes with. -/
def CodeRanges.misses (ranges : CodeRanges) (first last : Nat) : Bool :=
  ranges.all fun range => Nat.blt range.2 first || Nat.blt last range.1

theorem CodeRanges.holds_of_misses {ranges : CodeRanges} {first last code : Nat}
    (h : ranges.misses first last = true) (hfirst : first ≤ code) (hlast : code ≤ last) :
    ranges.holds code = false := by
  by_contra hcode
  obtain ⟨range, hrange, hlow, hhigh⟩ := (holds_iff _ _).mp (Bool.not_eq_false _ ▸ hcode)
  have hapart := List.all_eq_true.mp h range hrange
  rw [Bool.or_eq_true, Nat.blt_eq, Nat.blt_eq] at hapart
  omega

/-- The two tables have no code point in common. -/
def CodeRanges.Apart (first second : CodeRanges) : Prop :=
  ∀ range ∈ first, second.misses range.1 range.2 = true

instance (first second : CodeRanges) : Decidable (first.Apart second) :=
  inferInstanceAs (Decidable (∀ range ∈ first, _))

theorem CodeRanges.Apart.holds_eq_false {first second : CodeRanges} (h : first.Apart second)
    {code : Nat} (hcode : first.holds code = true) : second.holds code = false := by
  obtain ⟨range, hrange, hlow, hhigh⟩ := (holds_iff _ _).mp hcode
  exact holds_of_misses (h range hrange) hlow hhigh

set_option maxRecDepth 4000 in
theorem blankRanges_apart_wordRanges : blankRanges.Apart wordRanges := by
  decide

theorem isWord_of_isBlank_ascii :
    ∀ code < 0x80, blankRanges.holds code = true → isWord (Char.ofNat code) = false := by
  decide

theorem isWord_of_isBlank {c : Char} (h : isBlank c = true) : isWord c = false := by
  -- The ASCII characters are decided one by one; from 0x80 on the two tables share no code.
  by_cases hascii : c.toNat < 0x80
  · rw [← Char.ofNat_toNat c]
    exact isWord_of_isBlank_ascii c.toNat hascii h
  · rw [isWord, if_neg hascii]
    exact blankRanges_apart_wordRanges.holds_eq_false h

theorem isNumeric_of_isBlank {c : Char} (h : isBlank c = true) : isNumeric c = false := by
  have hne : ∀ d, isBlank d = false → (c == d) = false := by
    intro d hd
    rw [beq_eq_false_iff_ne]
    rintro rfl
    rw [h] at hd
    cases hd
  rw [isNumeric, isWord_of_isBlank h, hne '-' (by decide), hne '+' (by decide),
    hne '.' (by decide)]
  rfl

/-- A character of one of two classes that share none is not of the other. -/
theorem eq_false_of_disjoint {p q : Char → Bool} (hdisjoint : ∀ c, p c = true → q c = false)
    (c : Char) (h : q c = true) : p c = false := by
  by_contra hp
  rw [hdisjoint c (Bool.not_eq_false _ ▸ hp)] at h
  cases h

theorem isBlank_of_isWord {c : Char} (h : isWord c = true) : isBlank c = false :=
  eq_false_of_disjoint (fun _ => isWord_of_isBlank) c h

theorem isBlank_of_isNumeric {c : Char} (h : isNumeric c = true) : isBlank c = false :=
  eq_false_of_disjoint (fun _ => isNumeric_of_isBlank) c h

theorem isNumeric_of_isWord {c : Char} (h : isWord c = true) : isNumeric c = true := by
  rw [isNumeric, h]
  rfl

theorem isWord_of_isDigit {c : Char} (h : Number.isDigit c = true) : isWord c = true := by
  simp only [Number.isDigit, Bool.and_eq_true, decide_eq_true_eq] at h
  have hlow : '0'.toNat ≤ c.toNat := h.1
  have hhigh : c.toNat ≤ '9'.toNat := h.2
  have hascii : c.toNat < 0x80 := Nat.lt_of_le_of_lt hhigh (by decide)
  have hdigit : c.isDigit = true := by
    simp only [Char.isDigit, Bool.and_eq_true, decide_eq_true_eq]
    exact h
  rw [isWord, if_pos hascii, Char.isAlphanum, hdigit]
  simp

theorem isDigit_of_not_isWord {c : Char} (h : isWord c = false) : Number.isDigit c = false := by
  by_contra hdigit
  rw [isWord_of_isDigit (Bool.not_eq_false _ ▸ hdigit)] at h
  cases h

/-! ## Division into runs -/

/-- The text does not begin with a character of the class. -/
def Stops (p : Char → Bool) (cs : List Char) : Prop := ∀ c ∈ cs.head?, p c = false

variable {p : Char → Bool}

@[simp]
theorem stops_nil : Stops p [] := by
  intro c hc
  cases hc

@[simp]
theorem stops_cons {c : Char} {cs : List Char} : Stops p (c :: cs) ↔ p c = false := by
  simp [Stops]

/-- A nonempty run of another class stops a class, whatever follows. -/
theorem Stops.append_of_ne_nil {front : List Char} (rest : List Char) (hne : front ≠ [])
    (hfront : ∀ c ∈ front, p c = false) : Stops p (front ++ rest) := by
  cases front with
  | nil => exact absurd rfl hne
  | cons c front => exact stops_cons.mpr (hfront c List.mem_cons_self)

theorem Stops.append {front rest : List Char} (hfront : ∀ c ∈ front, p c = false)
    (hrest : Stops p rest) : Stops p (front ++ rest) := by
  cases front with
  | nil => exact hrest
  | cons c front => exact stops_cons.mpr (hfront c List.mem_cons_self)

theorem takeWhile_run {front rest : List Char} (hfront : ∀ c ∈ front, p c = true)
    (hrest : Stops p rest) : (front ++ rest).takeWhile p = front := by
  rw [List.takeWhile_append_of_pos hfront]
  cases rest with
  | nil => simp
  | cons c rest => simp [stops_cons.mp hrest]

theorem dropWhile_run {front rest : List Char} (hfront : ∀ c ∈ front, p c = true)
    (hrest : Stops p rest) : (front ++ rest).dropWhile p = rest := by
  rw [List.dropWhile_append_of_pos hfront]
  cases rest with
  | nil => rfl
  | cons c rest => simp [stops_cons.mp hrest]

theorem span_run {front rest : List Char} (hfront : ∀ c ∈ front, p c = true)
    (hrest : Stops p rest) : (front ++ rest).span p = (front, rest) := by
  rw [List.span_eq_takeWhile_dropWhile, takeWhile_run hfront hrest, dropWhile_run hfront hrest]

theorem stops_dropWhile (p : Char → Bool) (cs : List Char) : Stops p (cs.dropWhile p) := by
  intro c hc
  have hnot := List.head?_dropWhile_not p cs
  rw [Option.mem_def.mp hc] at hnot
  exact hnot

theorem eq_run_append (p : Char → Bool) (cs : List Char) :
    cs = cs.takeWhile p ++ cs.dropWhile p := List.takeWhile_append_dropWhile.symm

theorem mem_takeWhile {c : Char} {cs : List Char} (h : c ∈ cs.takeWhile p) : p c = true :=
  List.mem_takeWhile_imp h

/-- A text is divided into a run and a rest in one way. -/
theorem run_append_inj {front rest front' rest' : List Char} (hfront : ∀ c ∈ front, p c = true)
    (hrest : Stops p rest) (hfront' : ∀ c ∈ front', p c = true) (hrest' : Stops p rest')
    (h : front ++ rest = front' ++ rest') : front = front' ∧ rest = rest' := by
  constructor
  · rw [← takeWhile_run hfront hrest, h, takeWhile_run hfront' hrest']
  · rw [← dropWhile_run hfront hrest, h, dropWhile_run hfront' hrest']

/-- Of two places in a text the first one is the earlier, the same or the later. -/
theorem append_cons_cases {front rest front' rest' : List Char} {c c' : Char}
    (h : front' ++ c' :: rest' = front ++ c :: rest) :
    c ∈ front' ∨ (front = front' ∧ c = c' ∧ rest' = rest) ∨
      ∃ between, front = front' ++ c' :: between ∧ rest' = between ++ c :: rest := by
  induction front' generalizing front with
  | nil =>
      cases front with
      | nil =>
          obtain ⟨rfl, rfl⟩ := List.cons.inj h
          exact Or.inr (Or.inl ⟨rfl, rfl, rfl⟩)
      | cons d front =>
          obtain ⟨rfl, rfl⟩ := List.cons.inj h
          exact Or.inr (Or.inr ⟨front, rfl, rfl⟩)
  | cons d front' ih =>
      cases front with
      | nil => exact Or.inl ((List.cons.inj h).1 ▸ List.mem_cons_self)
      | cons e front =>
          obtain ⟨rfl, htail⟩ := List.cons.inj h
          rcases ih htail with hmem | ⟨rfl, rfl, rfl⟩ | ⟨between, rfl, rfl⟩
          · exact Or.inl (List.mem_cons_of_mem _ hmem)
          · exact Or.inr (Or.inl ⟨rfl, rfl, rfl⟩)
          · exact Or.inr (Or.inr ⟨between, rfl, rfl⟩)

/-! ## Blanks at the ends -/

theorem dropTrailingBlanks_of_isBlank {cs : List Char} (h : ∀ c ∈ cs, isBlank c = true) :
    dropTrailingBlanks cs = [] := by
  induction cs with
  | nil => rfl
  | cons c cs ih =>
      rw [dropTrailingBlanks, ih fun d hd => h d (List.mem_cons_of_mem c hd)]
      simp [h c List.mem_cons_self]

theorem dropTrailingBlanks_append {cs after : List Char} (hcs : ∀ c ∈ cs, isBlank c = false)
    (hafter : ∀ c ∈ after, isBlank c = true) : dropTrailingBlanks (cs ++ after) = cs := by
  induction cs with
  | nil => exact dropTrailingBlanks_of_isBlank hafter
  | cons c cs ih =>
      rw [List.cons_append, dropTrailingBlanks, ih fun d hd => hcs d (List.mem_cons_of_mem c hd)]
      cases cs with
      | nil => simp [hcs c List.mem_cons_self]
      | cons d cs => rfl

theorem trim_append {before cs after : List Char} (hbefore : ∀ c ∈ before, isBlank c = true)
    (hcs : ∀ c ∈ cs, isBlank c = false) (hafter : ∀ c ∈ after, isBlank c = true) :
    trim (before ++ (cs ++ after)) = cs := by
  cases cs with
  | nil =>
      rw [trim, skipBlanks, List.nil_append, List.dropWhile_eq_nil_iff.mpr]
      · rfl
      · intro c hc
        rcases List.mem_append.mp hc with hc | hc
        · exact hbefore c hc
        · exact hafter c hc
  | cons c cs =>
      have hstops : Stops isBlank (c :: cs ++ after) := stops_cons.mpr (hcs c List.mem_cons_self)
      rw [trim, skipBlanks, dropWhile_run hbefore hstops]
      exact dropTrailingBlanks_append hcs hafter

theorem eq_dropTrailingBlanks_append (cs : List Char) :
    ∃ after, (∀ c ∈ after, isBlank c = true) ∧ cs = dropTrailingBlanks cs ++ after := by
  induction cs with
  | nil => exact ⟨[], nofun, rfl⟩
  | cons c cs ih =>
      obtain ⟨after, hafter, hcs⟩ := ih
      rw [dropTrailingBlanks]
      cases hkept : dropTrailingBlanks cs with
      | nil =>
          rw [hkept, List.nil_append] at hcs
          subst hcs
          by_cases hc : isBlank c = true
          · refine ⟨c :: cs, ?_, by simp [hc]⟩
            intro d hd
            rcases List.mem_cons.mp hd with rfl | hd
            · exact hc
            · exact hafter d hd
          · exact ⟨cs, hafter, by simp [hc]⟩
      | cons d kept =>
          rw [hkept] at hcs
          exact ⟨after, hafter, congrArg (c :: ·) hcs⟩

/-- A text is what trimming leaves, with blanks around. -/
theorem eq_trim_append (cs : List Char) :
    ∃ before after, (∀ c ∈ before, isBlank c = true) ∧ (∀ c ∈ after, isBlank c = true) ∧
      cs = before ++ (trim cs ++ after) := by
  obtain ⟨after, hafter, hcs⟩ := eq_dropTrailingBlanks_append (skipBlanks cs)
  refine ⟨cs.takeWhile isBlank, after, fun c hc => mem_takeWhile hc, hafter, ?_⟩
  rw [trim, ← hcs]
  exact eq_run_append isBlank cs

end LootSpawn.Text
