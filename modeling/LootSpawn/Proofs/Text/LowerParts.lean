import LootSpawn.Proofs.Text.LetterForms
import LootSpawn.Text.Lines

/-!
# Lower case part by part

A capital sigma looks at the letters around it, but never past a blank. A text may therefore be put
in lower case part by part wherever a blank stands between the parts. In particular it makes no
difference whether a text is trimmed, freed of its byte-order mark or divided into lines before or
after it is put in lower case.
-/

namespace LootSpawn.Text

/-! ## Surroundings -/

theorem startsCased_cons (c : Char) (cs : List Char) :
    startsCased (c :: cs) = if isCaseIgnorable c then startsCased cs else isCased c := by
  by_cases h : isCaseIgnorable c = true
  · rw [startsCased, List.dropWhile_cons_of_pos h, if_pos h, startsCased]
  · rw [startsCased, List.dropWhile_cons_of_neg h, if_neg h]

theorem startsCased_of_isBlank {c : Char} (h : isBlank c = true) (cs : List Char) :
    startsCased (c :: cs) = false := by
  obtain ⟨hcased, hignorable⟩ := caseless_of_isBlank h
  rw [startsCased_cons, hignorable, hcased]
  rfl

theorem startsCased_blanks_append {blanks rest : List Char} (h : ∀ c ∈ blanks, isBlank c = true)
    (hrest : startsCased rest = false) : startsCased (blanks ++ rest) = false := by
  cases blanks with
  | nil => exact hrest
  | cons c blanks => exact startsCased_of_isBlank (h c List.mem_cons_self) (blanks ++ rest)

theorem startsCased_of_blanks {blanks : List Char} (h : ∀ c ∈ blanks, isBlank c = true) :
    startsCased blanks = false := by
  rw [← List.append_nil blanks]
  exact startsCased_blanks_append h rfl

/-- What follows is not looked at if it does not start with a cased letter. -/
theorem startsCased_append (first : List Char) {second : List Char}
    (h : startsCased second = false) : startsCased (first ++ second) = startsCased first := by
  induction first with
  | nil => exact h
  | cons c first ih => rw [List.cons_append, startsCased_cons, startsCased_cons, ih]

theorem formAt_congr {before before' after after' : List Char}
    (hbefore : startsCased before = startsCased before')
    (hafter : startsCased after = startsCased after') (c : Char) :
    formAt before c after = formAt before' c after' := by
  rw [formAt, formAt, lowerSigma, lowerSigma, hbefore, hafter]

theorem lowerAfter_congr {before before' : List Char}
    (h : startsCased before = startsCased before') (text : List Char) :
    lowerAfter before text = lowerAfter before' text := by
  induction text generalizing before before' with
  | nil => rfl
  | cons c text ih =>
      have hnext : startsCased (c :: before) = startsCased (c :: before') := by
        rw [startsCased_cons, startsCased_cons, h]
      rw [lowerAfter_cons, lowerAfter_cons, formAt_congr h rfl, ih hnext]

theorem lowerAfter_eq_lower {before : List Char} (h : startsCased before = false)
    (text : List Char) : lowerAfter before text = lower text :=
  lowerAfter_congr h text

/-! ## Parts -/

theorem lowerAfter_append (before first : List Char) {second : List Char}
    (h : startsCased second = false) :
    lowerAfter before (first ++ second) =
      lowerAfter before first ++ lowerAfter (first.reverse ++ before) second := by
  induction first generalizing before with
  | nil => rfl
  | cons c first ih =>
      rw [List.cons_append, lowerAfter_cons, lowerAfter_cons, ih,
        formAt_congr rfl (startsCased_append first h), List.append_assoc, List.reverse_cons,
        List.append_assoc, List.singleton_append]

/-- A settled part does not look at what follows. -/
theorem lowerAfter_settled_append (before : List Char) {first : List Char}
    (h : ∀ c ∈ first, IsSettled c) (second : List Char) :
    lowerAfter before (first ++ second) = first ++ lowerAfter (first.reverse ++ before) second := by
  induction first generalizing before with
  | nil => rfl
  | cons c first ih =>
      rw [List.cons_append, lowerAfter_cons, formAt_of_isSettled (h c List.mem_cons_self),
        ih (c :: before) fun d hd => h d (List.mem_cons_of_mem c hd), List.reverse_cons,
        List.append_assoc]
      rfl

theorem exists_lowerAfter_concat (before text : List Char) (c : Char) :
    ∃ front, lowerAfter before (text ++ [c]) = front ++ formAt (text.reverse ++ before) c [] := by
  induction text generalizing before with
  | nil => exact ⟨[], List.append_nil _⟩
  | cons d text ih =>
      obtain ⟨front, hfront⟩ := ih (d :: before)
      refine ⟨formAt before d (text ++ [c]) ++ front, ?_⟩
      rw [List.cons_append, lowerAfter_cons, hfront, List.reverse_cons, List.append_assoc,
        List.append_assoc]
      rfl

theorem isSettled_of_isBlank {c : Char} (h : isBlank c = true) : IsSettled c :=
  isSettled_of_divider (dividers_of_isBlank h)

/-- Blanks after a text stay as they are and leave the text alone. -/
theorem lowerAfter_append_blanks (before text : List Char) {blanks : List Char}
    (h : ∀ c ∈ blanks, isBlank c = true) :
    lowerAfter before (text ++ blanks) = lowerAfter before text ++ blanks := by
  rw [lowerAfter_append before text (startsCased_of_blanks h),
    lowerAfter_of_isSettled _ fun c hc => isSettled_of_isBlank (h c hc)]

/-- So do blanks before it. -/
theorem lower_blanks_append {blanks : List Char} (h : ∀ c ∈ blanks, isBlank c = true)
    (text : List Char) : lower (blanks ++ text) = blanks ++ lower text := by
  have hblanks : startsCased (blanks.reverse ++ []) = false := by
    rw [List.append_nil]
    exact startsCased_of_blanks fun c hc => h c (List.mem_reverse.mp hc)
  rw [lower, lowerAfter_settled_append [] fun c hc => isSettled_of_isBlank (h c hc),
    lowerAfter_eq_lower hblanks]

/-! ## Trimming -/

theorem skipBlanks_lower (text : List Char) :
    skipBlanks (lower text) = lower (skipBlanks text) := by
  have hblanks : ∀ c ∈ text.takeWhile isBlank, isBlank c = true := fun c hc => mem_takeWhile hc
  have hstops : Stops isBlank (lower (text.dropWhile isBlank)) := by
    cases hrest : text.dropWhile isBlank with
    | nil => exact stops_nil
    | cons c rest =>
        have hc : isBlank c = false := stops_cons.mp (hrest ▸ stops_dropWhile isBlank text)
        exact Stops.append_of_ne_nil _ (formAt_ne_nil [] c rest) fun d hd =>
          isBlank_of_mem_formAt hc hd
  conv_lhs => rw [eq_run_append isBlank text, lower_blanks_append hblanks]
  exact dropWhile_run hblanks hstops

theorem dropTrailingBlanks_of_not_isBlank {cs : List Char} (h : ∀ c ∈ cs, isBlank c = false) :
    dropTrailingBlanks cs = cs := by
  have hwhole := dropTrailingBlanks_append h (List.forall_mem_nil _)
  rwa [List.append_nil] at hwhole

theorem dropTrailingBlanks_append_of_nil (front : List Char) {rest : List Char}
    (h : dropTrailingBlanks rest = []) :
    dropTrailingBlanks (front ++ rest) = dropTrailingBlanks front := by
  induction front with
  | nil => exact h
  | cons c front ih => rw [List.cons_append, dropTrailingBlanks, ih, dropTrailingBlanks]

theorem dropTrailingBlanks_append_of_ne_nil (front : List Char) {rest : List Char}
    (h : dropTrailingBlanks rest ≠ []) :
    dropTrailingBlanks (front ++ rest) = front ++ dropTrailingBlanks rest := by
  induction front with
  | nil => rfl
  | cons c front ih =>
      obtain ⟨d, kept, hkept⟩ :=
        List.exists_cons_of_ne_nil (List.append_ne_nil_of_right_ne_nil front h)
      rw [List.cons_append, dropTrailingBlanks, ih, hkept, List.cons_append, hkept]

theorem trim_blanks_append {blanks : List Char} (h : ∀ c ∈ blanks, isBlank c = true)
    (text : List Char) : trim (blanks ++ text) = trim text := by
  rw [trim, skipBlanks, List.dropWhile_append_of_pos h]
  rfl

theorem trim_append_blanks (text : List Char) {blanks : List Char}
    (h : ∀ c ∈ blanks, isBlank c = true) : trim (text ++ blanks) = trim text := by
  rw [trim, trim, skipBlanks, skipBlanks, List.dropWhile_append]
  split
  next hnone =>
    rw [List.dropWhile_eq_nil_iff.mpr h, List.isEmpty_iff.mp hnone]
  next => exact dropTrailingBlanks_append_of_nil _ (dropTrailingBlanks_of_isBlank h)

theorem startsCased_dropTrailingBlanks (text : List Char) :
    startsCased (dropTrailingBlanks text) = startsCased text := by
  obtain ⟨after, hafter, htext⟩ := eq_dropTrailingBlanks_append text
  conv_rhs => rw [htext]
  exact (startsCased_append _ (startsCased_of_blanks hafter)).symm

theorem dropTrailingBlanks_lowerAfter (before text : List Char) :
    dropTrailingBlanks (lowerAfter before text) = lowerAfter before (dropTrailingBlanks text) := by
  induction text generalizing before with
  | nil => rfl
  | cons c text ih =>
      have hform : formAt before c (dropTrailingBlanks text) = formAt before c text :=
        formAt_congr rfl (startsCased_dropTrailingBlanks text) c
      have hrest := ih (c :: before)
      rw [lowerAfter_cons, dropTrailingBlanks]
      cases hkept : dropTrailingBlanks text with
      | nil =>
          rw [hkept] at hform hrest
          rw [dropTrailingBlanks_append_of_nil _ hrest, ← hform]
          by_cases hc : isBlank c = true
          · rw [if_pos hc, formAt_of_isSettled (isSettled_of_isBlank hc), dropTrailingBlanks]
            exact if_pos hc
          · have hnot : ∀ d ∈ formAt before c [], isBlank d = false := fun d hd =>
              isBlank_of_mem_formAt (Bool.not_eq_true _ ▸ hc) hd
            rw [if_neg hc, dropTrailingBlanks_of_not_isBlank hnot, lowerAfter_cons, lowerAfter,
              List.append_nil]
      | cons d kept =>
          rw [hkept] at hform hrest
          have hne : dropTrailingBlanks (lowerAfter (c :: before) text) ≠ [] := by
            rw [hrest]
            exact List.append_ne_nil_of_left_ne_nil (formAt_ne_nil _ d kept) _
          rw [dropTrailingBlanks_append_of_ne_nil _ hne, hrest, ← hform]
          rfl

/-- Trimming and lower-casing may change places. -/
theorem trim_lower (text : List Char) : trim (lower text) = lower (trim text) := by
  rw [trim, skipBlanks_lower]
  exact dropTrailingBlanks_lowerAfter [] (skipBlanks text)

/-! ## Lines -/

theorem dropMark_of_stops {cs : List Char} (h : Stops (· == '\uFEFF') cs) : dropMark cs = cs := by
  cases cs with
  | nil => rfl
  | cons c cs => rw [dropMark, if_neg (by simpa using h)]

set_option maxRecDepth 1000 in
theorem startsCased_mark : startsCased ['\uFEFF'] = false := by
  decide

theorem dropMark_lower (text : List Char) : dropMark (lower text) = lower (dropMark text) := by
  cases text with
  | nil => rfl
  | cons c text =>
      by_cases hc : c = '\uFEFF'
      · subst hc
        rw [lower, lowerAfter_cons, formAt_of_isSettled (isSettled_of_divider (by decide)),
          lowerAfter_eq_lower startsCased_mark]
        rfl
      · have hstops : Stops (· == '\uFEFF') (lower (c :: text)) := by
          apply Stops.append_of_ne_nil _ (formAt_ne_nil [] c text)
          intro d hd
          rw [beq_eq_false_iff_ne]
          rintro rfl
          exact hc (eq_of_isForm_divider (by decide) (isForm_of_mem_formAt hd))
        rw [dropMark_of_stops hstops, dropMark_of_stops (stops_cons.mpr (by simpa using hc))]

theorem isBlank_of_mem_return : ∀ c ∈ ['\r'], isBlank c = true :=
  List.forall_mem_singleton.mpr (by decide)

theorem dropReturn_lower (line : List Char) :
    dropReturn (lower line) = lower (dropReturn line) := by
  rcases List.eq_nil_or_concat line with rfl | ⟨front, c, rfl⟩
  · rfl
  · rw [List.concat_eq_append, dropReturn, dropReturn, List.getLast?_concat]
    by_cases hc : c = '\r'
    · subst hc
      rw [lower, lowerAfter_append_blanks [] front isBlank_of_mem_return, List.getLast?_concat,
        if_pos rfl, if_pos rfl, List.dropLast_concat, List.dropLast_concat]
      rfl
    · obtain ⟨before, hbefore⟩ := exists_lowerAfter_concat [] front c
      have hlast : (lower (front ++ [c])).getLast? ≠ some '\r' := by
        intro hlast
        rw [lower, hbefore, List.getLast?_append,
          Option.or_of_isSome (List.getLast?_isSome.mpr (formAt_ne_nil _ c []))] at hlast
        exact hc (eq_of_isForm_divider (by decide)
          (isForm_of_mem_formAt (List.mem_of_getLast? hlast)))
      rw [if_neg hlast, if_neg (by simpa using hc)]

/-- Trimming takes the carriage return of a line ending along. -/
theorem trim_dropReturn (line : List Char) : trim (dropReturn line) = trim line := by
  rw [dropReturn]
  split
  next hlast =>
    obtain ⟨front, rfl⟩ := List.getLast?_eq_some_iff.mp hlast
    rw [List.dropLast_concat, trim_append_blanks front isBlank_of_mem_return]
  next => rfl

theorem linesFrom_append {line : List Char} (h : '\n' ∉ line) (seen rest : List Char) :
    linesFrom seen (line ++ rest) = linesFrom (line.reverse ++ seen) rest := by
  induction line generalizing seen with
  | nil => rfl
  | cons c line ih =>
      obtain ⟨hc, hline⟩ := List.ne_and_not_mem_of_not_mem_cons h
      rw [List.cons_append, linesFrom, if_neg (by simpa using Ne.symm hc), ih hline,
        List.reverse_cons, List.append_assoc]
      rfl

/-- A line ends at the first line feed. -/
theorem lines_append_cons {line : List Char} (h : '\n' ∉ line) (rest : List Char) :
    lines (line ++ '\n' :: rest) = dropReturn line :: lines rest := by
  rw [lines, linesFrom_append h, linesFrom, if_pos (by decide), List.append_nil,
    List.reverse_reverse]
  rfl

/-- A text without a line feed is one line, unless it is empty. -/
theorem lines_of_notMem {line : List Char} (h : '\n' ∉ line) (hne : line ≠ []) :
    lines line = [line] := by
  have hlines := linesFrom_append h [] []
  rw [List.append_nil, List.append_nil, linesFrom, List.reverse_reverse,
    if_neg (by simpa using hne)] at hlines
  exact hlines

/-- Every text is empty, a last line, or a line, a line feed and a text. -/
theorem lines_induction {motive : List Char → Prop} (nil : motive [])
    (last : ∀ line, '\n' ∉ line → line ≠ [] → motive line)
    (line : ∀ line rest, '\n' ∉ line → motive rest → motive (line ++ '\n' :: rest))
    (text : List Char) : motive text := by
  induction hlength : text.length using Nat.strong_induction_on generalizing text with
  | _ length ih =>
    by_cases hmem : '\n' ∈ text
    · obtain ⟨first, rest, rfl, hfirst⟩ := List.eq_append_cons_of_mem hmem
      apply line first rest hfirst
      apply ih rest.length _ rest rfl
      rw [List.length_append, List.length_cons] at hlength
      omega
    · by_cases hne : text = []
      · exact hne ▸ nil
      · exact last text hmem hne

/-- The lines of a text in lower case are its lines in lower case. -/
theorem lines_lower (text : List Char) : lines (lower text) = (lines text).map lower := by
  have hnewline : ∀ line, '\n' ∉ line → '\n' ∉ lower line := fun line h hmem =>
    h (mem_of_mem_lowerAfter_divider (by decide) hmem)
  have hblank : isBlank '\n' = true := by decide
  induction text using lines_induction with
  | nil => rfl
  | last line hline hne =>
      rw [lines_of_notMem hline hne, lines_of_notMem (hnewline line hline) (lower_ne_nil hne)]
      rfl
  | line line rest hline ih =>
      have hlower : lower (line ++ '\n' :: rest) = lower line ++ '\n' :: lower rest := by
        rw [lower, lowerAfter_append [] line (startsCased_of_isBlank hblank rest), lowerAfter_cons,
          formAt_of_isSettled (isSettled_of_isBlank hblank),
          lowerAfter_eq_lower (startsCased_of_isBlank hblank _)]
        rfl
      rw [hlower, lines_append_cons (hnewline line hline), lines_append_cons hline, ih,
        dropReturn_lower]
      rfl

end LootSpawn.Text
