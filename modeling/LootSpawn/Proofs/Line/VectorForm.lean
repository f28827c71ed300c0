import LootSpawn.Proofs.Line.ClauseForm
import LootSpawn.Proofs.Number.DecimalForm
import LootSpawn.Line.Shape

/-!
# Vectors

A vector is three plain decimals with commas between them and blanks around the commas. Its text is
read as the three numbers, and a text that is read as three numbers is a vector. The scanner of
vectors finds the place where a vector ends, and past it only the places that lie behind the key of
the next clause.
-/

namespace LootSpawn

open Text Number

/-- A vector taken apart. -/
structure VectorForm where
  x : DecimalForm
  y : DecimalForm
  z : DecimalForm
  afterX : Blanks
  beforeY : Blanks
  afterY : Blanks
  beforeZ : Blanks

namespace VectorForm

def text (form : VectorForm) : List Char :=
  form.x.text ++ (form.afterX ++ ',' :: (form.beforeY ++
    (form.y.text ++ (form.afterY ++ ',' :: (form.beforeZ ++ form.z.text)))))

def vector (form : VectorForm) : Vector3 := ⟨form.x.number, form.y.number, form.z.number⟩

end VectorForm

/-! ## Division -/

theorem Blanks.ends_comma (blanks : Blanks) (rest : List Char) :
    DecimalForm.Ends (blanks ++ ',' :: rest) := by
  obtain ⟨blanks, hblanks⟩ := blanks
  cases blanks with
  | nil => exact ⟨stops_cons.mpr (by decide), nofun⟩
  | cons c blanks =>
      have hc := hblanks c List.mem_cons_self
      constructor
      · exact stops_cons.mpr (isDigit_of_not_isWord (isWord_of_isBlank hc))
      · intro digits h
        obtain ⟨rfl, -⟩ := List.cons.inj h
        exact absurd hc (by decide)

/-- A text begins with one vector only, if what follows does not continue a decimal. -/
theorem VectorForm.text_append_inj {first second : VectorForm} {rest rest' : List Char}
    (hrest : DecimalForm.Ends rest) (hrest' : DecimalForm.Ends rest')
    (h : first.text ++ rest = second.text ++ rest') : first = second ∧ rest = rest' := by
  have hcomma : ∀ cs, Stops isBlank (',' :: cs) := fun cs => stops_cons.mpr (by decide)
  obtain ⟨x, y, z, ⟨afterX, hafterX⟩, ⟨beforeY, hbeforeY⟩, ⟨afterY, hafterY⟩,
    ⟨beforeZ, hbeforeZ⟩⟩ := first
  obtain ⟨x', y', z', ⟨afterX', hafterX'⟩, ⟨beforeY', hbeforeY'⟩, ⟨afterY', hafterY'⟩,
    ⟨beforeZ', hbeforeZ'⟩⟩ := second
  simp only [VectorForm.text, List.append_assoc, List.cons_append] at h
  obtain ⟨rfl, h₁⟩ := DecimalForm.text_append_inj (Blanks.ends_comma ⟨afterX, hafterX⟩ _)
    (Blanks.ends_comma ⟨afterX', hafterX'⟩ _) h
  obtain ⟨rfl, h₂⟩ := run_append_inj hafterX (hcomma _) hafterX' (hcomma _) h₁
  obtain ⟨rfl, h₃⟩ := run_append_inj hbeforeY (y.stops_isBlank _) hbeforeY' (y'.stops_isBlank _)
    (List.cons.inj h₂).2
  obtain ⟨rfl, h₄⟩ := DecimalForm.text_append_inj (Blanks.ends_comma ⟨afterY, hafterY⟩ _)
    (Blanks.ends_comma ⟨afterY', hafterY'⟩ _) h₃
  obtain ⟨rfl, h₅⟩ := run_append_inj hafterY (hcomma _) hafterY' (hcomma _) h₄
  obtain ⟨rfl, h₆⟩ := run_append_inj hbeforeZ (z.stops_isBlank _) hbeforeZ' (z'.stops_isBlank _)
    (List.cons.inj h₅).2
  obtain ⟨rfl, hrests⟩ := DecimalForm.text_append_inj hrest hrest' h₆
  exact ⟨rfl, hrests⟩

instance : ClauseValue VectorForm where
  text := VectorForm.text
  exists_digit form := by
    obtain ⟨front, digit, rest, htext, hfront, hdigit⟩ := form.x.exists_digit
    have hvector : ∃ more, form.text = form.x.text ++ more := ⟨_, rfl⟩
    obtain ⟨more, hmore⟩ := hvector
    refine ⟨front, digit, rest ++ more, ?_, hfront, hdigit⟩
    rw [hmore, htext, List.append_assoc, List.cons_append]
  stops_isBlank form rest := by
    rw [VectorForm.text, List.append_assoc]
    exact form.x.stops_isBlank _
  text_append_inj := VectorForm.text_append_inj

/-! ## Reading -/

theorem bind_eq_ok_iff {α β : Type} {first : Except LineFault α} {next : α → Except LineFault β}
    {result : β} :
    first >>= next = .ok result ↔ ∃ value, first = .ok value ∧ next value = .ok result := by
  cases first with
  | error fault => simp [bind, Except.bind]
  | ok value => simp [bind, Except.bind]

theorem readDecimal_eq_ok_iff (token : List Char) (number : Single) :
    readDecimal token = .ok number ↔
      ∃ form : DecimalForm, form.text = token ∧ form.number = number := by
  rw [readDecimal]
  constructor
  · intro h
    split at h
    next decimal hplain =>
      obtain ⟨form, rfl, rfl⟩ := Decimal.exists_form_of_plain? hplain
      exact ⟨form, rfl, Except.ok.inj h⟩
    next => cases h
  · rintro ⟨form, rfl, rfl⟩
    rw [Decimal.plain?_text]
    rfl

theorem readDecimal_text (form : DecimalForm) : readDecimal form.text = .ok form.number :=
  (readDecimal_eq_ok_iff _ _).mpr ⟨form, rfl, rfl⟩

theorem splitCommas_of_notMem {cs : List Char} (h : ',' ∉ cs) : splitCommas cs = [cs] := by
  induction cs with
  | nil => rfl
  | cons c cs ih =>
      rw [List.mem_cons, not_or] at h
      rw [splitCommas, if_neg (by simpa using Ne.symm h.1), ih h.2]

theorem splitCommas_append {front rest : List Char} (h : ',' ∉ front) :
    splitCommas (front ++ ',' :: rest) = front :: splitCommas rest := by
  induction front with
  | nil => simp [splitCommas]
  | cons c front ih =>
      rw [List.mem_cons, not_or] at h
      rw [List.cons_append, splitCommas, if_neg (by simpa using Ne.symm h.1), ih h.2]

theorem splitCommas_ne_nil (cs : List Char) : splitCommas cs ≠ [] := by
  by_cases h : ',' ∈ cs
  · obtain ⟨front, rest, rfl, hfront⟩ := List.eq_append_cons_of_mem h
    rw [splitCommas_append hfront]
    exact List.cons_ne_nil _ _
  · rw [splitCommas_of_notMem h]
    exact List.cons_ne_nil _ _

theorem eq_append_of_splitCommas_eq_cons {cs first second : List Char} {more : List (List Char)}
    (h : splitCommas cs = first :: second :: more) :
    ∃ rest, cs = first ++ ',' :: rest ∧ splitCommas rest = second :: more := by
  by_cases hmem : ',' ∈ cs
  · obtain ⟨front, rest, rfl, hfront⟩ := List.eq_append_cons_of_mem hmem
    rw [splitCommas_append hfront] at h
    obtain ⟨rfl, hmore⟩ := List.cons.inj h
    exact ⟨rest, rfl, hmore⟩
  · rw [splitCommas_of_notMem hmem] at h
    cases h

theorem eq_of_splitCommas_eq_singleton {cs first : List Char} (h : splitCommas cs = [first]) :
    cs = first := by
  by_cases hmem : ',' ∈ cs
  · obtain ⟨front, rest, rfl, hfront⟩ := List.eq_append_cons_of_mem hmem
    rw [splitCommas_append hfront] at h
    exact absurd (List.cons.inj h).2 (splitCommas_ne_nil rest)
  · rw [splitCommas_of_notMem hmem] at h
    exact (List.cons.inj h).1

theorem notMem_comma_text (form : DecimalForm) : ',' ∉ form.text := by
  intro h
  exact absurd (form.isNumeric_of_mem_text h) (by decide)

theorem Blanks.notMem_comma (blanks : Blanks) : ',' ∉ blanks.val := by
  intro h
  exact absurd (blanks.property _ h) (by decide)

theorem trim_text (form : DecimalForm) (before after : Blanks) :
    trim (before ++ (form.text ++ after)) = form.text := by
  apply trim_append before.property _ after.property
  intro c hc
  exact form.isBlank_of_mem_text hc

theorem readVector_text (form : VectorForm) : readVector (some form.text) = .ok form.vector := by
  have hx : ',' ∉ form.x.text ++ form.afterX.val := by
    simp [notMem_comma_text, Blanks.notMem_comma]
  have hy : ',' ∉ form.beforeY.val ++ (form.y.text ++ form.afterY.val) := by
    simp [notMem_comma_text, Blanks.notMem_comma]
  have hz : ',' ∉ form.beforeZ.val ++ form.z.text := by
    simp [notMem_comma_text, Blanks.notMem_comma]
  have hsplit : splitCommas form.text = [form.x.text ++ form.afterX.val,
      form.beforeY.val ++ (form.y.text ++ form.afterY.val), form.beforeZ.val ++ form.z.text] := by
    rw [VectorForm.text, ← List.append_assoc, splitCommas_append hx,
      ← List.append_assoc form.y.text, ← List.append_assoc form.beforeY.val,
      splitCommas_append hy, splitCommas_of_notMem hz]
  have htrimX := trim_text form.x ⟨[], nofun⟩ form.afterX
  have htrimZ := trim_text form.z form.beforeZ ⟨[], nofun⟩
  rw [List.append_nil] at htrimZ
  rw [readVector, hsplit, List.map_cons, List.map_cons, List.map_cons, List.map_nil, htrimZ,
    trim_text form.y form.beforeY form.afterY]
  rw [List.nil_append] at htrimX
  rw [htrimX]
  simp only [readDecimal_text]
  rfl

/-- A text that is read as a vector consists of three texts around two commas, and each of them is
a decimal when trimmed. -/
theorem components_of_readVector {value : List Char} {vector : Vector3}
    (h : readVector (some value) = .ok vector) :
    ∃ (x y z : DecimalForm) (rawX rawY rawZ : List Char),
      value = rawX ++ ',' :: (rawY ++ ',' :: rawZ) ∧ trim rawX = x.text ∧ trim rawY = y.text ∧
      trim rawZ = z.text ∧ vector = ⟨x.number, y.number, z.number⟩ := by
  rw [readVector] at h
  split at h
  next x y z htrim =>
    simp only [bind_eq_ok_iff] at h
    obtain ⟨x', hx, y', hy, z', hz, hvector⟩ := h
    obtain ⟨formX, rfl, rfl⟩ := (readDecimal_eq_ok_iff _ _).mp hx
    obtain ⟨formY, rfl, rfl⟩ := (readDecimal_eq_ok_iff _ _).mp hy
    obtain ⟨formZ, rfl, rfl⟩ := (readDecimal_eq_ok_iff _ _).mp hz
    obtain ⟨rawX, raws, hsplit, htrimX, htrims⟩ := List.map_eq_cons_iff.mp htrim
    obtain ⟨rawY, raws, rfl, htrimY, htrims⟩ := List.map_eq_cons_iff.mp htrims
    obtain ⟨rawZ, rfl, htrimZ⟩ := List.map_eq_singleton_iff.mp htrims
    obtain ⟨restX, rfl, hsplitX⟩ := eq_append_of_splitCommas_eq_cons hsplit
    obtain ⟨restY, rfl, hsplitY⟩ := eq_append_of_splitCommas_eq_cons hsplitX
    obtain rfl := eq_of_splitCommas_eq_singleton hsplitY
    exact ⟨formX, formY, formZ, rawX, rawY, _, rfl, htrimX, htrimY, htrimZ,
      (Except.ok.inj hvector).symm⟩
  next => cases h

/-- A text that is read as three numbers is a vector, if no blanks stand at its ends. -/
theorem exists_form_of_readVector {value : List Char} {vector : Vector3}
    (hfirst : Stops isBlank value) (hlast : ∀ front c, value = front ++ [c] → isBlank c = false)
    (h : readVector (some value) = .ok vector) :
    ∃ form : VectorForm, form.text = value ∧ form.vector = vector := by
  obtain ⟨x, y, z, rawX, rawY, rawZ, rfl, htrimX, htrimY, htrimZ, rfl⟩ :=
    components_of_readVector h
  obtain ⟨beforeX, afterX, hbeforeX, hafterX, heqX⟩ := eq_trim_append rawX
  obtain ⟨beforeY, afterY, hbeforeY, hafterY, heqY⟩ := eq_trim_append rawY
  obtain ⟨beforeZ, afterZ, hbeforeZ, hafterZ, heqZ⟩ := eq_trim_append rawZ
  rw [htrimX] at heqX
  rw [htrimY] at heqY
  rw [htrimZ] at heqZ
  -- No blank stands before the first number or after the last one.
  obtain rfl : beforeX = [] := by
    cases beforeX with
    | nil => rfl
    | cons c beforeX =>
        have hc := hbeforeX c List.mem_cons_self
        rw [heqX, List.cons_append, List.cons_append] at hfirst
        rw [stops_cons.mp hfirst] at hc
        cases hc
  obtain rfl : afterZ = [] := by
    rcases List.eq_nil_or_concat afterZ with hnil | ⟨front, c, rfl⟩
    · exact hnil
    · have hc := hafterZ c (by simp)
      rw [hlast (rawX ++ ',' :: (rawY ++ ',' :: (beforeZ ++ (z.text ++ front)))) c
        (by simp [heqZ])] at hc
      cases hc
  refine ⟨⟨x, y, z, ⟨afterX, hafterX⟩, ⟨beforeY, hbeforeY⟩, ⟨afterY, hafterY⟩,
    ⟨beforeZ, hbeforeZ⟩⟩, ?_, rfl⟩
  rw [heqX, heqY, heqZ]
  simp [VectorForm.text]

/-! ## Ends -/

/-- The characters that a vector and the search for its end pass over. -/
def InVector (c : Char) : Prop := isNumeric c = true ∨ isBlank c = true ∨ c = ','

/-- A vector may end where the last character taken is numeric, and no other sign than a comma is
passed before. -/
theorem mem_vectorEndsFrom {place : VectorPlace} {read size : Nat} {ends : List (Nat × List Char)}
    {cs rest : List Char} (h : (size, rest) ∈ vectorEndsFrom place read ends cs) :
    (size, rest) ∈ ends ∨ ∃ front c, cs = front ++ c :: rest ∧ size = read + front.length + 1 ∧
      (∀ d ∈ front, InVector d) ∧ isNumeric c = true := by
  induction cs generalizing place read ends with
  | nil => exact Or.inl h
  | cons c cs ih =>
      -- A character that is passed stands in front of what is taken after it.
      have hnext : ∀ {place ends}, InVector c →
          (size, rest) ∈ vectorEndsFrom place (read + 1) ends cs → (size, rest) ∈ ends ∨
          ∃ front d, c :: cs = front ++ d :: rest ∧ size = read + front.length + 1 ∧
            (∀ d ∈ front, InVector d) ∧ isNumeric d = true := by
        intro place ends hc hmem
        rcases ih hmem with hends | ⟨front, d, rfl, rfl, hfront, hd⟩
        · exact Or.inl hends
        · refine Or.inr ⟨c :: front, d, rfl, by simp; omega, ?_, hd⟩
          exact List.forall_mem_cons.mpr ⟨hc, hfront⟩
      rw [vectorEndsFrom] at h
      split at h
      next hc =>
        simp only [Bool.and_eq_true] at hc
        rcases hnext (Or.inl hc.1) h with hends | hlater
        · rcases List.mem_cons.mp hends with heq | hends
          · obtain ⟨rfl, rfl⟩ := Prod.mk.inj heq
            exact Or.inr ⟨[], c, rfl, rfl, nofun, hc.1⟩
          · exact Or.inl hends
        · exact Or.inr hlater
      next =>
        split at h
        next hc => exact hnext (Or.inr (Or.inl hc)) h
        next =>
          split at h
          next hc =>
            simp only [Bool.and_eq_true, beq_iff_eq] at hc
            exact hnext (Or.inr (Or.inr hc.1)) h
          next => exact Or.inl h

/-- Where the text up to a possible end is read as a vector, that text is one. -/
theorem exists_form_of_mem_vectorEnds {value rest : List Char} {size : Nat} {vector : Vector3}
    (hvalue : Stops isBlank value) (h : (size, rest) ∈ vectorEnds value)
    (hread : readVector (some (value.take size)) = .ok vector) :
    ∃ form : VectorForm, value = form.text ++ rest ∧ vector = form.vector := by
  rcases mem_vectorEndsFrom h with hnil | ⟨front, c, rfl, rfl, -, hc⟩
  · cases hnil
  have htake : (front ++ c :: rest).take (0 + front.length + 1) = front ++ [c] := by
    rw [List.append_cons, List.take_left' (by simp)]
  have hfirst : Stops isBlank (front ++ [c]) := by
    intro d hd
    apply hvalue d
    rw [List.append_cons, List.head?_append_of_ne_nil _ (by simp)]
    exact hd
  -- The text ends with the numeric character that the search took last.
  have hlast : ∀ before d, front ++ [c] = before ++ [d] → isBlank d = false := by
    intro before d hd
    obtain ⟨-, rfl⟩ := List.append_singleton_inj.mp hd
    exact isBlank_of_isNumeric hc
  rw [htake] at hread
  obtain ⟨form, htext, rfl⟩ := exists_form_of_readVector hfirst hlast hread
  refine ⟨form, ?_, rfl⟩
  rw [List.append_cons, htext]

/-- The places found before stay behind the ones found later. -/
theorem vectorEndsFrom_eq_append (place : VectorPlace) (read : Nat)
    (ends : List (Nat × List Char)) (cs : List Char) :
    vectorEndsFrom place read ends cs = vectorEndsFrom place read [] cs ++ ends := by
  induction cs generalizing place read ends with
  | nil => rfl
  | cons c cs ih =>
      rw [vectorEndsFrom, vectorEndsFrom]
      split
      next =>
        rw [ih _ _ (_ :: ends), ih _ _ [_], List.append_assoc]
        rfl
      next =>
        split
        next => exact ih _ _ _
        next =>
          split
          next => exact ih _ _ _
          next => rfl

theorem vectorEndsFrom_token (place : VectorPlace) (hplace : place ≠ .after) (read : Nat)
    (ends : List (Nat × List Char)) {token : List Char} (hne : token ≠ [])
    (hnumeric : ∀ c ∈ token, isNumeric c = true) (tail : List Char) :
    ∃ shorter, vectorEndsFrom place read ends (token ++ tail) =
      vectorEndsFrom .inside (read + token.length) ((read + token.length, tail) :: shorter)
        tail := by
  induction token generalizing place read ends with
  | nil => exact absurd rfl hne
  | cons c token ih =>
      have hstep : vectorEndsFrom place read ends (c :: token ++ tail) =
          vectorEndsFrom .inside (read + 1) ((read + 1, token ++ tail) :: ends)
            (token ++ tail) := by
        rw [List.cons_append, vectorEndsFrom, if_pos]
        simp [hnumeric c List.mem_cons_self, hplace]
      rw [hstep]
      cases token with
      | nil => exact ⟨ends, rfl⟩
      | cons d token =>
          obtain ⟨shorter, hshorter⟩ := ih .inside (by decide) (read + 1)
            ((read + 1, d :: token ++ tail) :: ends) (List.cons_ne_nil d token)
            fun e he => hnumeric e (List.mem_cons_of_mem c he)
          refine ⟨shorter, ?_⟩
          rw [hshorter, List.length_cons (a := c), Nat.add_right_comm, Nat.add_assoc read]

theorem vectorEndsFrom_before (read : Nat) (ends : List (Nat × List Char)) (blanks : Blanks)
    (tail : List Char) :
    vectorEndsFrom .before read ends (blanks ++ tail) =
      vectorEndsFrom .before (read + blanks.val.length) ends tail := by
  obtain ⟨blanks, hblanks⟩ := blanks
  induction blanks generalizing read with
  | nil => rfl
  | cons c blanks ih =>
      have hc := hblanks c List.mem_cons_self
      simp only at ih ⊢
      rw [List.cons_append, vectorEndsFrom, isNumeric_of_isBlank hc, hc]
      simp only [Bool.false_and, Bool.false_eq_true, if_false, if_true, beq_self_eq_true]
      rw [ih (read + 1) fun d hd => hblanks d (List.mem_cons_of_mem c hd), List.length_cons,
        Nat.add_right_comm, Nat.add_assoc read]

theorem vectorEndsFrom_comma {place : VectorPlace} (hplace : place ≠ .before) (read : Nat)
    (ends : List (Nat × List Char)) (blanks : Blanks) (tail : List Char) :
    vectorEndsFrom place read ends (blanks ++ ',' :: tail) =
      vectorEndsFrom .before (read + blanks.val.length + 1) ends tail := by
  obtain ⟨blanks, hblanks⟩ := blanks
  induction blanks generalizing place read with
  | nil =>
      have hnumeric : isNumeric ',' = false := by decide
      have hblank : isBlank ',' = false := by decide
      rw [List.nil_append, vectorEndsFrom, hnumeric, hblank]
      simp [hplace]
  | cons c blanks ih =>
      have hc := hblanks c List.mem_cons_self
      simp only at ih ⊢
      rw [List.cons_append, vectorEndsFrom, isNumeric_of_isBlank hc, hc]
      simp only [Bool.false_and, Bool.false_eq_true, if_false, if_true]
      rw [if_neg (by simpa using hplace), ih (by decide) (read + 1) fun d hd =>
        hblanks d (List.mem_cons_of_mem c hd), List.length_cons,
        Nat.add_right_comm read 1, Nat.add_assoc read]

/-- A vector may end after its third number, and any longer one is found in what follows. -/
theorem vectorEnds_text (form : VectorForm) (tail : List Char) :
    ∃ shorter, vectorEnds (form.text ++ tail) =
      vectorEndsFrom .inside form.text.length [] tail ++ (form.text.length, tail) :: shorter := by
  -- The three numbers are passed in turn, each after the comma and the blanks before it.
  have htoken : ∀ (form : DecimalForm) read ends tail, ∃ shorter,
      vectorEndsFrom .before read ends (form.text ++ tail) =
        vectorEndsFrom .inside (read + form.text.length)
          ((read + form.text.length, tail) :: shorter) tail :=
    fun form read ends tail => vectorEndsFrom_token .before (by decide) read ends
      form.text_ne_nil (fun _ hc => form.isNumeric_of_mem_text hc) tail
  have hlength : form.text.length = 0 + form.x.text.length + form.afterX.val.length + 1 +
      form.beforeY.val.length + form.y.text.length + form.afterY.val.length + 1 +
      form.beforeZ.val.length + form.z.text.length := by
    simp only [VectorForm.text, List.length_append, List.length_cons]
    omega
  simp only [vectorEnds, hlength]
  simp only [VectorForm.text, List.append_assoc, List.cons_append]
  obtain ⟨shorterX, hx⟩ := htoken form.x 0 [] _
  rw [hx, vectorEndsFrom_comma (by decide), vectorEndsFrom_before]
  obtain ⟨shorterY, hy⟩ := htoken form.y _ _ _
  rw [hy, vectorEndsFrom_comma (by decide), vectorEndsFrom_before]
  obtain ⟨shorterZ, hz⟩ := htoken form.z _ _ _
  rw [hz, vectorEndsFrom_eq_append]
  exact ⟨_, rfl⟩

/-- A separator that no vector runs into. -/
def Separator.Plain (separator : Separator) : Prop := ∀ c ∈ separator.val, isNumeric c = false

/-- Before a clause after such a separator, a vector ends no later than at the key. -/
theorem rest_of_mem_vectorEndsFrom {place : VectorPlace} {read size : Nat} {separator : Separator}
    (hplain : separator.Plain) {key : Char} {equals : EqualsForm} {value rest : List Char}
    (h : (size, rest) ∈ vectorEndsFrom place read []
      (separator ++ key :: (equals.text ++ value))) : rest = equals.text ++ value := by
  obtain ⟨⟨before, hbefore⟩, after⟩ := equals
  simp only [EqualsForm.text, List.append_assoc, List.cons_append] at h ⊢
  rcases mem_vectorEndsFrom h with hnil | ⟨front, c, heq, -, hfront, hc⟩
  · cases hnil
  -- The last character taken is numeric, so it stands neither in the separator nor in the blanks,
  -- and the search does not pass the equals sign.
  rcases append_cons_cases heq with hmem | ⟨-, -, hrest⟩ | ⟨between, rfl, hbetween⟩
  · rw [hplain c hmem] at hc
    cases hc
  · exact hrest.symm
  rcases append_cons_cases hbetween with hmem | ⟨-, rfl, -⟩ | ⟨passed, rfl, -⟩
  · rw [isNumeric_of_isBlank (hbefore c hmem)] at hc
    cases hc
  · exact absurd hc (by decide)
  · rcases hfront '=' (by simp) with hpassed | hpassed | hpassed
    · exact absurd hpassed (by decide)
    · exact absurd hpassed (by decide)
    · exact absurd hpassed (by decide)

theorem EqualsForm.isWord_of_mem_text {equals : EqualsForm} {c : Char} (h : c ∈ equals.text) :
    isWord c = false := by
  rcases List.mem_append.mp h with h | h
  · exact isWord_of_isBlank (equals.before.property c h)
  · rcases List.mem_cons.mp h with rfl | h
    · decide
    · exact isWord_of_isBlank (equals.after.property c h)

/-- Past the place where the clauses go on a vector would end where a number stands. -/
theorem Continues.number_of_mem_vectorEndsFrom {keys : List Char} {place : VectorPlace}
    {read size : Nat} {cs rest : List Char} (hcs : Continues keys Separator.Plain cs)
    (h : (size, rest) ∈ vectorEndsFrom place read [] cs) :
    ∃ front digit more, rest = front ++ digit :: more ∧ front ≠ [] ∧
      (∀ c ∈ front, isWord c = false) ∧ isDigit digit = true := by
  cases hcs with
  | done => cases h
  | clause separator key equals front digit more hallowed hkey hfront hdigit =>
      refine ⟨equals.text ++ front, digit, more, ?_, ?_, ?_, hdigit⟩
      · rw [rest_of_mem_vectorEndsFrom hallowed h, List.append_assoc]
      · simp [EqualsForm.text]
      · intro c hc
        rcases List.mem_append.mp hc with hc | hc
        · exact EqualsForm.isWord_of_mem_text hc
        · exact hfront c hc

end LootSpawn
