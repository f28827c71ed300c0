import LootSpawn.Proofs.Line.VectorForm

/-!
# Spawn lines

A reading of a line as a spawn is a division into `item`, a name and up to three clauses. A line
that is read as a spawn has a reading, no line has two, and a line with a reading is read as that
spawn unless a separator holds a sign that a number may hold: the search for the end of a vector
would pass such a sign.
-/

namespace LootSpawn

open Text Number

/-- A reading of a line as a spawn. -/
structure SpawnForm where
  equals : EqualsForm
  name : Name
  position : Option (ClauseForm VectorForm)
  rotation : Option (ClauseForm VectorForm)
  chance : Option (ClauseForm DecimalForm)

/-- The vector of a clause; the zero vector without one. -/
def vectorOf (clause : Option (ClauseForm VectorForm)) : Vector3 :=
  (clause.map fun clause => clause.value.vector).getD .zero

/-- The number of a clause; the default chance without one. -/
def chanceOf (clause : Option (ClauseForm DecimalForm)) : Single :=
  (clause.map fun clause => clause.value.number).getD defaultChance

namespace SpawnForm

/-- The line of a reading. -/
def text (form : SpawnForm) : List Char :=
  "item".toList ++ (form.equals.text ++ (form.name ++ (clauseText 'p' form.position ++
    (clauseText 'r' form.rotation ++ clauseText 'c' form.chance))))

/-- The spawn of a reading. -/
def line (form : SpawnForm) : Line :=
  .spawn (String.ofList form.name) (vectorOf form.position) (vectorOf form.rotation)
    (chanceOf form.chance)

def separators (form : SpawnForm) : List Separator :=
  (form.position.map (·.separator)).toList ++ ((form.rotation.map (·.separator)).toList ++
    (form.chance.map (·.separator)).toList)

end SpawnForm

/-! ## Unambiguity -/

theorem isWord_of_mem_keys {key : Char} (h : key ∈ ['p', 'r', 'c']) :
    isWord key = true ∧ isDigit key = false := by
  simp only [List.mem_cons, List.not_mem_nil, or_false] at h
  rcases h with rfl | rfl | rfl
  · decide
  · decide
  · decide

theorem continues_chance {allowed : Separator → Prop} {form : SpawnForm}
    (hallowed : ∀ separator ∈ form.separators, allowed separator) :
    Continues ['c'] allowed (clauseText 'c' form.chance) := by
  have hdone : Continues [] allowed [] := .done
  rw [← List.append_nil (clauseText 'c' form.chance)]
  exact hdone.clauseText_append 'c' form.chance fun _ hclause =>
    hallowed _ (by simp [SpawnForm.separators, Option.mem_def.mp hclause])

theorem continues_rotation {allowed : Separator → Prop} {form : SpawnForm}
    (hallowed : ∀ separator ∈ form.separators, allowed separator) :
    Continues ['r', 'c'] allowed (clauseText 'r' form.rotation ++ clauseText 'c' form.chance) :=
  (continues_chance hallowed).clauseText_append 'r' form.rotation fun _ hclause =>
    hallowed _ (by simp [SpawnForm.separators, Option.mem_def.mp hclause])

theorem continues_position {allowed : Separator → Prop} {form : SpawnForm}
    (hallowed : ∀ separator ∈ form.separators, allowed separator) :
    Continues ['p', 'r', 'c'] allowed (clauseText 'p' form.position ++
      (clauseText 'r' form.rotation ++ clauseText 'c' form.chance)) :=
  (continues_rotation hallowed).clauseText_append 'p' form.position fun _ hclause =>
    hallowed _ (by simp [SpawnForm.separators, Option.mem_def.mp hclause])

theorem Name.stops_isBlank (name : Name) (rest : List Char) : Stops isBlank (name.val ++ rest) := by
  obtain ⟨name, hne, hname⟩ := name
  obtain ⟨c, name, rfl⟩ := List.exists_cons_of_ne_nil hne
  exact stops_isBlank_of_isWord (name ++ rest) (hname c List.mem_cons_self)

/-- A line has at most one reading. -/
theorem SpawnForm.text_inj {first second : SpawnForm} (h : first.text = second.text) :
    first = second := by
  have hallowed : ∀ form : SpawnForm, ∀ separator ∈ form.separators, True := fun _ _ _ => trivial
  have hposition := continues_position (hallowed first)
  have hposition' := continues_position (hallowed second)
  have hrotation := continues_rotation (hallowed first)
  have hrotation' := continues_rotation (hallowed second)
  have hchance := continues_chance (hallowed first)
  have hchance' := continues_chance (hallowed second)
  obtain ⟨equals, name, position, rotation, chance⟩ := first
  obtain ⟨equals', name', position', rotation', chance'⟩ := second
  obtain ⟨rfl, hname⟩ := EqualsForm.text_append_inj (name.stops_isBlank _)
    (name'.stops_isBlank _) (List.append_cancel_left h)
  obtain ⟨hnames, hclauses⟩ := run_append_inj name.property.2 hposition.stops_isWord
    name'.property.2 hposition'.stops_isWord hname
  obtain rfl := Subtype.ext hnames
  obtain ⟨rfl, hclauses⟩ := clauseText_append_inj
    (fun _ hkey => isWord_of_mem_keys (List.mem_cons_of_mem 'p' hkey)) (by decide) (by decide)
    hrotation hrotation' hclauses
  obtain ⟨rfl, hclauses⟩ := clauseText_append_inj
    (fun _ hkey => isWord_of_mem_keys (List.mem_cons_of_mem 'p' (List.mem_cons_of_mem 'r' hkey)))
    (by decide) (by decide) hchance hchance' hclauses
  have hdone : Continues [] (fun _ => True) [] := .done
  obtain ⟨rfl, -⟩ := clauseText_append_inj (by simp) (by decide) (by simp) hdone hdone
    (congrArg (· ++ []) hclauses)
  rfl

/-! ## Completeness -/

/-- Nothing is read where a number stands behind an equals sign. -/
def RefusesNumbers {α : Type} (next : List Char → Option α) : Prop :=
  ∀ front digit rest, front ≠ [] → (∀ c ∈ front, isWord c = false) → isDigit digit = true →
    next (front ++ digit :: rest) = none

theorem afterSeparatedKey?_number {key digit : Char} {front rest : List Char}
    (hkey : isDigit key = false) (hfront : ∀ c ∈ front, isWord c = false)
    (hdigit : isDigit digit = true) : afterSeparatedKey? key (front ++ digit :: rest) = none := by
  apply afterSeparatedKey?_eq_none hfront (isWord_of_isDigit hdigit)
  rintro rfl
  rw [hdigit] at hkey
  cases hkey

theorem refusesNumbers_chance? : RefusesNumbers SpawnText.chance? := by
  intro front digit rest hne hfront hdigit
  rw [SpawnText.chance?, afterSeparatedKey?_number (by decide) hfront hdigit]
  simp

theorem refusesNumbers_vectorThen? {α : Type} {key : Char} {next : List Char → Option α}
    (hkey : isDigit key = false) (h : RefusesNumbers next) :
    RefusesNumbers (SpawnText.vectorThen? key next) := by
  intro front digit rest hne hfront hdigit
  rw [SpawnText.vectorThen?, afterSeparatedKey?_number hkey hfront hdigit,
    h front digit rest hne hfront hdigit]
  rfl

theorem chance?_clauseText (chance : Option (ClauseForm DecimalForm)) :
    SpawnText.chance? (clauseText 'c' chance) = some (chance.map (·.value.text)) := by
  cases chance with
  | none => rfl
  | some clause =>
      have hvalue := (afterSeparatedKey?_eq_some_iff (by decide) (clauseText 'c' (some clause))
        clause.value.text).mpr ⟨clause.separator, clause.equals, rfl, by
          simpa using clause.value.stops_isBlank []⟩
      have htoken := (wholeToken?_eq_some_iff clause.value.text clause.value.text).mpr
        ⟨rfl, clause.value.text_ne_nil, fun c hc => clause.value.isNumeric_of_mem_text hc⟩
      rw [SpawnText.chance?, hvalue]
      simp [clauseText, htoken]

theorem findSome?_append_cons {α β : Type} {f : α → Option β} {before after : List α} {a : α}
    {b : β} (hbefore : ∀ x ∈ before, f x = none) (ha : f a = some b) :
    (before ++ a :: after).findSome? f = some b := by
  rw [List.findSome?_append, List.findSome?_eq_none_iff.mpr hbefore, List.findSome?_cons, ha]
  rfl

/-- A vector of a reading is read up to its end: the places where a longer one could end leave a
rest that `next` refuses. -/
theorem vectorThen?_clauseText {α : Type} (key : Char) {keys tail : List Char}
    {next : List Char → Option α} {following : α} (hword : isWord key = true) (hkey : key ∉ keys)
    (hkeys : ∀ key ∈ keys, isWord key = true) (htail : Continues keys Separator.Plain tail)
    (hnext : next tail = some following) (hrefuses : RefusesNumbers next)
    (clause : Option (ClauseForm VectorForm)) :
    SpawnText.vectorThen? key next (clauseText key clause ++ tail) =
      some (clause.map (·.value.text), following) := by
  cases clause with
  | none =>
      rw [clauseText, List.nil_append, SpawnText.vectorThen?,
        htail.afterSeparatedKey?_eq_none hkeys hkey, hnext]
      rfl
  | some clause =>
      have hvalue := (afterSeparatedKey?_eq_some_iff hword (clauseText key (some clause) ++ tail)
        (clause.value.text ++ tail)).mpr ⟨clause.separator, clause.equals, by
          simp [clauseText, ClauseValue.text], ClauseValue.stops_isBlank clause.value tail⟩
      obtain ⟨shorter, hends⟩ := vectorEnds_text clause.value tail
      simp only [SpawnText.vectorThen?, hvalue, Option.bind_eq_bind, Option.bind_some, hends]
      rw [findSome?_append_cons (b := (some clause.value.text, following))]
      · rfl
      · -- A longer vector would take the key of the next clause, and what follows is refused.
        rintro ⟨size, rest⟩ hmem
        obtain ⟨front, digit, more, rfl, hne, hfront, hdigit⟩ :=
          htail.number_of_mem_vectorEndsFrom hmem
        simp only [hrefuses front digit more hne hfront hdigit, Option.map_none]
      · simp only [hnext, Option.map_some, List.take_left']

/-- A line with a reading has the shape of a spawn, unless a number may pass a separator. -/
theorem match?_text (form : SpawnForm) (hplain : ∀ separator ∈ form.separators, separator.Plain) :
    SpawnText.match? form.text = some ⟨form.name, form.position.map (·.value.text),
      form.rotation.map (·.value.text), form.chance.map (·.value.text)⟩ := by
  have hvalue := (afterKey?_eq_some_iff "item".toList form.text _).mpr
    ⟨form.equals, rfl, form.name.stops_isBlank _⟩
  have hname := (name?_eq_some_iff (form.name.val ++ _) form.name.val _).mpr
    ⟨form.name, rfl, rfl, (continues_position hplain).stops_isWord⟩
  have hrotation := vectorThen?_clauseText 'r' (by decide) (by decide)
    (fun _ hkey => (isWord_of_mem_keys
      (List.mem_cons_of_mem 'p' (List.mem_cons_of_mem 'r' hkey))).1)
    (continues_chance hplain) (chance?_clauseText form.chance) refusesNumbers_chance?
    form.rotation
  have hposition := vectorThen?_clauseText 'p' (by decide) (by decide)
    (fun _ hkey => (isWord_of_mem_keys (List.mem_cons_of_mem 'p' hkey)).1)
    (continues_rotation hplain) hrotation
    (refusesNumbers_vectorThen? (by decide) refusesNumbers_chance?) form.position
  simp only [SpawnText.match?, hvalue, Option.bind_eq_bind, Option.bind_some, hname,
    SpawnText.clauses?, hposition, Option.pure_def]

theorem readVector_map_text (clause : Option (ClauseForm VectorForm)) :
    readVector (clause.map (·.value.text)) = .ok (vectorOf clause) := by
  cases clause with
  | none => rfl
  | some clause => exact readVector_text clause.value

def readChance : Option (List Char) → Except LineFault Single
  | some token => readDecimal token
  | none => .ok defaultChance

theorem readChance_map_text (clause : Option (ClauseForm DecimalForm)) :
    readChance (clause.map (·.value.text)) = .ok (chanceOf clause) := by
  cases clause with
  | none => rfl
  | some clause => exact readDecimal_text clause.value

theorem toLine_eq (texts : SpawnText) :
    texts.toLine = do
      let chance ← readChance texts.chance
      let position ← readVector texts.position
      let rotation ← readVector texts.rotation
      return .spawn (String.ofList texts.name) position rotation chance := by
  obtain ⟨name, position, rotation, chance⟩ := texts
  cases chance with
  | _ => rfl

theorem toLine_texts (form : SpawnForm) :
    SpawnText.toLine ⟨form.name, form.position.map (·.value.text),
      form.rotation.map (·.value.text), form.chance.map (·.value.text)⟩ = .ok form.line := by
  simp only [toLine_eq, readVector_map_text, readChance_map_text]
  rfl

/-! ## Soundness -/

theorem exists_of_chance? {cs : List Char} {found : Option (List Char)} {number : Single}
    (h : SpawnText.chance? cs = some found)
    (hread : readChance found = .ok number) :
    ∃ clause : Option (ClauseForm DecimalForm),
      cs = clauseText 'c' clause ∧ number = chanceOf clause := by
  rw [SpawnText.chance?] at h
  split at h
  next hempty =>
    cases h
    exact ⟨none, List.isEmpty_iff.mp hempty, (Except.ok.inj hread).symm⟩
  next =>
    simp only [Option.bind_eq_bind, Option.bind_eq_some_iff, Option.pure_def,
      Option.some.injEq] at h
    obtain ⟨value, hvalue, token, htoken, rfl⟩ := h
    obtain ⟨separator, equals, rfl, -⟩ := (afterSeparatedKey?_eq_some_iff (by decide) _ _).mp hvalue
    obtain ⟨rfl, -, -⟩ := (wholeToken?_eq_some_iff _ _).mp htoken
    obtain ⟨form, rfl, rfl⟩ := (readDecimal_eq_ok_iff _ _).mp hread
    exact ⟨some ⟨separator, equals, form⟩, rfl, rfl⟩

theorem exists_of_vectorThen? {α : Type} {key : Char} (hword : isWord key = true)
    {next : List Char → Option α} {cs : List Char} {found : Option (List Char)} {following : α}
    {vector : Vector3} (h : SpawnText.vectorThen? key next cs = some (found, following))
    (hread : readVector found = .ok vector) :
    ∃ (clause : Option (ClauseForm VectorForm)) (tail : List Char),
      cs = clauseText key clause ++ tail ∧ next tail = some following ∧
      vector = vectorOf clause := by
  simp only [SpawnText.vectorThen?] at h
  split at h
  next result hpresent =>
    obtain rfl := Option.some.inj h
    simp only [Option.bind_eq_bind, Option.bind_eq_some_iff] at hpresent
    obtain ⟨value, hvalue, hfind⟩ := hpresent
    obtain ⟨separator, equals, rfl, hstops⟩ := (afterSeparatedKey?_eq_some_iff hword _ _).mp hvalue
    obtain ⟨⟨size, rest⟩, hmem, hnext⟩ := List.exists_of_findSome?_eq_some hfind
    obtain ⟨later, hlater, hpair⟩ := Option.map_eq_some_iff.mp hnext
    obtain ⟨rfl, rfl⟩ := Prod.mk.inj hpair
    obtain ⟨form, rfl, rfl⟩ := exists_form_of_mem_vectorEnds hstops hmem hread
    refine ⟨some ⟨separator, equals, form⟩, rest, ?_, hlater, rfl⟩
    simp [clauseText, ClauseValue.text]
  next =>
    obtain ⟨later, hlater, hpair⟩ := Option.map_eq_some_iff.mp h
    obtain ⟨rfl, rfl⟩ := Prod.mk.inj hpair
    exact ⟨none, cs, rfl, hlater, (Except.ok.inj hread).symm⟩

/-- A line with the shape of a spawn whose numbers are read has a reading. -/
theorem exists_of_match? {cs : List Char} {texts : SpawnText} {said : Line}
    (h : SpawnText.match? cs = some texts) (hread : texts.toLine = .ok said) :
    ∃ form : SpawnForm, form.text = cs ∧ form.line = said := by
  simp only [SpawnText.match?, Option.bind_eq_bind, Option.bind_eq_some_iff] at h
  obtain ⟨value, hvalue, ⟨name, rest⟩, hname, ⟨position, rotation, chance⟩, hclauses, htexts⟩ := h
  obtain rfl := Option.some.inj htexts
  simp only [toLine_eq, bind_eq_ok_iff] at hread
  obtain ⟨number, hchance, vector, hposition, turn, hrotation, hsaid⟩ := hread
  obtain ⟨equals, rfl, -⟩ := (afterKey?_eq_some_iff _ _ _).mp hvalue
  obtain ⟨name, rfl, rfl, -⟩ := (name?_eq_some_iff _ _ _).mp hname
  obtain ⟨clauseP, tail, rfl, hclauses, rfl⟩ :=
    exists_of_vectorThen? (by decide) hclauses hposition
  obtain ⟨clauseR, tail, rfl, hclauses, rfl⟩ :=
    exists_of_vectorThen? (by decide) hclauses hrotation
  obtain ⟨clauseC, rfl, rfl⟩ := exists_of_chance? hclauses hchance
  exact ⟨⟨equals, name, clauseP, clauseR, clauseC⟩, rfl, Except.ok.inj hsaid⟩

/-! ## Lines -/

theorem match?_of_read {raw : String} {prefab : String} {position rotation : Vector3}
    {chance : Single} (h : Line.read raw = .ok (some (.spawn prefab position rotation chance))) :
    ∃ texts, SpawnText.match? (Line.normalize raw) = some texts ∧
      texts.toLine = .ok (.spawn prefab position rotation chance) := by
  simp only [Line.read, Line.readTrying] at h
  split at h
  next => cases h
  next =>
    split at h
    next result hfind =>
      obtain ⟨shape, -, hshape⟩ := List.exists_of_findSome?_eq_some hfind
      have hresult : result = .ok (.spawn prefab position rotation chance) := by
        cases result with
        | error fault => cases h
        | ok said => rw [Option.some.inj (Except.ok.inj h)]
      subst hresult
      cases shape with
      | scene =>
          obtain ⟨name, -, hname⟩ := Option.map_eq_some_iff.mp hshape
          cases hname
      | tag =>
          obtain ⟨name, -, hname⟩ := Option.map_eq_some_iff.mp hshape
          cases hname
      | spawn => exact Option.map_eq_some_iff.mp hshape
      | lootTable =>
          obtain ⟨name, -, hname⟩ := Option.map_eq_some_iff.mp hshape
          cases hname
      | lootEntry =>
          obtain ⟨⟨name, token⟩, -, hweight⟩ := Option.map_eq_some_iff.mp hshape
          cases hread : readWeight token with
          | error fault =>
              simp only [hread] at hweight
              cases hweight
          | ok weight =>
              simp only [hread] at hweight
              cases hweight
    next => cases h

/-- No key but its own begins a line of the shape of a spawn. -/
theorem read_of_match? {raw : String} {rest : List Char} {texts : SpawnText} {said : Line}
    (hline : Line.normalize raw = "item".toList ++ rest)
    (hmatch : SpawnText.match? (Line.normalize raw) = some texts)
    (hread : texts.toLine = .ok said) : Line.read raw = .ok (some said) := by
  have hsilent : Line.isSilent (Line.normalize raw) = false := by
    rw [hline]
    rfl
  have hscene : Shape.scene.read? (Line.normalize raw) = none := by
    rw [hline]
    rfl
  have htag : Shape.tag.read? (Line.normalize raw) = none := by
    rw [hline]
    rfl
  have hspawn : Shape.spawn.read? (Line.normalize raw) = some (.ok said) := by
    rw [Shape.read?, hmatch, Option.map_some, hread]
  simp only [Line.read, Line.readTrying, hsilent, Shape.all, List.findSome?_cons, hscene, htag,
    hspawn, Bool.false_eq_true, if_false]
  rfl

/-- Spawn lines are read exactly. A line that is read as a spawn has a reading with that spawn, no
line has two readings, and a line with a reading whose separators hold no sign of a number is read
as the spawn of that reading. -/
theorem Line.read_spawn_exact (raw : String) :
    (∀ prefab position rotation chance,
      Line.read raw = .ok (some (.spawn prefab position rotation chance)) →
      ∃ form : SpawnForm, form.text = Line.normalize raw ∧
        form.line = .spawn prefab position rotation chance) ∧
    (∀ first second : SpawnForm, first.text = Line.normalize raw →
      second.text = Line.normalize raw → first = second) ∧
    (∀ form : SpawnForm, form.text = Line.normalize raw →
      (∀ separator ∈ form.separators, ∀ c ∈ separator.val, c ≠ '-' ∧ c ≠ '+' ∧ c ≠ '.') →
      Line.read raw = .ok (some form.line)) := by
  refine ⟨?_, ?_, ?_⟩
  · intro prefab position rotation chance h
    obtain ⟨texts, hmatch, hread⟩ := match?_of_read h
    exact exists_of_match? hmatch hread
  · intro first second hfirst hsecond
    exact SpawnForm.text_inj (hfirst.trans hsecond.symm)
  · intro form hform hsigns
    have hplain : ∀ separator ∈ form.separators, separator.Plain := by
      intro separator hseparator c hc
      obtain ⟨hminus, hplus, hpoint⟩ := hsigns separator hseparator c hc
      simp [isNumeric, separator.property.2 c hc, hminus, hplus, hpoint]
    apply read_of_match? hform.symm _ (toLine_texts form)
    rw [← hform]
    exact match?_text form hplain

def oneBlank : Blanks := ⟨[' '], List.forall_mem_singleton.mpr (by decide)⟩

def wholeForm (digits : List Char) (hdigits : IsDigits digits) : DecimalForm :=
  ⟨false, digits, none, hdigits, nofun⟩

/-- The reading of a line with a position and a chance, and with a comma before the chance that the
search for the end of the position passes. -/
def hatchetForm : SpawnForm where
  equals := ⟨oneBlank, oneBlank⟩
  name := ⟨"hatchet".toList, by decide, by rw [← List.all_eq_true]; decide⟩
  position := some ⟨⟨[' '], by decide, by rw [List.forall_mem_singleton]; decide⟩,
    ⟨oneBlank, oneBlank⟩,
    ⟨⟨true, ['1'], some ['5'], by decide, by decide⟩,
      wholeForm ['2'] (by decide), wholeForm ['3'] (by decide),
      ⟨[], nofun⟩, oneBlank, ⟨[], nofun⟩, oneBlank⟩⟩
  rotation := none
  chance := some ⟨⟨[',', ' '], by decide, by simp; decide⟩,
    ⟨oneBlank, oneBlank⟩, wholeForm ['5', '0'] (by decide)⟩

theorem Line.read_spawn_exact_hatchet :
    hatchetForm.text = Line.normalize " Item = Hatchet p = -1.5, 2, 3, c = 50" ∧
      Line.read " Item = Hatchet p = -1.5, 2, 3, c = 50" = .ok (some hatchetForm.line) := by
  have htext : hatchetForm.text = Line.normalize " Item = Hatchet p = -1.5, 2, 3, c = 50" := by
    decide +kernel
  refine ⟨htext, (Line.read_spawn_exact _).2.2 hatchetForm htext ?_⟩
  simp [SpawnForm.separators, hatchetForm]

/-- With a minus between commas before the chance, the position runs up to the minus. -/
example : Line.read "item = hatchet p = 1, 2, 3, -, c = 50" = .error (.vectorArity 4) := by
  rfl

end LootSpawn
