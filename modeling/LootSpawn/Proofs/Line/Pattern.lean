import LootSpawn.Proofs.Line.VectorForm

/-!
# Patterns

A pattern describes the texts that a part of a line may be, without a word on how they are found.
The readers of clauses find them: where a reader decides how far a part goes, the text leaves it no
other choice, and where there is a choice, at the end of a vector, the reader tries all of them.
-/

namespace LootSpawn

open Text

/-- A regular description of texts. -/
inductive Pattern where
  | text (cs : List Char)
  | any (kind : Char → Bool)
  | run (kind : Char → Bool)
  | append (first second : Pattern)
  | optional (body : Pattern)
  | many (body : Pattern)

namespace Pattern

instance : Append Pattern := ⟨append⟩

/-- The pattern describes the text. A run has at least one character, and what is optional may be
empty. -/
def Matches : Pattern → List Char → Prop
  | text cs, line => line = cs
  | any kind, line => ∀ c ∈ line, kind c = true
  | run kind, line => line ≠ [] ∧ ∀ c ∈ line, kind c = true
  | append first second, line =>
      ∃ front rest, line = front ++ rest ∧ first.Matches front ∧ second.Matches rest
  | optional body, line => line = [] ∨ body.Matches line
  | many body, line =>
      ∃ parts : List (List Char), line = parts.flatten ∧ ∀ part ∈ parts, body.Matches part

theorem append_assoc {first second third : Pattern} {line : List Char} :
    (first ++ second ++ third).Matches line ↔ (first ++ (second ++ third)).Matches line := by
  constructor
  · rintro ⟨_, rest, rfl, ⟨front, middle, rfl, hfront, hmiddle⟩, hrest⟩
    exact ⟨front, middle ++ rest, List.append_assoc _ _ _, hfront, middle, rest, rfl, hmiddle,
      hrest⟩
  · rintro ⟨front, _, rfl, hfront, middle, rest, rfl, hmiddle, hrest⟩
    exact ⟨front ++ middle, rest, (List.append_assoc _ _ _).symm,
      ⟨front, middle, rfl, hfront, hmiddle⟩, hrest⟩

/-- An optional part in front is there or not. -/
theorem optional_append {body rest : Pattern} {line : List Char} :
    (optional body ++ rest).Matches line ↔ (body ++ rest).Matches line ∨ rest.Matches line := by
  constructor
  · rintro ⟨front, tail, rfl, rfl | hfront, htail⟩
    · exact Or.inr htail
    · exact Or.inl ⟨front, tail, rfl, hfront, htail⟩
  · rintro (⟨front, tail, rfl, hfront, htail⟩ | h)
    · exact ⟨front, tail, rfl, Or.inr hfront, htail⟩
    · exact ⟨[], line, rfl, Or.inl rfl, h⟩

/-- No text of the pattern begins with a character of the class. -/
def Spares (pattern : Pattern) (kind : Char → Bool) : Prop :=
  ∀ line, pattern.Matches line → Stops kind line

/-! ## The parts of a line -/

def blanks : Pattern := any isBlank

def name : Pattern := run isWord

/-- An equals sign with blanks around it. -/
def equals : Pattern := blanks ++ text ['='] ++ blanks

def keyed (key : List Char) (value : Pattern) : Pattern := text key ++ equals ++ value

/-- A clause after its separator. -/
def clause (key : Char) (value : Pattern) : Pattern :=
  run (fun c => !isWord c) ++ keyed [key] value

def token : Pattern := run isNumeric

/-- Tokens with single commas between them and blanks around the commas. -/
def vector : Pattern := token ++ many (blanks ++ text [','] ++ blanks ++ token)

theorem matches_equals {line : List Char} :
    equals.Matches line ↔ ∃ form : EqualsForm, line = form.text := by
  constructor
  · rintro ⟨_, after, rfl, ⟨before, _, rfl, hbefore, rfl⟩, hafter⟩
    exact ⟨⟨⟨before, hbefore⟩, ⟨after, hafter⟩⟩, by simp [EqualsForm.text]⟩
  · rintro ⟨⟨⟨before, hbefore⟩, ⟨after, hafter⟩⟩, rfl⟩
    exact ⟨before ++ ['='], after, by simp [EqualsForm.text], ⟨before, ['='], rfl, hbefore, rfl⟩,
      hafter⟩

theorem keyed_append {key : List Char} {value next : Pattern} {line : List Char} :
    (keyed key value ++ next).Matches line ↔ (keyed key (value ++ next)).Matches line :=
  append_assoc

theorem clause_append {key : Char} {value next : Pattern} {line : List Char} :
    (clause key value ++ next).Matches line ↔ (clause key (value ++ next)).Matches line := by
  rw [clause, append_assoc]
  constructor
  · rintro ⟨separator, rest, rfl, hseparator, hrest⟩
    exact ⟨separator, rest, rfl, hseparator, keyed_append.mp hrest⟩
  · rintro ⟨separator, rest, rfl, hseparator, hrest⟩
    exact ⟨separator, rest, rfl, hseparator, keyed_append.mpr hrest⟩

theorem Spares.run {kind other : Char → Bool} (hother : ∀ c, kind c = true → other c = false) :
    (run kind).Spares other := by
  rintro line ⟨hne, hline⟩
  simpa using Stops.append_of_ne_nil [] hne fun c hc => hother c (hline c hc)

/-- A run at the front has a first character, so what follows it does not matter. -/
theorem Spares.run_append {kind other : Char → Bool} {next : Pattern}
    (hother : ∀ c, kind c = true → other c = false) : (Pattern.run kind ++ next).Spares other := by
  rintro _ ⟨front, rest, rfl, ⟨hne, hfront⟩, -⟩
  exact Stops.append_of_ne_nil rest hne fun c hc => hother c (hfront c hc)

/-! ## Reading -/

theorem keyed_iff {key : List Char} {value : Pattern} (hvalue : value.Spares isBlank)
    {line : List Char} :
    (keyed key value).Matches line ↔
      ∃ rest, afterKey? key line = some rest ∧ value.Matches rest := by
  rw [keyed, append_assoc]
  constructor
  · rintro ⟨_, _, rfl, rfl, front, rest, rfl, hequals, hrest⟩
    obtain ⟨form, rfl⟩ := matches_equals.mp hequals
    exact ⟨rest, (afterKey?_eq_some_iff _ _ _).mpr ⟨form, rfl, hvalue rest hrest⟩, hrest⟩
  · rintro ⟨rest, hafter, hrest⟩
    obtain ⟨form, rfl, -⟩ := (afterKey?_eq_some_iff _ _ _).mp hafter
    exact ⟨key, form.text ++ rest, rfl, rfl, form.text, rest, rfl, matches_equals.mpr ⟨form, rfl⟩,
      hrest⟩

theorem clause_iff {key : Char} (hkey : isWord key = true) {value : Pattern}
    (hvalue : value.Spares isBlank) {line : List Char} :
    (clause key value).Matches line ↔
      ∃ rest, afterSeparatedKey? key line = some rest ∧ value.Matches rest := by
  constructor
  · rintro ⟨separator, _, rfl, ⟨hne, hseparator⟩, hkeyed⟩
    obtain ⟨rest, hafter, hrest⟩ := (keyed_iff hvalue).mp hkeyed
    obtain ⟨form, rfl, hstops⟩ := (afterKey?_eq_some_iff _ _ _).mp hafter
    refine ⟨rest, (afterSeparatedKey?_eq_some_iff hkey _ _).mpr ⟨⟨separator, hne, ?_⟩, form, rfl,
      hstops⟩, hrest⟩
    intro c hc
    simpa using hseparator c hc
  · rintro ⟨rest, hafter, hrest⟩
    obtain ⟨⟨separator, hne, hseparator⟩, form, rfl, hstops⟩ :=
      (afterSeparatedKey?_eq_some_iff hkey _ _).mp hafter
    refine ⟨separator, key :: (form.text ++ rest), rfl, ⟨hne, ?_⟩, ?_⟩
    · intro c hc
      simp [hseparator c hc]
    · exact (keyed_iff hvalue).mpr
        ⟨rest, (afterKey?_eq_some_iff _ _ _).mpr ⟨form, rfl, hstops⟩, hrest⟩

theorem name_append_iff {next : Pattern} (hnext : next.Spares isWord) {line : List Char} :
    (name ++ next).Matches line ↔
      ∃ front rest, name? line = some (front, rest) ∧ next.Matches rest := by
  constructor
  · rintro ⟨front, rest, rfl, hfront, hrest⟩
    exact ⟨front, rest, (name?_eq_some_iff _ _ _).mpr ⟨⟨front, hfront⟩, rfl, rfl, hnext rest hrest⟩,
      hrest⟩
  · rintro ⟨front, rest, hname, hrest⟩
    obtain ⟨⟨_, hform⟩, rfl, rfl, -⟩ := (name?_eq_some_iff _ _ _).mp hname
    exact ⟨_, rest, rfl, hform, hrest⟩

theorem name_iff {line : List Char} :
    name.Matches line ↔ ∃ front, name? line = some (front, []) := by
  constructor
  · intro h
    exact ⟨line, (name?_eq_some_iff _ _ _).mpr ⟨⟨line, h⟩, rfl, (List.append_nil line).symm,
      stops_nil⟩⟩
  · rintro ⟨front, hname⟩
    obtain ⟨⟨_, hform⟩, rfl, rfl, -⟩ := (name?_eq_some_iff _ _ _).mp hname
    rw [List.append_nil]
    exact hform

theorem token_iff {line : List Char} : token.Matches line ↔ (wholeToken? line).isSome = true := by
  rw [Option.isSome_iff_exists]
  constructor
  · rintro ⟨hne, hline⟩
    exact ⟨line, (wholeToken?_eq_some_iff _ _).mpr ⟨rfl, hne, hline⟩⟩
  · rintro ⟨_, htoken⟩
    exact ((wholeToken?_eq_some_iff _ _).mp htoken).2

/-! ## Vectors -/

theorem vector_of_token {line : List Char} (h : token.Matches line) : vector.Matches line :=
  ⟨line, [], (List.append_nil line).symm, h, [], rfl, nofun⟩

theorem vector_of_comma {front after before rest : List Char} (hfront : token.Matches front)
    (hafter : blanks.Matches after) (hbefore : blanks.Matches before)
    (hrest : vector.Matches rest) :
    vector.Matches (front ++ (after ++ ',' :: (before ++ rest))) := by
  obtain ⟨first, _, rfl, hfirst, parts, rfl, hparts⟩ := hrest
  refine ⟨front, _, rfl, hfront, (after ++ ',' :: (before ++ first)) :: parts, by simp, ?_⟩
  refine List.forall_mem_cons.mpr ⟨?_, hparts⟩
  exact ⟨after ++ [','] ++ before, first, by simp, ⟨after ++ [','], before, rfl,
    ⟨after, [','], rfl, hafter, rfl⟩, hbefore⟩, hfirst⟩

theorem vector_induction {motive : List Char → Prop}
    (one : ∀ front, token.Matches front → motive front)
    (comma : ∀ front after before rest, token.Matches front → blanks.Matches after →
      blanks.Matches before → vector.Matches rest → motive rest →
      motive (front ++ (after ++ ',' :: (before ++ rest))))
    {line : List Char} (h : vector.Matches line) : motive line := by
  obtain ⟨front, _, rfl, hfront, parts, rfl, hparts⟩ := h
  induction parts generalizing front with
  | nil =>
      rw [List.flatten_nil, List.append_nil]
      exact one front hfront
  | cons part parts ih =>
      rw [List.forall_mem_cons] at hparts
      obtain ⟨⟨_, first, rfl, ⟨_, before, rfl, ⟨after, _, rfl, hafter, rfl⟩, hbefore⟩, hfirst⟩,
        hparts⟩ := hparts
      have hrest : vector.Matches (first ++ parts.flatten) :=
        ⟨first, _, rfl, hfirst, parts, rfl, hparts⟩
      simpa using comma front after before _ hfront hafter hbefore hrest (ih first hfirst hparts)

/-- The text takes a vector from the place to its end. -/
def Completes : VectorPlace → List Char → Prop
  | .before, rest => (blanks ++ vector).Matches rest
  | .inside, rest => ∀ front, token.Matches front → vector.Matches (front ++ rest)
  | .after, rest => ∀ front after, token.Matches front → blanks.Matches after →
      vector.Matches (front ++ (after ++ rest))

theorem token_singleton {c : Char} (hc : isNumeric c = true) : token.Matches [c] :=
  ⟨List.cons_ne_nil c [], List.forall_mem_singleton.mpr hc⟩

theorem token_concat {front : List Char} {c : Char} (hfront : token.Matches front)
    (hc : isNumeric c = true) : token.Matches (front ++ [c]) := by
  refine ⟨List.append_ne_nil_of_left_ne_nil hfront.1 [c], ?_⟩
  exact List.forall_mem_append.mpr ⟨hfront.2, List.forall_mem_singleton.mpr hc⟩

theorem completes_singleton {place : VectorPlace} (hplace : place ≠ .after) {c : Char}
    (hc : isNumeric c = true) : Completes place [c] := by
  cases place with
  | before => exact ⟨[], [c], rfl, nofun, vector_of_token (token_singleton hc)⟩
  | inside =>
      intro front hfront
      exact vector_of_token (token_concat hfront hc)
  | after => exact absurd rfl hplace

theorem completes_numeric {place : VectorPlace} (hplace : place ≠ .after) {c : Char}
    (hc : isNumeric c = true) {rest : List Char} (h : Completes .inside rest) :
    Completes place (c :: rest) := by
  cases place with
  | before => exact ⟨[], c :: rest, rfl, nofun, h [c] (token_singleton hc)⟩
  | inside =>
      intro front hfront
      rw [List.append_cons]
      exact h (front ++ [c]) (token_concat hfront hc)
  | after => exact absurd rfl hplace

theorem completes_blank {place : VectorPlace} {c : Char} (hc : isBlank c = true)
    {rest : List Char} (h : Completes (if place == .before then .before else .after) rest) :
    Completes place (c :: rest) := by
  cases place with
  | before =>
      obtain ⟨front, line, rfl, hfront, hline⟩ := h
      exact ⟨c :: front, line, rfl, List.forall_mem_cons.mpr ⟨hc, hfront⟩, hline⟩
  | inside =>
      intro front hfront
      exact h front [c] hfront (List.forall_mem_singleton.mpr hc)
  | after =>
      intro front after hfront hafter
      rw [List.append_cons]
      exact h front (after ++ [c]) hfront
        (List.forall_mem_append.mpr ⟨hafter, List.forall_mem_singleton.mpr hc⟩)

theorem completes_comma {place : VectorPlace} (hplace : place ≠ .before) {rest : List Char}
    (h : Completes .before rest) : Completes place (',' :: rest) := by
  obtain ⟨before, line, rfl, hbefore, hline⟩ := h
  cases place with
  | before => exact absurd rfl hplace
  | inside =>
      intro front hfront
      exact @vector_of_comma front [] before line hfront nofun hbefore hline
  | after =>
      intro front after hfront hafter
      exact vector_of_comma hfront hafter hbefore hline

/-- Every place that is found ends a vector. -/
theorem completes_of_mem_vectorEndsFrom {place : VectorPlace} {read size : Nat}
    {ends : List (Nat × List Char)} {cs rest : List Char}
    (h : (size, rest) ∈ vectorEndsFrom place read ends cs) :
    (size, rest) ∈ ends ∨ ∃ front, cs = front ++ rest ∧ Completes place front := by
  induction cs generalizing place read ends with
  | nil => exact Or.inl h
  | cons c cs ih =>
      rw [vectorEndsFrom] at h
      split at h
      next hc =>
        simp only [Bool.and_eq_true, bne_iff_ne] at hc
        rcases ih h with hends | ⟨front, rfl, hfront⟩
        · rcases List.mem_cons.mp hends with heq | hends
          · obtain ⟨rfl, rfl⟩ := Prod.mk.inj heq
            exact Or.inr ⟨[c], rfl, completes_singleton hc.2 hc.1⟩
          · exact Or.inl hends
        · exact Or.inr ⟨c :: front, rfl, completes_numeric hc.2 hc.1 hfront⟩
      next =>
        split at h
        next hc =>
          rcases ih h with hends | ⟨front, rfl, hfront⟩
          · exact Or.inl hends
          · exact Or.inr ⟨c :: front, rfl, completes_blank hc hfront⟩
        next =>
          split at h
          next hc =>
            simp only [Bool.and_eq_true, beq_iff_eq, bne_iff_ne] at hc
            obtain ⟨rfl, hplace⟩ := hc
            rcases ih h with hends | ⟨front, rfl, hfront⟩
            · exact Or.inl hends
            · exact Or.inr ⟨',' :: front, rfl, completes_comma hplace hfront⟩
          next => exact Or.inl h

/-- The end of every vector is found. -/
theorem mem_vectorEndsFrom_of_vector {front : List Char} (h : vector.Matches front) (read : Nat)
    (ends : List (Nat × List Char)) (rest : List Char) :
    (read + front.length, rest) ∈ vectorEndsFrom .before read ends (front ++ rest) := by
  refine vector_induction (motive := fun front => ∀ read ends,
    (read + front.length, rest) ∈ vectorEndsFrom .before read ends (front ++ rest))
    ?_ ?_ h read ends
  · intro front hfront read ends
    obtain ⟨shorter, hends⟩ :=
      vectorEndsFrom_token .before (by decide) read ends hfront.1 hfront.2 rest
    rw [hends, vectorEndsFrom_eq_append]
    exact List.mem_append_right _ List.mem_cons_self
  · intro front after before line hfront hafter hbefore _ ih read ends
    -- The first token, the comma and the blanks around it are passed, and what is left is a vector.
    obtain ⟨shorter, hends⟩ := vectorEndsFrom_token .before (by decide) read ends hfront.1 hfront.2
      (after ++ ',' :: (before ++ (line ++ rest)))
    have hcomma := @vectorEndsFrom_comma .inside (by decide) (read + front.length)
      ((read + front.length, after ++ ',' :: (before ++ (line ++ rest))) :: shorter)
      ⟨after, hafter⟩ (before ++ (line ++ rest))
    have hbefore := vectorEndsFrom_before (read + front.length + after.length + 1)
      ((read + front.length, after ++ ',' :: (before ++ (line ++ rest))) :: shorter)
      ⟨before, hbefore⟩ (line ++ rest)
    have hlength : read + (front ++ (after ++ ',' :: (before ++ line))).length =
        read + front.length + after.length + 1 + before.length + line.length := by
      simp only [List.length_append, List.length_cons]
      omega
    simp only [hlength, List.append_assoc, List.cons_append]
    rw [hends, hcomma, hbefore]
    exact ih _ _

theorem vector_append_iff {next : Pattern} {line : List Char} (hline : Stops isBlank line) :
    (vector ++ next).Matches line ↔
      ∃ size rest, (size, rest) ∈ vectorEnds line ∧ next.Matches rest := by
  constructor
  · rintro ⟨front, rest, rfl, hfront, hrest⟩
    exact ⟨_, rest, mem_vectorEndsFrom_of_vector hfront 0 [] rest, hrest⟩
  · rintro ⟨size, rest, hends, hrest⟩
    rcases completes_of_mem_vectorEndsFrom hends with hnil | ⟨_, rfl, before, front, rfl, hbefore,
      hfront⟩
    · cases hnil
    cases before with
    | nil => exact ⟨front, rest, rfl, hfront, hrest⟩
    | cons c before =>
        have hc : isBlank c = false := stops_cons.mp hline
        rw [hbefore c List.mem_cons_self] at hc
        cases hc

end Pattern

end LootSpawn
