import LootSpawn.Line.Shape
import LootSpawn.Proofs.Line.Pattern

/-!
# The first match

A pattern goes through the front of a text in several ways, and a greedy search tries them in an
order: a run takes all it can and then one character less, an optional part is taken before it is
left out, and a repetition goes on before it stops. The texts of a spawn line are those of the first
way through the whole line. The reader of spawn lines finds this way, although it goes back on its
choices nowhere but at the end of a vector.
-/

namespace LootSpawn

open Text

namespace Pattern

/-! ## Greedy search -/

/-- What a run of the class may leave, the longest run first. -/
def restsOfRun (kind : Char → Bool) : List Char → List (List Char)
  | [] => [[]]
  | c :: cs => if kind c then restsOfRun kind cs ++ [c :: cs] else [c :: cs]

/-- What a repetition may leave, the longest one first. What takes nothing is not repeated. -/
def restsOfMany (body : List Char → List (List Char)) (cs : List Char) : List (List Char) :=
  ((body cs).flatMap fun rest =>
    if _ : rest.length < cs.length then restsOfMany body rest else []) ++ [cs]
termination_by cs.length

/-- What a text of the pattern at the front may leave, in the order of a greedy search. -/
def rests : Pattern → List Char → List (List Char)
  | text front, cs => (front.isPrefixOf? cs).toList
  | any kind, cs => restsOfRun kind cs
  | run _, [] => []
  | run kind, c :: cs => if kind c then restsOfRun kind cs else []
  | append first second, cs => (first.rests cs).flatMap second.rests
  | optional body, cs => body.rests cs ++ [cs]
  | many body, cs => restsOfMany body.rests cs

theorem rests_append (first second : Pattern) (cs : List Char) :
    (first ++ second).rests cs = (first.rests cs).flatMap second.rests := rfl

theorem mem_restsOfRun_iff {kind : Char → Bool} {cs rest : List Char} :
    rest ∈ restsOfRun kind cs ↔ ∃ front, cs = front ++ rest ∧ (any kind).Matches front := by
  induction cs with
  | nil =>
      rw [restsOfRun, List.mem_singleton]
      constructor
      · rintro rfl
        exact ⟨[], rfl, nofun⟩
      · rintro ⟨front, h, -⟩
        exact (List.append_eq_nil_iff.mp h.symm).2
  | cons c cs ih =>
      -- Either nothing is taken, or the first character is and the run goes on.
      have hsplit : (∃ front, c :: cs = front ++ rest ∧ (any kind).Matches front) ↔
          rest = c :: cs ∨ kind c = true ∧
            ∃ front, cs = front ++ rest ∧ (any kind).Matches front := by
        constructor
        · rintro ⟨front, h, hfront⟩
          cases front with
          | nil => exact Or.inl h.symm
          | cons d front =>
              obtain ⟨rfl, rfl⟩ := List.cons.inj h
              obtain ⟨hd, hfront⟩ := List.forall_mem_cons.mp hfront
              exact Or.inr ⟨hd, front, rfl, hfront⟩
        · rintro (rfl | ⟨hc, front, rfl, hfront⟩)
          · exact ⟨[], rfl, nofun⟩
          · exact ⟨c :: front, rfl, List.forall_mem_cons.mpr ⟨hc, hfront⟩⟩
      rw [hsplit, restsOfRun]
      split
      next hc => rw [List.mem_append, List.mem_singleton, ih, or_comm, and_iff_right hc]
      next hc => rw [List.mem_singleton, or_iff_left fun h => hc h.1]

theorem mem_restsOfMany_iff {body : Pattern} (hbody : ∀ {cs rest : List Char},
      rest ∈ body.rests cs ↔ ∃ front, cs = front ++ rest ∧ body.Matches front)
    {cs rest : List Char} :
    rest ∈ restsOfMany body.rests cs ↔
      ∃ front, cs = front ++ rest ∧ (many body).Matches front := by
  constructor
  · intro h
    induction hlength : cs.length using Nat.strongRecOn generalizing cs with
    | ind length ih =>
        rw [restsOfMany, List.mem_append, List.mem_flatMap, List.mem_singleton] at h
        rcases h with ⟨middle, hmiddle, hrest⟩ | rfl
        · split at hrest
          next hlt =>
            obtain ⟨part, rfl, hpart⟩ := hbody.mp hmiddle
            obtain ⟨_, rfl, parts, rfl, hparts⟩ := ih _ (hlength ▸ hlt) hrest rfl
            exact ⟨part ++ parts.flatten, (List.append_assoc _ _ _).symm, part :: parts, rfl,
              List.forall_mem_cons.mpr ⟨hpart, hparts⟩⟩
          next => cases hrest
        · exact ⟨[], rfl, [], rfl, nofun⟩
  · rintro ⟨_, rfl, parts, rfl, hparts⟩
    induction parts with
    | nil =>
        rw [restsOfMany]
        exact List.mem_append_right _ (List.mem_singleton_self rest)
    | cons part parts ih =>
        obtain ⟨hpart, hmore⟩ := List.forall_mem_cons.mp hparts
        rcases List.eq_nil_or_concat part with rfl | ⟨front, c, rfl⟩
        · exact ih hmore
        · rw [restsOfMany, List.mem_append, List.mem_flatMap]
          refine Or.inl ⟨parts.flatten ++ rest, hbody.mpr ⟨_, by simp, hpart⟩, ?_⟩
          rw [dif_pos (by simp; omega)]
          exact ih hmore

/-- The search finds all ways through the front of a text, and no others. -/
theorem mem_rests_iff {pattern : Pattern} {cs rest : List Char} :
    rest ∈ pattern.rests cs ↔ ∃ front, cs = front ++ rest ∧ pattern.Matches front := by
  induction pattern generalizing cs rest with
  | text front =>
      rw [rests, Option.mem_toList, List.isPrefixOf?_eq_some_iff_append_eq]
      constructor
      · rintro rfl
        exact ⟨front, rfl, rfl⟩
      · rintro ⟨_, rfl, rfl⟩
        rfl
  | any kind => exact mem_restsOfRun_iff
  | run kind =>
      cases cs with
      | nil =>
          refine iff_of_false nofun ?_
          rintro ⟨front, h, hne, -⟩
          exact hne (List.append_eq_nil_iff.mp h.symm).1
      | cons c cs =>
          rw [rests]
          constructor
          · intro h
            split at h
            next hc =>
              obtain ⟨front, rfl, hfront⟩ := mem_restsOfRun_iff.mp h
              exact ⟨c :: front, rfl, List.cons_ne_nil c front,
                List.forall_mem_cons.mpr ⟨hc, hfront⟩⟩
            next => cases h
          · rintro ⟨front, h, hne, hfront⟩
            obtain ⟨d, front, rfl⟩ := List.exists_cons_of_ne_nil hne
            obtain ⟨rfl, rfl⟩ := List.cons.inj h
            obtain ⟨hc, hfront⟩ := List.forall_mem_cons.mp hfront
            rw [if_pos hc]
            exact mem_restsOfRun_iff.mpr ⟨front, rfl, hfront⟩
  | append first second ihFirst ihSecond =>
      rw [rests, List.mem_flatMap]
      constructor
      · rintro ⟨middle, hmiddle, hrest⟩
        obtain ⟨front, rfl, hfront⟩ := ihFirst.mp hmiddle
        obtain ⟨back, rfl, hback⟩ := ihSecond.mp hrest
        exact ⟨front ++ back, (List.append_assoc _ _ _).symm, front, back, rfl, hfront, hback⟩
      · rintro ⟨_, rfl, front, back, rfl, hfront, hback⟩
        exact ⟨back ++ rest, ihFirst.mpr ⟨front, List.append_assoc _ _ _, hfront⟩,
          ihSecond.mpr ⟨back, rfl, hback⟩⟩
  | optional body ih =>
      rw [rests, List.mem_append, List.mem_singleton, ih]
      constructor
      · rintro (⟨front, rfl, hfront⟩ | rfl)
        · exact ⟨front, rfl, Or.inr hfront⟩
        · exact ⟨[], rfl, Or.inl rfl⟩
      · rintro ⟨front, rfl, rfl | hfront⟩
        · exact Or.inr rfl
        · exact Or.inl ⟨front, rfl, hfront⟩
  | many body ih => exact mem_restsOfMany_iff ih

/-! ## Parts without a choice -/

section

variable {β : Type} {f : List Char → List β}

/-- Nothing comes of a text that begins with a character of the class. -/
def Refuses (f : List Char → List β) (kind : Char → Bool) : Prop :=
  ∀ c cs, kind c = true → f (c :: cs) = []

/-- If what follows refuses the class, only the longest run is of use. -/
theorem flatMap_restsOfRun {kind : Char → Bool} (hf : Refuses f kind) (cs : List Char) :
    (restsOfRun kind cs).flatMap f = f (cs.dropWhile kind) := by
  induction cs with
  | nil => simp [restsOfRun]
  | cons c cs ih =>
      rw [restsOfRun, List.dropWhile_cons]
      split
      next hc =>
        rw [List.flatMap_append, ih, List.flatMap_singleton, hf c cs hc, List.append_nil]
      next => exact List.flatMap_singleton _ _

theorem flatMap_rests_run {kind : Char → Bool} (hf : Refuses f kind) (c : Char)
    (cs : List Char) :
    ((run kind).rests (c :: cs)).flatMap f =
      if kind c then f ((c :: cs).dropWhile kind) else [] := by
  rw [rests, List.dropWhile_cons]
  split
  next => exact flatMap_restsOfRun hf cs
  next => rfl

theorem refuses_text {front : List Char} {kind : Char → Bool}
    (hfront : ∃ c ∈ front.head?, kind c = false) :
    Refuses (fun cs => ((text front).rests cs).flatMap f) kind := by
  obtain ⟨d, hd, hkind⟩ := hfront
  intro c cs hc
  cases front with
  | nil => cases hd
  | cons e front =>
      obtain rfl : e = d := Option.some.inj hd
      have hne : (e == c) = false := by
        rw [beq_eq_false_iff_ne]
        rintro rfl
        rw [hc] at hkind
        cases hkind
      simp [rests, List.isPrefixOf?, hne]

/-- What is read up to a value: the key and an equals sign among blanks. -/
theorem flatMap_rests_keyed (hf : Refuses f isBlank) (key cs : List Char) :
    ((text key ++ equals).rests cs).flatMap f = (afterKey? key cs).toList.flatMap f := by
  have hequals : ∀ rest, (equals.rests rest).flatMap f =
      (['='].isPrefixOf? (skipBlanks rest)).toList.flatMap fun value => f (skipBlanks value) := by
    intro rest
    have hblanks : ∀ value, (blanks.rests value).flatMap f = f (skipBlanks value) :=
      flatMap_restsOfRun hf
    have hsign : Refuses (fun cs => ((text ['=']).rests cs).flatMap fun value =>
        f (skipBlanks value)) isBlank := refuses_text ⟨'=', rfl, by decide⟩
    rw [equals, rests_append, rests_append, List.flatMap_assoc, List.flatMap_assoc]
    simp only [hblanks]
    exact flatMap_restsOfRun hsign rest
  rw [rests_append, List.flatMap_assoc]
  simp only [hequals, afterKey?]
  cases hkey : key.isPrefixOf? cs with
  | none => simp [rests, hkey]
  | some rest =>
      cases hvalue : ['='].isPrefixOf? (skipBlanks rest) with
      | none => simp [rests, hkey, hvalue]
      | some value => simp [rests, hkey, hvalue]

/-- What a clause has before its value. -/
def opening (key : Char) : Pattern := run (fun c => !isWord c) ++ (text [key] ++ equals)

theorem flatMap_rests_opening (hf : Refuses f isBlank) {key : Char} (hkey : isWord key = true)
    (cs : List Char) :
    ((opening key).rests cs).flatMap f = (afterSeparatedKey? key cs).toList.flatMap f := by
  have hkeyed : ∀ rest, ((text [key] ++ equals).rests rest).flatMap f =
      (afterKey? [key] rest).toList.flatMap f := flatMap_rests_keyed hf [key]
  have hrefuses : Refuses (fun rest => (afterKey? [key] rest).toList.flatMap f)
      (fun c => !isWord c) := by
    intro c rest hc
    have hne : (key == c) = false := by
      rw [beq_eq_false_iff_ne]
      rintro rfl
      simp [hkey] at hc
    simp [afterKey?, List.isPrefixOf?, hne]
  rw [opening, rests_append, List.flatMap_assoc]
  simp only [hkeyed]
  cases cs with
  | nil => rfl
  | cons c cs =>
      rw [flatMap_rests_run hrefuses, afterSeparatedKey?]
      cases isWord c with
      | _ => rfl

end

/-! ## Vectors -/

theorem beq_comma_of_isNumeric {c : Char} (h : isNumeric c = true) : (c == ',') = false := by
  rw [beq_eq_false_iff_ne]
  rintro rfl
  exact absurd h (by decide)

/-- A further token of a vector. -/
def commaToken : Pattern := blanks ++ text [','] ++ blanks ++ token

/-- What the rest of a vector from the place on may leave. -/
def restsFrom : VectorPlace → List Char → List (List Char)
  | .before, cs => (blanks.rests cs).flatMap fun rest =>
      (token.rests rest).flatMap (many commaToken).rests
  | .inside, cs => (restsOfRun isNumeric cs).flatMap (many commaToken).rests
  | .after, cs => (commaToken.rests cs).flatMap (many commaToken).rests

theorem restsOfMany_eq {body : List Char → List (List Char)}
    (hbody : ∀ cs, ∀ rest ∈ body cs, rest.length < cs.length) (cs : List Char) :
    restsOfMany body cs = (body cs).flatMap (restsOfMany body) ++ [cs] := by
  rw [restsOfMany]
  congr 1
  apply List.flatMap_congr
  intro rest hrest
  rw [dif_pos (hbody cs rest hrest)]

theorem length_lt_of_mem_rests_commaToken (cs rest : List Char) (h : rest ∈ commaToken.rests cs) :
    rest.length < cs.length := by
  obtain ⟨_, rfl, front, token, rfl, -, hne, -⟩ := mem_rests_iff.mp h
  have hpos := List.length_pos_iff.mpr hne
  simp only [List.length_append]
  omega

theorem rests_many_commaToken (cs : List Char) :
    (many commaToken).rests cs = restsFrom .after cs ++ [cs] :=
  restsOfMany_eq length_lt_of_mem_rests_commaToken cs

theorem restsFrom_before (cs : List Char) :
    restsFrom .before cs =
      (token.rests (skipBlanks cs)).flatMap (many commaToken).rests := by
  apply flatMap_restsOfRun
  intro c rest hc
  simp [token, rests, isNumeric_of_isBlank hc]

theorem restsFrom_after (cs : List Char) :
    restsFrom .after cs =
      ((text [',']).rests (skipBlanks cs)).flatMap (restsFrom .before) := by
  have hcomma : Refuses (fun rest => ((text [',']).rests rest).flatMap (restsFrom .before))
      isBlank := refuses_text ⟨',', rfl, by decide⟩
  rw [restsFrom, commaToken, rests_append, rests_append, rests_append, List.flatMap_assoc,
    List.flatMap_assoc, List.flatMap_assoc]
  exact flatMap_restsOfRun hcomma cs

theorem restsFrom_before_cons (c : Char) (cs : List Char) :
    restsFrom .before (c :: cs) =
      if isBlank c then restsFrom .before cs
      else if isNumeric c then restsFrom .inside cs else [] := by
  rw [restsFrom_before, skipBlanks, List.dropWhile_cons]
  split
  next => exact (restsFrom_before cs).symm
  next =>
    rw [token, rests]
    split
    next => rfl
    next => rfl

theorem restsFrom_after_cons (c : Char) (cs : List Char) :
    restsFrom .after (c :: cs) =
      if isBlank c then restsFrom .after cs
      else if c == ',' then restsFrom .before cs else [] := by
  rw [restsFrom_after, skipBlanks, List.dropWhile_cons]
  split
  next => exact (restsFrom_after cs).symm
  next =>
    by_cases hc : c = ','
    · subst hc
      simp [rests, List.isPrefixOf?]
    · simp [rests, List.isPrefixOf?, hc, Ne.symm hc]

theorem restsFrom_inside_cons (c : Char) (cs : List Char) :
    restsFrom .inside (c :: cs) =
      if isNumeric c then restsFrom .inside cs ++ [c :: cs]
      else restsFrom .after (c :: cs) ++ [c :: cs] := by
  rw [restsFrom, restsOfRun]
  split
  next hc =>
    rw [List.flatMap_append, List.flatMap_singleton, rests_many_commaToken,
      restsFrom_after_cons, isBlank_of_isNumeric hc, beq_comma_of_isNumeric hc]
    rfl
  next => rw [List.flatMap_singleton, rests_many_commaToken]

/-- The search for the end of a vector finds the places where a greedy search may leave it, in the
same order. Inside a token the vector may end at once. -/
theorem rests_vectorEndsFrom (place : VectorPlace) (read : Nat) (cs : List Char) :
    (vectorEndsFrom place read [] cs).map Prod.snd ++ (if place = .inside then [cs] else []) =
      restsFrom place cs := by
  induction cs generalizing place read with
  | nil =>
      cases place with
      | inside =>
          have hnil : (many commaToken).rests [] = [[]] := by
            rw [rests_many_commaToken]
            rfl
          simp [vectorEndsFrom, restsFrom, restsOfRun, hnil]
      | _ => rfl
  | cons c cs ih =>
      have hbefore := ih .before (read + 1)
      have hinside := ih .inside (read + 1)
      have hafter := ih .after (read + 1)
      simp only [reduceCtorEq, if_false, List.append_nil, if_true] at hbefore hinside hafter
      rw [vectorEndsFrom, vectorEndsFrom_eq_append .inside]
      cases hnumeric : isNumeric c with
      | true =>
          have hblank : isBlank c = false := isBlank_of_isNumeric hnumeric
          have hcomma : (c == ',') = false := beq_comma_of_isNumeric hnumeric
          cases place with
          | before => simp [restsFrom_before_cons, hnumeric, hblank, ← hinside]
          | inside => simp [restsFrom_inside_cons, hnumeric, ← hinside]
          | after => simp [restsFrom_after_cons, hblank, hcomma]
      | false =>
          cases hblank : isBlank c with
          | true =>
              cases place with
              | before => simp [restsFrom_before_cons, hblank, ← hbefore]
              | inside =>
                  simp [restsFrom_inside_cons, restsFrom_after_cons, hnumeric, hblank, ← hafter]
              | after => simp [restsFrom_after_cons, hblank, ← hafter]
          | false =>
              cases hcomma : c == ',' with
              | _ =>
                  cases place with
                  | before => simp [restsFrom_before_cons, hnumeric, hblank]
                  | inside =>
                      simp [restsFrom_inside_cons, restsFrom_after_cons, hnumeric, hblank, hcomma,
                        ← hbefore]
                  | after => simp [restsFrom_after_cons, hblank, hcomma, ← hbefore]

theorem vectorEnds_eq {cs : List Char} (hcs : Stops isBlank cs) :
    vectorEnds cs = (vector.rests cs).map fun rest => (cs.length - rest.length, rest) := by
  have hskip : skipBlanks cs = cs := dropWhile_run (List.forall_mem_nil _) hcs
  have hrests : (vectorEnds cs).map Prod.snd = vector.rests cs := by
    have hfrom := rests_vectorEndsFrom .before 0 cs
    rw [restsFrom_before, hskip, if_neg (by decide), List.append_nil] at hfrom
    exact hfrom
  have hsizes : ∀ found ∈ vectorEnds cs, (cs.length - found.2.length, found.2) = found := by
    rintro ⟨size, rest⟩ hmem
    rcases mem_vectorEndsFrom hmem with hnil | ⟨front, c, rfl, rfl, -⟩
    · cases hnil
    · simp only [List.length_append, List.length_cons, Prod.mk.injEq, and_true]
      omega
  rw [← hrests, List.map_map]
  exact ((List.map_congr_left hsizes).trans (List.map_id _)).symm

/-! ## The first way through a spawn line -/

/-- The text between two places of a line. -/
def captured (start rest : List Char) : List Char := start.take (start.length - rest.length)

theorem captured_append (front rest : List Char) : captured (front ++ rest) rest = front := by
  rw [captured, List.length_append, Nat.add_sub_cancel, List.take_left]

/-- The ways through an optional clause and on from there, with the text of its value: first those
that take the clause, and then those that leave it out. -/
def clauseThen {α : Type} (key : Char) (value : Pattern) (next : List Char → List α)
    (cs : List Char) : List (Option (List Char) × α) :=
  (((opening key).rests cs).flatMap fun start => (value.rests start).flatMap fun rest =>
    (next rest).map fun following => (some (captured start rest), following)) ++
  (next cs).map fun following => (none, following)

/-- The ways through an optional chance up to the end of the line. -/
def chances (cs : List Char) : List (Option (List Char)) :=
  (clauseThen 'c' token (fun rest => if rest.isEmpty then [()] else []) cs).map Prod.fst

end Pattern

namespace SpawnText

open Pattern

/-- The ways through the clauses of a spawn line up to its end. -/
def clauses : List Char → List (Option (List Char) × Option (List Char) × Option (List Char)) :=
  clauseThen 'p' vector (clauseThen 'r' vector chances)

/-- The texts of a spawn line whose name lies between the two places. -/
def textsAfter (start rest : List Char) : List SpawnText :=
  (clauses rest).map fun (position, rotation, chance) =>
    ⟨captured start rest, position, rotation, chance⟩

/-- The texts of a spawn line, one for each way through the line. -/
def search (line : List Char) : List SpawnText :=
  ((Pattern.text "item".toList ++ equals).rests line).flatMap fun start =>
    (Pattern.name.rests start).flatMap (textsAfter start)

section

variable {α : Type} {key : Char} (hkey : isWord key = true) {value : Pattern}
  (hvalue : Refuses value.rests isBlank) {nexts : List Char → List α}

include hkey hvalue

theorem clauseThen_eq (cs : List Char) :
    clauseThen key value nexts cs =
      ((afterSeparatedKey? key cs).toList.flatMap fun start =>
        (value.rests start).flatMap fun rest =>
          (nexts rest).map fun following => (some (captured start rest), following)) ++
      (nexts cs).map fun following => (none, following) := by
  have hrefuses : Refuses (fun start => (value.rests start).flatMap fun rest =>
      (nexts rest).map fun following => (some (captured start rest), following)) isBlank := by
    intro c cs hc
    simp only [hvalue c cs hc, List.flatMap_nil]
  rw [clauseThen, flatMap_rests_opening hrefuses hkey]

theorem refuses_clauseThen (hnexts : Refuses nexts isWord) :
    Refuses (clauseThen key value nexts) isWord := by
  intro c cs hc
  rw [clauseThen_eq hkey hvalue, hnexts c cs hc, afterSeparatedKey?, if_pos hc]
  rfl

end

theorem refuses_token : Refuses token.rests isBlank := by
  intro c cs hc
  simp [token, rests, isNumeric_of_isBlank hc]

theorem refuses_vector : Refuses vector.rests isBlank := by
  intro c cs hc
  rw [vector, rests_append, refuses_token c cs hc]
  rfl

/-- Where the line has to end after a token, the token is all that is left of it. -/
theorem flatMap_rests_token {β : Type} {f : List Char → List β} (hf : ∀ c cs, f (c :: cs) = [])
    (cs : List Char) :
    (token.rests cs).flatMap f = (wholeToken? cs).toList.flatMap fun _ => f [] := by
  cases cs with
  | nil => rfl
  | cons c cs =>
      rw [token, flatMap_rests_run fun d rest _ => hf d rest, wholeToken?]
      by_cases hall : (c :: cs).all isNumeric = true
      · have hdrop : (c :: cs).dropWhile isNumeric = [] :=
          List.dropWhile_eq_nil_iff.mpr (List.all_eq_true.mp hall)
        have hc : isNumeric c = true := List.all_eq_true.mp hall c List.mem_cons_self
        simp [hdrop, hc, hall]
      · have hdrop : (c :: cs).dropWhile isNumeric ≠ [] := fun hnil =>
          hall (List.all_eq_true.mpr (List.dropWhile_eq_nil_iff.mp hnil))
        obtain ⟨d, rest, hrest⟩ := List.exists_cons_of_ne_nil hdrop
        rw [hrest, hf, ite_self, if_neg (by simpa using hall)]
        rfl

/-- The chance takes up the rest of the line: it is a token up to the end, or there is none. -/
theorem head?_chances (cs : List Char) : (chances cs).head? = chance? cs := by
  rw [chances, clauseThen_eq (by decide) refuses_token, chance?]
  cases cs with
  | nil => rfl
  | cons c cs =>
      cases hstart : afterSeparatedKey? 'c' (c :: cs) with
      | none => simp
      | some start =>
          rw [Option.toList_some, List.flatMap_singleton,
            flatMap_rests_token (fun _ _ => by simp)]
          cases htoken : wholeToken? start with
          | none => simp [htoken]
          | some token =>
              obtain ⟨rfl, -⟩ := (wholeToken?_eq_some_iff _ _).mp htoken
              have hall : captured token [] = token := by
                simpa using captured_append token []
              simp [htoken, hall]

theorem head?_clauseThen {α : Type} {key : Char} (hkey : isWord key = true)
    {nexts : List Char → List α} {next : List Char → Option α}
    (hnext : ∀ cs, (nexts cs).head? = next cs) (cs : List Char) :
    (clauseThen key vector nexts cs).head? = vectorThen? key next cs := by
  rw [clauseThen_eq hkey refuses_vector, List.head?_append, List.head?_map, hnext, vectorThen?]
  cases hstart : afterSeparatedKey? key cs with
  | none => rfl
  | some start =>
      obtain ⟨separator, equals, -, hstops⟩ := (afterSeparatedKey?_eq_some_iff hkey _ _).mp hstart
      have hpresent : (((some start).toList.flatMap fun start =>
          (vector.rests start).flatMap fun rest =>
            (nexts rest).map fun following => (some (captured start rest), following))).head? =
          (vectorEnds start).findSome? fun (size, rest) =>
            (next rest).map fun following => (some (start.take size), following) := by
        simp only [Option.toList_some, List.flatMap_singleton, List.head?_flatMap, List.head?_map,
          hnext, vectorEnds_eq hstops, List.findSome?_map]
        rfl
      rw [hpresent]
      dsimp only [Option.bind_eq_bind, Option.bind_some]
      cases (vectorEnds start).findSome? _ with
      | _ => rfl

theorem refuses_textsAfter (start : List Char) : Refuses (textsAfter start) isWord := by
  have hchances : Refuses chances isWord := by
    intro c cs hc
    rw [chances, refuses_clauseThen (by decide) refuses_token (fun _ _ _ => rfl) c cs hc]
    rfl
  intro c cs hc
  rw [textsAfter, clauses, refuses_clauseThen (by decide) refuses_vector
    (refuses_clauseThen (by decide) refuses_vector hchances) c cs hc]
  rfl

theorem head?_textsAfter (name rest : List Char) :
    (textsAfter (name ++ rest) rest).head? = (clauses? rest).map
      fun (position, rotation, chance) => ⟨name, position, rotation, chance⟩ := by
  rw [textsAfter, List.head?_map, captured_append]
  congr 1
  exact head?_clauseThen (by decide) (head?_clauseThen (by decide) head?_chances) rest

/-- A name that is cut short leaves a word character, and no clause begins with one. -/
theorem flatMap_rests_name (start : List Char) :
    (Pattern.name.rests start).flatMap (textsAfter start) =
      (name? start).toList.flatMap fun (_, rest) => textsAfter start rest := by
  cases start with
  | nil => rfl
  | cons c cs =>
      rw [Pattern.name, flatMap_rests_run (refuses_textsAfter (c :: cs)), name?,
        List.span_eq_takeWhile_dropWhile, List.takeWhile_cons]
      cases isWord c with
      | true => exact (List.flatMap_singleton _ _).symm
      | false => rfl

/-- The reader of spawn lines finds the texts of the first way through the line. -/
theorem match?_eq_head?_search (line : List Char) : match? line = (search line).head? := by
  have hrefuses : Refuses (fun start => (Pattern.name.rests start).flatMap (textsAfter start))
      isBlank := by
    intro c cs hc
    simp [Pattern.name, rests, isWord_of_isBlank hc]
  rw [search, flatMap_rests_keyed hrefuses, match?]
  cases afterKey? "item".toList line with
  | none => rfl
  | some start =>
      simp only [Option.toList_some, List.flatMap_singleton, flatMap_rests_name,
        Option.bind_eq_bind, Option.bind_some]
      cases hname : name? start with
      | none => rfl
      | some found =>
          obtain ⟨name, rest⟩ := found
          obtain ⟨-, -, rfl, -⟩ := (name?_eq_some_iff _ _ _).mp hname
          simp only [Option.toList_some, List.flatMap_singleton, Option.bind_some,
            head?_textsAfter]
          cases clauses? rest with
          | _ => rfl

end SpawnText

end LootSpawn
