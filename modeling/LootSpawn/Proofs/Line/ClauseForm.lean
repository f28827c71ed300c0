import LootSpawn.Proofs.Number.DecimalForm
import Mathlib.Data.List.Basic

/-!
# Clauses taken apart

A clause is a separator, a key, an equals sign among blanks and a value. What the readers of keys,
names and tokens accept is said here in terms of these parts, and how a text is divided into them is
determined by the text. In front of a clause every number and every name comes to its end.
-/

namespace LootSpawn

open Text Number

/-- Blanks, possibly none. -/
abbrev Blanks := { cs : List Char // ∀ c ∈ cs, isBlank c = true }

/-- One or more characters that are no word characters. -/
abbrev Separator := { cs : List Char // cs ≠ [] ∧ ∀ c ∈ cs, isWord c = false }

/-- One or more word characters. -/
abbrev Name := { cs : List Char // cs ≠ [] ∧ ∀ c ∈ cs, isWord c = true }

/-- An equals sign with the blanks before and after it. -/
structure EqualsForm where
  before : Blanks
  after : Blanks

def EqualsForm.text (form : EqualsForm) : List Char := form.before ++ '=' :: form.after

/-- A kind of value that a clause may have: its text has a digit before any other word character,
and where it ends is determined by what follows. -/
class ClauseValue (α : Type) where
  text : α → List Char
  exists_digit (value : α) : ∃ front digit rest, text value = front ++ digit :: rest ∧
    (∀ c ∈ front, isWord c = false) ∧ isDigit digit = true
  stops_isBlank (value : α) (rest : List Char) : Stops isBlank (text value ++ rest)
  text_append_inj {first second : α} {rest rest' : List Char} (hrest : DecimalForm.Ends rest)
    (hrest' : DecimalForm.Ends rest') (h : text first ++ rest = text second ++ rest') :
    first = second ∧ rest = rest'

instance : ClauseValue DecimalForm where
  text := DecimalForm.text
  exists_digit := DecimalForm.exists_digit
  stops_isBlank := DecimalForm.stops_isBlank
  text_append_inj := DecimalForm.text_append_inj

/-- A clause taken apart, without its key. -/
structure ClauseForm (α : Type) where
  separator : Separator
  equals : EqualsForm
  value : α

def clauseText {α : Type} [ClauseValue α] (key : Char) : Option (ClauseForm α) → List Char
  | none => []
  | some clause =>
      clause.separator ++ key :: (clause.equals.text ++ ClauseValue.text clause.value)

/-! ## Reading -/

theorem Separator.stops (separator : Separator) (rest : List Char) :
    Stops isWord (separator.val ++ rest) :=
  Stops.append_of_ne_nil rest separator.property.1 separator.property.2

theorem stops_isBlank_of_isWord {c : Char} (rest : List Char) (h : isWord c = true) :
    Stops isBlank (c :: rest) := stops_cons.mpr (isBlank_of_isWord h)

/-- What follows a key is read past an equals sign among blanks, up to where no blank stands. -/
theorem afterKey?_eq_some_iff (key cs value : List Char) :
    afterKey? key cs = some value ↔
      ∃ equals : EqualsForm, cs = key ++ (equals.text ++ value) ∧ Stops isBlank value := by
  simp only [afterKey?, Option.bind_eq_bind, Option.bind_eq_some_iff,
    List.isPrefixOf?_eq_some_iff_append_eq, Option.pure_def, Option.some.injEq]
  constructor
  · rintro ⟨rest, rfl, text, htext, rfl⟩
    refine ⟨⟨⟨rest.takeWhile isBlank, fun c hc => mem_takeWhile hc⟩,
      ⟨text.takeWhile isBlank, fun c hc => mem_takeWhile hc⟩⟩, ?_, stops_dropWhile isBlank text⟩
    rw [EqualsForm.text, List.append_assoc, List.cons_append, skipBlanks,
      ← eq_run_append isBlank text]
    rw [List.singleton_append, skipBlanks] at htext
    rw [htext, ← eq_run_append isBlank rest]
  · rintro ⟨⟨before, after⟩, rfl, hvalue⟩
    have hequals : Stops isBlank ('=' :: (after.val ++ value)) := stops_cons.mpr (by decide)
    refine ⟨_, rfl, after.val ++ value, ?_, dropWhile_run after.property hvalue⟩
    simp only [EqualsForm.text, List.append_assoc, List.cons_append, skipBlanks,
      dropWhile_run before.property hequals, List.nil_append]

/-- What follows a separated key is read past the separator, which ends where the key stands. -/
theorem afterSeparatedKey?_eq_some_iff {key : Char} (hkey : isWord key = true)
    (cs value : List Char) :
    afterSeparatedKey? key cs = some value ↔
      ∃ (separator : Separator) (equals : EqualsForm),
        cs = separator ++ key :: (equals.text ++ value) ∧ Stops isBlank value := by
  constructor
  · intro h
    cases cs with
    | nil => cases h
    | cons c rest =>
        rw [afterSeparatedKey?] at h
        split at h
        next => cases h
        next hword =>
          obtain ⟨equals, hdrop, hvalue⟩ := (afterKey?_eq_some_iff _ _ _).mp h
          have hrun := eq_run_append (fun c => !isWord c) (c :: rest)
          have hnot : ∀ d ∈ (c :: rest).takeWhile (fun c => !isWord c), isWord d = false := by
            intro d hd
            simpa using mem_takeWhile hd
          have hne : (c :: rest).takeWhile (fun c => !isWord c) ≠ [] := by
            simp [hword]
          rw [hdrop] at hrun
          exact ⟨⟨_, hne, hnot⟩, equals, hrun, hvalue⟩
  · rintro ⟨⟨separator, hne, hnot⟩, equals, rfl, hvalue⟩
    have hdrop : (separator ++ key :: (equals.text ++ value)).dropWhile (fun c => !isWord c) =
        key :: (equals.text ++ value) := by
      apply dropWhile_run
      · intro c hc
        rw [hnot c hc]
        rfl
      · rw [stops_cons, hkey]
        rfl
    obtain ⟨c, separator, rfl⟩ := List.exists_cons_of_ne_nil hne
    simp only [List.cons_append] at hdrop ⊢
    rw [afterSeparatedKey?, hdrop, if_neg (by simp [hnot c List.mem_cons_self])]
    exact (afterKey?_eq_some_iff _ _ _).mpr ⟨equals, rfl, hvalue⟩

theorem afterSeparatedKey?_eq_none {key c : Char} {front rest : List Char}
    (hfront : ∀ d ∈ front, isWord d = false) (hc : isWord c = true) (hne : c ≠ key) :
    afterSeparatedKey? key (front ++ c :: rest) = none := by
  cases front with
  | nil => rw [List.nil_append, afterSeparatedKey?, if_pos hc]
  | cons d front =>
      have hdrop : (d :: front ++ c :: rest).dropWhile (fun c => !isWord c) = c :: rest := by
        apply dropWhile_run
        · intro e he
          rw [hfront e he]
          rfl
        · rw [stops_cons, hc]
          rfl
      rw [List.cons_append] at hdrop ⊢
      rw [afterSeparatedKey?, hdrop, if_neg (by simp [hfront d List.mem_cons_self])]
      simp [afterKey?, List.isPrefixOf?, Ne.symm hne]

theorem name?_eq_some_iff (cs name rest : List Char) :
    name? cs = some (name, rest) ↔
      ∃ form : Name, form.val = name ∧ cs = name ++ rest ∧ Stops isWord rest := by
  rw [name?, List.span_eq_takeWhile_dropWhile]
  constructor
  · intro h
    have hrun := eq_run_append isWord cs
    have hstops := stops_dropWhile isWord cs
    have hword : ∀ c ∈ cs.takeWhile isWord, isWord c = true := fun c hc => mem_takeWhile hc
    cases hname : cs.takeWhile isWord with
    | nil =>
        rw [hname] at h
        cases h
    | cons c front =>
        rw [hname] at h hrun hword
        obtain ⟨rfl, rfl⟩ := Prod.mk.inj (Option.some.inj h)
        exact ⟨⟨_, List.cons_ne_nil c front, hword⟩, rfl, hrun, hstops⟩
  · rintro ⟨⟨name, hne, hword⟩, rfl, rfl, hrest⟩
    rw [takeWhile_run hword hrest, dropWhile_run hword hrest]
    cases name with
    | nil => exact absurd rfl hne
    | cons c name => rfl

theorem wholeToken?_eq_some_iff (cs token : List Char) :
    wholeToken? cs = some token ↔ token = cs ∧ cs ≠ [] ∧ ∀ c ∈ cs, isNumeric c = true := by
  rw [wholeToken?]
  constructor
  · intro h
    split at h
    next htoken =>
      simp only [Bool.and_eq_true, Bool.not_eq_true', List.isEmpty_eq_false_iff,
        List.all_eq_true] at htoken
      exact ⟨(Option.some.inj h).symm, htoken⟩
    next => cases h
  · rintro ⟨rfl, hne, hall⟩
    rw [if_pos]
    simp only [Bool.and_eq_true, Bool.not_eq_true', List.isEmpty_eq_false_iff, List.all_eq_true]
    exact ⟨hne, hall⟩

/-! ## Division -/

theorem EqualsForm.text_append_inj {first second : EqualsForm} {rest rest' : List Char}
    (hrest : Stops isBlank rest) (hrest' : Stops isBlank rest')
    (h : first.text ++ rest = second.text ++ rest') : first = second ∧ rest = rest' := by
  obtain ⟨⟨before, hbefore⟩, ⟨after, hafter⟩⟩ := first
  obtain ⟨⟨before', hbefore'⟩, ⟨after', hafter'⟩⟩ := second
  simp only [EqualsForm.text, List.append_assoc, List.cons_append] at h
  have hequals : ∀ cs, Stops isBlank ('=' :: cs) := fun cs => stops_cons.mpr (by decide)
  obtain ⟨rfl, htail⟩ := run_append_inj hbefore (hequals _) hbefore' (hequals _) h
  obtain ⟨rfl, hrests⟩ := run_append_inj hafter hrest hafter' hrest' (List.cons.inj htail).2
  exact ⟨rfl, hrests⟩

theorem Separator.append_key_inj {first second : Separator} {key key' : Char}
    {rest rest' : List Char} (hkey : isWord key = true) (hkey' : isWord key' = true)
    (h : first.val ++ key :: rest = second.val ++ key' :: rest') :
    first = second ∧ key = key' ∧ rest = rest' := by
  have hnot : ∀ separator : Separator, ∀ c ∈ separator.val, (!isWord c) = true := by
    intro separator c hc
    rw [separator.property.2 c hc]
    rfl
  have hstops : ∀ c rest, isWord c = true → Stops (fun c => !isWord c) (c :: rest) := by
    intro c rest hc
    rw [stops_cons, hc]
    rfl
  obtain ⟨hseparator, h⟩ := run_append_inj (hnot first) (hstops key rest hkey) (hnot second)
    (hstops key' rest' hkey') h
  obtain ⟨hkeys, h⟩ := List.cons.inj h
  exact ⟨Subtype.ext hseparator, hkeys, h⟩

/-! ## Clauses in a row -/

/-- The text ends, or it goes on with a clause under one of the keys after an allowed separator, and
the first word character of its value is a digit. -/
inductive Continues (keys : List Char) (allowed : Separator → Prop) : List Char → Prop where
  | done : Continues keys allowed []
  | clause (separator : Separator) (key : Char) (equals : EqualsForm) (front : List Char)
      (digit : Char) (rest : List Char) (hallowed : allowed separator) (hkey : key ∈ keys)
      (hfront : ∀ c ∈ front, isWord c = false) (hdigit : isDigit digit = true) :
      Continues keys allowed (separator ++ key :: (equals.text ++ (front ++ digit :: rest)))

namespace Continues

variable {keys : List Char} {allowed : Separator → Prop} {cs : List Char}

theorem cons_key (key : Char) (h : Continues keys allowed cs) :
    Continues (key :: keys) allowed cs := by
  cases h with
  | done => exact done
  | clause separator found equals front digit rest hallowed hkey hfront hdigit =>
      exact clause separator found equals front digit rest hallowed
        (List.mem_cons_of_mem key hkey) hfront hdigit

theorem clauseText_append {α : Type} [ClauseValue α] (key : Char) (found : Option (ClauseForm α))
    (hallowed : ∀ clause ∈ found, allowed clause.separator) (h : Continues keys allowed cs) :
    Continues (key :: keys) allowed (clauseText key found ++ cs) := by
  cases found with
  | none => exact h.cons_key key
  | some found =>
      obtain ⟨front, digit, rest, htext, hfront, hdigit⟩ := ClauseValue.exists_digit found.value
      have hclause : Continues (key :: keys) allowed _ :=
        clause found.separator key found.equals front digit (rest ++ cs) (hallowed found rfl)
          List.mem_cons_self hfront hdigit
      simpa [clauseText, htext] using hclause

theorem stops_isWord (h : Continues keys allowed cs) : Stops isWord cs := by
  cases h with
  | done => exact stops_nil
  | clause separator => exact separator.stops _

/-- A number comes to its end here, if no key is a digit. -/
theorem ends (hkeys : ∀ key ∈ keys, isDigit key = false) (h : Continues keys allowed cs) :
    DecimalForm.Ends cs := by
  cases h with
  | done => exact DecimalForm.ends_nil
  | clause separator key equals front digit rest hallowed hkey hfront hdigit =>
      obtain ⟨separator, hne, hseparator⟩ := separator
      have hnot : ∀ c ∈ separator, isDigit c = false := fun c hc =>
        isDigit_of_not_isWord (hseparator c hc)
      refine ⟨Stops.append_of_ne_nil _ hne hnot, ?_⟩
      intro digits hdigits
      obtain ⟨c, separator, rfl⟩ := List.exists_cons_of_ne_nil hne
      obtain ⟨-, rfl⟩ := List.cons.inj hdigits
      apply Stops.append fun d hd => hnot d (List.mem_cons_of_mem c hd)
      exact stops_cons.mpr (hkeys key hkey)

theorem afterSeparatedKey?_eq_none (hkeys : ∀ key ∈ keys, isWord key = true) {key : Char}
    (hkey : key ∉ keys) (h : Continues keys allowed cs) : afterSeparatedKey? key cs = none := by
  cases h with
  | done => rfl
  | clause separator found equals front digit rest hallowed hfound hfront hdigit =>
      apply LootSpawn.afterSeparatedKey?_eq_none separator.property.2 (hkeys found hfound)
      rintro rfl
      exact hkey hfound

end Continues

/-- A clause in front of clauses under other keys is determined by the text. -/
theorem clauseText_append_inj {α : Type} [ClauseValue α] {key : Char} {keys : List Char}
    {allowed : Separator → Prop} {first second : Option (ClauseForm α)} {rest rest' : List Char}
    (hkeys : ∀ key ∈ keys, isWord key = true ∧ isDigit key = false) (hword : isWord key = true)
    (hkey : key ∉ keys) (hrest : Continues keys allowed rest)
    (hrest' : Continues keys allowed rest')
    (h : clauseText key first ++ rest = clauseText key second ++ rest') :
    first = second ∧ rest = rest' := by
  have hends := hrest.ends fun found hfound => (hkeys found hfound).2
  have hends' := hrest'.ends fun found hfound => (hkeys found hfound).2
  -- A clause is not mistaken for the rest of a line without it, since its key is not among theirs.
  have habsent : ∀ (clause : ClauseForm α) {rest cs : List Char},
      Continues keys allowed rest → rest ≠ clauseText key (some clause) ++ cs := by
    rintro clause rest cs hrest rfl
    have hnone := hrest.afterSeparatedKey?_eq_none (fun found hfound => (hkeys found hfound).1)
      hkey
    have hsome := (afterSeparatedKey?_eq_some_iff hword
      (clauseText key (some clause) ++ cs) (ClauseValue.text clause.value ++ cs)).mpr
      ⟨clause.separator, clause.equals, by simp [clauseText],
        ClauseValue.stops_isBlank clause.value cs⟩
    rw [hnone] at hsome
    cases hsome
  cases first with
  | none =>
      cases second with
      | none => exact ⟨rfl, h⟩
      | some clause => exact absurd h (habsent clause hrest)
  | some clause =>
      cases second with
      | none => exact absurd h.symm (habsent clause hrest')
      | some clause' =>
          obtain ⟨separator, equals, value⟩ := clause
          obtain ⟨separator', equals', value'⟩ := clause'
          simp only [clauseText, List.append_assoc, List.cons_append] at h
          obtain ⟨rfl, -, hequals⟩ := Separator.append_key_inj hword hword h
          obtain ⟨rfl, hvalue⟩ := EqualsForm.text_append_inj (ClauseValue.stops_isBlank value rest)
            (ClauseValue.stops_isBlank value' rest') hequals
          obtain ⟨rfl, hrests⟩ := ClauseValue.text_append_inj hends hends' hvalue
          exact ⟨rfl, hrests⟩

end LootSpawn
