import LootSpawn.Literal.Printer
import LootSpawn.Literal.Reader
import LootSpawn.Proofs.Literal.Quoting
import Mathlib.Data.List.Forall2

/-!
# Literals are read back

A literal is written line by line, with its elements between brackets and a comma after each of
them. Reading the text yields the literal again: every element starts with a character that is
neither blank nor the end of its bracket, and is followed by a comma or a colon, so that its reader
takes exactly what was written for it. One step of this is a lemma for each kind of bracket, and
the whole is an induction on the literal.
-/

namespace LootSpawn.Literal

open Text

/-! ## Blanks -/

theorem skipSpace_cons_of_isSpace {c : Char} (h : isSpace c = true) (cs : List Char) :
    skipSpace (c :: cs) = skipSpace cs := by
  simp only [isSpace, Bool.or_eq_true, beq_iff_eq] at h
  rcases h with ((rfl | rfl) | rfl) | rfl
  all_goals rfl

/-- The start of a line is skipped. -/
theorem skipSpace_newline (depth : Nat) (cs : List Char) :
    skipSpace (newline depth ++ cs) = skipSpace cs := by
  rw [newline, List.cons_append, skipSpace_cons_of_isSpace rfl]
  induction 4 * depth with
  | zero => rfl
  | succ width ih =>
      rw [List.replicate_succ, List.cons_append, skipSpace_cons_of_isSpace rfl, ih]

theorem skipSpace_cons {c : Char} (hspace : isSpace c = false) (hcomment : c ≠ '/')
    (cs : List Char) : skipSpace (c :: cs) = some (c :: cs) := by
  simp [skipSpace, skipSpaceFrom, hspace, hcomment]

theorem afterMark?_cons (mark : Char) (hspace : isSpace mark = false) (hcomment : mark ≠ '/')
    (cs : List Char) : afterMark? mark (mark :: cs) = some cs := by
  simp [afterMark?, skipSpace_cons hspace hcomment]

/-! ## What a reader takes -/

/-- The characters that are skipped, close a bracket or start an attribute. -/
def passedOver : List Char := [' ', '\n', '\t', '\r', '/', ')', ']', '\x7d', '#']

/-- The character may be the first one of a literal. -/
def opens (c : Char) : Bool := c ∉ passedOver

theorem opens_of {p : Char → Bool} {c : Char} (h : p c = true)
    (hnot : passedOver.any p = false) : opens c = true := by
  rw [opens, decide_eq_true_eq]
  intro hmem
  rw [List.any_eq_false] at hnot
  exact hnot c hmem h

theorem isSpace_of_opens {c : Char} (h : opens c = true) : isSpace c = false ∧ c ≠ '/' := by
  simp only [opens, passedOver, decide_eq_true_eq, List.mem_cons, not_or] at h
  refine ⟨?_, h.2.2.2.2.1⟩
  simp [isSpace, h]

/-- The reader takes the text for the value, and nothing beyond it. -/
structure Takes {α : Type} (read : Reader α) (text : List Char) (value : α) : Prop where
  starts : ∃ c ∈ text.head?, opens c = true
  reads : ∀ rest, Ends rest → read (text ++ rest) = some (value, rest)

namespace Takes

variable {α : Type} {read : Reader α} {text : List Char} {value : α}

theorem exists_cons (h : Takes read text value) :
    ∃ c more, text = c :: more ∧ opens c = true := by
  obtain ⟨c, hc, hopens⟩ := h.starts
  obtain ⟨more, rfl⟩ := List.head?_eq_some_iff.mp hc
  exact ⟨c, more, rfl, hopens⟩

/-- Blanks before the text are skipped up to it. -/
theorem skipSpace_append (h : Takes read text value) (rest : List Char) :
    skipSpace (text ++ rest) = some (text ++ rest) := by
  obtain ⟨c, more, rfl, hopens⟩ := h.exists_cons
  exact skipSpace_cons (isSpace_of_opens hopens).1 (isSpace_of_opens hopens).2 _

/-- A key with a value. -/
theorem keyed {κ : Type} {key : Reader κ} {item : Reader Literal} {name itemText : List Char}
    {k : κ} {literal : Literal} (hkey : Takes key name k) (hitem : Takes item itemText literal) :
    Takes (keyed key item) (name ++ ':' :: ' ' :: itemText) (k, literal) := by
  refine ⟨?_, fun rest hrest => ?_⟩
  · obtain ⟨c, more, rfl, hopens⟩ := hkey.exists_cons
    exact ⟨c, rfl, hopens⟩
  · have hcolon := hkey.reads (':' :: ' ' :: (itemText ++ rest)) (ends_colon _)
    have hskip : skipSpace (' ' :: (itemText ++ rest)) = some (itemText ++ rest) := by
      rw [skipSpace_cons_of_isSpace rfl, hitem.skipSpace_append]
    simp only [Literal.keyed, List.append_assoc, List.cons_append, hcolon,
      afterMark?_cons ':' rfl (by decide), hskip, hitem.reads rest hrest,
      Option.bind_eq_bind, Option.bind_some]
    rfl

end Takes

/-! ## Brackets -/

/-- Texts on lines of their own, with a comma after each of them. -/
def lines (depth : Nat) (texts : List (List Char)) : List Char :=
  texts.flatMap fun text => newline depth ++ text ++ [',']

theorem writeItems_eq_lines (depth : Nat) (items : List Literal) :
    writeItems depth items = lines depth (items.map (write depth)) := by
  induction items with
  | nil => rfl
  | cons item rest ih => rw [writeItems, ih]; rfl

/-- The text of an entry of a map. -/
def entryText (depth : Nat) (entry : Literal × Literal) : List Char :=
  write depth entry.1 ++ ':' :: ' ' :: write depth entry.2

theorem writeEntries_eq_lines (depth : Nat) (entries : List (Literal × Literal)) :
    writeEntries depth entries = lines depth (entries.map (entryText depth)) := by
  induction entries with
  | nil => rfl
  | cons entry rest ih =>
      rw [writeEntries, ih]
      simp [lines, entryText]

/-- The text of a field of a record. -/
def fieldText (depth : Nat) (field : String × Literal) : List Char :=
  field.1.toList ++ ':' :: ' ' :: write depth field.2

theorem writeFields_eq_lines (depth : Nat) (fields : List (String × Literal)) :
    writeFields depth fields = lines depth (fields.map (fieldText depth)) := by
  induction fields with
  | nil => rfl
  | cons field rest ih =>
      rw [writeFields, ih]
      simp [lines, fieldText]

/-- What stands behind an opening bracket, up to the closing one. -/
def inside (close : Char) (depth : Nat) (texts : List (List Char)) : List Char :=
  if texts.isEmpty then [close] else lines (depth + 1) texts ++ newline depth ++ [close]

theorem bracketed_lines (opening close : Char) (depth : Nat) (texts : List (List Char)) :
    bracketed opening close depth (lines (depth + 1) texts) =
      opening :: inside close depth texts := by
  cases texts with
  | nil => rfl
  | cons text texts => simp [bracketed, inside, lines]

variable {α : Type} {item : Reader α}

/-- Lines are read one by one, and then the closing character behind them. -/
theorem separatedFrom_lines {close : Char} {texts : List (List Char)} {values : List α}
    (h : List.Forall₂ (Takes item) texts values) {closing rest : List Char}
    (hclosing : skipSpace closing = some (close :: rest)) (hclose : opens close = false)
    (depth : Nat) {fuel : Nat} (hfuel : texts.length < fuel) :
    separatedFrom item close fuel (lines depth texts ++ closing) = some (values, rest) := by
  induction h generalizing fuel with
  | nil =>
      obtain ⟨fuel, rfl⟩ := Nat.exists_eq_succ_of_ne_zero (Nat.ne_zero_of_lt hfuel)
      simp [lines, separatedFrom, hclosing]
  | @cons text value texts values htext htexts ih =>
      obtain ⟨fuel, rfl⟩ := Nat.exists_eq_succ_of_ne_zero (Nat.ne_zero_of_lt hfuel)
      have hmore := ih (Nat.lt_of_succ_lt_succ hfuel)
      have hread := htext.reads (',' :: (lines depth texts ++ closing)) (ends_comma _)
      have hskip := htext.skipSpace_append (',' :: (lines depth texts ++ closing))
      obtain ⟨c, more, rfl, hopens⟩ := htext.exists_cons
      have hne : (c == close) = false := by
        rw [beq_eq_false_iff_ne]
        rintro rfl
        rw [hclose] at hopens
        cases hopens
      have hcomma : skipSpace (',' :: (lines depth texts ++ closing)) =
          some (',' :: (lines depth texts ++ closing)) := skipSpace_cons rfl (by decide) _
      have hline : lines depth ((c :: more) :: texts) ++ closing =
          newline depth ++ (c :: more ++ ',' :: (lines depth texts ++ closing)) := by
        simp [lines]
      rw [List.cons_append] at hread hskip
      simp only [hline, separatedFrom, skipSpace_newline, List.cons_append, hskip, hread, hcomma,
        hmore, hne, Option.bind_eq_bind, Option.bind_some, BEq.rfl, if_true, Bool.false_eq_true,
        if_false]
      rfl

theorem length_le_length_lines (depth : Nat) (texts : List (List Char)) :
    texts.length ≤ (lines depth texts).length := by
  induction texts with
  | nil => exact Nat.le_refl 0
  | cons text texts ih =>
      simp only [lines, List.flatMap_cons, List.length_append, List.length_cons] at ih ⊢
      omega

/-- The elements between brackets are read up to the closing one, whatever follows it. -/
theorem separated_inside (close : Char) {texts : List (List Char)} {values : List α}
    (h : List.Forall₂ (Takes item) texts values) (hspace : isSpace close = false)
    (hcomment : close ≠ '/') (hclose : opens close = false) (depth : Nat) (rest : List Char) :
    separated item close (inside close depth texts ++ rest) = some (values, rest) := by
  have hskip : skipSpace (close :: rest) = some (close :: rest) := skipSpace_cons hspace hcomment _
  rw [separated, inside]
  cases texts with
  | nil =>
      have hread := separatedFrom_lines h hskip hclose depth (Nat.zero_lt_succ (rest.length + 1))
      exact hread
  | cons text texts =>
      have hclosing : skipSpace (newline depth ++ close :: rest) = some (close :: rest) := by
        rw [skipSpace_newline, hskip]
      have hlength := length_le_length_lines (depth + 1) (text :: texts)
      rw [if_neg (by simp), List.append_assoc, List.append_assoc, List.singleton_append]
      apply separatedFrom_lines h hclosing hclose
      rw [List.length_append]
      omega

/-! ## Names of fields -/

/-- A word that is written without a mark, and that does not look like the start of a raw text. -/
def isFieldName (name : String) : Bool :=
  name.toList.head?.any isWordStart && name.toList.all isWordPart && name != "r"

theorem plainWord?_append {name : String} (h : ∀ c ∈ name.toList, isWordPart c = true)
    {rest : List Char} (hrest : Ends rest) :
    plainWord? (name.toList ++ rest) = some (name, rest) := by
  have hspan := span_run h (hrest.stops (p := isWordPart) (by decide) (by decide))
  rw [plainWord?, hspan]
  cases rest with
  | nil => simp
  | cons c rest =>
      have hraw : isRawPart c = false :=
        stops_cons.mp (hrest.stops (p := isRawPart) (by decide) (by decide))
      simp [hraw]

theorem takes_word {name : String} (h : isFieldName name = true) :
    Takes word? name.toList name := by
  simp only [isFieldName, Bool.and_eq_true, bne_iff_ne, List.all_eq_true, Option.any_eq_true] at h
  obtain ⟨⟨⟨c, hc, hstart⟩, hparts⟩, hraw⟩ := h
  refine ⟨⟨c, hc, opens_of hstart (by decide)⟩, fun rest hrest => ?_⟩
  have hplain := plainWord?_append hparts hrest
  obtain ⟨more, hname⟩ := List.head?_eq_some_iff.mp hc
  rw [hname, List.cons_append] at hplain ⊢
  unfold word?
  split
  next tail heq =>
    -- A word that starts with an r goes on with a part of a word.
    obtain ⟨rfl, rfl⟩ := List.cons.inj heq
    have hmore : more ≠ [] := by
      rintro rfl
      exact hraw (String.toList_inj.mp hname)
    obtain ⟨d, more, rfl⟩ := List.exists_cons_of_ne_nil hmore
    have hpart : isWordPart d = true := hparts d (by simp [hname])
    split
    next heq => cases heq
    next heq =>
      obtain ⟨rfl, -⟩ := List.cons.inj heq
      cases hpart
    next heq =>
      obtain ⟨rfl, -⟩ := List.cons.inj heq
      cases hpart
    next => exact hplain
  next heq =>
    obtain ⟨rfl, rfl⟩ := List.cons.inj heq
    rw [hstart, if_pos rfl, hplain]
  next heq => cases heq

/-! ## Literals -/

/-- A literal as stores are written with: its numbers are natural, its records have fields with
plain names, and its brackets are nested at most so deep. -/
inductive Storable : Nat → Literal → Prop
  | text (depth : Nat) (value : String) : Storable depth (.text value)
  | number (depth : Nat) {value : Nat} (h : value < UInt64.size) :
      Storable depth (.number (toString value))
  | list {depth : Nat} {items : List Literal} (h : ∀ item ∈ items, Storable depth item) :
      Storable (depth + 1) (.list items)
  | map {depth : Nat} {entries : List (Literal × Literal)}
      (hkeys : ∀ entry ∈ entries, Storable depth entry.1)
      (hvalues : ∀ entry ∈ entries, Storable depth entry.2) :
      Storable (depth + 1) (.map entries)
  | record {depth : Nat} {fields : List (String × Literal)} (hne : fields ≠ [])
      (hnames : ∀ field ∈ fields, isFieldName field.1 = true)
      (hvalues : ∀ field ∈ fields, Storable depth field.2) :
      Storable (depth + 1) (.record none fields)

/-- The character starts no word, neither one that is a literal nor one in front of a record. -/
def startsNoWord (c : Char) : Bool := !isWordStart c && c != '+' && c != '-'

theorem afterWholeWord?_eq_none {first c : Char} (h : first ≠ c) (word cs : List Char) :
    afterWholeWord? (first :: word) (c :: cs) = none := by
  rw [afterWholeWord?, if_neg (by simpa using h)]

theorem oneOf?_eq_none {words : List String} {c : Char} (cs : List Char)
    (h : startsNoWord c = true)
    (hwords : (words.all fun word =>
      word.toList.head?.any fun first => !startsNoWord first) = true) :
    oneOf? words (c :: cs) = none := by
  rw [oneOf?, List.findSome?_eq_none_iff]
  intro word hword
  have hfirst := List.all_eq_true.mp hwords word hword
  rw [Option.any_eq_true] at hfirst
  obtain ⟨first, hhead, hstarts⟩ := hfirst
  obtain ⟨more, hmore⟩ := List.head?_eq_some_iff.mp hhead
  have hne : first ≠ c := by
    rintro rfl
    rw [h] at hstarts
    cases hstarts
  rw [hmore, afterWholeWord?_eq_none hne, Option.map_none]

/-- A literal that starts with no word starts with a mark, unless it is empty parentheses. -/
theorem literal_eq_marked (bare : Bool) (inner item : Option (Reader Literal)) {c : Char}
    {cs : List Char} (h : startsNoWord c = true) (hunit : c ≠ '(' ∨ cs.head? ≠ some ')') :
    literal bare inner item (c :: cs) = marked item (c :: cs) := by
  have hsome : afterWholeWord? "Some".toList (c :: cs) = none := by
    apply afterWholeWord?_eq_none
    rintro rfl
    cases h
  have hword : word? (c :: cs) = none := by
    simp only [startsNoWord, Bool.and_eq_true, Bool.not_eq_true'] at h
    unfold word?
    split
    next heq =>
      obtain rfl : c = 'r' := (List.cons.inj heq).1
      exact absurd h.1.1 (by decide)
    next heq =>
      obtain ⟨rfl, rfl⟩ := List.cons.inj heq
      rw [h.1.1, if_neg Bool.false_ne_true]
    next heq => cases heq
  unfold literal
  rw [oneOf?_eq_none cs h (by decide), oneOf?_eq_none cs h (by decide), hsome]
  dsimp only
  split
  next heq =>
    obtain ⟨rfl, rfl⟩ := List.cons.inj heq
    exact hunit.elim (absurd rfl) (absurd rfl)
  next => rw [hword]

theorem takes_text (bare : Bool) (inner item : Option (Reader Literal)) (value : String) :
    Takes (literal bare inner item) (quote value.toList) (.text value) := by
  refine ⟨⟨'"', rfl, by decide⟩, fun rest _ => ?_⟩
  have hread := text?_quote value.toList rest
  rw [quote, List.cons_append, List.cons_append] at hread ⊢
  rw [literal_eq_marked bare inner item (by decide) (.inl (by decide))]
  have hdigit : Number.isDigit '"' = false := by decide
  simp [marked, hdigit, hread, -List.append_assoc]

theorem digitChar_marked : ∀ digit < 10, startsNoWord digit.digitChar = true ∧
    opens digit.digitChar = true ∧ Number.isDigit digit.digitChar = true ∧
      digit.digitChar ∉ ['(', '[', '\x7b', '.'] := by
  decide

theorem takes_number (bare : Bool) (inner item : Option (Reader Literal)) {value : Nat}
    (h : value < UInt64.size) :
    Takes (literal bare inner item) (toString value).toList (.number (toString value)) := by
  rw [Nat.toString_eq_ofList_toDigits, String.toList_ofList, ← Nat.toString_eq_ofList_toDigits]
  obtain ⟨first, digits, hdigits⟩ := List.exists_cons_of_ne_nil
    (Nat.toDigits_ne_nil (n := value) (b := 10))
  obtain ⟨digit, hdigit, rfl⟩ : ∃ digit < 10, first = digit.digitChar :=
    exists_digit_of_mem_toDigits (by decide) _ (hdigits ▸ List.mem_cons_self)
  obtain ⟨hword, hopens, hisDigit, hmarks⟩ := digitChar_marked digit hdigit
  simp only [List.mem_cons, not_or] at hmarks
  refine ⟨⟨digit.digitChar, by rw [hdigits]; rfl, hopens⟩, fun rest hrest => ?_⟩
  have hread := number?_toDigits h hrest
  rw [hdigits, List.cons_append] at hread ⊢
  rw [literal_eq_marked bare inner item hword (.inl hmarks.1)]
  simp [marked, hmarks, hisDigit, hread]

section Brackets

variable (bare : Bool) (inner : Option (Reader Literal)) {item : Reader Literal} (depth : Nat)

theorem takes_list {texts : List (List Char)} {items : List Literal}
    (h : List.Forall₂ (Takes item) texts items) :
    Takes (literal bare inner (some item)) ('[' :: inside ']' depth texts) (.list items) := by
  refine ⟨⟨'[', rfl, by decide⟩, fun rest _ => ?_⟩
  have hread := separated_inside ']' h rfl (by decide) (by decide) depth rest
  rw [List.cons_append, literal_eq_marked bare inner (some item) (by decide) (.inl (by decide))]
  simp [marked, hread]

theorem takes_map {texts : List (List Char)} {entries : List (Literal × Literal)}
    (h : List.Forall₂ (Takes (keyed item item)) texts entries) :
    Takes (literal bare inner (some item)) ('\x7b' :: inside '\x7d' depth texts)
      (.map entries) := by
  refine ⟨⟨'\x7b', rfl, by decide⟩, fun rest _ => ?_⟩
  have hread := separated_inside '\x7d' h rfl (by decide) (by decide) depth rest
  rw [List.cons_append, literal_eq_marked bare inner (some item) (by decide) (.inl (by decide))]
  simp [marked, hread]

theorem startsField_inside {name : String} (hname : isFieldName name = true) (text : List Char)
    (texts : List (List Char)) (rest : List Char) :
    startsField (inside ')' depth ((name.toList ++ ':' :: ' ' :: text) :: texts) ++ rest) =
      true := by
  have hword := takes_word hname
  rw [inside, if_neg (by simp)]
  simp only [lines, List.flatMap_cons, List.append_assoc, List.cons_append]
  rw [startsField, skipSpace_newline, hword.skipSpace_append, Option.bind_some,
    hword.reads _ (ends_colon _)]
  simp only [afterMark?_cons ':' rfl (by decide)]
  rfl

theorem takes_record {name : String} (hname : isFieldName name = true) {text : List Char}
    {texts : List (List Char)} {fields : List (String × Literal)}
    (h : List.Forall₂ (Takes (keyed word? item))
      ((name.toList ++ ':' :: ' ' :: text) :: texts) fields) :
    Takes (literal bare inner (some item))
      ('(' :: inside ')' depth ((name.toList ++ ':' :: ' ' :: text) :: texts))
      (.record none fields) := by
  refine ⟨⟨'(', rfl, by decide⟩, fun rest _ => ?_⟩
  have hread := separated_inside ')' h rfl (by decide) (by decide) depth rest
  have hfield := startsField_inside depth hname text texts rest
  have hhead : (inside ')' depth ((name.toList ++ ':' :: ' ' :: text) :: texts) ++ rest).head? =
      some '\n' := rfl
  rw [List.cons_append, literal_eq_marked bare inner (some item) (by decide)
    (.inr (by rw [hhead]; decide))]
  simp [marked, parenthesized, hfield, hread]

end Brackets

theorem atMost_eq_literal (bare : Bool) (level : Nat) :
    ∃ inner item, atMost bare level = literal bare inner item := by
  match level with
  | 0 => exact ⟨none, none, rfl⟩
  | 1 => exact ⟨_, _, rfl⟩
  | level + 2 => exact ⟨_, _, rfl⟩

/-- What is written for a storable literal is read as the literal, as long as there are two levels
left for each of its brackets. -/
theorem Storable.takes {bound : Nat} {value : Literal} (h : Storable bound value) (bare : Bool)
    {level : Nat} (hlevel : 2 * bound ≤ level) (depth : Nat) :
    Takes (atMost bare level) (write depth value) value := by
  induction h generalizing level depth with
  | text _ value =>
      obtain ⟨inner, item, hliteral⟩ := atMost_eq_literal bare level
      rw [hliteral]
      exact takes_text bare inner item value
  | number _ hvalue =>
      obtain ⟨inner, item, hliteral⟩ := atMost_eq_literal bare level
      rw [hliteral]
      exact takes_number bare inner item hvalue
  | @list bound items _ ih =>
      obtain ⟨level, rfl⟩ := Nat.exists_eq_add_of_le' (show 2 ≤ level by omega)
      rw [write, writeItems_eq_lines, bracketed_lines]
      apply takes_list
      rw [List.forall₂_map_left_iff, List.forall₂_same]
      exact fun item hitem => ih item hitem (by omega) (depth + 1)
  | @map bound entries _ _ ihkeys ihvalues =>
      obtain ⟨level, rfl⟩ := Nat.exists_eq_add_of_le' (show 2 ≤ level by omega)
      rw [write, writeEntries_eq_lines, bracketed_lines]
      apply takes_map
      rw [List.forall₂_map_left_iff, List.forall₂_same]
      intro entry hentry
      exact (ihkeys entry hentry (by omega) (depth + 1)).keyed
        (ihvalues entry hentry (by omega) (depth + 1))
  | @record bound fields hne hnames _ ih =>
      obtain ⟨level, rfl⟩ := Nat.exists_eq_add_of_le' (show 2 ≤ level by omega)
      obtain ⟨field, fields, rfl⟩ := List.exists_cons_of_ne_nil hne
      rw [write, writeFields_eq_lines, bracketed_lines]
      apply takes_record bare _ depth (hnames field List.mem_cons_self)
      rw [← fieldText, ← List.map_cons, List.forall₂_map_left_iff, List.forall₂_same]
      intro field hfield
      exact (takes_word (hnames field hfield)).keyed (ih field hfield (by omega) (depth + 1))

/-- The document of a storable literal is read as the literal. -/
theorem ofText?_toText {value : Literal} (h : Storable 64 value) :
    ofText? (toText value) = some value := by
  have htakes := h.takes false (Nat.le_refl 128) 0
  have hread := htakes.reads [] ends_nil
  have hskip := htakes.skipSpace_append []
  obtain ⟨c, more, htext, hopens⟩ := htakes.exists_cons
  rw [List.append_nil, htext] at hread hskip
  have hattribute : c ≠ '#' := by
    rintro rfl
    cases hopens
  have hattributes : attributes? (c :: more).length (c :: more) = some ([], c :: more) := by
    rw [List.length_cons, attributes?, hskip, Option.bind_eq_bind, Option.bind_some]
    split
    next heq => exact absurd (List.cons.inj heq).1 hattribute
    next => rfl
  rw [ofText?, toText, String.toList_ofList, htext]
  simp only [hattributes, Option.bind_eq_bind, Option.bind_some, List.contains_nil, hread]
  rfl

end LootSpawn.Literal
