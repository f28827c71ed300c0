import LootSpawn.Proofs.Line.Reading
import LootSpawn.Proofs.Line.Declaration
import LootSpawn.Proofs.Name.HostNames
import LootSpawn.Proofs.Name.ItemNames
import LootSpawn.Proofs.Store.LootContents

/-!
# Lines that place an item

A line that places an item is read by what follows the name, and the name is only passed on. What
follows is put in lower case after the name, though, and a sigma there may look back at it. Such a
sigma stands where a key would have to stand, so lines that differ in it only are both no lines of
an item. A line with an item is therefore read alike with its prefix and without it.
-/

namespace LootSpawn

open Text

/-! ## Surroundings -/

theorem Text.Stops.of_append {p : Char → Bool} {front rest : List Char}
    (h : Stops p (front ++ rest)) : Stops p front := by
  cases front with
  | nil => exact stops_nil
  | cons c front => exact stops_cons.mpr (stops_cons.mp h)

/-- Whether a text starts with a word character in lower case does not depend on what is before
it. -/
theorem Text.stops_isWord_lowerAfter {text : List Char} (h : Stops isWord (lower text))
    (before : List Char) : Stops isWord (lowerAfter before text) := by
  cases text with
  | nil => exact stops_nil
  | cons c text =>
      by_cases hsigma : c = 'Σ'
      · -- Both forms of a sigma are word characters.
        subst hsigma
        have hword : isWord (lowerSigma [] text) = false := stops_cons.mp h
        rcases lowerSigma_cases [] text with hform | hform
        · rw [hform, isWord_sigma.1] at hword
          cases hword
        · rw [hform, isWord_sigma.2] at hword
          cases hword
      · obtain ⟨d, forms, hforms⟩ := List.exists_cons_of_ne_nil (lowerChar_ne_nil c)
        rw [lower, lowerAfter_cons, formAt_of_ne_sigma hsigma, hforms] at h
        rw [lowerAfter_cons, formAt_of_ne_sigma hsigma, hforms]
        exact stops_cons.mpr (stops_cons.mp h)

/-- What is before a text makes no difference to its lower case, unless the text starts with a sigma
on its own. -/
theorem Text.lowerAfter_eq_or (before before' text : List Char) :
    lowerAfter before text = lowerAfter before' text ∨ StartsWithLoneSigma text := by
  rw [or_iff_not_imp_right]
  intro hsigma
  cases hbefore : startsCased before with
  | true =>
      cases hbefore' : startsCased before' with
      | true => exact lowerAfter_congr (hbefore.trans hbefore'.symm) text
      | false => exact (lowerAfter_eq_iff hbefore hbefore' text).mpr hsigma
  | false =>
      cases hbefore' : startsCased before' with
      | true => exact ((lowerAfter_eq_iff hbefore' hbefore text).mpr hsigma).symm
      | false => exact lowerAfter_congr (hbefore.trans hbefore'.symm) text

/-- A name keeps the blanks after it apart from itself. -/
theorem Name.dropTrailingBlanks_append (name : Name) (rest : List Char) :
    dropTrailingBlanks (name ++ rest) = name ++ dropTrailingBlanks rest := by
  by_cases h : dropTrailingBlanks rest = []
  · rw [dropTrailingBlanks_append_of_nil name.val h, h, List.append_nil,
      dropTrailingBlanks_of_not_isBlank name.isBlank_of_mem]
  · exact dropTrailingBlanks_append_of_ne_nil name.val h

/-! ## Reading -/

/-- Reads a line of an item, given the name and what follows it. -/
def readItem (name rest : List Char) : Except LineFault Line :=
  match SpawnText.clauses? rest with
  | some (position, rotation, chance) => SpawnText.toLine ⟨name, position, rotation, chance⟩
  | none =>
      match (afterSeparatedKey? 'w' rest).bind wholeToken? with
      | some weight => (readWeight weight).map fun weight => .lootEntry ⟨String.ofList name, weight⟩
      | none => .error .unrecognized

theorem Line.read_of_item {raw : String} {equals : EqualsForm} {name : Name} {rest : List Char}
    (h : normalize raw = "item".toList ++ (equals.text ++ (name ++ rest)))
    (hrest : Stops isWord rest) : Line.read raw = (readItem name rest).map some := by
  have hvalue : afterKey? "item".toList (normalize raw) = some (name ++ rest) :=
    (afterKey?_eq_some_iff _ _ _).mpr ⟨equals, h, name.stops_isBlank rest⟩
  have hname : name? (name ++ rest) = some (name.val, rest) :=
    (name?_eq_some_iff _ _ _).mpr ⟨name, rfl, rfl, hrest⟩
  have hspawn : Shape.spawn.read? (normalize raw) =
      (SpawnText.clauses? rest).map fun clauses =>
        SpawnText.toLine ⟨name, clauses.1, clauses.2.1, clauses.2.2⟩ := by
    simp only [Shape.read?, SpawnText.match?, hvalue, Option.bind_eq_bind, Option.bind_some, hname]
    cases SpawnText.clauses? rest with
    | _ => rfl
  have hloot : Shape.lootEntry.read? (normalize raw) =
      ((afterSeparatedKey? 'w' rest).bind wholeToken?).map fun weight =>
        (readWeight weight).map fun weight => .lootEntry ⟨String.ofList name, weight⟩ := by
    simp only [Shape.read?, lootText?, hvalue, Option.bind_eq_bind, Option.bind_some, hname]
    cases afterSeparatedKey? 'w' rest with
    | none => rfl
    | some value =>
        rw [Option.bind_some, Option.bind_some]
        cases wholeToken? value with
        | _ => rfl
  have hscene : Shape.scene.read? (normalize raw) = none := by
    rw [h]
    rfl
  have htag : Shape.tag.read? (normalize raw) = none := by
    rw [h]
    rfl
  have htable : Shape.lootTable.read? (normalize raw) = none := by
    rw [h]
    rfl
  have hsilent : isSilent (normalize raw) = false := by
    rw [h]
    rfl
  simp only [read, readTrying, hsilent, Bool.false_eq_true, if_false, Shape.all,
    List.findSome?_cons, hscene, htag, hspawn, htable, hloot, List.findSome?_nil, readItem]
  cases SpawnText.clauses? rest with
  | some clauses => rfl
  | none =>
      cases (afterSeparatedKey? 'w' rest).bind wholeToken? with
      | _ => rfl

/-! ## A sigma on its own -/

/-- A character of ASCII stays or becomes a small letter. -/
theorem Text.IsForm.eq_or_of_ascii {c d : Char} (h : IsForm c d) (hascii : c.toNat < 0x80) :
    d = c ∨ d = c.toLower := by
  cases h with
  | same => exact Or.inl rfl
  | ascii => exact Or.inr rfl
  | dotless => exact absurd hascii (by decide)
  | dot => exact absurd hascii (by decide)
  | finalSigma => exact absurd hascii (by decide)
  | innerSigma => exact absurd hascii (by decide)
  | @letter _ _ run hrun hcovers _ =>
      obtain ⟨hfirst, -, -⟩ := (run.covers_iff c.toNat).mp hcovers
      have hletters := (caseRuns_ascii run hrun).1
      omega

/-- A sigma on its own becomes a word character, and no key is before it. -/
theorem Text.exists_lowerAfter_of_loneSigma {text : List Char} (h : StartsWithLoneSigma text)
    (before : List Char) : ∃ front sigma rest, lowerAfter before text = front ++ sigma :: rest ∧
      (sigma = 'ς' ∨ sigma = 'σ') ∧ ∀ d ∈ front, ∃ c, isCaseIgnorable c = true ∧ IsForm c d := by
  obtain ⟨rest, hsigma, -⟩ := h
  -- The induction is on the characters before the sigma, which case rules look through.
  induction text generalizing before with
  | nil => cases hsigma
  | cons c text ih =>
      by_cases hc : isCaseIgnorable c = true
      · rw [List.dropWhile_cons_of_pos hc] at hsigma
        obtain ⟨front, sigma, tail, htext, hform, hfront⟩ := ih (c :: before) hsigma
        refine ⟨formAt before c text ++ front, sigma, tail, ?_, hform, ?_⟩
        · rw [lowerAfter_cons, htext, List.append_assoc]
        · intro d hd
          rcases List.mem_append.mp hd with hd | hd
          · exact ⟨c, hc, isForm_of_mem_formAt hd⟩
          · exact hfront d hd
      · rw [List.dropWhile_cons_of_neg hc] at hsigma
        obtain ⟨rfl, rfl⟩ := List.cons_eq_cons.mp hsigma
        exact ⟨[], lowerSigma before text, _, rfl, lowerSigma_cases before text,
          List.forall_mem_nil _⟩

/-- The keys of the clauses of an item. -/
def itemKeys : List Char := ['p', 'r', 'c', 'w']

theorem itemKeys_plain : ∀ key ∈ itemKeys, isWord key = true ∧ IsPlain key ∧
    isCaseIgnorable key = false ∧ key ≠ 'ς' ∧ key ≠ 'σ' :=
  List.all_iff_forall_prop.mp (by decide +kernel)

/-- No clause begins where a sigma on its own stands. -/
theorem afterSeparatedKey?_of_loneSigma {text : List Char} (h : StartsWithLoneSigma text)
    (before : List Char) {key : Char} (hkey : key ∈ itemKeys) :
    afterSeparatedKey? key (lowerAfter before text) = none := by
  obtain ⟨hword, hplain, hignorable, hfinal, hinner⟩ := itemKeys_plain key hkey
  obtain ⟨front, sigma, rest, htext, hsigma, hfront⟩ := exists_lowerAfter_of_loneSigma h before
  have hsigmaWord : isWord sigma = true := by
    rcases hsigma with rfl | rfl
    · exact isWord_sigma.1
    · exact isWord_sigma.2
  by_contra hsome
  obtain ⟨value, hvalue⟩ := Option.ne_none_iff_exists'.mp hsome
  obtain ⟨separator, equals, hsplit, -⟩ := (afterSeparatedKey?_eq_some_iff hword _ _).mp hvalue
  rcases append_cons_cases (htext.symm.trans hsplit) with
    hmem | ⟨-, rfl, -⟩ | ⟨between, hbetween, -⟩
  · -- A key is the form of no character that case rules look through.
    obtain ⟨c, hc, hform⟩ := hfront key hmem
    rcases hform.ascii_or_dotted hplain with hascii | rfl
    · rcases hform.eq_or_of_ascii hascii with rfl | rfl
      · rw [hc] at hignorable
        cases hignorable
      · rw [(caseless_toLower c).2, hc] at hignorable
        cases hignorable
    · exact absurd hc (by decide +kernel)
  · rcases hsigma with rfl | rfl
    · exact hfinal rfl
    · exact hinner rfl
  · have hmem : sigma ∈ separator.val := by
      rw [hbetween]
      exact List.mem_append_right front List.mem_cons_self
    have hnot := separator.property.2 sigma hmem
    rw [hsigmaWord] at hnot
    cases hnot

theorem SpawnText.clauses?_eq_none {rest : List Char} (hne : rest ≠ [])
    (h : ∀ key ∈ ['p', 'r', 'c'], afterSeparatedKey? key rest = none) : clauses? rest = none := by
  have hchance : chance? rest = none := by
    rw [chance?, if_neg (by simpa using hne), h 'c' (by decide)]
    rfl
  have hvector : ∀ {α : Type} (key : Char) {next : List Char → Option α}, key ∈ ['p', 'r', 'c'] →
      next rest = none → vectorThen? key next rest = none := by
    intro α key next hkey hnext
    rw [vectorThen?, h key hkey, hnext]
    rfl
  exact hvector 'p' (by decide) (hvector 'r' (by decide) hchance)

/-- What stands before the clauses of an item makes no difference to how they are read. -/
theorem readItem_lowerAfter (name before before' text : List Char) :
    readItem name (lowerAfter before text) = readItem name (lowerAfter before' text) := by
  rcases lowerAfter_eq_or before before' text with heq | hsigma
  · rw [heq]
  · -- Either way no clause begins after the name, so the line is no line of an item.
    have hunrecognized : ∀ before,
        readItem name (lowerAfter before text) = .error .unrecognized := by
      intro before
      obtain ⟨front, sigma, rest, htext, -, -⟩ := exists_lowerAfter_of_loneSigma hsigma before
      have hne : lowerAfter before text ≠ [] := by
        rw [htext]
        exact List.append_ne_nil_of_right_ne_nil _ (List.cons_ne_nil _ _)
      have hkeys : ∀ key ∈ ['p', 'r', 'c'], key ∈ itemKeys := fun _ =>
        List.mem_append_left ['w']
      have hclauses := SpawnText.clauses?_eq_none hne fun key hkey =>
        afterSeparatedKey?_of_loneSigma hsigma before (hkeys key hkey)
      rw [readItem, hclauses, afterSeparatedKey?_of_loneSigma hsigma before (by decide)]
      rfl
    rw [hunrecognized, hunrecognized]

/-! ## The name of the item -/

/-- The name of the item that a line places, as it is written there. -/
def Line.prefab? : Line → Option String
  | .spawn prefab _ _ _ => some prefab
  | .lootEntry entry => some entry.prefab
  | _ => none

/-- The line with its item, if it places one, under the prefix. -/
def Line.prefixed (itemPrefix : String) : Line → Line
  | .spawn prefab position rotation chance =>
      .spawn (itemName prefab itemPrefix) position rotation chance
  | .lootEntry entry => .lootEntry (entry.prefixed itemPrefix)
  | line => line

theorem prefab?_of_readItem {name rest : List Char} {said : Line}
    (h : readItem name rest = .ok said) : said.prefab? = some (String.ofList name) := by
  rw [readItem] at h
  split at h
  next =>
    simp only [toLine_eq, bind_eq_ok_iff] at h
    obtain ⟨chance, -, vector, -, turn, -, hsaid⟩ := h
    cases hsaid
    rfl
  next =>
    split at h
    next =>
      obtain ⟨weight, -, hsaid⟩ := bind_eq_ok_iff.mp h
      cases hsaid
      rfl
    next => cases h

/-- Names of one item are read alike. -/
theorem readItem_prefixed {name name' : List Char} {itemPrefix : String}
    (h : itemName (String.ofList name) itemPrefix = itemName (String.ofList name') itemPrefix)
    (rest : List Char) :
    (readItem name rest).map (Line.prefixed itemPrefix) =
      (readItem name' rest).map (Line.prefixed itemPrefix) := by
  have hspawn : ∀ position rotation chance,
      (Line.spawn (String.ofList name) position rotation chance).prefixed itemPrefix =
        (Line.spawn (String.ofList name') position rotation chance).prefixed itemPrefix :=
    fun position rotation chance => congrArg (Line.spawn · position rotation chance) h
  have hloot : ∀ weight,
      (Line.lootEntry ⟨String.ofList name, weight⟩).prefixed itemPrefix =
        (Line.lootEntry ⟨String.ofList name', weight⟩).prefixed itemPrefix :=
    fun weight => congrArg (fun prefab => Line.lootEntry ⟨prefab, weight⟩) h
  rw [readItem, readItem]
  cases SpawnText.clauses? rest with
  | some clauses =>
      simp only [toLine_eq]
      cases readChance clauses.2.2 with
      | error fault => rfl
      | ok chance =>
          cases readVector clauses.1 with
          | error fault => rfl
          | ok position =>
              cases readVector clauses.2.1 with
              | error fault => rfl
              | ok rotation => exact congrArg Except.ok (hspawn position rotation chance)
  | none =>
      cases (afterSeparatedKey? 'w' rest).bind wholeToken? with
      | none => rfl
      | some token =>
          dsimp only
          cases readWeight token with
          | error fault => rfl
          | ok weight => exact congrArg Except.ok (hloot weight)

/-! ## Lines -/

/-- A line that places an item taken apart, without the name of the item: the blanks before it, the
equals sign, and the clauses. The name ends where the clauses begin, so these start with no word
character in lower case. -/
structure ItemForm where
  before : Blanks
  equals : EqualsForm
  clauses : List Char
  stops : Stops isWord (lower clauses)

namespace ItemForm

variable {itemPrefix : String} {item : PrefixedItem itemPrefix} {start : List Char}

/-- The line with a name for the item. -/
def line (form : ItemForm) (name : List Char) : String :=
  String.ofList (form.before ++ ("item".toList ++ (form.equals.text ++ (name ++ form.clauses))))

theorem stops_clauses (form : ItemForm) (before : List Char) :
    Stops isWord (lowerAfter before (dropTrailingBlanks form.clauses)) := by
  apply stops_isWord_lowerAfter
  obtain ⟨after, hafter, hclauses⟩ := eq_dropTrailingBlanks_append form.clauses
  have hstops := form.stops
  rw [hclauses, lower, lowerAfter_append_blanks [] _ hafter] at hstops
  exact hstops.of_append

theorem trim_line (form : ItemForm) (start : List Char) (stem : Name) :
    trim (form.line (start ++ stem)).toList = "item".toList ++ (form.equals.text ++
      (start ++ (stem ++ dropTrailingBlanks form.clauses))) := by
  have hstem := stem.dropTrailingBlanks_append form.clauses
  have hne : dropTrailingBlanks (stem ++ form.clauses) ≠ [] := by
    rw [hstem]
    exact List.append_ne_nil_of_left_ne_nil stem.property.1 _
  have hkept := dropTrailingBlanks_append_of_ne_nil ("item".toList ++ form.equals.text ++ start) hne
  rw [hstem] at hkept
  simp only [List.append_assoc] at hkept
  rw [line, String.toList_ofList, trim_blanks_append form.before.property, List.append_assoc]
  exact hkept

/-- The form in which the line is read. The clauses are put in lower case behind the name. -/
theorem normalize_line (form : ItemForm) (hstart : start ∈ item.starts) :
    ∃ before, Line.normalize (form.line (start ++ item.stem)) =
      "item".toList ++ (form.equals.text ++ (start.map Char.toLower ++ item.stem ++
        lowerAfter before (dropTrailingBlanks form.clauses))) := by
  have hkey : ∀ c ∈ "item".toList, IsSettled c := List.all_iff_forall_prop.mp (by decide)
  have hstem : ∀ c ∈ item.stem.val, IsSettled c := by
    intro c hc
    rw [← item.settled] at hc
    exact isSettled_of_mem_lower hc
  refine ⟨item.stem.val.reverse ++ (start.reverse ++ (form.equals.text.reverse ++
    ("item".toList.reverse ++ []))), ?_⟩
  rw [Line.normalize, form.trim_line, lower, lowerAfter_settled_append _ hkey,
    lowerAfter_settled_append _ form.equals.isSettled,
    lowerAfter_ascii_append _ fun c hc => (item.plain_start hstart c hc).1,
    lowerAfter_settled_append _ hstem, List.append_assoc (start.map Char.toLower)]

/-- The line with an item is read by its clauses, and by the name of the item in lower case. -/
theorem read_line (form : ItemForm) (hstart : start ∈ item.starts) :
    Line.read (form.line (start ++ item.stem)) =
      (readItem (start.map Char.toLower ++ item.stem)
        (lower (dropTrailingBlanks form.clauses))).map some := by
  obtain ⟨before, hnormalize⟩ := form.normalize_line hstart
  have hword : ∀ c ∈ start.map Char.toLower ++ item.stem, isWord c = true := by
    rw [List.forall_mem_append, List.forall_mem_map]
    refine ⟨fun c hc => ?_, item.stem.property.2⟩
    obtain ⟨hascii, hc⟩ := item.plain_start hstart c hc
    rw [← Char.ofNat_toNat c] at hc ⊢
    exact isWord_toLower_ascii c.toNat hascii hc
  have hne : start.map Char.toLower ++ item.stem.val ≠ [] :=
    List.append_ne_nil_of_right_ne_nil _ item.stem.property.1
  have hread := @Line.read_of_item _ _ ⟨_, hne, hword⟩ _ hnormalize (form.stops_clauses before)
  rw [hread, lower, readItem_lowerAfter _ before []]

end ItemForm

namespace PrefixedItem

variable {itemPrefix : String} (item : PrefixedItem itemPrefix)

/-- Lines that differ in the prefix of the item are read alike. -/
theorem read_alike (form : ItemForm) :
    (Line.read (form.line (item.spelling ++ item.stem))).map
        (Option.map (Line.prefixed itemPrefix)) =
      (Line.read (form.line item.stem)).map (Option.map (Line.prefixed itemPrefix)) := by
  have hspelling : item.spelling ∈ item.starts := List.mem_cons_self
  have hnil : [] ∈ item.starts := List.mem_cons_of_mem _ (List.mem_singleton_self [])
  have hname := (item.itemName_eq hspelling).trans (item.itemName_eq hnil).symm
  have halike := readItem_prefixed hname (lower (dropTrailingBlanks form.clauses))
  have hbare := form.read_line hnil
  rw [List.nil_append] at hbare
  have hmap : ∀ result : Except LineFault Line,
      (result.map some).map (Option.map (Line.prefixed itemPrefix)) =
        (result.map (Line.prefixed itemPrefix)).map some := by
    rintro (fault | said)
    · rfl
    · rfl
  rw [form.read_line hspelling, hbare, hmap, hmap]
  exact congrArg (Except.map some) halike

/-- The line places the item, with its prefix or without it. -/
def IsPlacedBy (raw : String) : Prop :=
  ∃ (form : ItemForm) (start : List Char), start ∈ item.starts ∧
    raw = form.line (start ++ item.stem)

/-- What such a line says is about the item. -/
theorem prefab?_of_isPlacedBy {raw : String} {said : Line} (h : item.IsPlacedBy raw)
    (hsaid : Line.read raw = .ok (some said)) :
    ∃ prefab, said.prefab? = some prefab ∧ itemName prefab itemPrefix = item.name := by
  obtain ⟨form, start, hstart, rfl⟩ := h
  rw [form.read_line hstart] at hsaid
  cases hread : readItem (start.map Char.toLower ++ item.stem)
      (lower (dropTrailingBlanks form.clauses)) with
  | error fault =>
      rw [hread] at hsaid
      cases hsaid
  | ok line =>
      rw [hread] at hsaid
      cases hsaid
      exact ⟨_, prefab?_of_readItem hread, item.itemName_eq hstart⟩

end PrefixedItem

end LootSpawn
