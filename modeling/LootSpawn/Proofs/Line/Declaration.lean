import LootSpawn.Line.Shape
import LootSpawn.Proofs.Line.ClauseForm
import LootSpawn.Proofs.Text.LowerParts
import Mathlib.Data.Bool.AllAny

/-!
# Declarations taken apart

A line that declares something is a key, an equals sign and a name, among blanks. The line is put in
lower case as a whole, and the name is cut out of it afterwards. That yields the lower case of the
name: neither the key nor the sign has case to lend it, and what was a name still is one.
-/

namespace LootSpawn

open Text

/-- A declaration taken apart, without its key. -/
structure DeclarationForm where
  before : Blanks
  equals : EqualsForm
  name : Name
  after : Blanks

namespace DeclarationForm

/-- The declaration without the blanks at its two ends. -/
def core (form : DeclarationForm) (key : List Char) : List Char :=
  key ++ (form.equals.text ++ form.name)

def text (form : DeclarationForm) (key : List Char) : List Char :=
  form.before ++ (form.core key ++ form.after)

/-- The declared name as the host may write it. -/
def spelling (form : DeclarationForm) : String := String.ofList form.name

end DeclarationForm

/-- A key is a word in small letters. -/
structure IsKey (key : List Char) : Prop where
  ne_nil : key ≠ []
  isWord : ∀ c ∈ key, isWord c = true
  settled : ∀ c ∈ key, IsSettled c

/-- A key is decided along its text, not over all characters there are. -/
theorem isKey_of_all {key : List Char} (hne : key ≠ []) (hword : key.all isWord = true)
    (hsettled : (key.all fun c => decide (IsSettled c)) = true) : IsKey key :=
  ⟨hne, List.all_eq_true.mp hword, List.all_iff_forall_prop.mp hsettled⟩

theorem isKey_scene : IsKey "scene".toList := isKey_of_all (by decide) (by decide) (by decide)

theorem isKey_tag : IsKey "tag".toList := isKey_of_all (by decide) (by decide) (by decide)

/-! ## The text around a name -/

/-- A name in lower case. -/
def Name.lower (name : Name) : Name :=
  ⟨Text.lower name, lower_ne_nil name.property.1, isWord_of_mem_lower name.property.2⟩

theorem Name.isBlank_of_mem {name : Name} : ∀ c ∈ name.val, isBlank c = false :=
  fun c hc => isBlank_of_isWord (name.property.2 c hc)

theorem Name.stops (name : Name) : Stops isBlank name.val := by
  rw [← List.append_nil name.val]
  exact Stops.append_of_ne_nil [] name.property.1 name.isBlank_of_mem

/-- A text that ends in a name has no blanks at its end. -/
theorem Name.trim_append (name : Name) {front : List Char} (h : Stops isBlank (front ++ name)) :
    trim (front ++ name) = front ++ name := by
  have hname : dropTrailingBlanks name.val = name :=
    dropTrailingBlanks_of_not_isBlank name.isBlank_of_mem
  have hkept : skipBlanks (front ++ name) = front ++ name :=
    dropWhile_run (List.forall_mem_nil _) h
  rw [trim, hkept, dropTrailingBlanks_append_of_ne_nil front (hname.symm ▸ name.property.1), hname]

theorem EqualsForm.isSettled (equals : EqualsForm) : ∀ c ∈ equals.text, IsSettled c := by
  have hequals : IsSettled '=' := by decide
  rw [text, List.forall_mem_append, List.forall_mem_cons]
  exact ⟨fun c hc => isSettled_of_isBlank (equals.before.property c hc), hequals,
    fun c hc => isSettled_of_isBlank (equals.after.property c hc)⟩

/-- An equals sign hides the letters before it from those after it. -/
theorem EqualsForm.startsCased_reverse (equals : EqualsForm) (before : List Char) :
    startsCased (equals.text.reverse ++ before) = false := by
  have hequals : startsCased ('=' :: (equals.before.val.reverse ++ before)) = false := by
    rw [startsCased_cons]
    rfl
  rw [text, List.reverse_append, List.reverse_cons, List.append_assoc, List.append_assoc]
  exact startsCased_blanks_append (fun c hc => equals.after.property c (List.mem_reverse.mp hc))
    hequals

/-! ## Reading -/

theorem Line.normalize_dropReturn (line : List Char) :
    normalize (String.ofList (dropReturn line)) = normalize (String.ofList line) := by
  rw [normalize, normalize, String.toList_ofList, String.toList_ofList, trim_dropReturn]

namespace DeclarationForm

theorem trim_text (form : DeclarationForm) {key : List Char} (hkey : IsKey key) :
    trim (form.text key) = form.core key := by
  have hstops : Stops isBlank (key ++ (form.equals.text ++ form.name)) :=
    Stops.append_of_ne_nil _ hkey.ne_nil fun c hc => isBlank_of_isWord (hkey.isWord c hc)
  rw [← List.append_assoc] at hstops
  rw [text, trim_blanks_append form.before.property, trim_append_blanks _ form.after.property, core,
    ← List.append_assoc]
  exact form.name.trim_append hstops

theorem lower_core (form : DeclarationForm) {key : List Char} (hkey : IsKey key) :
    lower (form.core key) = key ++ (form.equals.text ++ form.name.lower) := by
  have hfront : ∀ c ∈ key ++ form.equals.text, IsSettled c :=
    List.forall_mem_append.mpr ⟨hkey.settled, form.equals.isSettled⟩
  have hequals := form.equals.startsCased_reverse (key.reverse ++ [])
  rw [← List.append_assoc, ← List.reverse_append] at hequals
  rw [core, ← List.append_assoc, lower, lowerAfter_settled_append [] hfront,
    lowerAfter_eq_lower hequals, List.append_assoc]
  rfl

theorem declaredName?_core (form : DeclarationForm) {key : List Char} (hkey : IsKey key) :
    declaredName? key (lower (form.core key)) = some (lowerString form.spelling) := by
  have hvalue : afterKey? key (lower (form.core key)) = some form.name.lower.val :=
    (afterKey?_eq_some_iff _ _ _).mpr ⟨form.equals, form.lower_core hkey, form.name.lower.stops⟩
  have hsplit : name? form.name.lower.val = some (form.name.lower.val, []) :=
    (name?_eq_some_iff _ _ _).mpr ⟨form.name.lower, rfl, (List.append_nil _).symm, stops_nil⟩
  rw [declaredName?, hvalue, Option.bind_eq_bind, Option.bind_some, hsplit, Option.bind_eq_bind,
    Option.bind_some, lowerString, spelling, String.toList_ofList]
  rfl

/-- The form in which a declaration is read. -/
theorem normalize_text (form : DeclarationForm) {key : List Char} (hkey : IsKey key) :
    Line.normalize (String.ofList (form.text key)) = lower (form.core key) := by
  rw [Line.normalize, String.toList_ofList, form.trim_text hkey]

/-- The line that declares a scene says so, by the lower case of the name. A carriage return at its
end makes no difference. -/
theorem read_scene (form : DeclarationForm) :
    Line.read (String.ofList (dropReturn (form.text "scene".toList))) =
      .ok (some (.scene (lowerString form.spelling))) := by
  have hshape : Shape.scene.read? (lower (form.core "scene".toList)) =
      some (.ok (.scene (lowerString form.spelling))) := by
    rw [Shape.read?, form.declaredName?_core isKey_scene]
    rfl
  have hsilent : Line.isSilent (lower (form.core "scene".toList)) = false := by
    rw [form.lower_core isKey_scene]
    rfl
  rw [Line.read, Line.readTrying, Line.normalize_dropReturn, form.normalize_text isKey_scene,
    hsilent, Shape.all, List.findSome?_cons, hshape]
  rfl

/-- The line that sets a tag says so, by the lower case of the tag. -/
theorem read_tag (form : DeclarationForm) :
    Line.read (String.ofList (form.text "tag".toList)) =
      .ok (some (.tag (lowerString form.spelling))) := by
  have hscene : Shape.scene.read? (lower (form.core "tag".toList)) = none := by
    rw [form.lower_core isKey_tag]
    rfl
  have hshape : Shape.tag.read? (lower (form.core "tag".toList)) =
      some (.ok (.tag (lowerString form.spelling))) := by
    rw [Shape.read?, form.declaredName?_core isKey_tag]
    rfl
  have hsilent : Line.isSilent (lower (form.core "tag".toList)) = false := by
    rw [form.lower_core isKey_tag]
    rfl
  rw [Line.read, Line.readTrying, form.normalize_text isKey_tag, hsilent, Shape.all,
    List.findSome?_cons, hscene, List.findSome?_cons, hshape]
  rfl

end DeclarationForm

end LootSpawn
