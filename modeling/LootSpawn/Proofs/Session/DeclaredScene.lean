import LootSpawn.Proofs.Line.Declaration
import LootSpawn.Proofs.Session.Recorded

/-!
# A declared scene is found under its name

The name of a scene is put in lower case three times on its way: with its line, alone when its
spawns are recorded, and alone when the host asks for the scene. All three meet at one key, however
the declaration is spaced and whatever letters the name is written in.
-/

namespace LootSpawn

open Text

namespace DeclarationForm

variable (form : DeclarationForm)

/-- A source that declares a scene and places an item in it. -/
def sceneSource : String :=
  String.ofList (form.text "scene".toList ++ '\n' :: "item = x".toList)

/-- A declaration starts with no byte-order mark. -/
theorem dropMark_text {key : List Char} (hkey : IsKey key) (rest : List Char) :
    dropMark (form.text key ++ rest) = form.text key ++ rest := by
  have hmark : ∀ c, isBlank c = true ∨ isWord c = true → (c == '\uFEFF') = false := by
    rintro c hc
    rw [beq_eq_false_iff_ne]
    rintro rfl
    exact absurd hc (by decide +kernel)
  apply dropMark_of_stops
  rw [text, core, List.append_assoc, List.append_assoc, List.append_assoc]
  exact Stops.append (fun c hc => hmark c (Or.inl (form.before.property c hc)))
    (Stops.append_of_ne_nil _ hkey.ne_nil fun c hc => hmark c (Or.inr (hkey.isWord c hc)))

theorem linesOfText_sceneSource (hline : '\n' ∉ form.text "scene".toList) :
    Source.linesOfText form.sceneSource =
      [String.ofList (dropReturn (form.text "scene".toList)), "item = x"] := by
  have hitem : lines "item = x".toList = ["item = x".toList] := by decide
  rw [Source.linesOfText, sceneSource, String.toList_ofList, form.dropMark_text isKey_scene,
    lines_append_cons hline, hitem, List.map_cons, List.map_singleton, String.ofList_toList]

/-- What the source declares: the scene in its first line, and the item in its second one. -/
def sceneRecords : Source :=
  ⟨[⟨1, .scene (lowerString form.spelling)⟩,
    ⟨2, .spawn (lowerString form.spelling) { prefab := "x" }⟩]⟩

theorem ofText_sceneSource (hline : '\n' ∉ form.text "scene".toList) :
    Source.ofText form.sceneSource = .ok form.sceneRecords := by
  have hitem : Line.read "item = x" = .ok (some (.spawn "x" .zero .zero defaultChance)) := by
    decide +kernel
  have hscene : ({} : Context).readLine (String.ofList (dropReturn (form.text "scene".toList))) =
      .ok (some (.scene (lowerString form.spelling))) := by
    rw [Context.readLine, form.read_scene]
    rfl
  have hspawn : (({} : Context).after (.scene (lowerString form.spelling))).readLine "item = x" =
      .ok (some (.spawn (lowerString form.spelling) { prefab := "x" })) := by
    rw [Context.readLine, hitem]
    rfl
  rw [Source.ofText, form.linesOfText_sceneSource hline, Source.ofLines, Reading.ofLines,
    Reading.readFrom, hscene]
  dsimp only
  rw [Reading.readFrom, hspawn]
  rfl

/-- Whoever loads a declaration of a scene with an item finds that item under every spelling of the
name with the same key, the declared one among them, and nothing anywhere else. -/
theorem declared_scene_found (config : Config) (origin : String)
    (hline : '\n' ∉ form.text "scene".toList) :
    ∃ session, (Session.start config).loadText ⟨origin, form.sceneSource⟩ = (session, .ok ⟨1, 0⟩) ∧
      session.spawns.directives form.spelling = [{ prefab := "x" }] ∧
      ∀ other, session.spawns.directives other =
        if sceneKey other = sceneKey form.spelling then [{ prefab := "x" }] else [] := by
  have hkey : sceneKey (lowerString form.spelling) = sceneKey form.spelling :=
    sceneKey_sceneKey form.spelling
  have hloaded : ((Session.start config).commit form.sceneRecords).spawns =
      ({} : SpawnStore).recordAll [(lowerString form.spelling, { prefab := "x" })] := rfl
  have hdirectives : ∀ other, ((Session.start config).commit form.sceneRecords).spawns.directives
      other = if sceneKey other = sceneKey form.spelling then [{ prefab := "x" }] else [] := by
    intro other
    rw [hloaded, (SpawnStore.holds_recordAll _).directives, directivesFor, List.filter_singleton,
      hkey]
    by_cases hother : sceneKey other = sceneKey form.spelling
    · simp [hother]
    · simp [hother, Ne.symm hother]
  have hload : (Session.start config).loadText ⟨origin, form.sceneSource⟩ =
      ((Session.start config).commit form.sceneRecords, .ok form.sceneRecords.loadCount) :=
    Session.loadText_of_ok _ (form.ofText_sceneSource hline)
  refine ⟨_, hload, ?_, hdirectives⟩
  rw [hdirectives, if_pos rfl]

theorem spacing_isBlank : ∀ c ∈ ['\u3000', '\t', ' ', '\r'], isBlank c = true := by
  rw [← List.all_eq_true]
  decide

/-- Blanks of several kinds. -/
def spacing : Blanks := ⟨['\u3000', '\t', ' ', '\r'], spacing_isBlank⟩

theorem street_isWord : "İΟΔΟΣ".toList ≠ [] ∧ ∀ c ∈ "İΟΔΟΣ".toList, isWord c = true := by
  rw [← List.all_eq_true]
  decide +kernel

/-- A name that grows in lower case and ends in a sigma. -/
def street : DeclarationForm where
  before := spacing
  equals := ⟨spacing, spacing⟩
  name := ⟨"İΟΔΟΣ".toList, street_isWord⟩
  after := spacing

/-- The name is found in small letters with a final sigma. With a sigma that does not end a word it
is another name. -/
theorem declared_scene_found_street :
    ∃ session, (Session.start {}).loadText ⟨"a.txt", street.sceneSource⟩ = (session, .ok ⟨1, 0⟩) ∧
      session.spawns.directives "İΟΔΟΣ" = [{ prefab := "x" }] ∧
      session.spawns.directives "i\u0307οδος" = [{ prefab := "x" }] ∧
      session.spawns.directives "i\u0307οδοσ" = [] := by
  obtain ⟨session, hload, hname, hdirectives⟩ :=
    street.declared_scene_found {} "a.txt" (by decide +kernel)
  have hspelling : street.spelling = "İΟΔΟΣ" := String.ofList_toList
  rw [hspelling] at hname hdirectives
  have hfinal : sceneKey "i\u0307οδος" = sceneKey "İΟΔΟΣ" := by decide +kernel
  have hmedial : sceneKey "i\u0307οδοσ" ≠ sceneKey "İΟΔΟΣ" := by decide +kernel
  refine ⟨session, hload, hname, ?_, ?_⟩
  · rw [hdirectives, if_pos hfinal]
  · rw [hdirectives, if_neg hmedial]

end DeclarationForm

end LootSpawn
