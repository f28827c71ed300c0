import LootSpawn.Proofs.Lint.Severity
import LootSpawn.Proofs.Session.Files
import LootSpawn.Proofs.Tool.Transcript
import LootSpawn.Tool.Linter

/-!
# The lint tool passes what can be loaded

The lint tool goes through all files and counts those that are refused, while the building of a
session stops at the first of them. Both read the same configuration, find the same files under a
path and refuse the same ones, but for a device or a pipe at that path: a session reads it, and the
tool does not. The tool therefore ends with zero exactly if there is no such file and a session can
be built, and then it has counted what the stores of that session hold.
-/

namespace LootSpawn.Tool

/-- The arguments that name a configuration, if there is one. -/
def configArgs : Option String → List String
  | none => []
  | some path => ["--config", path]

/-- The path leads to a file that is none to lint, such as a device or a pipe. -/
def IsSpecial (tree : FileTree) (path : String) : Prop :=
  ∃ content, tree.find path = .ok (.special content)

namespace Linter

/-! ## Checking files -/

/-- The errors counted so far. -/
def State.faults (state : State) : Nat := state.linter.errorCount + state.unreadable

/-- The line about a file that was accepted. -/
def loadedLine (path : String) (count : LoadCount) : String :=
  s!"  Loaded: {path} ({count.spawns} spawns, " ++ s!"{count.lootEntries} loot entries)\n"

/-- The files that are accepted, with what they hold. -/
def loadedFiles (tree : FileTree) (paths : List String) : List (String × LoadCount) :=
  paths.filterMap fun path => (tree.source? path).map fun source => (path, source.loadCount)

/-- The lines about files that were accepted. -/
def loadedText (loaded : List (String × LoadCount)) : String :=
  String.join (loaded.map fun file => loadedLine file.1 file.2)

variable {tree : FileTree} {path : String}

theorem checkFile_of_source? (state : State) {source : Source}
    (h : tree.source? path = some source) :
    (checkFile tree state path).faults = state.faults ∧
      (checkFile tree state path).out = state.out ++ loadedLine path source.loadCount := by
  obtain ⟨text, hread, hsource⟩ := (tree.source?_eq_some_iff path source).mp h
  rw [checkFile, hread]
  dsimp only
  rw [hsource]
  refine ⟨?_, rfl⟩
  rw [State.faults, State.faults, LootSpawn.Linter.add, LootSpawn.Linter.errorCount_check]

theorem checkFile_of_refused (state : State) (h : tree.source? path = none) :
    (checkFile tree state path).faults = state.faults + 1 ∧
      (checkFile tree state path).out = state.out := by
  rw [checkFile]
  rcases (tree.source?_eq_none_iff path).mp h with ⟨error, hread⟩ | ⟨text, error, hread, hsource⟩
  · rw [hread]
    exact ⟨rfl, rfl⟩
  · rw [hread]
    dsimp only
    rw [hsource]
    refine ⟨?_, String.append_empty⟩
    rw [State.faults, State.faults, LootSpawn.Linter.add, LootSpawn.Linter.errorCount_reject,
      Nat.add_right_comm]

/-- Each file that is refused is one error, and each other one is noted. -/
theorem foldl_checkFile (tree : FileTree) (state : State) (paths : List String) :
    (paths.foldl (checkFile tree) state).faults =
        state.faults + paths.countP (fun path => (tree.source? path).isNone) ∧
      (paths.foldl (checkFile tree) state).out =
        state.out ++ loadedText (loadedFiles tree paths) := by
  induction paths generalizing state with
  | nil => exact ⟨rfl, String.append_empty.symm⟩
  | cons path rest ih =>
      obtain ⟨hfaults, hout⟩ := ih (checkFile tree state path)
      rw [List.foldl_cons, hfaults, hout]
      cases hsource : tree.source? path with
      | none =>
          obtain ⟨hfault, hsame⟩ := checkFile_of_refused state hsource
          rw [hfault, hsame, List.countP_cons_of_pos (by rw [hsource]; rfl)]
          refine ⟨by omega, ?_⟩
          rw [loadedFiles, loadedFiles, List.filterMap_cons_none (by rw [hsource]; rfl)]
      | some source =>
          obtain ⟨hsame, hline⟩ := checkFile_of_source? state hsource
          rw [hsame, hline, List.countP_cons_of_neg (by rw [hsource]; exact Bool.false_ne_true)]
          refine ⟨rfl, ?_⟩
          have hloaded : loadedFiles tree (path :: rest) =
              (path, source.loadCount) :: loadedFiles tree rest := by
            rw [loadedFiles, List.filterMap_cons_some (by rw [hsource]; rfl)]
            rfl
          rw [hloaded, loadedText, loadedText, List.map_cons, String.join_cons, String.append_assoc]

/-- What the files hold together is what their sources hold. -/
theorem map_loadedFiles {α : Type} (view : LoadCount → α) (paths : List String) :
    (loadedFiles tree paths).map (fun file => view file.2) =
      (paths.filterMap tree.source?).map fun source => view source.loadCount := by
  rw [loadedFiles, List.map_filterMap, List.map_filterMap]
  congr 1
  funext path
  rw [Option.map_map]
  rfl

/-! ## One verdict -/

/-- The result passes, and the lines about the files count what the session holds. -/
structure Passes (result : Result) (session : Session) : Prop where
  code : result.code = 0
  counts : ∃ (loaded : List (String × LoadCount)) (report : String),
    result.out = loadedText loaded ++ "\n=== Spawn Lint Report ===\n\n" ++ report ∧
      (loaded.map fun file => file.2.spawns).sum = session.spawns.size ∧
      (loaded.map fun file => file.2.lootEntries).sum = session.loot.entryCount

theorem exists_out_report (state : State) (fileCount : Nat) :
    ∃ rest, (report state fileCount).out =
      state.out ++ "\n=== Spawn Lint Report ===\n\n" ++ rest := by
  rw [report]
  exact ⟨_, by rw [String.append_assoc, String.append_assoc]⟩

/-- The report on files under a configuration. -/
def checkAll (tree : FileTree) (config : Config) (paths : List String) : Result :=
  report (paths.foldl (checkFile tree) { linter := { itemPrefix := config.itemPrefix } })
    paths.length

theorem code_checkAll (tree : FileTree) (config : Config) (paths : List String) :
    (checkAll tree config paths).code =
      if paths.countP (fun path => (tree.source? path).isNone) = 0 then 0 else 1 := by
  obtain ⟨hfaults, -⟩ :=
    foldl_checkFile tree { linter := { itemPrefix := config.itemPrefix } } paths
  have hstart : ({ linter := { itemPrefix := config.itemPrefix } } : State).faults = 0 := rfl
  rw [hstart, Nat.zero_add] at hfaults
  rw [checkAll, report, ← hfaults]
  rfl

/-- Files of which none is refused pass, and their sources are what is loaded. -/
theorem passes_checkAll (config : Config) {paths : List String}
    (h : ∀ path ∈ paths, tree.source? path ≠ none) :
    Passes (checkAll tree config paths)
      ((paths.filterMap tree.source?).foldl Session.commit (Session.start config)) := by
  obtain ⟨-, hout⟩ := foldl_checkFile tree { linter := { itemPrefix := config.itemPrefix } } paths
  have hnone : paths.countP (fun path => (tree.source? path).isNone) = 0 := by
    rw [List.countP_eq_zero]
    exact fun path hpath hrefused => h path hpath (Option.isNone_iff_eq_none.mp hrefused)
  obtain ⟨rest, hrest⟩ := exists_out_report
    (paths.foldl (checkFile tree) { linter := { itemPrefix := config.itemPrefix } }) paths.length
  refine ⟨?_, loadedFiles tree paths, rest, ?_, ?_, ?_⟩
  · rw [code_checkAll, if_pos hnone]
  · rw [checkAll, hrest, hout, String.empty_append]
  · rw [map_loadedFiles LoadCount.spawns, Session.size_foldl_commit]
  · rw [map_loadedFiles LoadCount.lootEntries, Session.entryCount_foldl_commit]

theorem code_checkAll_of_refused (config : Config) {paths : List String}
    (h : ∃ path ∈ paths, tree.source? path = none) : (checkAll tree config paths).code = 1 := by
  obtain ⟨path, hpath, hrefused⟩ := h
  have hsome : paths.countP (fun path => (tree.source? path).isNone) ≠ 0 := by
    rw [Ne, List.countP_eq_zero]
    intro hall
    exact hall path hpath (Option.isNone_iff_eq_none.mpr hrefused)
  rw [code_checkAll, if_neg hsome]

/-! ## The files under a path -/

theorem filesAt_of_isSpecial (h : IsSpecial tree path) (extension : String) :
    ∃ message, filesAt tree path extension = .error message := by
  obtain ⟨content, hfind⟩ := h
  refine ⟨s!"ERROR: Path '{path}' does not exist\n", ?_⟩
  simp [filesAt, FileTree.isFile, FileTree.isDirectory, hfind, FileNode.isFile,
    FileNode.isDirectory]

theorem inputs_of_filesAt {config : Config} {files : List String}
    (h : filesAt tree path config.fileExtension = .ok files) (chosen : Option String) :
    (Preview.setup tree path chosen).inputs tree config = files.map (Load.fileText tree) := by
  rw [filesAt, FileTree.isFile, FileTree.isDirectory] at h
  rw [Preview.setup, FileTree.isDirectory]
  cases hfind : tree.find path with
  | error error =>
      rw [hfind] at h
      cases h
  | ok node =>
      rw [hfind] at h
      cases node with
      | file content =>
          cases h
          rfl
      | special content => cases h
      | directory entries =>
          cases hlist : tree.list path config.fileExtension with
          | error error =>
              rw [hlist] at h
              cases h
          | ok paths =>
              rw [hlist] at h
              cases h
              simp [FileNode.isDirectory, Setup.inputs, Setup.loads, Load.texts, hlist]

theorem inputs_of_filesAt_error {config : Config} {message : String}
    (h : filesAt tree path config.fileExtension = .error message)
    (hregular : ¬ IsSpecial tree path) (chosen : Option String) :
    ∃ error, (Preview.setup tree path chosen).inputs tree config = [.error error] := by
  rw [filesAt, FileTree.isFile, FileTree.isDirectory] at h
  rw [Preview.setup, FileTree.isDirectory]
  cases hfind : tree.find path with
  | error error =>
      have hread : tree.readText path = .error error := by
        rw [FileTree.readText, hfind]
        rfl
      refine ⟨.file error, ?_⟩
      simp [Setup.inputs, Setup.loads, Load.texts, Load.fileText, hread]
  | ok node =>
      rw [hfind] at h
      cases node with
      | file content => cases h
      | special content => exact absurd ⟨content, hfind⟩ hregular
      | directory entries =>
          cases hlist : tree.list path config.fileExtension with
          | error error =>
              refine ⟨.file error, ?_⟩
              simp [FileNode.isDirectory, Setup.inputs, Setup.loads, Load.texts, hlist]
          | ok paths =>
              rw [hlist] at h
              cases h

/-! ## Arguments -/

theorem configPath_configArgs (config : Option String) :
    configPath (configArgs config) = config := by
  cases config with
  | none => rfl
  | some path => rfl

theorem run_configArgs (hlong : path ≠ "--help") (hshort : path ≠ "-h") (tree : FileTree)
    (config : Option String) :
    run (path :: configArgs config) tree = match readConfig tree config with
      | .error error => { code := 1, err := configComplaint (config.getD "") error }
      | .ok found => lintPath tree path found := by
  have hhelp : wantsHelp (path :: configArgs config) = false := by
    simp [wantsHelp, hlong, hshort]
  rw [run, hhelp, configPath_configArgs]
  rfl

theorem build_setup (tree : FileTree) (path : String) (config : Option String) :
    (Preview.setup tree path config).build tree = match readConfig tree config with
      | .error error => .error (.config error)
      | .ok found =>
          let outcome := (Session.start found).loadTexts
            ((Preview.setup tree path config).inputs tree found)
          outcome.2.map fun _ => outcome.1 := by
  have hchosen : (Preview.setup tree path config).chosenConfig tree =
      (readConfig tree config).mapError .config := by
    have hgiven : (Preview.setup tree path config).configPath = config ∧
        (Preview.setup tree path config).config = none := by
      rw [Preview.setup]
      split
      · exact ⟨rfl, rfl⟩
      · exact ⟨rfl, rfl⟩
    rw [Setup.chosenConfig, hgiven.1, hgiven.2]
    cases config with
    | none => rfl
    | some path => rfl
  rw [Setup.build, hchosen]
  cases readConfig tree config with
  | error error => rfl
  | ok found => rfl

theorem code_run_of_isSpecial (hlong : path ≠ "--help") (hshort : path ≠ "-h")
    (h : IsSpecial tree path) (config : Option String) :
    (run (path :: configArgs config) tree).code = 1 := by
  rw [run_configArgs hlong hshort]
  cases readConfig tree config with
  | error error => rfl
  | ok found =>
      obtain ⟨message, hmessage⟩ := filesAt_of_isSpecial h found.fileExtension
      dsimp only
      rw [lintPath, hmessage]

/-- Unless there is a special file at the path, either a session is built and the tool passes it, or
both fail. -/
theorem run_cases (hlong : path ≠ "--help") (hshort : path ≠ "-h")
    (hregular : ¬ IsSpecial tree path) (config : Option String) :
    (∃ session, (Preview.setup tree path config).build tree = .ok session ∧
        Passes (run (path :: configArgs config) tree) session) ∨
      (∃ error, (Preview.setup tree path config).build tree = .error error) ∧
        (run (path :: configArgs config) tree).code = 1 := by
  rw [run_configArgs hlong hshort, build_setup]
  cases readConfig tree config with
  | error error => exact Or.inr ⟨⟨_, rfl⟩, rfl⟩
  | ok found =>
      dsimp only
      rw [lintPath]
      cases hfiles : filesAt tree path found.fileExtension with
      | error message =>
          obtain ⟨error, hinputs⟩ := inputs_of_filesAt_error hfiles hregular config
          rw [hinputs]
          exact Or.inr ⟨⟨error, rfl⟩, rfl⟩
      | ok files =>
          rw [inputs_of_filesAt hfiles config]
          by_cases hall : ∀ path ∈ files, tree.source? path ≠ none
          · obtain ⟨count, hcount⟩ := (Session.start found).loadTexts_files hall
            rw [hcount]
            exact Or.inl ⟨_, rfl, passes_checkAll found hall⟩
          · obtain ⟨refused, hmem, hrefused⟩ :
                ∃ path ∈ files, tree.source? path = none := by
              simpa using hall
            obtain ⟨error, herror⟩ :=
              (Session.start found).loadTexts_refused ⟨refused, hmem, hrefused⟩
            rw [herror]
            exact Or.inr ⟨⟨error, rfl⟩, code_checkAll_of_refused found ⟨refused, hmem, hrefused⟩⟩

end Linter

namespace Preview

theorem start_configArgs (overflow : Overflow) (tree : FileTree) (path : String)
    (config : Option String) :
    start overflow ("--spawns" :: path :: configArgs config) tree =
      match (setup tree path config).build tree with
      | .error error => .error { code := 1, err := complaint "ERROR: " error }
      | .ok session => .ok (⟨overflow, session, Keystream.ofSeed 42⟩, greeting session 42) := by
  have hparse : parseArgs {} ("--spawns" :: path :: configArgs config) =
      .ok { spawns := some path, config } := by
    cases config with
    | none => rfl
    | some config => rfl
  rw [start, hparse]
  rfl

/-- The shell starts exactly if a session can be built, and then ends with zero as long as it can
count the runs of every scene. -/
theorem run_configArgs (overflow : Overflow) (tree : FileTree) (path : String)
    (config : Option String) :
    ((∃ session, (setup tree path config).build tree = .ok session) ↔
        ∃ shell, start overflow ("--spawns" :: path :: configArgs config) tree = .ok shell) ∧
      ∀ input, (∀ line ∈ inputLines input, (Command.ofLine line).runs < 2 ^ 31) →
        ((∃ session, (setup tree path config).build tree = .ok session) ↔
          (run overflow ("--spawns" :: path :: configArgs config) tree input).code = 0) := by
  have hstart := start_configArgs overflow tree path config
  cases hbuild : (setup tree path config).build tree with
  | error error =>
      rw [hbuild] at hstart
      have hnone : ¬ ∃ session : Session, Except.error error = Except.ok session := by
        rintro ⟨session, hsession⟩
        cases hsession
      refine ⟨iff_of_false hnone ?_, fun input _ => iff_of_false hnone ?_⟩
      · rintro ⟨shell, hshell⟩
        cases hstart.symm.trans hshell
      · rw [run, hstart]
        exact Nat.one_ne_zero
  | ok session =>
      rw [hbuild] at hstart
      refine ⟨iff_of_true ⟨session, rfl⟩ ⟨_, hstart⟩,
        fun input hruns => iff_of_true ⟨session, rfl⟩ ?_⟩
      rw [run, hstart]
      dsimp only [Result.after]
      rw [Shell.run_eq_outcome]
      refine Shell.code_outcome _ fun command hcommand => ?_
      obtain ⟨line, hline, rfl⟩ := List.mem_map.mp hcommand
      exact hruns line hline

end Preview

/-- For a path other than a request for help, the lint tool ends with zero exactly if a session can
be built from what is at the path and that is no special file. A session can be built exactly if the
preview shell starts, and the shell then ends with zero as long as it is told to resolve no scene
more often than it can count. The lines of the lint tool about the files it loaded count what the
stores of the session hold. -/
theorem lint_passes_iff_builds (overflow : Overflow) (tree : FileTree) (path : String)
    (config : Option String) (hlong : path ≠ "--help") (hshort : path ≠ "-h") :
    let args := path :: configArgs config
    let lint := Linter.run args tree
    let build := (Preview.setup tree path config).build tree
    (lint.code = 0 ↔ ¬ IsSpecial tree path ∧ ∃ session, build = .ok session) ∧
      ((∃ session, build = .ok session) ↔
        ∃ shell, Preview.start overflow ("--spawns" :: args) tree = .ok shell) ∧
      (∀ input,
        (∀ line ∈ Preview.inputLines input, (Preview.Command.ofLine line).runs < 2 ^ 31) →
        ((∃ session, build = .ok session) ↔
          (Preview.run overflow ("--spawns" :: args) tree input).code = 0)) ∧
      (¬ IsSpecial tree path →
        ∀ session, build = .ok session → Linter.Passes lint session) := by
  intro args lint build
  obtain ⟨hstart, hrun⟩ := Preview.run_configArgs overflow tree path config
  refine ⟨?_, hstart, hrun, ?_⟩
  · by_cases hspecial : IsSpecial tree path
    · refine iff_of_false ?_ fun h => h.1 hspecial
      rw [Linter.code_run_of_isSpecial hlong hshort hspecial config]
      exact Nat.one_ne_zero
    · rcases Linter.run_cases hlong hshort hspecial config with
        ⟨session, hbuild, hpasses⟩ | ⟨⟨error, hbuild⟩, hcode⟩
      · exact iff_of_true hpasses.code ⟨hspecial, session, hbuild⟩
      · refine iff_of_false ?_ ?_
        · rw [hcode]
          exact Nat.one_ne_zero
        · rintro ⟨-, session, hsession⟩
          cases hbuild.symm.trans hsession
  · intro hregular session hsession
    rcases Linter.run_cases hlong hshort hregular config with
      ⟨other, hbuild, hpasses⟩ | ⟨⟨error, hbuild⟩, -⟩
    · cases hbuild.symm.trans hsession
      exact hpasses
    · cases hbuild.symm.trans hsession

/-- A file with a spawn that can never appear, one that is at fault, and a configuration. -/
def lakeTree : FileTree where
  root := .directory [("srv", .directory [
    ("a.txt", .file (.text "scene = Lake\nitem = rope c = 0\nitem = lamp")),
    ("b.txt", .file (.text "item = rope")),
    ("spawner.ron", .file (.text "(chance_multiplier: 0.5)"))])]
  workingDirectory := ["srv"]

theorem lint_passes_iff_builds_lake :
    (Linter.run ["/srv/a.txt", "--config", "spawner.ron"] lakeTree).out =
        "  Loaded: /srv/a.txt (2 spawns, 0 loot entries)\n\n=== Spawn Lint Report ===\n\n" ++
          "WARNING: /srv/a.txt:2: 'rope' has a spawn chance of 0 and can never spawn\n\n" ++
          "Summary: 1 files, 0 errors, 1 warnings\n" ∧
      (∃ session, (Preview.setup lakeTree "/srv/a.txt" (some "spawner.ron")).build lakeTree =
          .ok session ∧
        Linter.Passes (Linter.run ["/srv/a.txt", "--config", "spawner.ron"] lakeTree) session) ∧
      (Preview.run .breaks ["--spawns", "/srv/a.txt", "--config", "spawner.ron"] lakeTree
        "scene Lake 3\nquit\n").code = 0 ∧
      ¬ ∃ shell, Preview.start .breaks ["--spawns", "b.txt"] lakeTree = .ok shell := by
  obtain ⟨hbuilds, -, hpreview, hcounts⟩ := lint_passes_iff_builds .breaks lakeTree "/srv/a.txt"
    (some "spawner.ron") (by decide) (by decide)
  obtain ⟨hfault, hstarts, -, -⟩ :=
    lint_passes_iff_builds .breaks lakeTree "b.txt" none (by decide) (by decide)
  have hcode : (Linter.run ["/srv/a.txt", "--config", "spawner.ron"] lakeTree).code = 0 := by
    decide +kernel
  have hfails : (Linter.run ["b.txt"] lakeTree).code ≠ 0 := by decide +kernel
  have hfile : ¬ IsSpecial lakeTree "b.txt" := by
    rintro ⟨content, hfind⟩
    cases hfind
  have hruns : ∀ line ∈ Preview.inputLines "scene Lake 3\nquit\n",
      (Preview.Command.ofLine line).runs < 2 ^ 31 := by
    decide +kernel
  obtain ⟨hregular, session, hsession⟩ := hbuilds.mp hcode
  exact ⟨by decide +kernel, ⟨session, hsession, hcounts hregular session hsession⟩,
    (hpreview _ hruns).mp ⟨session, hsession⟩,
    fun hshell => hfails (hfault.mpr ⟨hfile, hstarts.mpr hshell⟩)⟩

/-- A device that reads as the empty text. -/
def deviceTree : FileTree where
  root := .directory [("dev", .directory [("null", .special (.text ""))])]

/-- The lint tool does not pass the device. A session can be built from it, and the shell starts. -/
theorem lint_does_not_pass_device :
    Linter.run ["/dev/null"] deviceTree =
        { code := 1, err := "ERROR: Path '/dev/null' does not exist\n" } ∧
      ((Preview.setup deviceTree "/dev/null" none).build deviceTree).isOk = true ∧
      Preview.run .breaks ["--spawns", "/dev/null"] deviceTree "quit\n" =
        { out := "Loaded 0 spawn entries in 0 scenes\nSeed: 42\n" ++
            "Type 'help' for commands.\n\nspawns> Goodbye.\n" } := by
  refine ⟨by decide +kernel, by decide +kernel, by decide +kernel⟩

end LootSpawn.Tool
