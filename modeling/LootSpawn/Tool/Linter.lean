import LootSpawn.Lint
import LootSpawn.Tool.Basic

/-!
# The lint tool

Lints a spawn file, or the spawn files of a directory, and reports all issues. The exit code is zero
if every file could be read and was accepted.
-/

namespace LootSpawn.Tool.Linter

def usage : String := "Usage: spawn_linter <spawn_file_or_dir> [--config <spawner.ron>]\n"

/-- The path after the last `--config`. Other arguments are ignored, and so is a `--config` at the
end. -/
def configPath : List String → Option String
  | [] => none
  | "--config" :: path :: rest => (configPath rest).or (some path)
  | _ :: rest => configPath rest

/-- A configuration, the default one unless a path is given. -/
def readConfig (tree : FileTree) : Option String → Except ConfigError Config
  | none => .ok {}
  | some path => Config.ofFile tree path

/-- The complaint about a configuration. -/
def configComplaint (path : String) (error : ConfigError) : String :=
  let line := s!"ERROR: Failed to load config '{path}': {error.message}"
  match error with
  | .malformed => line
  | .file _ => line ++ "\n"

/-- The files to lint, or the complaint about the path. A special file is none to lint. -/
def filesAt (tree : FileTree) (path extension : String) : Except String (List String) :=
  if tree.isFile path then .ok [path]
  else if tree.isDirectory path then
    (tree.list path extension).mapError fun error =>
      s!"ERROR: Failed to list '{path}': {error.message}\n"
  else .error s!"ERROR: Path '{path}' does not exist\n"

/-- What the tool has found so far. -/
structure State where
  linter : LootSpawn.Linter
  unreadable : Nat := 0
  out : String := ""
  err : String := ""

/-- Lints one file. -/
def checkFile (tree : FileTree) (state : State) (path : String) : State :=
  match tree.readText path with
  | .error error =>
      { state with
        unreadable := state.unreadable + 1
        err := state.err ++ s!"  ERROR reading {path}: {error.message}\n" }
  | .ok text =>
      let result := Source.ofText text
      let loaded := match result with
        | .ok source =>
            s!"  Loaded: {path} ({source.spawns.length} spawns, " ++
              s!"{source.lootEntries.length} loot entries)\n"
        | .error _ => ""
      { state with linter := state.linter.add path result, out := state.out ++ loaded }

/-- The report on all files. -/
def report (state : State) (fileCount : Nat) : Result :=
  let issues := state.linter.issues.map fun issue => issue.message ++ "\n"
  let errors := state.linter.errorCount + state.unreadable
  let verdict := if issues.isEmpty then "All checks passed!\n" else ""
  let summary :=
    s!"\nSummary: {fileCount} files, {errors} errors, {state.linter.warningCount} warnings\n"
  { code := if errors = 0 then 0 else 1
    out :=
      state.out ++ "\n=== Spawn Lint Report ===\n\n" ++ verdict ++ String.join issues ++ summary
    err := state.err }

/-- Lints what is at a path. -/
def lintPath (tree : FileTree) (path : String) (config : Config) : Result :=
  match filesAt tree path config.fileExtension with
  | .error message => { code := 1, err := message }
  | .ok files =>
      report (files.foldl (checkFile tree) { linter := { itemPrefix := config.itemPrefix } })
        files.length

/-- Runs the tool. -/
def run (args : List String) (tree : FileTree) : Result :=
  match args with
  | [] => { out := usage }
  | path :: rest =>
      if wantsHelp args then { out := usage }
      else
        let chosen := configPath rest
        match readConfig tree chosen with
        | .error error => { code := 1, err := configComplaint (chosen.getD "") error }
        | .ok config => lintPath tree path config

end LootSpawn.Tool.Linter
