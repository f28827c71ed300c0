import LootSpawn.Proofs.FileTree.Listing
import LootSpawn.Proofs.Session.Recorded

/-!
# Loading directories

A file is read as a source or gives an error, whatever the session holds. A directory is loaded as
the files that are listed for it, one after the other: all of them if each is accepted, and else
those before the first one that is not, whose error is returned.
-/

namespace LootSpawn

open FileTree Text

/-- What the file at a path is read as: a source if it is a text that is accepted, else an error. -/
inductive FileTree.ReadsAs (tree : FileTree) (path : String) : Except LoadError Source → Prop where
  | accepted {text : String} {source : Source} (content : tree.readText path = .ok text)
      (read : Source.ofText text = .ok source) : ReadsAs tree path (.ok source)
  | rejected {text : String} {fault : ReadError} (content : tree.readText path = .ok text)
      (read : Source.ofText text = .error fault) : ReadsAs tree path (.error (.read path fault))
  | unread {error : FileError} (content : tree.readText path = .error error) :
      ReadsAs tree path (.error (.file error))

theorem FileTree.exists_readsAs (tree : FileTree) (path : String) :
    ∃ result, tree.ReadsAs path result := by
  cases hcontent : tree.readText path with
  | error error => exact ⟨_, .unread hcontent⟩
  | ok text =>
      cases hread : Source.ofText text with
      | error fault => exact ⟨_, .rejected hcontent hread⟩
      | ok source => exact ⟨_, .accepted hcontent hread⟩

theorem FileContent.read_eq_ok_iff (content : FileContent) (text : String) :
    content.read = .ok text ↔ content = .text text := by
  cases content with
  | text => simp [read]
  | bytes => simp [read]
  | locked => simp [read]

namespace Session

variable {session : Session} {tree : FileTree} {path : String}

/-- Loads files one after another, whether they fail or not. -/
def loadFiles (session : Session) (tree : FileTree) :
    List String → Session × List (Except LoadError LoadCount)
  | [] => (session, [])
  | path :: rest =>
      let (session, result) := session.load tree (.file path)
      let (session, results) := session.loadFiles tree rest
      (session, result :: results)

/-! ## One file -/

theorem loadTexts_of_accepted (session : Session) {source : Source}
    (h : tree.ReadsAs path (.ok source)) (rest : List (Except LoadError NamedText)) :
    session.loadTexts (Load.fileText tree path :: rest) =
      (((session.commit source).loadTexts rest).1,
        ((session.commit source).loadTexts rest).2.map (source.loadCount + ·)) := by
  cases h with
  | @accepted text source hcontent hread =>
      have hload : session.loadText ⟨path, text⟩ = (session.commit source, .ok source.loadCount) :=
        session.loadText_of_ok hread
      simp only [Load.fileText, hcontent, loadTexts, hload]

theorem loadTexts_of_refused (session : Session) {error : LoadError}
    (h : tree.ReadsAs path (.error error)) (rest : List (Except LoadError NamedText)) :
    session.loadTexts (Load.fileText tree path :: rest) = (session, .error error) := by
  cases h with
  | @rejected text fault hcontent hread =>
      have hload : session.loadText ⟨path, text⟩ = (session, .error (.read path fault)) :=
        session.loadText_of_error hread
      simp only [Load.fileText, hcontent, loadTexts, hload]
  | unread hcontent => simp only [Load.fileText, hcontent, loadTexts]

theorem load_file_of_accepted (session : Session) {source : Source}
    (h : tree.ReadsAs path (.ok source)) :
    session.load tree (.file path) = (session.commit source, .ok source.loadCount) :=
  session.loadTexts_of_accepted h []

theorem load_file_of_refused (session : Session) {error : LoadError}
    (h : tree.ReadsAs path (.error error)) :
    session.load tree (.file path) = (session, .error error) :=
  session.loadTexts_of_refused h []

/-! ## One file after the other -/

/-- All files are accepted. They are loaded one after the other, and the outcome counts what they
count together. -/
structure LoadedAll (session : Session) (tree : FileTree) (paths : List String)
    (outcome : Session × Except LoadError LoadCount) : Prop where
  accepted : ∀ path ∈ paths, ∃ source, tree.ReadsAs path (.ok source)
  content : outcome.1 = (session.loadFiles tree paths).1
  count : ∃ counts : List LoadCount, (session.loadFiles tree paths).2 = counts.map .ok ∧
    outcome.2 = .ok ⟨(counts.map LoadCount.spawns).sum, (counts.map LoadCount.lootEntries).sum⟩

/-- A file is refused after others were accepted. Those before it are loaded one after the other,
and the outcome is the error that the file gives in any session. -/
structure StoppedAt (session : Session) (tree : FileTree) (before : List String) (path : String)
    (error : LoadError) (outcome : Session × Except LoadError LoadCount) : Prop where
  accepted : ∀ earlier ∈ before, ∃ source, tree.ReadsAs earlier (.ok source)
  refused : tree.ReadsAs path (.error error)
  alone : ∀ prior : Session, prior.load tree (.file path) = (prior, .error error)
  content : outcome.1 = (session.loadFiles tree before).1
  result : outcome.2 = .error error

theorem LoadedAll.nil : session.LoadedAll tree [] (session.loadTexts []) where
  accepted := nofun
  content := rfl
  count := ⟨[], rfl, rfl⟩

theorem loadFiles_of_accepted (session : Session) {source : Source}
    (h : tree.ReadsAs path (.ok source)) (rest : List String) :
    session.loadFiles tree (path :: rest) =
      (((session.commit source).loadFiles tree rest).1,
        .ok source.loadCount :: ((session.commit source).loadFiles tree rest).2) := by
  rw [loadFiles, session.load_file_of_accepted h]

theorem LoadedAll.cons {source : Source} {rest : List String}
    (h : tree.ReadsAs path (.ok source))
    (hrest : (session.commit source).LoadedAll tree rest
      ((session.commit source).loadTexts (rest.map (Load.fileText tree)))) :
    session.LoadedAll tree (path :: rest)
      (session.loadTexts ((path :: rest).map (Load.fileText tree))) := by
  obtain ⟨counts, hcounts, hsum⟩ := hrest.count
  rw [List.map_cons, session.loadTexts_of_accepted h]
  refine ⟨List.forall_mem_cons.mpr ⟨⟨source, h⟩, hrest.accepted⟩, ?_, ?_⟩
  · rw [session.loadFiles_of_accepted h]
    exact hrest.content
  · rw [session.loadFiles_of_accepted h, hcounts, hsum]
    exact ⟨source.loadCount :: counts, rfl, rfl⟩

theorem StoppedAt.cons {source : Source} {first : String} {before : List String}
    {rest : List (Except LoadError NamedText)} {error : LoadError}
    (h : tree.ReadsAs first (.ok source))
    (hrest : (session.commit source).StoppedAt tree before path error
      ((session.commit source).loadTexts rest)) :
    session.StoppedAt tree (first :: before) path error
      (session.loadTexts (Load.fileText tree first :: rest)) := by
  rw [session.loadTexts_of_accepted h]
  refine ⟨List.forall_mem_cons.mpr ⟨⟨source, h⟩, hrest.accepted⟩, hrest.refused, hrest.alone,
    ?_, ?_⟩
  · rw [session.loadFiles_of_accepted h]
    exact hrest.content
  · rw [hrest.result]
    rfl

theorem StoppedAt.head {error : LoadError} (h : tree.ReadsAs path (.error error))
    (rest : List (Except LoadError NamedText)) :
    session.StoppedAt tree [] path error
      (session.loadTexts (Load.fileText tree path :: rest)) := by
  rw [session.loadTexts_of_refused h]
  exact ⟨nofun, h, fun prior => prior.load_file_of_refused h, rfl, rfl⟩

/-- Files are loaded together as one after the other, up to the first one that is refused. -/
theorem loadTexts_cases (session : Session) (tree : FileTree) (paths : List String) :
    session.LoadedAll tree paths (session.loadTexts (paths.map (Load.fileText tree))) ∨
      ∃ before path after error, paths = before ++ path :: after ∧
        session.StoppedAt tree before path error
          (session.loadTexts (paths.map (Load.fileText tree))) := by
  induction paths generalizing session with
  | nil => exact Or.inl .nil
  | cons path rest ih =>
      obtain ⟨result, hresult⟩ := tree.exists_readsAs path
      cases result with
      | error error => exact Or.inr ⟨[], path, rest, error, rfl, .head hresult _⟩
      | ok source =>
          rcases ih (session.commit source) with
            hall | ⟨before, last, after, error, rfl, hstop⟩
          · exact Or.inl (.cons hresult hall)
          · exact Or.inr ⟨path :: before, last, after, error, rfl, .cons hresult hstop⟩

/-- A file that is refused is not accepted. -/
theorem StoppedAt.not_accepted {before : List String} {error : LoadError}
    {outcome : Session × Except LoadError LoadCount}
    (h : session.StoppedAt tree before path error outcome) :
    ¬ ∃ source, tree.ReadsAs path (.ok source) := by
  rintro ⟨source, hsource⟩
  have hboth := (session.load_file_of_accepted hsource).symm.trans (h.alone session)
  cases (Prod.ext_iff.mp hboth).2

/-! ## A directory -/

section Directory

variable {directory : String} {entries : List (String × FileNode)}

theorem accepted_joinPath_iff (htree : tree.root.Proper)
    (hdirectory : tree.find directory = .ok (.directory entries)) {name : String}
    (hmem : ∃ content, (name, .file content) ∈ entries) :
    (∃ source, tree.ReadsAs (joinPath directory name) (.ok source)) ↔
      ∃ text source, (name, .file (.text text)) ∈ entries ∧ Source.ofText text = .ok source := by
  have hread : ∀ {content}, (name, .file content) ∈ entries →
      tree.readText (joinPath directory name) = content.read :=
    fun hmem => readText_of_find (find_joinPath htree hdirectory hmem)
  constructor
  · rintro ⟨source, hsource⟩
    obtain ⟨content, hmem⟩ := hmem
    cases hsource with
    | @accepted text source hcontent hsource =>
        obtain rfl := (content.read_eq_ok_iff text).mp ((hread hmem).symm.trans hcontent)
        exact ⟨text, source, hmem, hsource⟩
  · rintro ⟨text, source, hmem, hsource⟩
    exact ⟨source, .accepted (hread hmem) hsource⟩

theorem load_directory_eq (session : Session)
    (hdirectory : tree.find directory = .ok (.directory entries)) :
    session.load tree (.directory directory) = session.loadTexts
      (((filesIn entries session.config.fileExtension).map (joinPath directory)).map
        (Load.fileText tree)) := by
  rw [load, Load.texts, list_of_directory hdirectory]

/-- A directory is loaded as its regular files with the configured extension, in the order of the
bytes of their names and one after the other. Loading succeeds if and only if each of them is
accepted, and stops at the first one that is refused. -/
theorem load_directory (session : Session) (htree : tree.root.Proper)
    (hdirectory : tree.find directory = .ok (.directory entries)) :
    let extension := session.config.fileExtension
    let outcome := session.load tree (.directory directory)
    ∃ names : List String,
      tree.list directory extension = .ok (names.map (joinPath directory)) ∧
        (names.Pairwise fun first second => bytes first < bytes second) ∧
        (∀ name, name ∈ names ↔
          (∃ content, (name, .file content) ∈ entries) ∧ EndsIn name extension) ∧
        (∀ name content, (name, .file content) ∈ entries →
          tree.find (joinPath directory name) = .ok (.file content)) ∧
        ((∃ count, outcome.2 = .ok count) ↔ ∀ name ∈ names, ∃ text source,
          (name, .file (.text text)) ∈ entries ∧ Source.ofText text = .ok source) ∧
        (session.LoadedAll tree (names.map (joinPath directory)) outcome ∨
          ∃ before name after error, names = before ++ name :: after ∧
            session.StoppedAt tree (before.map (joinPath directory)) (joinPath directory name) error
              outcome) := by
  intro extension outcome
  obtain ⟨-, hnodup, -⟩ := (proper_of_find htree hdirectory).children
  let names := filesIn entries extension
  have hfile : ∀ name ∈ names, ∃ content, (name, .file content) ∈ entries :=
    fun name hname => (mem_filesIn.mp hname).1
  have houtcome : outcome =
      session.loadTexts ((names.map (joinPath directory)).map (Load.fileText tree)) :=
    session.load_directory_eq hdirectory
  have haccepted : ∀ name ∈ names, (∃ source, tree.ReadsAs (joinPath directory name) (.ok source)) ↔
      ∃ text source, (name, .file (.text text)) ∈ entries ∧ Source.ofText text = .ok source :=
    fun name hname => accepted_joinPath_iff htree hdirectory (hfile name hname)
  refine ⟨names, list_of_directory hdirectory extension, pairwise_filesIn hnodup extension,
    fun name => mem_filesIn, fun name content hmem => find_joinPath htree hdirectory hmem, ?_⟩
  rw [houtcome]
  rcases session.loadTexts_cases tree (names.map (joinPath directory)) with
    hall | ⟨before, path, after, error, hsplit, hstop⟩
  · refine ⟨⟨fun _ name hname => ?_, fun _ => ?_⟩, Or.inl hall⟩
    · exact (haccepted name hname).mp (hall.accepted _ (List.mem_map_of_mem hname))
    · obtain ⟨counts, -, hsum⟩ := hall.count
      exact ⟨_, hsum⟩
  · obtain ⟨front, rest, hnames, rfl, hrest⟩ := List.map_eq_append_iff.mp hsplit
    obtain ⟨name, last, rfl, rfl, rfl⟩ := List.map_eq_cons_iff.mp hrest
    refine ⟨⟨?_, fun hevery => ?_⟩, Or.inr ⟨front, name, last, error, hnames, hstop⟩⟩
    · rintro ⟨count, hcount⟩
      cases hstop.result.symm.trans hcount
    · have hname : name ∈ names := hnames ▸ List.mem_append_right _ List.mem_cons_self
      exact absurd ((haccepted name hname).mpr (hevery name hname)) hstop.not_accepted

end Directory

/-- A directory with a hidden file, a file with two dots, a file that is at fault, and a directory
and a pipe that are named like files. -/
def gearEntries : List (String × FileNode) :=
  [(".txt", .file (.text "item = raft")),
    ("b.txt", .file (.text "scene = Lake\nitem = oar c = high")),
    ("sub.txt", .directory [("d.txt", .file .bytes)]),
    ("pipe.txt", .special (.text "scene = Lake")),
    ("a.v2.TXT", .file (.text "scene = Camp\nitem = rope"))]

/-- The directory is next to the one that is worked in. -/
def gearTree : FileTree where
  root := FileNode.insert (.directory gearEntries) ["home", "gear"]
    (FileNode.insert (.directory []) ["home", "work"] (.directory []))
  workingDirectory := ["home", "work"]

theorem load_directory_gear :
    gearTree.root.Proper ∧ gearTree.find "/home/gear" = .ok (.directory gearEntries) ∧
      gearTree.find "../gear/" = .ok (.directory gearEntries) ∧
      (∃ names : List String,
        gearTree.list "/home/gear" "txt" = .ok (names.map (joinPath "/home/gear")) ∧
          "a.v2.TXT" ∈ names ∧ ".txt" ∉ names ∧ "sub.txt" ∉ names ∧ "pipe.txt" ∉ names) ∧
      ¬ ∃ count, ((start {}).load gearTree (.directory "/home/gear")).2 = .ok count := by
  have hsub : (FileNode.directory [("d.txt", .file .bytes)]).Proper :=
    .directory (by decide) (by decide) (by simp [FileNode.Proper.file])
  have hgear : (FileNode.directory gearEntries).Proper :=
    .directory (by decide) (by decide)
      (by simp [gearEntries, hsub, FileNode.Proper.file, FileNode.Proper.special])
  have hproper : gearTree.root.Proper :=
    hgear.insert (by decide) (FileNode.Proper.empty.insert (by decide) .empty)
  have hfind : gearTree.find "/home/gear" = .ok (.directory gearEntries) := rfl
  obtain ⟨names, hlist, -, hnames, -, hsuccess, -⟩ := (start {}).load_directory hproper hfind
  have hbroken : "b.txt" ∈ names :=
    (hnames "b.txt").mpr ⟨⟨_, List.mem_of_getElem? (show gearEntries[1]? = _ from rfl)⟩,
      (endsIn_iff _ _).mp (by decide +kernel)⟩
  have hcased : "a.v2.TXT" ∈ names :=
    (hnames "a.v2.TXT").mpr ⟨⟨_, List.mem_of_getElem? (show gearEntries[4]? = _ from rfl)⟩,
      (endsIn_iff _ _).mp (by decide +kernel)⟩
  refine ⟨hproper, hfind, rfl, ⟨names, hlist, hcased, ?_, ?_, ?_⟩, ?_⟩
  · intro hhidden
    exact absurd ((endsIn_iff _ _).mpr ((hnames ".txt").mp hhidden).2) (by decide +kernel)
  · intro hsub
    obtain ⟨content, hmem⟩ := ((hnames "sub.txt").mp hsub).1
    simp [gearEntries] at hmem
  · intro hpipe
    obtain ⟨content, hmem⟩ := ((hnames "pipe.txt").mp hpipe).1
    simp [gearEntries] at hmem
  · intro hloaded
    obtain ⟨text, source, hmem, hread⟩ := hsuccess.mp hloaded "b.txt" hbroken
    obtain rfl : text = "scene = Lake\nitem = oar c = high" := by
      simpa [gearEntries] using hmem
    have hfault : Source.ofText "scene = Lake\nitem = oar c = high" =
        .error ⟨.invalidNumber "high", 2, "item = oar c = high"⟩ := by
      decide +kernel
    rw [hfault] at hread
    cases hread

end Session

end LootSpawn
