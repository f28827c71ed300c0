import LootSpawn.Proofs.Session.Directories
import LootSpawn.Proofs.Store.LootContents

/-!
# Sessions built from files

A file holds a source, or it is refused: it cannot be read, or its text is at fault. Loading files
succeeds exactly if none of them is refused, and the stores then hold the logs of their sources, one
after the other.
-/

namespace LootSpawn

/-- The source that a file holds, unless the file is refused. -/
def FileTree.source? (tree : FileTree) (path : String) : Option Source :=
  (tree.readText path).toOption.bind fun text => (Source.ofText text).toOption

/-- The number of entries in all tables. -/
def LootStore.entryCount (store : LootStore) : Nat :=
  (store.keys.map fun key => (store.entries key).length).sum

/-- A file is refused because it cannot be read or because its text is at fault. -/
theorem FileTree.source?_eq_none_iff (tree : FileTree) (path : String) :
    tree.source? path = none ↔ (∃ error, tree.readText path = .error error) ∨
      ∃ text error, tree.readText path = .ok text ∧ Source.ofText text = .error error := by
  rw [source?]
  cases hread : tree.readText path with
  | error error => simp [Except.toOption]
  | ok text =>
      cases hsource : Source.ofText text with
      | error error => simp [Except.toOption, hsource]
      | ok source => simp [Except.toOption, hsource]

theorem FileTree.source?_eq_some_iff (tree : FileTree) (path : String) (source : Source) :
    tree.source? path = some source ↔
      ∃ text, tree.readText path = .ok text ∧ Source.ofText text = .ok source := by
  rw [source?]
  cases hread : tree.readText path with
  | error error => simp [Except.toOption]
  | ok text =>
      cases hsource : Source.ofText text with
      | error error => simp [Except.toOption, hsource]
      | ok found => simp [Except.toOption, hsource]

namespace Session

variable {tree : FileTree}

/-! ## Loading -/

theorem loadTexts_of_source? (session : Session) {path : String} {source : Source}
    (h : tree.source? path = some source) (rest : List (Except LoadError NamedText)) :
    session.loadTexts (Load.fileText tree path :: rest) =
      (((session.commit source).loadTexts rest).1,
        ((session.commit source).loadTexts rest).2.map (source.loadCount + ·)) := by
  obtain ⟨text, hread, hsource⟩ := (tree.source?_eq_some_iff path source).mp h
  exact session.loadTexts_of_accepted (.accepted hread hsource) rest

theorem loadTexts_of_source?_eq_none (session : Session) {path : String}
    (h : tree.source? path = none) (rest : List (Except LoadError NamedText)) :
    ∃ error, session.loadTexts (Load.fileText tree path :: rest) = (session, .error error) := by
  rcases (tree.source?_eq_none_iff path).mp h with ⟨error, hread⟩ | ⟨text, error, hread, hsource⟩
  · exact ⟨_, session.loadTexts_of_refused (.unread hread) rest⟩
  · exact ⟨_, session.loadTexts_of_refused (.rejected hread hsource) rest⟩

/-- Files that are not refused are all loaded, in order. -/
theorem loadTexts_files (session : Session) {paths : List String}
    (h : ∀ path ∈ paths, tree.source? path ≠ none) :
    ∃ count, session.loadTexts (paths.map (Load.fileText tree)) =
      ((paths.filterMap tree.source?).foldl commit session, .ok count) := by
  induction paths generalizing session with
  | nil => exact ⟨{}, rfl⟩
  | cons path rest ih =>
      obtain ⟨hpath, hrest⟩ := List.forall_mem_cons.mp h
      obtain ⟨source, hsource⟩ := Option.ne_none_iff_exists'.mp hpath
      obtain ⟨count, hcount⟩ := ih (session.commit source) hrest
      refine ⟨source.loadCount + count, ?_⟩
      rw [List.map_cons, session.loadTexts_of_source? hsource, hcount,
        List.filterMap_cons_some hsource]
      rfl

/-- One file that is refused makes the loading of all of them fail. -/
theorem loadTexts_refused (session : Session) {paths : List String}
    (h : ∃ path ∈ paths, tree.source? path = none) :
    ∃ error, (session.loadTexts (paths.map (Load.fileText tree))).2 = .error error := by
  induction paths generalizing session with
  | nil =>
      obtain ⟨path, hpath, -⟩ := h
      cases hpath
  | cons path rest ih =>
      rw [List.map_cons]
      cases hsource : tree.source? path with
      | none =>
          obtain ⟨error, herror⟩ := session.loadTexts_of_source?_eq_none hsource
            (rest.map (Load.fileText tree))
          exact ⟨error, congrArg Prod.snd herror⟩
      | some source =>
          have hrest : ∃ path ∈ rest, tree.source? path = none := by
            obtain ⟨other, hother, hnone⟩ := h
            rcases List.mem_cons.mp hother with rfl | hother
            · rw [hsource] at hnone
              cases hnone
            · exact ⟨other, hother, hnone⟩
          obtain ⟨error, herror⟩ := ih (session.commit source) hrest
          refine ⟨error, ?_⟩
          rw [session.loadTexts_of_source? hsource, herror]
          rfl

/-! ## Contents -/

theorem spawns_foldl_commit (session : Session) (sources : List Source) :
    (sources.foldl commit session).spawns =
      session.spawns.recordAll
        (sources.flatMap fun source => source.spawns.map Numbered.value) := by
  induction sources generalizing session with
  | nil => rfl
  | cons source rest ih =>
      rw [List.foldl_cons, ih, List.flatMap_cons, SpawnStore.recordAll_append,
        ← SpawnStore.load_eq_recordAll]
      rfl

theorem loot_foldl_commit (session : Session) (sources : List Source) :
    (sources.foldl commit session).loot =
      session.loot.recordAll
        (sources.flatMap fun source => source.lootEntries.map Numbered.value) := by
  induction sources generalizing session with
  | nil => rfl
  | cons source rest ih =>
      rw [List.foldl_cons, ih, List.flatMap_cons, LootStore.recordAll_append,
        ← LootStore.load_eq_recordAll]
      rfl

/-- The spawns of all scenes are those of all sources. -/
theorem size_foldl_commit (config : Config) (sources : List Source) :
    (sources.foldl commit (start config)).spawns.size =
      (sources.map fun source => source.loadCount.spawns).sum := by
  rw [spawns_foldl_commit, start, (SpawnStore.holds_recordAll _).size, List.length_flatMap]
  simp only [List.length_map]
  rfl

/-- The entries of all loot tables are those of all sources. -/
theorem entryCount_foldl_commit (config : Config) (sources : List Source) :
    (sources.foldl commit (start config)).loot.entryCount =
      (sources.map fun source => source.loadCount.lootEntries).sum := by
  have hholds := LootStore.holds_of_tables (LootStore.itemPrefix_recordAll _ _)
    (LootStore.tables_recordAll_eq_grouped { itemPrefix := config.itemPrefix }
      (sources.flatMap fun source => source.lootEntries.map Numbered.value))
  rw [loot_foldl_commit, LootStore.entryCount, start, hholds.size, List.length_flatMap]
  simp only [List.length_map]
  rfl

end Session

end LootSpawn
