import LootSpawn.Proofs.Scene.Calls
import LootSpawn.Proofs.Store.NewEntries
import LootSpawn.Session.Journal

/-!
# What the journal tells

The journal is written beside the work of a session, and what it tells is what has been done. When
texts are loaded it names each source that the session has taken in and no other. When a source is
read it has a trace of every record before the line at fault. When a table is merged it tells by how
much the table has grown, and when a scene is activated it warns of exactly those directives whose
assets the report lists as missing.
-/

namespace LootSpawn

/-- The entry tells of a source that was loaded. -/
def LogEntry.tellsLoaded (entry : LogEntry) : Bool :=
  "Loaded ".toList.isPrefixOf entry.message.toList

namespace Journal

/-! ## Reading -/

/-- The entries of a level. -/
def atLevel (level : LogLevel) (journal : List LogEntry) : List LogEntry :=
  journal.filter fun entry => entry.level == level

theorem atLevel_append (level : LogLevel) (first second : List LogEntry) :
    atLevel level (first ++ second) = atLevel level first ++ atLevel level second :=
  List.filter_append ..

theorem tellsLoaded_directiveEntry (line : Nat) (kind : String) :
    (directiveEntry line kind).tellsLoaded = false := by
  simp [directiveEntry, LogEntry.tellsLoaded, toString, List.isPrefixOf]

theorem tellsLoaded_ofLoaded (origin : String) (count : LoadCount) :
    (ofLoaded origin count).tellsLoaded = true := by
  simp [ofLoaded, LogEntry.tellsLoaded, toString]

/-- The entries for a record begin with its trace, and the others are no traces. -/
theorem atLevel_trace_ofRecord (record : Numbered Record) :
    atLevel .trace (ofRecord record) = [directiveEntry record.line record.value.line.kind] := by
  obtain ⟨line, record⟩ := record
  cases record with
  | _ => rfl

theorem tellsLoaded_of_mem_ofRecord {record : Numbered Record} {entry : LogEntry}
    (h : entry ∈ ofRecord record) : entry.tellsLoaded = false := by
  obtain ⟨line, record⟩ := record
  rw [ofRecord, List.mem_cons] at h
  rcases h with rfl | h
  · exact tellsLoaded_directiveEntry _ _
  · cases record with
    | tag name =>
        rw [List.mem_singleton.mp h]
        simp [LogEntry.tellsLoaded, toString, List.isPrefixOf]
    | _ => cases h

theorem eq_directiveEntry_of_mem_ofFailure {error : ReadError} {entry : LogEntry}
    (h : entry ∈ ofFailure error) : ∃ kind, entry = directiveEntry error.lineNumber kind := by
  rw [ofFailure] at h
  split at h
  next => exact ⟨_, List.mem_singleton.mp h⟩
  next => exact ⟨_, List.mem_singleton.mp h⟩
  next => cases h

theorem tellsLoaded_of_mem_ofReading {reading : Reading} {entry : LogEntry}
    (h : entry ∈ ofReading reading) : entry.tellsLoaded = false := by
  rcases List.mem_append.mp h with h | h
  · obtain ⟨record, -, hentry⟩ := List.mem_flatMap.mp h
    exact tellsLoaded_of_mem_ofRecord hentry
  · cases hfailure : reading.failure with
    | none =>
        rw [hfailure] at h
        cases h
    | some error =>
        rw [hfailure] at h
        obtain ⟨kind, rfl⟩ := eq_directiveEntry_of_mem_ofFailure h
        exact tellsLoaded_directiveEntry _ _

/-- A source is traced line by line: a trace for each record, with its number and kind, and one for
the line at fault if that lacks nothing but its context. -/
theorem traces_ofReading (reading : Reading) :
    atLevel .trace (ofReading reading) =
      (reading.records.map fun record => directiveEntry record.line record.value.line.kind) ++
        (reading.failure.map ofFailure).getD [] := by
  rw [ofReading, atLevel_append]
  congr 1
  · rw [atLevel, List.filter_flatMap, List.map_eq_flatMap]
    exact List.flatMap_congr fun record _ => atLevel_trace_ofRecord record
  · cases reading.failure with
    | none => rfl
    | some error =>
        refine List.filter_eq_self.mpr fun entry hentry => ?_
        obtain ⟨kind, rfl⟩ := eq_directiveEntry_of_mem_ofFailure hentry
        rfl

/-! ## Loading -/

/-- The sources that texts are loaded as, with their origins: those before the first text that
fails. -/
def loadedFrom : List (Except LoadError NamedText) → List (String × Source)
  | [] => []
  | .error _ :: _ => []
  | .ok text :: rest =>
      match Source.ofText text.content with
      | .error _ => []
      | .ok source => (text.origin, source) :: loadedFrom rest

/-- The session takes in the sources before the first text that fails. -/
theorem loadTexts_fst (session : Session) (texts : List (Except LoadError NamedText)) :
    (session.loadTexts texts).1 =
      (loadedFrom texts).foldl (fun session entry => session.commit entry.2) session := by
  fun_induction loadedFrom texts generalizing session with
  | case1 => rfl
  | case2 => rfl
  | case3 text rest error hread =>
      simp only [Session.loadTexts, Session.loadText, hread, List.foldl_nil]
  | case4 text rest source hread ih =>
      rw [List.foldl_cons, ← ih]
      simp only [Session.loadTexts, Session.loadText, hread]

/-- Reading tells of no source that was loaded. -/
theorem filter_tellsLoaded_ofReading (reading : Reading) :
    (ofReading reading).filter LogEntry.tellsLoaded = [] :=
  List.filter_eq_nil_iff.mpr fun entry hentry => by simp [tellsLoaded_of_mem_ofReading hentry]

/-- The journal tells of the sources before the first text that fails. -/
theorem filter_tellsLoaded_ofTexts (texts : List (Except LoadError NamedText)) :
    (ofTexts texts).filter LogEntry.tellsLoaded =
      (loadedFrom texts).map fun entry => ofLoaded entry.1 entry.2.loadCount := by
  have hresult : ∀ text : NamedText,
      (Reading.ofLines (Source.linesOfText text.content)).result = Source.ofText text.content :=
    fun _ => rfl
  fun_induction loadedFrom texts with
  | case1 => rfl
  | case2 => rfl
  | case3 text rest error hread =>
      simp only [ofTexts, hresult, hread, List.append_nil, filter_tellsLoaded_ofReading,
        List.map_nil]
  | case4 text rest source hread ih =>
      simp only [ofTexts, hresult, hread, List.filter_append, filter_tellsLoaded_ofReading,
        List.nil_append, List.filter_cons_of_pos (tellsLoaded_ofLoaded _ _), ih, List.map_cons]

/-- Loading succeeds if every text is loaded, and then counts what they hold. -/
theorem loadTexts_snd_eq_ok_iff (session : Session) (texts : List (Except LoadError NamedText))
    (count : LoadCount) :
    (session.loadTexts texts).2 = .ok count ↔
      (loadedFrom texts).length = texts.length ∧
        count = ((loadedFrom texts).map fun entry => entry.2.loadCount).foldr (· + ·) {} := by
  fun_induction loadedFrom texts generalizing session count with
  | case1 => simp [Session.loadTexts, eq_comm]
  | case2 => simp [Session.loadTexts]
  | case3 text rest error hread => simp [Session.loadTexts, Session.loadText, hread]
  | case4 text rest source hread ih =>
      have hload : (session.loadTexts (.ok text :: rest)).2 =
          ((session.commit source).loadTexts rest).2.map (source.loadCount + ·) := by
        simp only [Session.loadTexts, Session.loadText, hread]
      have hmore := ih (session.commit source)
      rw [hload, List.length_cons, List.length_cons, Nat.add_right_cancel_iff, List.map_cons,
        List.foldr_cons]
      cases hrest : ((session.commit source).loadTexts rest).2 with
      | error error =>
          simp only [hrest, reduceCtorEq, false_iff, not_and] at hmore
          simp only [Except.map, reduceCtorEq, false_iff, not_and]
          exact fun hlength _ => hmore _ hlength rfl
      | ok more =>
          obtain ⟨hlength, hcount⟩ := (hmore more).mp hrest
          simp only [Except.map, Except.ok.injEq, hlength, true_and, ← hcount, eq_comm]

/-- What is told of loading texts is what is loaded. The session takes in the sources before the
first text that fails, the journal tells of these and of no others, each with its origin and its
counts, and loading succeeds with the sum of the counts if no text fails. -/
theorem loadTexts_told (session : Session) (texts : List (Except LoadError NamedText)) :
    let loaded := loadedFrom texts
    let outcome := session.loadTexts texts
    outcome.1 = loaded.foldl (fun session entry => session.commit entry.2) session ∧
      (ofTexts texts).filter LogEntry.tellsLoaded =
        loaded.map (fun entry => ofLoaded entry.1 entry.2.loadCount) ∧
      ∀ count, outcome.2 = .ok count ↔
        loaded.length = texts.length ∧
          count = (loaded.map fun entry => entry.2.loadCount).foldr (· + ·) {} :=
  ⟨loadTexts_fst session texts, filter_tellsLoaded_ofTexts texts,
    loadTexts_snd_eq_ok_iff session texts⟩

/-- A session that is built holds the sources that the journal tells of, and they are all there was
to load. -/
theorem build_told (setup : Setup) (tree : FileTree) {session : Session}
    (h : setup.build tree = .ok session) :
    ∃ config, setup.chosenConfig tree = .ok config ∧
      let loaded := loadedFrom (setup.inputs tree config)
      loaded.length = (setup.inputs tree config).length ∧
        session = loaded.foldl (fun session entry => session.commit entry.2)
          (Session.start config) ∧
        (ofSetup setup tree).filter LogEntry.tellsLoaded =
          loaded.map fun entry => ofLoaded entry.1 entry.2.loadCount := by
  rw [Setup.build] at h
  cases hconfig : setup.chosenConfig tree with
  | error error =>
      rw [hconfig] at h
      cases h
  | ok config =>
      obtain ⟨hcontent, htold, hresult⟩ :=
        loadTexts_told (Session.start config) (setup.inputs tree config)
      have hbuilt : ((Session.start config).loadTexts (setup.inputs tree config)).2.map
          (fun _ => ((Session.start config).loadTexts (setup.inputs tree config)).1) =
            .ok session := by
        rw [hconfig] at h
        exact h
      cases hcount : ((Session.start config).loadTexts (setup.inputs tree config)).2 with
      | error error =>
          rw [hcount] at hbuilt
          cases hbuilt
      | ok count =>
          rw [hcount] at hbuilt
          cases hbuilt
          refine ⟨config, rfl, ((hresult count).mp hcount).1, hcontent, ?_⟩
          rw [ofSetup, hconfig]
          exact htold

/-! ## Merging -/

/-- A merge is told in one entry, which is for debugging if the table was marked already. The counts
that it tells are by how much the table has grown, and how many stored entries were left out. -/
theorem merge_told (store : LootStore) (table : HostTable) :
    (∃ entry, ofMerge table (store.merge table).1 = [entry] ∧
      (entry.level = .debug ↔ store.isProcessed table.id = true)) ∧
    ∀ added skipped, (store.merge table).1 = .merged added skipped →
      (store.merge table).2.2.entries.length = table.entries.length + added ∧
        added + skipped = (store.entries (hostTableKey table.name)).length := by
  refine ⟨?_, fun _ _ houtcome => store.counts_merge table houtcome⟩
  rcases store.merge_cases table with
    ⟨hmarked, hmerge⟩ | ⟨hmarked, -, hmerge⟩ | ⟨_, hmarked, -, hmerge⟩
  · rw [hmerge]
    exact ⟨_, rfl, iff_of_true rfl hmarked⟩
  · rw [hmerge]
    exact ⟨_, rfl, by simp [hmarked]⟩
  · rw [hmerge]
    exact ⟨_, rfl, by simp [hmarked]⟩

/-! ## Activating -/

section Scenes

variable {σ τ ρ Asset Handle : Type}

/-- The directives whose assets are missing. -/
def lacking (attempts : List (Directive × Attempt Asset Handle)) : List Directive :=
  (attempts.filter fun entry => !entry.2.isFound).map Prod.fst

theorem flatMap_ofFate (resolver : Resolver σ τ ρ Asset Handle) (scene : String)
    (attempts : List (Directive × Attempt Asset Handle)) :
    (attempts.map fun entry => (entry.1, resolver.fate entry)).flatMap (ofFate scene) =
      (lacking attempts).map (ofMissing scene) := by
  induction attempts with
  | nil => rfl
  | cons entry rest ih =>
      obtain ⟨directive, attempt⟩ := entry
      rw [List.map_cons, List.flatMap_cons, ih]
      cases attempt <;> rfl

/-- What is told of an activated scene is what comes of it. A scene that is not played is not
mentioned. Of any other the journal tells the start, what the look-up found, each directive whose
asset the report lists as missing, in order, and how many items were placed. -/
theorem activation_told (resolver : Resolver σ τ ρ Asset Handle) (store : SpawnStore)
    (scene : String) (stage : Stage σ τ ρ) :
    let journal := ofActivation resolver store scene stage
    let report := (resolver.resolve store scene stage).1
    (resolver.ignores scene = true → journal = []) ∧
      (resolver.ignores scene = false →
        ∃ lacking : List Directive, lacking.Sublist (store.directives (sceneKey scene)) ∧
          report.missing = lacking.map resolver.assetName ∧
          journal = ofStart scene :: ofLookup store (sceneKey scene) ::
            lacking.map (ofMissing (sceneKey scene)) ++ [ofEnd scene report]) := by
  intro journal report
  refine ⟨fun h => if_pos h, fun h => ?_⟩
  obtain ⟨attempts, after, hfst, hfares⟩ :=
    resolver.exists_faresAll stage (store.directives (sceneKey scene))
  have hreport : report = resolver.reportOf (sceneKey scene) attempts :=
    congrArg Prod.fst (hfares.resolve_eq hfst)
  have hfates := hfares.fates_eq
  rw [hfst] at hfates
  refine ⟨lacking attempts, hfst ▸ (List.filter_sublist).map _, ?_, ?_⟩
  · rw [hreport, Resolver.missing_reportOf, lacking, List.map_map]
    rfl
  · rw [show journal = _ from if_neg (by simp [h]), ofResolution]
    simp only [hfates, flatMap_ofFate, List.cons_append]
    rfl

end Scenes

end Journal

end LootSpawn
