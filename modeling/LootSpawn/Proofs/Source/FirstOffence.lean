import LootSpawn.Proofs.Source.Governing
import Mathlib.Data.List.Induction

/-!
# The first offence

Reading stops at the first line that is at fault among the lines before it, and reports that line:
its number, its text as it was given, and its fault. Lines after it are of no consequence, and what
was read of the lines before it is what those lines alone would give.
-/

namespace LootSpawn

/-- A line is at fault after the lines before it: it cannot be read, or it is a spawn or a loot
entry and the last place that was declared is missing or of the other kind. -/
inductive Offends (earlier : List String) (raw : String) : LineFault → Prop where
  | unreadable {fault : LineFault} (hread : Line.read raw = .error fault) :
      Offends earlier raw fault
  | spawn {prefab : String} {position rotation : Vector3} {chance : Number.Single}
      (hread : Line.read raw = .ok (some (.spawn prefab position rotation chance)))
      (hplace : lastSaid? Line.place? earlier = none ∨
        ∃ table, lastSaid? Line.place? earlier = some (.lootTable table)) :
      Offends earlier raw .missingScene
  | lootEntry {entry : LootEntry}
      (hread : Line.read raw = .ok (some (.lootEntry entry)))
      (hplace : lastSaid? Line.place? earlier = none ∨
        ∃ scene, lastSaid? Line.place? earlier = some (.scene scene)) :
      Offends earlier raw .missingLootTable

/-- Some line is at fault after the lines before it. -/
def HasOffence (lines : List String) : Prop :=
  ∃ before raw after fault, lines = before ++ raw :: after ∧ Offends before raw fault

theorem not_hasOffence_nil : ¬ HasOffence [] := by
  rintro ⟨before, raw, after, fault, hsplit, -⟩
  exact absurd hsplit.symm (List.append_ne_nil_of_right_ne_nil before (List.cons_ne_nil raw after))

theorem hasOffence_concat {lines : List String} {raw : String} (h : HasOffence (lines ++ [raw])) :
    HasOffence lines ∨ ∃ fault, Offends lines raw fault := by
  obtain ⟨before, other, after, fault, hsplit, hfault⟩ := h
  rcases concat_eq_append_cons_iff.mp hsplit with ⟨-, rfl, rfl⟩ | ⟨front, -, hlines⟩
  · exact Or.inr ⟨fault, hfault⟩
  · exact Or.inl ⟨before, other, front, fault, hlines, hfault⟩

namespace Context

/-- A line that was read is refused only if it is a spawn without a scene or a loot entry without a
loot table. -/
theorem record_eq_error_iff (context : Context) (line : Line) (fault : LineFault) :
    context.record line = .error fault ↔
      (∃ prefab position rotation chance, line = .spawn prefab position rotation chance ∧
        fault = .missingScene ∧
        (context.place = none ∨ ∃ table, context.place = some (.lootTable table))) ∨
      (∃ entry, line = .lootEntry entry ∧ fault = .missingLootTable ∧
        (context.place = none ∨ ∃ scene, context.place = some (.scene scene))) := by
  obtain ⟨place, tag⟩ := context
  cases line with
  | spawn =>
      rcases place with _ | ⟨_ | _⟩
      · simp [record, eq_comm]
      · simp [record]
      · simp [record, eq_comm]
  | lootEntry =>
      rcases place with _ | ⟨_ | _⟩
      · simp [record, eq_comm]
      · simp [record, eq_comm]
      · simp [record]
  | _ => simp [record]

theorem readLine_eq_error_iff (context : Context) (raw : String) (fault : LineFault) :
    context.readLine raw = .error fault ↔ Line.read raw = .error fault ∨
      ∃ line, Line.read raw = .ok (some line) ∧ context.record line = .error fault := by
  rw [readLine_eq]
  rcases Line.read raw with found | _ | line
  · simp
  · simp
  · cases hrecord : context.record line with
    | _ => simp [Except.map, hrecord]

theorem readLine_governing_eq_error_iff (earlier : List String) (raw : String)
    (fault : LineFault) : (governing earlier).readLine raw = .error fault ↔
      Offends earlier raw fault := by
  simp only [readLine_eq_error_iff, record_eq_error_iff]
  constructor
  · rintro (hread | ⟨line, hread, hrecord⟩)
    · exact .unreadable hread
    · rcases hrecord with
        ⟨prefab, position, rotation, chance, rfl, rfl, hplace⟩ | ⟨entry, rfl, rfl, hplace⟩
      · exact .spawn hread hplace
      · exact .lootEntry hread hplace
  · rintro (hread | ⟨hread, hplace⟩ | ⟨hread, hplace⟩)
    · exact Or.inl hread
    · exact Or.inr ⟨_, hread, Or.inl ⟨_, _, _, _, rfl, rfl, hplace⟩⟩
    · exact Or.inr ⟨_, hread, Or.inr ⟨_, rfl, rfl, hplace⟩⟩

end Context

namespace Reading

/-- A reading that another one follows, unless it failed. -/
def followedBy (reading next : Reading) : Reading :=
  match reading.failure with
  | some _ => reading
  | none => ⟨reading.records ++ next.records, next.failure⟩

theorem followedBy_of_failure {reading : Reading} (next : Reading) {error : ReadError}
    (h : reading.failure = some error) : reading.followedBy next = reading := by
  rw [followedBy, h]

theorem followedBy_of_success {reading : Reading} (next : Reading) (h : reading.failure = none) :
    reading.followedBy next = ⟨reading.records ++ next.records, next.failure⟩ := by
  rw [followedBy, h]

/-- Lines are read up to the first fault, and the later ones under what governs them. -/
theorem readFrom_append (earlier first rest : List String) :
    readFrom (Context.governing earlier) (earlier.length + 1) (first ++ rest) =
      (readFrom (Context.governing earlier) (earlier.length + 1) first).followedBy
        (readFrom (Context.governing (earlier ++ first)) ((earlier ++ first).length + 1) rest) := by
  induction first generalizing earlier with
  | nil =>
      rw [List.append_nil]
      rfl
  | cons raw first ih =>
      have htail := ih (earlier ++ [raw])
      rw [List.append_assoc, List.singleton_append, List.length_append,
        List.length_singleton] at htail
      rw [List.cons_append, readFrom, readFrom]
      split
      next => rfl
      next hread =>
        have hsaid : Line.said? raw = none := by
          rw [Line.said?, (Context.readLine_eq_none_iff _ raw).mp hread]
        rw [Context.governing_concat_of_silent hsaid] at htail
        exact htail
      next record hread =>
        obtain ⟨line, hline, hrecord⟩ := (Context.readLine_eq_some_iff _ raw record).mp hread
        have hsaid : Line.said? raw = some line := by rw [Line.said?, hline]
        rw [Context.governing_concat_of_record hsaid hrecord] at htail
        simp only [htail]
        cases hfailure : (readFrom ((Context.governing earlier).after record)
            (earlier.length + 1 + 1) first).failure with
        | none => simp [followedBy, hfailure]
        | some error => simp [followedBy, hfailure]

theorem ofLines_append (first rest : List String) :
    ofLines (first ++ rest) =
      (ofLines first).followedBy (readFrom (Context.governing first) (first.length + 1) rest) :=
  readFrom_append [] first rest

theorem failure_of_offence {before : List String} {raw : String} {fault : LineFault}
    (hbefore : (ofLines before).failure = none) (h : Offends before raw fault)
    (after : List String) :
    (ofLines (before ++ raw :: after)).failure = some ⟨fault, before.length + 1, raw⟩ := by
  have hread := (Context.readLine_governing_eq_error_iff before raw fault).mpr h
  rw [ofLines_append, followedBy_of_success _ hbefore, readFrom, hread]

/-- One more line that is not at fault after the lines before it does not make reading fail. -/
theorem failure_concat {lines : List String} {raw : String}
    (hlines : (ofLines lines).failure = none) (h : ∀ fault, ¬ Offends lines raw fault) :
    (ofLines (lines ++ [raw])).failure = none := by
  rw [ofLines_append, followedBy_of_success _ hlines, readFrom]
  split
  next fault hread =>
    exact absurd ((Context.readLine_governing_eq_error_iff _ _ _).mp hread) (h fault)
  next => rfl
  next => rfl

/-- Either no line is at fault, or some line is the first that is. -/
theorem offence_cases (lines : List String) :
    ((ofLines lines).failure = none ∧ ¬ HasOffence lines) ∨
      ∃ before raw after fault, lines = before ++ raw :: after ∧ Offends before raw fault ∧
        (ofLines before).failure = none ∧ ¬ HasOffence before := by
  induction lines using List.reverseRecOn with
  | nil => exact Or.inl ⟨rfl, not_hasOffence_nil⟩
  | append_singleton lines raw ih =>
      rcases ih with ⟨hsuccess, hnone⟩ | ⟨before, other, after, fault, rfl, hfirst⟩
      · by_cases hfault : ∃ fault, Offends lines raw fault
        · obtain ⟨fault, hfault⟩ := hfault
          exact Or.inr ⟨lines, raw, [], fault, rfl, hfault, hsuccess, hnone⟩
        · left
          refine ⟨failure_concat hsuccess (not_exists.mp hfault), fun h => ?_⟩
          exact (hasOffence_concat h).elim hnone hfault
      · exact Or.inr ⟨before, other, after ++ [raw], fault, by simp, hfirst⟩

end Reading

namespace Source

theorem ofLines_eq_error_iff (lines : List String) (error : ReadError) :
    ofLines lines = .error error ↔ (Reading.ofLines lines).failure = some error := by
  rw [ofLines, Reading.result]
  split
  next found hfailure => simp [hfailure]
  next hsuccess => simp [hsuccess]

theorem ofLines_eq_ok_iff (lines : List String) (source : Source) :
    ofLines lines = .ok source ↔
      (Reading.ofLines lines).failure = none ∧ ⟨(Reading.ofLines lines).records⟩ = source := by
  rw [ofLines, Reading.result]
  split
  next found hfailure => simp [hfailure]
  next hsuccess => simp [hsuccess]

theorem collect_isPrefix {α : Type} {part source : Source} (view : Record → Option α)
    (h : part.records <+: source.records) : part.collect view <+: source.collect view :=
  h.filterMap _

/-- The lines before a place in an accepted source are accepted, and they give the records up to
that place. -/
theorem exists_of_ofLines_append {before after : List String} {source : Source}
    (h : ofLines (before ++ after) = .ok source) :
    ∃ part, ofLines before = .ok part ∧ part.records <+: source.records := by
  obtain ⟨hsuccess, rfl⟩ := (ofLines_eq_ok_iff _ _).mp h
  rw [Reading.ofLines_append] at hsuccess ⊢
  cases hbefore : (Reading.ofLines before).failure with
  | some error =>
      rw [Reading.followedBy_of_failure _ hbefore, hbefore] at hsuccess
      cases hsuccess
  | none =>
      refine ⟨_, (ofLines_eq_ok_iff _ _).mpr ⟨hbefore, rfl⟩, ?_⟩
      rw [Reading.followedBy_of_success _ hbefore]
      exact List.prefix_append _ _

/-- Reading fails exactly if a line is at fault where it stands. It reports the first such line with
its number, its text as given and its fault, whatever lines follow; and when it succeeds, it
succeeds on the lines up to any place and gives the first part of each list. -/
theorem error_is_first_offence (lines : List String) :
    ((∃ error, ofLines lines = .error error) ↔ HasOffence lines) ∧
    (∀ error, ofLines lines = .error error →
      ∃ before after, lines = before ++ error.line :: after ∧
        error.lineNumber = before.length + 1 ∧ Offends before error.line error.fault ∧
        ¬ HasOffence before ∧ ∀ other, ofLines (before ++ error.line :: other) = .error error) ∧
    (∀ source, ofLines lines = .ok source → ∀ before after, lines = before ++ after →
      ∃ part, ofLines before = .ok part ∧ part.spawns <+: source.spawns ∧
        part.lootEntries <+: source.lootEntries ∧ part.scenes <+: source.scenes ∧
        part.lootTables <+: source.lootTables) := by
  refine ⟨?_, ?_, ?_⟩
  · simp only [ofLines_eq_error_iff]
    rcases Reading.offence_cases lines with
      ⟨hsuccess, hnone⟩ | ⟨before, raw, after, fault, rfl, hfault, hsuccess, -⟩
    · refine iff_of_false ?_ hnone
      rw [hsuccess]
      rintro ⟨error, ⟨⟩⟩
    · exact iff_of_true ⟨_, Reading.failure_of_offence hsuccess hfault after⟩
        ⟨before, raw, after, fault, rfl, hfault⟩
  · intro error herror
    rw [ofLines_eq_error_iff] at herror
    rcases Reading.offence_cases lines with
      ⟨hsuccess, -⟩ | ⟨before, raw, after, fault, rfl, hfault, hsuccess, hnone⟩
    · rw [hsuccess] at herror
      cases herror
    · rw [Reading.failure_of_offence hsuccess hfault] at herror
      cases herror
      refine ⟨before, after, rfl, rfl, hfault, hnone, fun other => ?_⟩
      rw [ofLines_eq_error_iff]
      exact Reading.failure_of_offence hsuccess hfault other
  · intro source hsource before after hsplit
    rw [hsplit] at hsource
    obtain ⟨part, hpart, hrecords⟩ := exists_of_ofLines_append hsource
    exact ⟨part, hpart, collect_isPrefix _ hrecords, collect_isPrefix _ hrecords,
      collect_isPrefix _ hrecords, collect_isPrefix _ hrecords⟩

/-- Lines with a spawn under a loot table, and a fault of another kind after it. -/
def cacheWithoutScene : List String :=
  ["# caches", "scene = Camp", "LootTable = Cache", "  Item = Rope c = 5  ", "item = rope c = five"]

theorem error_is_first_offence_cache :
    ofLines cacheWithoutScene = .error ⟨.missingScene, 4, "  Item = Rope c = 5  "⟩ ∧
      Offends ["# caches", "scene = Camp", "LootTable = Cache"] "  Item = Rope c = 5  "
        .missingScene ∧
      ¬ HasOffence ["# caches", "scene = Camp", "LootTable = Cache"] := by
  have hread : ofLines cacheWithoutScene =
      .error ⟨.missingScene, 4, "  Item = Rope c = 5  "⟩ := by
    decide +kernel
  obtain ⟨before, after, hsplit, hnumber, hfault, hnone, -⟩ :=
    (error_is_first_offence cacheWithoutScene).2.1 _ hread
  have hbefore : before = cacheWithoutScene.take 3 := by
    rw [hsplit, List.take_left' (Nat.succ.inj hnumber).symm]
  rw [hbefore] at hfault hnone
  exact ⟨hread, hfault, hnone⟩

end Source

end LootSpawn
