import LootSpawn.Proofs.Session.Recorded

/-!
# Which host tables are marked

A host table is marked by a merge that found entries for it, and all marks go with a fresh load.
A merge is refused for a marked table, and it has nothing to do for a table without entries, which
stays unmarked; in both cases nothing changes. So the marks of a session are the identities of the
tables that were merged since the last fresh load, and none of them is merged twice.
-/

namespace LootSpawn

variable {Slot σ τ ρ Asset Handle : Type}

namespace LootStore

/-- A merge marks the table if it finds entries for it. -/
theorem isProcessed_merge_iff (store : LootStore) (table : HostTable) (id : Int) :
    (store.merge table).2.1.isProcessed id = true ↔
      store.isProcessed id = true ∨ table.id = id ∧ (store.merge table).1.isMerged = true := by
  rcases store.merge_cases table with ⟨-, hmerge⟩ | ⟨-, -, hmerge⟩ | ⟨stored, -, -, hmerge⟩
  · simp [hmerge, MergeOutcome.isMerged]
  · simp [hmerge, MergeOutcome.isMerged]
  · rw [hmerge]
    change (table.id :: store.processed).contains id = true ↔
      store.processed.contains id = true ∨ table.id = id ∧ true = true
    rw [List.contains_cons, Bool.or_eq_true, beq_iff_eq, and_iff_left rfl, or_comm,
      eq_comm (a := id)]

/-- The marks and the lists of a store decide what a merge does. -/
theorem merge_iff (store : LootStore) (table : HostTable) :
    ((store.merge table).1 = .alreadyProcessed ↔ store.isProcessed table.id = true) ∧
      ((store.merge table).1 = .noEntries ↔ ¬ store.isProcessed table.id = true ∧
        store.tables[hostTableKey table.name]? = none) ∧
      ((store.merge table).1.isMerged = true ↔ ¬ store.isProcessed table.id = true ∧
        store.tables[hostTableKey table.name]? ≠ none) ∧
      ((store.merge table).1.isMerged = false → (store.merge table).2 = (store, table)) := by
  rcases store.merge_cases table with
    ⟨hprocessed, hmerge⟩ | ⟨hprocessed, hnone, hmerge⟩ | ⟨stored, hprocessed, hstored, hmerge⟩
  · simp [hmerge, hprocessed, MergeOutcome.isMerged]
  · simp [hmerge, hprocessed, hnone, MergeOutcome.isMerged]
  · simp [hmerge, hprocessed, hstored, MergeOutcome.isMerged]

theorem identity_merge (store : LootStore) (table : HostTable) :
    (store.merge table).2.2.id = table.id ∧ (store.merge table).2.2.name = table.name := by
  rcases store.merge_cases table with ⟨-, hmerge⟩ | ⟨-, -, hmerge⟩ | ⟨stored, -, -, hmerge⟩
  · rw [hmerge]
    exact ⟨rfl, rfl⟩
  · rw [hmerge]
    exact ⟨rfl, rfl⟩
  · rw [hmerge]
    exact ⟨rfl, rfl⟩

/-- A store that a log was recorded in has a list for the keys of the tables in the log. -/
theorem tables_eq_none_iff {store : LootStore} {itemPrefix : String}
    {log : List (String × LootEntry)}
    (h : store.clearProcessed = ({ itemPrefix } : LootStore).recordAll log) (key : String) :
    store.tables[key]? = none ↔ ∀ loot ∈ log, lootTableKey loot.1 ≠ key := by
  have htables : store.tables = (({ itemPrefix } : LootStore).recordAll log).tables :=
    congrArg (fun store => store.tables) h
  rw [htables, tables_recordAll]
  by_cases hnil : storedUnder itemPrefix key log = []
  · simp only [hnil, if_true]
    refine iff_of_true (by simp) ?_
    simpa [storedUnder] using hnil
  · simp only [hnil, if_false]
    refine iff_of_false (Option.some_ne_none _) ?_
    simpa [storedUnder] using hnil

end LootStore

namespace MergeCall

/-- The store as the call leaves it. -/
def storeAfter (call : MergeCall Slot) : LootStore := (call.store.merge call.table).2.1

/-- The call merged a table with this identity. -/
def Merges (call : MergeCall Slot) (id : Int) : Prop :=
  call.table.id = id ∧ call.outcome.isMerged = true

/-- The answer to a call that is made when the tables in `marked` are marked and `log` was
recorded. A marked table is refused; for any other one the answer depends on whether an entry was
recorded under a name of the table; and nothing but a merge changes the store or the table. -/
structure Answered (marked : Int → Prop) (log : List (String × LootEntry))
    (call : MergeCall Slot) : Prop where
  marks : ∀ id, call.store.isProcessed id = true ↔ marked id
  alreadyProcessed : call.outcome = .alreadyProcessed ↔ marked call.table.id
  noEntries : call.outcome = .noEntries ↔ ¬ marked call.table.id ∧
    ∀ loot ∈ log, lootTableKey loot.1 ≠ hostTableKey call.table.name
  merged : call.outcome.isMerged = true ↔ ¬ marked call.table.id ∧
    ∃ loot ∈ log, lootTableKey loot.1 = hostTableKey call.table.name
  unchanged : call.outcome.isMerged = false → call.storeAfter = call.store ∧
    call.after = call.table

theorem answered {call : MergeCall Slot} {itemPrefix : String} {log : List (String × LootEntry)}
    {marked : Int → Prop} (hmarks : ∀ id, call.store.isProcessed id = true ↔ marked id)
    (hstore : call.store.clearProcessed = ({ itemPrefix } : LootStore).recordAll log) :
    call.Answered marked log := by
  obtain ⟨halready, hnone, hmerged, hunchanged⟩ := call.store.merge_iff call.table
  simp only [hmarks, ne_eq, LootStore.tables_eq_none_iff hstore, not_forall, not_not,
    exists_prop] at halready hnone hmerged
  exact ⟨hmarks, halready, hnone, hmerged, fun h => Prod.ext_iff.mp (hunchanged h)⟩

end MergeCall

namespace World

variable [DecidableEq Slot]

/-- A table with this identity was merged in a run, and no fresh load came after that. -/
def MergedLately (world : World Slot σ τ ρ Handle) (events : List (Event Slot σ τ ρ Asset Handle))
    (id : Int) : Prop :=
  ∃ before event after, events = before ++ event :: after ∧
    (∃ call ∈ (world.run before).calls event, call.Merges id) ∧ .freshLoad ∉ after

theorem not_mergedLately_nil (world : World Slot σ τ ρ Handle) (id : Int) :
    ¬ world.MergedLately ([] : List (Event Slot σ τ ρ Asset Handle)) id := by
  rintro ⟨before, event, after, hsplit, -⟩
  exact absurd hsplit.symm (List.append_ne_nil_of_right_ne_nil before (List.cons_ne_nil _ _))

theorem mergedLately_concat (world : World Slot σ τ ρ Handle)
    (events : List (Event Slot σ τ ρ Asset Handle)) (event : Event Slot σ τ ρ Asset Handle)
    (id : Int) :
    world.MergedLately (events ++ [event]) id ↔
      (event ≠ .freshLoad ∧ world.MergedLately events id) ∨
        ∃ call ∈ (world.run events).calls event, call.Merges id := by
  constructor
  · rintro ⟨before, other, after, hsplit, hmerges, hlater⟩
    rcases concat_eq_append_cons_iff.mp hsplit with ⟨-, rfl, rfl⟩ | ⟨front, rfl, rfl⟩
    · exact Or.inr hmerges
    · rw [List.mem_append, List.mem_singleton, not_or] at hlater
      exact Or.inl ⟨Ne.symm hlater.2, before, other, front, rfl, hmerges, hlater.1⟩
  · rintro (⟨hevent, before, other, after, rfl, hmerges, hlater⟩ | hmerges)
    · refine ⟨before, other, after ++ [event], by simp, hmerges, ?_⟩
      rw [List.mem_append, List.mem_singleton, not_or]
      exact ⟨hlater, Ne.symm hevent⟩
    · exact ⟨events, event, [], rfl, hmerges, List.not_mem_nil⟩

/-- In calls that were made from a world on, the marks that a call finds are those of that world and
those of the calls before it, and no table is merged a second time. -/
structure Marked (base : World Slot σ τ ρ Handle) (past : List (MergeCall Slot))
    (world : World Slot σ τ ρ Handle) : Prop where
  now : ∀ id, world.session.loot.isProcessed id = true ↔
    base.session.loot.isProcessed id = true ∨ ∃ call ∈ past, call.Merges id
  found : ∀ earlier call later, past = earlier ++ call :: later → ∀ id,
    call.store.isProcessed id = true ↔
      base.session.loot.isProcessed id = true ∨ ∃ call ∈ earlier, call.Merges id
  once : past.Pairwise fun first second => ∀ id, first.Merges id → ¬ second.Merges id

/-- An event without a merge keeps the marks, unless it is a fresh load. -/
theorem processed_step_of_isQuiet (world : World Slot σ τ ρ Handle)
    {event : Event Slot σ τ ρ Asset Handle} (hquiet : event.isQuiet) (hfresh : event ≠ .freshLoad) :
    (world.step event).session.loot.processed = world.session.loot.processed := by
  cases event with
  | load text =>
      obtain ⟨log, hlog⟩ := loot_loadText world.session text
      rw [step, hlog, LootStore.processed_recordAll]
  | freshLoad => exact absurd rfl hfresh
  | populate => exact hquiet.elim
  | container => exact hquiet.elim
  | _ => rfl

namespace Marked

variable {base world : World Slot σ τ ρ Handle} {past : List (MergeCall Slot)}

theorem step (h : base.Marked past world) {event : Event Slot σ τ ρ Asset Handle}
    (hquiet : event.isQuiet) (hfresh : event ≠ .freshLoad) :
    base.Marked past (world.step event) := by
  refine ⟨?_, h.found, h.once⟩
  intro id
  rw [LootStore.isProcessed, world.processed_step_of_isQuiet hquiet hfresh]
  exact h.now id

theorem populate (h : base.Marked past world) (slot : Slot) :
    base.Marked (past ++ [world.call slot]) (world.populate (some slot)) := by
  refine ⟨?_, ?_, ?_⟩
  · intro id
    rw [populate_some, LootStore.isProcessed_merge_iff]
    simp only [List.mem_append, List.mem_singleton, or_and_right, exists_or, exists_eq_left,
      ← or_assoc, ← h.now id]
    rfl
  · intro earlier call later hsplit
    rcases concat_eq_append_cons_iff.mp hsplit with ⟨-, rfl, rfl⟩ | ⟨front, -, hpast⟩
    · exact h.now
    · exact h.found earlier call front hpast
  · refine List.pairwise_append.mpr ⟨h.once, List.pairwise_singleton _ _, ?_⟩
    intro first hfirst second hsecond id hmerges hagain
    obtain rfl := List.mem_singleton.mp hsecond
    obtain ⟨rfl, hmerged⟩ := hagain
    have hmarked := (h.now _).mpr (Or.inr ⟨first, hfirst, hmerges⟩)
    exact ((LootStore.merge_iff _ _).2.2.1.mp hmerged).1 hmarked

end Marked

/-- Between fresh loads marks are set by merges and never go. -/
theorem marked_run (world : World Slot σ τ ρ Handle)
    {events : List (Event Slot σ τ ρ Asset Handle)} (h : .freshLoad ∉ events) :
    world.Marked (world.history events) (world.run events) := by
  have hstart : world.Marked [] world := by
    refine ⟨by simp, ?_, List.Pairwise.nil⟩
    intro earlier call later hsplit
    exact absurd hsplit.symm (List.append_ne_nil_of_right_ne_nil _ (List.cons_ne_nil _ _))
  exact run_invariant world.Marked (fun event hevent hquiet _ _ hpast =>
    hpast.step hquiet (ne_of_mem_of_not_mem hevent h))
    (fun _ _ slot hpast => hpast.populate slot) hstart

/-- Unless it is a fresh load, an event adds the marks of its merges. -/
theorem marked_step (world : World Slot σ τ ρ Handle) {event : Event Slot σ τ ρ Asset Handle}
    (hfresh : event ≠ .freshLoad) : world.Marked (world.calls event) (world.step event) := by
  have hmarked := world.marked_run (mt List.mem_singleton.mp hfresh.symm)
  rw [history, history, List.append_nil] at hmarked
  exact hmarked

theorem run_append (world : World Slot σ τ ρ Handle)
    (first second : List (Event Slot σ τ ρ Asset Handle)) :
    world.run (first ++ second) = (world.run first).run second := List.foldl_append

/-- The marks after a run from a world without marks. -/
theorem isProcessed_run (world : World Slot σ τ ρ Handle)
    (hclear : ∀ id, world.session.loot.isProcessed id = false)
    (events : List (Event Slot σ τ ρ Asset Handle)) (id : Int) :
    (world.run events).session.loot.isProcessed id = true ↔ world.MergedLately events id := by
  induction events using List.reverseRecOn with
  | nil => exact iff_of_false (Bool.eq_false_iff.mp (hclear id)) (world.not_mergedLately_nil id)
  | append_singleton events event ih =>
      rw [run_append, mergedLately_concat, ← ih]
      by_cases hfresh : event = .freshLoad
      · subst hfresh
        refine iff_of_false Bool.false_ne_true ?_
        rintro (⟨hnot, -⟩ | ⟨call, hcall, -⟩)
        · exact hnot rfl
        · cases hcall
      · rw [and_iff_right hfresh]
        exact ((world.run events).marked_step hfresh).now id

/-- The calls of one event find the same store, marks aside. -/
theorem clearProcessed_of_mem_callsFor (world : World Slot σ τ ρ Handle)
    {slots : List (Option Slot)}
    {call : MergeCall Slot} (h : call ∈ world.callsFor slots) :
    call.store.clearProcessed = world.session.loot.clearProcessed := by
  induction slots generalizing world with
  | nil => cases h
  | cons slot rest ih =>
      cases slot with
      | none => exact ih world h
      | some slot =>
          rcases List.mem_cons.mp h with rfl | h
          · rfl
          · exact (ih _ h).trans (LootStore.clearProcessed_merge _ _)

theorem clearProcessed_of_mem_calls (world : World Slot σ τ ρ Handle)
    {event : Event Slot σ τ ρ Asset Handle} {call : MergeCall Slot} (h : call ∈ world.calls event) :
    call.store.clearProcessed = world.session.loot.clearProcessed := by
  cases event with
  | populate slot => exact world.clearProcessed_of_mem_callsFor h
  | container slots => exact world.clearProcessed_of_mem_callsFor h
  | _ => cases h

theorem tables_foldl_populate (world : World Slot σ τ ρ Handle) {slots : List (Option Slot)}
    {slot : Slot} (hnot : slot ∉ slots.reduceOption) :
    (slots.foldl populate world).tables slot = world.tables slot := by
  induction slots generalizing world with
  | nil => rfl
  | cons other rest ih =>
      cases other with
      | none => exact ih world hnot
      | some other =>
          rw [List.reduceOption_cons_of_some, List.mem_cons, not_or] at hnot
          rw [List.foldl_cons, ih _ hnot.2]
          exact Function.update_of_ne hnot.1 _ _

/-- The host has its tables back as the calls left them. -/
theorem tables_of_mem_callsFor (world : World Slot σ τ ρ Handle) {slots : List (Option Slot)}
    (hdistinct : slots.reduceOption.Nodup) {call : MergeCall Slot}
    (h : call ∈ world.callsFor slots) :
    (slots.foldl populate world).tables call.slot = call.after := by
  induction slots generalizing world with
  | nil => cases h
  | cons slot rest ih =>
      cases slot with
      | none => exact ih world hdistinct h
      | some slot =>
          rw [List.reduceOption_cons_of_some, List.nodup_cons] at hdistinct
          rcases List.mem_cons.mp h with rfl | h
          · exact (tables_foldl_populate _ hdistinct.1).trans (Function.update_self _ _ _)
          · exact ih _ hdistinct.2 h

theorem tables_of_mem_calls (world : World Slot σ τ ρ Handle)
    {event : Event Slot σ τ ρ Asset Handle} {call : MergeCall Slot} (h : call ∈ world.calls event) :
    (world.step event).tables call.slot = call.after := by
  cases event with
  | populate slot =>
      apply world.tables_of_mem_callsFor _ h
      cases slot with
      | none => exact List.nodup_nil
      | some slot => exact List.nodup_singleton slot
  | container slots hdistinct =>
      rw [step, world.fill_eq_foldl_populate hdistinct]
      exact world.tables_of_mem_callsFor hdistinct h
  | _ => cases h

/-- What an event returns to the host for the tables that it hands out. -/
def outcomes (world : World Slot σ τ ρ Handle) : Event Slot σ τ ρ Asset Handle → List MergeOutcome
  | .populate slot => [(world.session.populate? (slot.map world.tables)).1]
  | .container slots _ => (world.session.populateAll (slots.map (·.map world.tables))).1
  | _ => []

/-- What is returned for tables that are there are the outcomes of the calls. -/
theorem outcomes_eq (world : World Slot σ τ ρ Handle) {event : Event Slot σ τ ρ Asset Handle}
    (h : event ≠ .populate none) :
    world.outcomes event = (world.calls event).map MergeCall.outcome := by
  cases event with
  | populate slot =>
      cases slot with
      | none => exact absurd rfl h
      | some slot => rfl
  | container slots hdistinct => exact world.outcomes_populateAll hdistinct
  | _ => rfl

/-- Only the host itself gives a table another identity or name. -/
theorem identity_run (world : World Slot σ τ ρ Handle)
    {events : List (Event Slot σ τ ρ Asset Handle)} {slot : Slot}
    (hown : ∀ event ∈ events, ¬ event.rewrites slot) :
    ((world.run events).tables slot).id = (world.tables slot).id ∧
      ((world.run events).tables slot).name = (world.tables slot).name := by
  let same (_ : List (MergeCall Slot)) (other : World Slot σ τ ρ Handle) : Prop :=
    (other.tables slot).id = (world.tables slot).id ∧
      (other.tables slot).name = (world.tables slot).name
  refine @run_invariant _ _ _ _ _ _ _ same events ?_ ?_ [] world ⟨rfl, rfl⟩
  · intro event hevent hquiet past other h
    simp only [same, other.tables_step_of_isQuiet hquiet (hown event hevent)]
    exact h
  · intro past other merged h
    by_cases hmerged : merged = slot
    · subst hmerged
      have hidentity := other.session.loot.identity_merge (other.tables merged)
      simp only [same, populate_some, Function.update_self]
      exact ⟨hidentity.1.trans h.1, hidentity.2.trans h.2⟩
    · simp only [same, populate_some, Function.update_of_ne (Ne.symm hmerged)]
      exact h

/-- Only merges set marks. -/
theorem isProcessed_of_run (world : World Slot σ τ ρ Handle)
    (events : List (Event Slot σ τ ρ Asset Handle)) (id : Int)
    (h : (world.run events).session.loot.isProcessed id = true) :
    world.session.loot.isProcessed id = true ∨ ∃ call ∈ world.history events, call.Merges id := by
  let justified (past : List (MergeCall Slot)) (other : World Slot σ τ ρ Handle) : Prop :=
    other.session.loot.isProcessed id = true →
      world.session.loot.isProcessed id = true ∨ ∃ call ∈ past, call.Merges id
  have hstart : justified [] world := Or.inl
  refine run_invariant justified ?_ ?_ hstart h
  · intro event hevent hquiet past other hpast hmarked
    by_cases hfresh : event = .freshLoad
    · subst hfresh
      cases hmarked
    · rw [LootStore.isProcessed, other.processed_step_of_isQuiet hquiet hfresh] at hmarked
      exact hpast hmarked
  · intro past other slot hpast hmarked
    rcases (LootStore.isProcessed_merge_iff _ _ id).mp hmarked with hmarked | hmerges
    · refine (hpast hmarked).imp_right ?_
      rintro ⟨call, hcall, hmerges⟩
      exact ⟨call, List.mem_append_left _ hcall, hmerges⟩
    · exact Or.inr ⟨other.call slot, by simp, hmerges⟩

/-- A table that was visited when nothing was stored for it is merged when it is visited after an
entry was recorded for it, unless a table with its identity was merged in between. -/
theorem isMerged_later (world : World Slot σ τ ρ Handle) {itemPrefix : String}
    {log : List (String × LootEntry)}
    (hlog : world.session.loot.clearProcessed = ({ itemPrefix } : LootStore).recordAll log)
    {since : List (Event Slot σ τ ρ Asset Handle)} {slot : Slot}
    (hvisit : (world.call slot).outcome = .noEntries)
    (hown : ∀ event ∈ since, ¬ event.rewrites slot)
    (hother : ∀ call ∈ world.history since, ¬ call.Merges (world.tables slot).id)
    (hrecorded : ∃ loot ∈ since.flatMap Event.lootLog,
      lootTableKey loot.1 = hostTableKey (world.tables slot).name) :
    ((world.run since).call slot).outcome.isMerged = true := by
  have hstore := world.loot_run since
  rw [hlog, ← LootStore.recordAll_append] at hstore
  have hanswered : ((world.run since).call slot).Answered _ _ :=
    MergeCall.answered (fun _ => Iff.rfl) hstore
  obtain ⟨hid, hname⟩ := world.identity_run hown
  refine hanswered.merged.mpr ⟨?_, ?_⟩
  · intro hmarked
    rw [show ((world.run since).call slot).table.id = _ from hid] at hmarked
    rcases world.isProcessed_of_run since _ hmarked with hearlier | ⟨call, hcall, hmerges⟩
    · exact ((LootStore.merge_iff _ _).2.1.mp hvisit).1 hearlier
    · exact hother call hcall hmerges
  · obtain ⟨loot, hloot, hkey⟩ := hrecorded
    exact ⟨loot, List.mem_append_right _ hloot, hkey.trans (congrArg hostTableKey hname.symm)⟩

/-- Whatever happened in a run, the marked tables are those that were merged since the last fresh
load. A merge call is answered by the marks, which include those of the calls before it for the same
container, and by the entries that were recorded; what it leaves is what the host gets back. An
absent table changes nothing. Without a fresh load no table is merged twice, and a table for which
nothing was stored is merged when it is visited after something was, unless a table with its
identity was. Loading files or a directory is loading texts. -/
theorem marks_run (config : Config) (tables : Slot → HostTable) (stage : Stage σ τ ρ)
    (events : List (Event Slot σ τ ρ Asset Handle)) :
    let start : World Slot σ τ ρ Handle := World.start config tables stage
    let world := start.run events
    (∀ id, world.session.loot.isProcessed id = true ↔ start.MergedLately events id) ∧
      (∀ (event : Event Slot σ τ ρ Asset Handle) earlier call later,
        world.calls event = earlier ++ call :: later →
          call.Answered (fun id => start.MergedLately events id ∨
              ∃ other ∈ earlier, other.Merges id) (events.flatMap Event.lootLog) ∧
            (world.step event).tables call.slot = call.after) ∧
      (∀ event : Event Slot σ τ ρ Asset Handle, event ≠ .populate none →
        world.outcomes event = (world.calls event).map MergeCall.outcome) ∧
      world.outcomes (.populate none : Event Slot σ τ ρ Asset Handle) = [.noTable] ∧
      world.step (.populate none : Event Slot σ τ ρ Asset Handle) = world ∧
      (∀ since : List (Event Slot σ τ ρ Asset Handle), .freshLoad ∉ since →
        (world.history since).Pairwise fun first second =>
          ∀ id, first.Merges id → ¬ second.Merges id) ∧
      (∀ (since : List (Event Slot σ τ ρ Asset Handle)) (slot : Slot),
        (world.call slot).outcome = .noEntries → (∀ event ∈ since, ¬ event.rewrites slot) →
        (∀ call ∈ world.history since, ¬ call.Merges (world.tables slot).id) →
        (∃ loot ∈ since.flatMap Event.lootLog,
          lootTableKey loot.1 = hostTableKey (world.tables slot).name) →
        ((world.run since).call slot).outcome.isMerged = true) ∧
      ∀ (tree : FileTree) (input : Load), ∃ texts : List NamedText,
        { world with session := (world.session.load tree input).1 } =
          world.run (texts.map (Event.load : NamedText → Event Slot σ τ ρ Asset Handle)) := by
  intro start world
  have hmarks : ∀ (events : List (Event Slot σ τ ρ Asset Handle)) id,
      (start.run events).session.loot.isProcessed id = true ↔ start.MergedLately events id :=
    start.isProcessed_run fun _ => rfl
  refine ⟨hmarks events, ?_, ?_, rfl, rfl, ?_, ?_, ?_⟩
  · intro event earlier call later hcalls
    have hmem : call ∈ world.calls event := by simp [hcalls]
    have hstore := (world.clearProcessed_of_mem_calls hmem).trans (start.loot_run events)
    refine ⟨MergeCall.answered ?_ hstore, world.tables_of_mem_calls hmem⟩
    intro id
    rw [← hmarks events]
    have hfresh : event ≠ .freshLoad := by
      rintro rfl
      cases hmem
    exact (world.marked_step hfresh).found earlier call later hcalls id
  · intro event hevent
    exact world.outcomes_eq hevent
  · intro since hsince
    exact (world.marked_run hsince).once
  · intro since slot hvisit hown hother hrecorded
    exact world.isMerged_later (start.loot_run events) hvisit hown hother hrecorded
  · intro tree input
    exact world.loadTexts_eq_run _

def cabin : HostTable := ⟨7, "LootTableCabin", []⟩

def emptyCabin : World Unit Unit Unit Unit Unit := World.start {} (fun _ => cabin) ⟨(), (), ()⟩

/-- A visit before there is anything to merge, one after, and the loot between them. -/
def cabinRun : List (Event Unit Unit Unit Unit Unit Unit) :=
  [.populate (some ()), .addLoot "CABIN" ⟨"rope", 3⟩, .populate (some ())]

theorem marks_run_cabin :
    emptyCabin.MergedLately cabinRun 7 ∧
      ((emptyCabin.run cabinRun).call ()).outcome = .alreadyProcessed ∧
      (emptyCabin.run cabinRun).outcomes
        (.container [none, some ()] (by decide) : Event Unit Unit Unit Unit Unit Unit) =
          [.alreadyProcessed] ∧
      (emptyCabin.history cabinRun).Pairwise
        (fun first second => ∀ id, first.Merges id → ¬ second.Merges id) ∧
      ((emptyCabin.run (cabinRun.take 2)).call ()).outcome.isMerged = true := by
  obtain ⟨hmarks, hanswered, houtcomes, -⟩ := marks_run {} (fun _ => cabin) ⟨(), (), ()⟩ cabinRun
  have hlately : emptyCabin.MergedLately cabinRun 7 := (hmarks 7).mp (by decide +kernel)
  have halready : ((emptyCabin.run cabinRun).call ()).outcome = .alreadyProcessed :=
    (hanswered (.populate (some ())) [] _ [] rfl).1.alreadyProcessed.mpr (Or.inl hlately)
  refine ⟨hlately, halready, ?_, ?_, ?_⟩
  · rw [show (emptyCabin.run cabinRun).outcomes _ = _ from
      houtcomes (.container [none, some ()] (by decide)) (fun h => by cases h)]
    exact congrArg ([·]) halready
  · obtain ⟨-, -, -, -, -, honce, -⟩ :=
      marks_run {} (fun _ => cabin) ⟨(), (), ()⟩ (cabinRun.take 0)
    exact honce cabinRun (by simp [cabinRun])
  · obtain ⟨-, -, -, -, -, -, hvisit, -⟩ :=
      marks_run {} (fun _ => cabin) ⟨(), (), ()⟩ (cabinRun.take 1)
    apply hvisit [.addLoot "CABIN" ⟨"rope", 3⟩] ()
    · decide +kernel
    · simp [Event.rewrites]
    · intro call hcall
      cases hcall
    · exact ⟨("CABIN", ⟨"rope", 3⟩), List.mem_singleton_self _, by decide +kernel⟩

end World

end LootSpawn
