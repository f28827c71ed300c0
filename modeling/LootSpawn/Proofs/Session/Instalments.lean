import LootSpawn.Proofs.Session.World
import LootSpawn.Proofs.Source.Governing

/-!
# Merging in instalments

A host table that only merges change is, at every moment of a run, its own first entries followed by
the new ones among the entries that were stored for it at its last merge. Fresh loads let a table be
merged again, and the merges together add what the last of them would have added alone.
-/

namespace LootSpawn

variable {Slot σ τ ρ Asset Handle : Type}

namespace LootStore

/-- A table that was enriched from an earlier part of what is stored is enriched from all of it by a
merge, and stays as it is if nothing is merged. -/
theorem merge_enriched (store : LootStore) (base : HostTable) {first : List LootEntry}
    (hfirst : first <+: store.entries (hostTableKey base.name)) :
    (store.merge (base.enriched first)).2.2 =
      base.enriched (if (store.merge (base.enriched first)).1.isMerged then
        store.entries (hostTableKey base.name) else first) := by
  rcases store.merge_cases (base.enriched first) with
    ⟨-, hmerge⟩ | ⟨-, -, hmerge⟩ | ⟨stored, -, hstored, hmerge⟩
  · rw [hmerge]
    rfl
  · rw [hmerge]
    rfl
  · have hentries : store.entries (hostTableKey base.name) = stored := entries_of_tables hstored
    obtain ⟨second, hsecond⟩ := hfirst
    rw [hmerge, hentries]
    rw [hentries] at hsecond
    subst hsecond
    exact base.enriched_enriched first second

/-- A table that could be merged now would have been merged if it had its first entries only and no
marks were set. -/
theorem merge_clearProcessed (store : LootStore) (base table : HostTable)
    (hname : table.name = base.name) (hmerged : (store.merge table).1.isMerged = true) :
    (store.clearProcessed.merge base).2.2 =
      base.enriched (store.entries (hostTableKey base.name)) := by
  rcases store.merge_cases table with ⟨-, hmerge⟩ | ⟨-, -, hmerge⟩ | ⟨stored, -, hstored, hmerge⟩
  · rw [hmerge] at hmerged
    cases hmerged
  · rw [hmerge] at hmerged
    cases hmerged
  · rw [hname] at hstored
    have hentries : store.entries (hostTableKey base.name) = stored := entries_of_tables hstored
    rcases store.clearProcessed.merge_cases base with
      ⟨hprocessed, -⟩ | ⟨-, hnone, -⟩ | ⟨other, -, hother, hfresh⟩
    · cases hprocessed
    · cases hstored.symm.trans hnone
    · obtain rfl : stored = other := Option.some.inj (hstored.symm.trans hother)
      rw [hfresh, hentries]

end LootStore

variable [DecidableEq Slot]

/-- The entries that were stored for the table when it was merged last; none if it never was. -/
def lastStored (slot : Slot) (past : List (MergeCall Slot)) : List LootEntry :=
  ((past.reverse.find? fun call => call.slot = slot ∧ call.outcome.isMerged).map
    MergeCall.stored).getD []

theorem lastStored_concat (slot : Slot) (past : List (MergeCall Slot)) (call : MergeCall Slot) :
    lastStored slot (past ++ [call]) =
      if call.slot = slot ∧ call.outcome.isMerged then call.stored else lastStored slot past := by
  unfold lastStored
  rw [List.reverse_append, List.reverse_singleton, List.singleton_append, List.find?_cons]
  split
  next h => rw [if_pos (of_decide_eq_true h)]; rfl
  next h => rw [if_neg (of_decide_eq_false h)]

/-- What a call does to a table that had the entries of `base` before any call: it finds and leaves
it enriched from what was stored at its last merge, as one merge of all of that would leave it, and
it counts what it adds. -/
structure MergeCall.Lawful (base : HostTable) (earlier : List (MergeCall Slot))
    (call : MergeCall Slot) : Prop where
  found : call.table = base.enriched (lastStored call.slot earlier)
  left : call.after = base.enriched (lastStored call.slot (earlier ++ [call]))
  atOnce : call.outcome.isMerged = true → call.after = (call.store.clearProcessed.merge base).2.2
  growth : ∀ added skipped, call.outcome = .merged added skipped →
    call.after.entries.length = call.table.entries.length + added ∧
      added + skipped = call.stored.length

/-- The table is what the calls so far make of it, and what was stored at its last merge is a part
of what is stored now. -/
structure Instalments (base : HostTable) (slot : Slot) (past : List (MergeCall Slot))
    (world : World Slot σ τ ρ Handle) : Prop where
  table : world.tables slot = base.enriched (lastStored slot past)
  stored : lastStored slot past <+: world.session.loot.entries (hostTableKey base.name)
  lawful : ∀ earlier call later, past = earlier ++ call :: later → call.slot = slot →
    call.Lawful base earlier

namespace Instalments

variable {base : HostTable} {slot : Slot} {past : List (MergeCall Slot)}
variable {world : World Slot σ τ ρ Handle}

theorem lawful_call (h : Instalments base slot past world) :
    (world.call slot).Lawful base past := by
  have hleft := world.session.loot.merge_enriched base h.stored
  have hname : (world.tables slot).name = base.name := by
    rw [h.table]
    rfl
  have hstored : (world.call slot).stored =
      world.session.loot.entries (hostTableKey base.name) := by
    rw [← hname]
    rfl
  rw [← h.table] at hleft
  have hafter : (world.call slot).after =
      base.enriched (lastStored slot (past ++ [world.call slot])) := by
    rw [lastStored_concat, hstored]
    refine hleft.trans ?_
    congr 1
    exact if_congr (by simp [MergeCall.outcome, World.call]) rfl rfl
  refine ⟨h.table, hafter, ?_, ?_⟩
  · intro hmerged
    rw [hafter, lastStored_concat, if_pos ⟨rfl, hmerged⟩, hstored]
    exact (LootStore.merge_clearProcessed _ base _ hname hmerged).symm
  · intro added skipped houtcome
    exact LootStore.counts_merge _ _ houtcome

theorem populate (h : Instalments base slot past world) (other : Slot) :
    Instalments base slot (past ++ [world.call other]) (world.populate (some other)) := by
  have hcalls : ∀ earlier call later,
      past ++ [world.call other] = earlier ++ call :: later → call.slot = slot →
        call.Lawful base earlier := by
    intro earlier call later hsplit hslot
    -- Either the call is the new one, or it is among those of the past.
    rcases concat_eq_append_cons_iff.mp hsplit with ⟨-, rfl, rfl⟩ | ⟨front, -, hpast⟩
    · obtain rfl : other = slot := hslot
      exact h.lawful_call
    · exact h.lawful earlier call front hpast hslot
  by_cases hother : other = slot
  · subst hother
    refine ⟨?_, ?_, hcalls⟩
    · rw [World.populate_some]
      exact (Function.update_self other _ _).trans h.lawful_call.left
    · simp only [World.populate_some, LootStore.entries_merge, lastStored_concat]
      split
      next =>
        rw [MergeCall.stored, World.call, h.table]
        exact List.prefix_rfl
      next => exact h.stored
  · have hlast : lastStored slot (past ++ [world.call other]) = lastStored slot past := by
      rw [lastStored_concat, if_neg fun hcall => hother hcall.1]
    refine ⟨?_, ?_, hcalls⟩
    · rw [World.populate_some, hlast, ← h.table]
      exact Function.update_of_ne (Ne.symm hother) _ _
    · simp only [World.populate_some, LootStore.entries_merge, hlast]
      exact h.stored

/-- An event without a merge keeps the invariant, unless the host changes the table by itself. -/
theorem step (h : Instalments base slot past world) {event : Event Slot σ τ ρ Asset Handle}
    (hquiet : event.isQuiet) (hown : ¬ event.rewrites slot) :
    Instalments base slot past (world.step event) := by
  refine ⟨?_, ?_, h.lawful⟩
  · rw [world.tables_step_of_isQuiet hquiet hown]
    exact h.table
  · exact h.stored.trans (world.entries_isPrefix_step hquiet _)

end Instalments

/-- Whatever happens in a run, a table that only merges change has its first entries followed by
the new ones of what was stored at its last merge; the entry added for an item is the first that was
stored for it; and every call that was made for the table is lawful. -/
theorem tables_run (config : Config) (tables : Slot → HostTable) (stage : Stage σ τ ρ)
    (events : List (Event Slot σ τ ρ Asset Handle)) (slot : Slot)
    (hown : ∀ event ∈ events, ¬ event.rewrites slot) :
    let start : World Slot σ τ ρ Handle := World.start config tables stage
    let stored := lastStored slot (start.history events)
    (start.run events).tables slot = (tables slot).enriched stored ∧
      (∀ entry ∈ newEntries (tables slot).entries stored,
        stored.find? (fun other => other.item = entry.item) = some entry) ∧
      ∀ earlier call later, start.history events = earlier ++ call :: later → call.slot = slot →
        call.Lawful (tables slot) earlier := by
  intro start stored
  have hstart : Instalments (tables slot) slot [] start := by
    refine ⟨(tables slot).enriched_nil.symm, List.nil_prefix, ?_⟩
    intro earlier call later hsplit
    exact absurd hsplit.symm (List.append_ne_nil_of_right_ne_nil _ (List.cons_ne_nil _ _))
  have hrun : Instalments (tables slot) slot (start.history events) (start.run events) :=
    World.run_invariant (Instalments (tables slot) slot)
      (fun event hevent hquiet _ _ h => h.step hquiet (hown event hevent))
      (fun _ _ other h => h.populate other) hstart
  exact ⟨hrun.table, fun entry hentry => find?_of_mem_newEntries hentry, hrun.lawful⟩

def bearCache : HostTable := ⟨1, "LootTableBearCache", [⟨"GEAR_Knife", 2⟩]⟩

/-- A run in which the table is merged twice, with a fresh load and more loot between. -/
def bearCacheRun : List (Event Unit Unit Unit Unit Unit Unit) :=
  [.addLoot "bearcache" ⟨"rope", 3⟩, .populate (some ()), .freshLoad,
    .load ⟨"more.txt", "loottable = BearCache\nitem = ROPE w = 9\nitem = lamp w = 4"⟩,
    .container [none, some ()] (by decide)]

def bearCacheStart : World Unit Unit Unit Unit Unit :=
  World.start {} (fun _ => bearCache) ⟨(), (), ()⟩

theorem lastStored_bearCache :
    lastStored () (bearCacheStart.history bearCacheRun) =
      [⟨"GEAR_rope", 3⟩, ⟨"GEAR_rope", 9⟩, ⟨"GEAR_lamp", 4⟩] := by
  decide +kernel

theorem tables_run_bearCache :
    (∀ event ∈ bearCacheRun, ¬ event.rewrites ()) ∧
      (bearCacheStart.run bearCacheRun).tables () =
        bearCache.enriched [⟨"GEAR_rope", 3⟩, ⟨"GEAR_rope", 9⟩, ⟨"GEAR_lamp", 4⟩] := by
  have hown : ∀ event ∈ bearCacheRun, ¬ event.rewrites () := by
    simp [bearCacheRun, Event.rewrites]
  have hrun : (bearCacheStart.run bearCacheRun).tables () =
      bearCache.enriched (lastStored () (bearCacheStart.history bearCacheRun)) :=
    (tables_run {} (fun _ => bearCache) ⟨(), (), ()⟩ bearCacheRun () hown).1
  rw [lastStored_bearCache] at hrun
  exact ⟨hown, hrun⟩

end LootSpawn
