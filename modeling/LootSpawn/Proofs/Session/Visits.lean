import LootSpawn.Proofs.Session.Marks
import Mathlib.Data.List.Perm.Basic

/-!
# Different tables in any order

The host hands out its tables one at a time or together in containers. A merge sets a mark for its
own table and reads no other mark, and it takes nothing from what is stored. As long as no two
tables have one identity, each of them is therefore merged as if it were the only one, and neither
the order of the tables nor the way in which they are put into containers makes a difference.
-/

namespace LootSpawn

/-- One call of the host: for a single table, or for the tables of a container. Any of them may be
absent. -/
inductive Visit where
  | single (table : Option HostTable)
  | container (tables : List (Option HostTable))

namespace Visit

/-- The tables that are there. -/
def present : Visit → List HostTable
  | .single table => table.toList
  | .container tables => tables.reduceOption

/-- What a visit returns if every table is merged by the same store, whatever becomes of the other
tables: the outcomes, and the tables in their places. An absent table that is handed out alone has
an outcome of its own. -/
def answer (store : LootStore) : Visit → List MergeOutcome × List (Option HostTable)
  | .single none => ([.noTable], [none])
  | .single (some table) => ([(store.merge table).1], [some (store.merge table).2.2])
  | .container tables =>
      (tables.reduceOption.map fun table => (store.merge table).1,
        tables.map (·.map fun table => (store.merge table).2.2))

end Visit

namespace LootStore

/-- A merge reads the lists of the store and the mark of its own table, and nothing else. -/
theorem merge_congr {store other : LootStore} {table : HostTable}
    (htables : store.tables = other.tables)
    (hmark : store.isProcessed table.id = other.isProcessed table.id) :
    (store.merge table).1 = (other.merge table).1 ∧
      (store.merge table).2.2 = (other.merge table).2.2 := by
  simp only [merge, htables, hmark]
  cases other.isProcessed table.id with
  | true => exact ⟨rfl, rfl⟩
  | false =>
      cases other.tables[hostTableKey table.name]? with
      | none => exact ⟨rfl, rfl⟩
      | some stored => exact ⟨rfl, rfl⟩

end LootStore

namespace Session

/-- Carries out a visit. -/
def visit (session : Session) : Visit → (List MergeOutcome × List (Option HostTable)) × Session
  | .single table =>
      let (outcome, session, table) := session.populate? table
      (([outcome], [table]), session)
  | .container tables =>
      let (outcomes, session, tables) := session.populateAll tables
      ((outcomes, tables), session)

/-- Carries out visits in order. -/
def visitAll (session : Session) :
    List Visit → List (List MergeOutcome × List (Option HostTable)) × Session
  | [] => ([], session)
  | visit :: rest =>
      let (answer, session) := session.visit visit
      let (answers, session) := session.visitAll rest
      (answer :: answers, session)

/-- After the tables were merged, in whatever order, a session differs from the one before by marks
only. Those tables have one that had one before or that a merge on its own would have marked. -/
structure Merged (base : Session) (tables : List HostTable) (session : Session) : Prop where
  config : session.config = base.config
  spawns : session.spawns = base.spawns
  contents : session.loot.clearProcessed = base.loot.clearProcessed
  marks : ∀ id, session.loot.isProcessed id = true ↔ base.loot.isProcessed id = true ∨
    ∃ table ∈ tables, table.id = id ∧ (base.loot.merge table).1.isMerged = true

namespace Merged

variable {base session : Session} {tables : List HostTable}

theorem nil (base : Session) : base.Merged [] base := ⟨rfl, rfl, rfl, by simp⟩

theorem isProcessed_eq (h : base.Merged tables session) {table : HostTable}
    (hnew : table.id ∉ tables.map HostTable.id) :
    session.loot.isProcessed table.id = base.loot.isProcessed table.id := by
  rw [Bool.eq_iff_iff, h.marks, or_iff_left]
  rintro ⟨other, hother, hid, -⟩
  exact hnew (hid ▸ List.mem_map_of_mem hother)

/-- One more table is merged as if it were the first. -/
theorem populate (h : base.Merged tables session) {table : HostTable}
    (hnew : table.id ∉ tables.map HostTable.id) :
    (session.populate table).1 = (base.loot.merge table).1 ∧
      (session.populate table).2.2 = (base.loot.merge table).2.2 ∧
      base.Merged (tables ++ [table]) (session.populate table).2.1 := by
  have hstored : session.loot.tables = base.loot.tables :=
    congrArg (fun store => store.tables) h.contents
  obtain ⟨houtcome, hafter⟩ := LootStore.merge_congr hstored (h.isProcessed_eq hnew)
  refine ⟨houtcome, hafter, h.config, h.spawns, ?_, ?_⟩
  · exact (LootStore.clearProcessed_merge _ _).trans h.contents
  · intro id
    have hmarks := LootStore.isProcessed_merge_iff session.loot table id
    rw [houtcome, h.marks id] at hmarks
    rw [Session.populate, hmarks]
    simp only [List.mem_append, List.mem_singleton, or_and_right, exists_or, exists_eq_left,
      or_assoc]

/-- So are the tables of a container, one after the other. -/
theorem populateAll (h : base.Merged tables session) {more : List (Option HostTable)}
    (hids : ((tables ++ more.reduceOption).map HostTable.id).Nodup) :
    (session.populateAll more).1 = more.reduceOption.map (fun table => (base.loot.merge table).1) ∧
      (session.populateAll more).2.2 = more.map (·.map fun table => (base.loot.merge table).2.2) ∧
      base.Merged (tables ++ more.reduceOption) (session.populateAll more).2.1 := by
  induction more generalizing session tables with
  | nil =>
      rw [List.reduceOption_nil, List.append_nil]
      exact ⟨rfl, rfl, h⟩
  | cons table rest ih =>
      cases table with
      | none =>
          obtain ⟨houtcomes, hafter, hmerged⟩ := ih h hids
          exact ⟨houtcomes, congrArg (none :: ·) hafter, hmerged⟩
      | some table =>
          rw [List.reduceOption_cons_of_some, List.append_cons] at hids ⊢
          have hnew : table.id ∉ tables.map HostTable.id := by
            rw [List.map_append, List.map_append, List.append_assoc] at hids
            exact fun hmem => (List.nodup_append.mp hids).2.2 _ hmem _ (by simp) rfl
          obtain ⟨houtcome, htable, hstep⟩ := h.populate hnew
          obtain ⟨houtcomes, hafter, hmerged⟩ := ih hstep hids
          exact ⟨List.cons_eq_cons.mpr ⟨houtcome, houtcomes⟩,
            List.cons_eq_cons.mpr ⟨congrArg some htable, hafter⟩, hmerged⟩

theorem visit (h : base.Merged tables session) {visit : Visit}
    (hids : ((tables ++ visit.present).map HostTable.id).Nodup) :
    (session.visit visit).1 = visit.answer base.loot ∧
      base.Merged (tables ++ visit.present) (session.visit visit).2 := by
  cases visit with
  | single table =>
      cases table with
      | none =>
          rw [Visit.present, Option.toList_none, List.append_nil]
          exact ⟨rfl, h⟩
      | some table =>
          -- A single table is a container that holds nothing else.
          obtain ⟨houtcome, hafter, hmerged⟩ := @populateAll _ _ _ h [some table] hids
          exact ⟨congrArg₂ Prod.mk houtcome hafter, hmerged⟩
  | container more =>
      obtain ⟨houtcomes, hafter, hmerged⟩ := h.populateAll hids
      exact ⟨congrArg₂ Prod.mk houtcomes hafter, hmerged⟩

theorem visitAll (h : base.Merged tables session) {visits : List Visit}
    (hids : ((tables ++ visits.flatMap Visit.present).map HostTable.id).Nodup) :
    (session.visitAll visits).1 = visits.map (Visit.answer base.loot) ∧
      base.Merged (tables ++ visits.flatMap Visit.present) (session.visitAll visits).2 := by
  induction visits generalizing session tables with
  | nil =>
      rw [List.flatMap_nil, List.append_nil]
      exact ⟨rfl, h⟩
  | cons visit rest ih =>
      rw [List.flatMap_cons, ← List.append_assoc] at hids ⊢
      have hfirst : ((tables ++ visit.present).map HostTable.id).Nodup := by
        rw [List.map_append] at hids
        exact (List.nodup_append.mp hids).1
      obtain ⟨hanswer, hstep⟩ := h.visit hfirst
      obtain ⟨hanswers, hmerged⟩ := ih hstep hids
      exact ⟨List.cons_eq_cons.mpr ⟨hanswer, hanswers⟩, hmerged⟩

end Merged

/-- Tables with different identities may be handed out in any order, alone or in any containers, and
with absent ones anywhere between them. Every table comes back with the outcome and the entries that
it would have got from the session as it was, and in the end the same tables are marked and the same
content is stored. -/
theorem visits_in_any_order (session : Session) {first second : List Visit}
    (hperm : (first.flatMap Visit.present).Perm (second.flatMap Visit.present))
    (hids : ((first.flatMap Visit.present).map HostTable.id).Nodup) :
    (session.visitAll first).1 = first.map (Visit.answer session.loot) ∧
      (session.visitAll second).1 = second.map (Visit.answer session.loot) ∧
      (session.visitAll first).2.config = (session.visitAll second).2.config ∧
      (session.visitAll first).2.spawns = (session.visitAll second).2.spawns ∧
      (session.visitAll first).2.loot.clearProcessed =
        (session.visitAll second).2.loot.clearProcessed ∧
      ∀ id, (session.visitAll first).2.loot.isProcessed id =
        (session.visitAll second).2.loot.isProcessed id := by
  obtain ⟨hfirst, hmerged⟩ := (Merged.nil session).visitAll hids
  obtain ⟨hsecond, hmerged'⟩ :=
    (Merged.nil session).visitAll ((hperm.map HostTable.id).nodup_iff.mp hids)
  refine ⟨hfirst, hsecond, hmerged.config.trans hmerged'.config.symm,
    hmerged.spawns.trans hmerged'.spawns.symm, hmerged.contents.trans hmerged'.contents.symm, ?_⟩
  intro id
  rw [Bool.eq_iff_iff, hmerged.marks, hmerged'.marks]
  simp only [List.nil_append, hperm.mem_iff]

/-- Loot for cabins only. -/
def stocked : Session := (Session.start {}).addLoot "cabin" ⟨"rope", 3⟩

/-- Two tables of one name, one of which has the item already, and a table without loot. -/
def north : HostTable := ⟨7, "LootTableCabin", []⟩

def south : HostTable := ⟨8, "LOOTTABLECABIN", [⟨"gear_rope", 1⟩]⟩

def lake : HostTable := ⟨9, "LootTableLake", []⟩

def together : List Visit := [.container [some north, none, some south, some lake]]

def oneByOne : List Visit :=
  [.single (some lake), .container [some south], .single none, .container [none, some north]]

theorem visits_in_any_order_cabins :
    (stocked.visitAll together).1 = [([.merged 1 0, .merged 0 1, .noEntries],
      [some { north with entries := [⟨"GEAR_rope", 3⟩] }, none, some south, some lake])] ∧
      (stocked.visitAll oneByOne).1 = [([.noEntries], [some lake]), ([.merged 0 1], [some south]),
        ([.noTable], [none]),
        ([.merged 1 0], [none, some { north with entries := [⟨"GEAR_rope", 3⟩] }])] ∧
      ∀ id, (stocked.visitAll together).2.loot.isProcessed id =
        (stocked.visitAll oneByOne).2.loot.isProcessed id := by
  have hperm : (together.flatMap Visit.present).Perm (oneByOne.flatMap Visit.present) := by
    decide +kernel
  have hids : ((together.flatMap Visit.present).map HostTable.id).Nodup := by decide +kernel
  obtain ⟨htogether, honeByOne, -, -, -, hmarks⟩ := stocked.visits_in_any_order hperm hids
  refine ⟨htogether.trans ?_, honeByOne.trans ?_, hmarks⟩
  · decide +kernel
  · decide +kernel

end Session

end LootSpawn
