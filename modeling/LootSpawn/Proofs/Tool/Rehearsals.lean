import LootSpawn.Proofs.Store.Grouping
import LootSpawn.Tool.Preview

/-!
# Rehearsals of the preview shell

Rehearsing a scene activates it a number of times and yields the tally of what the activations have
placed. How many of them were resolved is counted in 32 bits: up to 2³¹ - 1 the counter is their
number. The next one breaks the shell off or is counted from the other end, and every 2³²th one sets
the counter back to zero.
-/

namespace LootSpawn.Tool

/-! ## The counter -/

namespace Overflow

/-- The counter after a number of steps from zero; there is none if the tool was broken off. -/
def count? (overflow : Overflow) (steps : Nat) : Option Int32 :=
  if overflow = .breaks ∧ 2 ^ 31 ≤ steps then none else some (Int32.ofNat steps)

theorem count?_of_lt (overflow : Overflow) {steps : Nat} (h : steps < 2 ^ 31) :
    overflow.count? steps = some (Int32.ofNat steps) :=
  if_neg fun hbreaks => Nat.not_lt.mpr hbreaks.2 h

theorem count?_wraps (steps : Nat) : wraps.count? steps = some (Int32.ofNat steps) :=
  if_neg fun hbreaks => nomatch hbreaks.1

theorem count?_breaks {steps : Nat} (h : 2 ^ 31 ≤ steps) : breaks.count? steps = none :=
  if_pos ⟨rfl, h⟩

theorem ofNat_eq_maxValue_iff {steps : Nat} (h : steps < 2 ^ 31) :
    Int32.ofNat steps = Int32.maxValue ↔ 2 ^ 31 ≤ steps + 1 := by
  rw [← Int32.toInt_inj, Int32.toInt_ofNat_of_lt h, Int32.toInt_maxValue]
  omega

/-- The counter is zero after every 2³² steps. -/
theorem ofNat_eq_zero_iff (steps : Nat) : Int32.ofNat steps = 0 ↔ 2 ^ 32 ∣ steps := by
  rw [← Int32.toInt_inj, Int32.toInt_ofNat', Int32.toInt_zero, ← Int.dvd_iff_bmod_eq_zero]
  exact Int.natCast_dvd_natCast

theorem count?_succ (overflow : Overflow) (steps : Nat) :
    overflow.count? (steps + 1) = (overflow.count? steps).bind overflow.next? := by
  have hnext : Int32.ofNat steps + 1 = Int32.ofNat (steps + 1) := by
    rw [Int32.ofNat_add]
    rfl
  cases overflow with
  | wraps => rw [count?_wraps, count?_wraps, Option.bind_some, next?, hnext]
  | breaks =>
      rcases Nat.lt_or_ge steps (2 ^ 31) with hlt | hge
      · have hmax := ofNat_eq_maxValue_iff hlt
        rw [count?_of_lt breaks hlt, Option.bind_some, next?, hnext, count?]
        simp only [true_and, hmax]
      · rw [count?_breaks hge, count?_breaks (Nat.le_succ_of_le hge), Option.bind_none]

end Overflow

namespace Preview

/-! ## Tallies -/

/-- Counts names on top of what is counted already. -/
def tally (counts : Counts) (names : List String) : Counts :=
  names.foldl (fun counts name => counts.alter name fun n => some (n.getD 0 + 1)) counts

theorem getElem?_tally (counts : Counts) (names : List String) (item : String) :
    (tally counts names)[item]? =
      if names.count item = 0 then counts[item]?
      else some (counts[item]?.getD 0 + names.count item) := by
  induction names generalizing counts with
  | nil => rfl
  | cons name names ih =>
      have hstep := ih (counts.alter name fun n => some (n.getD 0 + 1))
      rw [tally, List.foldl_cons, ← tally, hstep, Std.ExtTreeMap.getElem?_alter]
      simp only [Std.LawfulEqCmp.compare_eq_iff_eq, List.count_cons, beq_iff_eq]
      by_cases hname : name = item
      · subst hname
        simp only [if_true, Option.getD_some, Nat.add_eq_zero_iff, Nat.one_ne_zero, and_false,
          if_false]
        split
        next hzero => rw [hzero]
        next => rw [Nat.add_assoc, Nat.add_comm 1]
      · simp only [if_neg hname, Nat.add_zero]

theorem getD_tally (names : List String) (item : String) :
    (tally ∅ names)[item]?.getD 0 = names.count item := by
  rw [getElem?_tally]
  split
  next hzero => rw [hzero]; rfl
  next => simp

theorem mem_tally (names : List String) (item : String) : item ∈ tally ∅ names ↔ item ∈ names := by
  rw [Std.ExtTreeMap.mem_iff_isSome_getElem?, getElem?_tally, ← List.count_pos_iff]
  split
  next hzero => simp [hzero]
  next hne => simp [Nat.pos_of_ne_zero hne]

/-- Everything that is counted is counted once. -/
theorem sum_tally (names : List String) :
    ((tally ∅ names).toList.map Prod.snd).sum = names.length := by
  have hperm : (tally ∅ names).keys.Perm names.dedup := by
    rw [List.perm_ext_iff_of_nodup Std.ExtTreeMap.nodup_keys (List.nodup_dedup _)]
    intro item
    rw [Std.ExtTreeMap.mem_keys, mem_tally, List.mem_dedup]
  have hcounts : (tally ∅ names).toList.map Prod.snd =
      (tally ∅ names).keys.map fun item => names.count item := by
    rw [← Std.ExtTreeMap.map_fst_toList_eq_keys, List.map_map]
    apply List.map_congr_left
    rintro ⟨item, count⟩ hmem
    rw [Std.ExtTreeMap.mem_toList_iff_getElem?_eq_some] at hmem
    rw [Function.comp_apply, ← getD_tally, hmem]
    rfl
  rw [hcounts, (hperm.map _).sum_eq]
  exact List.sum_map_count_dedup_eq_length names

/-! ## Activations -/

section Activations

variable (overflow : Overflow) (session : Session) (scene : String)

/-- The scene is one that is played. -/
def plays : Bool := !(session.defaultResolver host random).ignores scene

/-- The reports of activating a scene a number of times, in order, and the rolls that are left. -/
def reportsOf : Nat → Keystream → List (Report String) × Keystream
  | 0, stream => ([], stream)
  | runs + 1, stream =>
      let (reports, stream) := reportsOf runs stream
      let (report, stage, _) := (session.defaultResolver host random).activate session.spawns
        (fun _ _ => ()) scene ⟨(), (), stream⟩ ()
      (reports ++ report.toList, stage.random)

/-- More activations go on where the ones before have ended. -/
theorem reportsOf_add (a b : Nat) (stream : Keystream) :
    reportsOf session scene (a + b) stream =
      ((reportsOf session scene a stream).1 ++
          (reportsOf session scene b (reportsOf session scene a stream).2).1,
        (reportsOf session scene b (reportsOf session scene a stream).2).2) := by
  induction b with
  | zero => simp [reportsOf]
  | succ b ih =>
      rw [← Nat.add_assoc]
      simp only [reportsOf, ih, List.append_assoc]

/-- Every activation has a report, unless the scene is not played. -/
theorem length_reportsOf (runs : Nat) (stream : Keystream) :
    (reportsOf session scene runs stream).1.length =
      if plays session scene then runs else 0 := by
  induction runs with
  | zero => simp [reportsOf]
  | succ runs ih =>
      rw [plays] at ih ⊢
      by_cases hignores : (session.defaultResolver host random).ignores scene
      · simpa [reportsOf, Resolver.activate, hignores] using ih
      · simpa [reportsOf, Resolver.activate, hignores] using ih

theorem rehearse_succ (runs : Nat) (stream : Keystream) :
    rehearse overflow session scene (runs + 1) stream =
      (rehearse overflow session scene runs stream).bind
        (Rehearsal.activate overflow (session.defaultResolver host random) session.spawns scene) :=
  rfl

/-- Rehearsing a scene counts its reports, unless they are too many to be counted, and yields the
tally of what they have placed and the rolls that the activations left. -/
theorem rehearse_eq (runs : Nat) (stream : Keystream) :
    rehearse overflow session scene runs stream =
      let (reports, after) := reportsOf session scene runs stream
      (overflow.count? reports.length).map fun resolved =>
        ⟨resolved, tally ∅ (reports.flatMap Report.placed), after⟩ := by
  induction runs with
  | zero =>
      simp only [reportsOf, List.length_nil, overflow.count?_of_lt (show 0 < 2 ^ 31 by decide)]
      rfl
  | succ runs ih =>
      rw [rehearse_succ, ih]
      by_cases hignores : (session.defaultResolver host random).ignores scene
      · simp only [reportsOf, Rehearsal.activate, Resolver.activate, hignores, if_true,
          Option.toList_none, List.append_nil, Option.bind_map, Option.isSome_none,
          Bool.false_eq_true, if_false, Function.comp_def, Option.map_some]
        rw [Option.map_eq_bind]
        rfl
      · simp [reportsOf, Rehearsal.activate, Resolver.activate, hignores, Function.comp_def,
          Overflow.count?_succ, Option.map_bind, Option.bind_map, countPlaced, tally,
          List.foldl_append]

end Activations

end Preview

end LootSpawn.Tool
