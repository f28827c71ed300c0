import LootSpawn.Proofs.Tool.SceneLines
import LootSpawn.Proofs.Tool.Transcript

/-!
# Runs of a scene add up

A scene command activates the scene as often as it says and counts what is placed. Every activation
goes on with the rolls that the one before it has left, so two commands for a scene in a row
activate it as one command does for both numbers together. The counts add up, and what follows finds
the same rolls, as long as the shell can count the activations.
-/

namespace LootSpawn.Tool.Preview

/-! ## Scene commands -/

/-- The counts are those of what the reports have placed: each item is counted as often as it was
placed, items that were not placed are not listed, and all together are what was placed. -/
structure Tallies (counts : Counts) (reports : List (Report String)) : Prop where
  count : ∀ item, counts[item]?.getD 0 = (reports.flatMap Report.placed).count item
  listed : ∀ item, item ∈ counts ↔ ∃ report ∈ reports, item ∈ report.placed
  total : (counts.toList.map Prod.snd).sum = (reports.map fun report => report.placed.length).sum

theorem tallies_tally (reports : List (Report String)) :
    Tallies (tally ∅ (reports.flatMap Report.placed)) reports where
  count := getD_tally _
  listed item := by rw [mem_tally, List.mem_flatMap]
  total := by rw [sum_tally, List.length_flatMap]

namespace Shell

variable (shell : Shell) (scene : String)

/-- The shell after commands. One that stops the shell is passed over. -/
def afterAll (commands : List Command) : Shell :=
  commands.foldl (fun shell command => match (shell.step command).1 with
    | .goesOn next => next
    | _ => shell) shell

/-- What a command has rehearsed; only scenes are rehearsed. -/
def rehearsal : Command → Rehearsal
  | .scene name runs =>
      (rehearse shell.overflow shell.session name runs shell.stream).getD { stream := shell.stream }
  | _ => { stream := shell.stream }

/-- The reports of activating a scene a number of times. -/
def reports (runs : Nat) : List (Report String) :=
  (reportsOf shell.session scene runs shell.stream).1

theorem afterAll_cons_of_step {command : Command} {next : Shell} (rest : List Command)
    (h : (shell.step command).1 = .goesOn next) :
    shell.afterAll (command :: rest) = next.afterAll rest := by
  rw [afterAll, List.foldl_cons, h, ← afterAll]

/-- Commands that do not stop the shell change nothing but its rolls, and it answers what comes
after them from where they lead. -/
theorem replies_append_afterAll {earlier : List Command}
    (h : ∀ command ∈ earlier, shell.stops command = false) (later : List Command) :
    (shell.afterAll earlier).overflow = shell.overflow ∧
      (shell.afterAll earlier).session = shell.session ∧
      shell.replies (earlier ++ later) =
        shell.replies earlier ++ (shell.afterAll earlier).replies later := by
  induction earlier generalizing shell with
  | nil => exact ⟨rfl, rfl, rfl⟩
  | cons command rest ih =>
      obtain ⟨hcommand, hrest⟩ := List.forall_mem_cons.mp h
      obtain ⟨stream, hnext⟩ := shell.exists_step hcommand
      obtain ⟨hoverflow, hsession, hreplies⟩ :=
        ih { shell with stream } (by rwa [shell.stops_stream stream])
      rw [shell.afterAll_cons_of_step rest hnext, List.cons_append,
        replies_cons_of_step _ _ hnext, replies_cons_of_step _ _ hnext, hreplies]
      exact ⟨hoverflow, hsession, rfl⟩

theorem breaks_of_le {runs more : Nat} (hle : runs ≤ more)
    (h : shell.breaks (.scene scene more) = false) : shell.breaks (.scene scene runs) = false := by
  cases hruns : shell.breaks (.scene scene runs) with
  | false => rfl
  | true =>
      simp only [breaks, Bool.and_eq_true, beq_iff_eq, decide_eq_true_eq] at hruns
      obtain ⟨⟨hoverflow, hplays⟩, hmany⟩ := hruns
      rw [breaks, hoverflow, hplays, decide_eq_true (hmany.trans hle)] at h
      cases h

section Counted

variable {shell scene} {runs : Nat} (h : shell.breaks (.scene scene runs) = false)
include h

theorem rehearsal_scene :
    shell.rehearsal (.scene scene runs) =
      ⟨Int32.ofNat (if plays shell.session scene then runs else 0),
        tally ∅ ((shell.reports scene runs).flatMap Report.placed),
        (reportsOf shell.session scene runs shell.stream).2⟩ := by
  rw [rehearsal, shell.rehearse_of_not_breaks h]
  rfl

theorem tallies_counts :
    Tallies (shell.rehearsal (.scene scene runs)).counts (shell.reports scene runs) := by
  rw [rehearsal_scene h]
  exact tallies_tally _

/-- A scene that is played is taken for one that is not if its runs are a multiple of 2³². -/
theorem resolved_eq_zero_iff : (shell.rehearsal (.scene scene runs)).resolved = 0 ↔
    plays shell.session scene = false ∨ 2 ^ 32 ∣ runs := by
  rw [rehearsal_scene h, Overflow.ofNat_eq_zero_iff]
  cases plays shell.session scene with
  | true => simp
  | false => simp

theorem afterAll_scene :
    shell.afterAll [.scene scene runs] =
      { shell with stream := (reportsOf shell.session scene runs shell.stream).2 } :=
  shell.afterAll_cons_of_step [] (shell.step_scene_of_not_breaks h)

theorem snd_step_scene : (shell.step (.scene scene runs)).2 =
    sceneText scene runs (shell.rehearsal (.scene scene runs)) := by
  simp only [step, rehearsal, shell.rehearse_of_not_breaks h, Option.getD_some]

theorem replies_cons_scene (later : List Command) :
    shell.replies (.scene scene runs :: later) =
      ⟨.scene scene runs, sceneText scene runs (shell.rehearsal (.scene scene runs))⟩ ::
        (shell.afterAll [.scene scene runs]).replies later := by
  rw [shell.replies_cons_of_step later (shell.step_scene_of_not_breaks h), snd_step_scene h,
    afterAll_scene h]

end Counted

section Sum

variable {shell scene} {a b : Nat} (h : shell.breaks (.scene scene (a + b)) = false)
include h

/-- The reports of more activations are those of the first ones and those of the others, for which
the shell has gone on. -/
theorem reports_add :
    shell.reports scene (a + b) =
      shell.reports scene a ++ (shell.afterAll [.scene scene a]).reports scene b := by
  rw [afterAll_scene (shell.breaks_of_le scene (Nat.le_add_right a b) h), reports, reportsOf_add]
  rfl

/-- After the first activations the shell can count the other ones. -/
theorem breaks_afterAll_scene :
    (shell.afterAll [.scene scene a]).breaks (.scene scene b) = false := by
  rw [afterAll_scene (shell.breaks_of_le scene (Nat.le_add_right a b) h), breaks_stream]
  exact shell.breaks_of_le scene (Nat.le_add_left b a) h

theorem afterAll_scene_add :
    shell.afterAll [.scene scene (a + b)] =
      (shell.afterAll [.scene scene a]).afterAll [.scene scene b] := by
  have hsecond := breaks_afterAll_scene h
  rw [afterAll_scene h, afterAll_scene hsecond,
    afterAll_scene (shell.breaks_of_le scene (Nat.le_add_right a b) h), reportsOf_add]

theorem counts_add (item : String) :
    (shell.rehearsal (.scene scene (a + b))).counts[item]?.getD 0 =
      (shell.rehearsal (.scene scene a)).counts[item]?.getD 0 +
        ((shell.afterAll [.scene scene a]).rehearsal (.scene scene b)).counts[item]?.getD 0 := by
  rw [(tallies_counts h).count, (tallies_counts (breaks_afterAll_scene h)).count,
    (tallies_counts (shell.breaks_of_le scene (Nat.le_add_right a b) h)).count, reports_add h,
    List.flatMap_append, List.count_append]

end Sum

end Shell

/-! ## Scene lines -/

/-- Two scene lines in a row count what one line for both numbers together counts at the same point,
item by item, as long as the number is read and the shell can count the runs. Every count is that of
the handles which the runs have placed, and the runs of the one line are those of the two. Whatever
is entered after them is answered alike. Runs that are a multiple of 2³² are counted and not
shown. -/
theorem runs_of_scene_add_up (shell : Shell) {earlier : List String} {scene : String} {a b : Nat}
    (hearlier : ∀ command ∈ earlier.map Command.ofLine, shell.stops command = false)
    (hscene : IsShellWord scene) (ha : 1 ≤ a) (hb : 1 ≤ b) (hword : a + b < UInt64.size)
    (hcounter : shell.breaks (.scene scene (a + b)) = false) :
    let line := fun runs : Nat => Command.ofLine (sceneLine scene runs)
    let here := shell.afterAll (earlier.map Command.ofLine)
    let there := here.afterAll [line a]
    (∀ item : String, (here.rehearsal (line (a + b))).counts[item]?.getD 0 =
        (here.rehearsal (line a)).counts[item]?.getD 0 +
          (there.rehearsal (line b)).counts[item]?.getD 0) ∧
      Tallies (here.rehearsal (line a)).counts (here.reports scene a) ∧
      Tallies (there.rehearsal (line b)).counts (there.reports scene b) ∧
      Tallies (here.rehearsal (line (a + b))).counts (here.reports scene (a + b)) ∧
      here.reports scene (a + b) = here.reports scene a ++ there.reports scene b ∧
      (here.reports scene (a + b)).length = (if plays shell.session scene then a + b else 0) ∧
      ((here.rehearsal (line (a + b))).resolved = 0 ↔
        plays shell.session scene = false ∨ 2 ^ 32 ∣ a + b) ∧
      ∀ later : List String, ∃ rest,
        shell.replies ((earlier ++ sceneLine scene a :: sceneLine scene b :: later).map
            Command.ofLine) =
          shell.replies (earlier.map Command.ofLine) ++
            ⟨line a, sceneText scene a (here.rehearsal (line a))⟩ ::
              ⟨line b, sceneText scene b (there.rehearsal (line b))⟩ :: rest ∧
        shell.replies ((earlier ++ sceneLine scene (a + b) :: later).map Command.ofLine) =
          shell.replies (earlier.map Command.ofLine) ++
            ⟨line (a + b), sceneText scene (a + b) (here.rehearsal (line (a + b)))⟩ :: rest := by
  intro line here there
  have hline : ∀ runs, 1 ≤ runs → runs ≤ a + b → line runs = .scene scene runs := by
    intro runs hpos hle
    have hread := ofLine_sceneLine hscene runs
    rwa [if_pos (hle.trans_lt hword), Nat.max_eq_left hpos] at hread
  have hfirst := hline a ha (Nat.le_add_right a b)
  have hsecond := hline b hb (Nat.le_add_left b a)
  have hboth := hline (a + b) (ha.trans (Nat.le_add_right a b)) le_rfl
  have hthere : there = here.afterAll [.scene scene a] := by rw [← hfirst]
  obtain ⟨hoverflow, hsession, -⟩ := shell.replies_append_afterAll hearlier []
  -- The shell can count the runs of all three lines.
  have hhere : here.breaks (.scene scene (a + b)) = false :=
    (congrFun (Shell.breaks_congr hoverflow hsession) _).trans hcounter
  have hhereFirst := here.breaks_of_le scene (Nat.le_add_right a b) hhere
  have hhereSecond := Shell.breaks_afterAll_scene hhere
  rw [hfirst, hsecond, hboth, hthere, ← hsession]
  refine ⟨Shell.counts_add hhere, Shell.tallies_counts hhereFirst,
    Shell.tallies_counts hhereSecond, Shell.tallies_counts hhere, Shell.reports_add hhere,
    length_reportsOf here.session scene (a + b) here.stream, Shell.resolved_eq_zero_iff hhere,
    fun later => ⟨((here.afterAll [.scene scene a]).afterAll [.scene scene b]).replies
      (later.map Command.ofLine), ?_, ?_⟩⟩
  · have ha' : Command.ofLine (sceneLine scene a) = .scene scene a := hfirst
    have hb' : Command.ofLine (sceneLine scene b) = .scene scene b := hsecond
    rw [List.map_append, (shell.replies_append_afterAll hearlier _).2.2, List.map_cons,
      List.map_cons, ha', hb', Shell.replies_cons_scene hhereFirst,
      Shell.replies_cons_scene hhereSecond]
  · have hab : Command.ofLine (sceneLine scene (a + b)) = .scene scene (a + b) := hboth
    rw [List.map_append, (shell.replies_append_afterAll hearlier _).2.2, List.map_cons, hab,
      Shell.replies_cons_scene hhere, Shell.afterAll_scene_add hhere]

/-- A shell for a scene in which an item is declared twice. -/
def coveShell : Shell :=
  .seeded .breaks ((Session.start {}).loadText
    ⟨"a.txt", "scene = Cove\nitem = rope c = 60\nitem = lamp c = 30\nitem = rope c = 40"⟩).1 42

theorem runs_of_scene_add_up_cove :
    let line := fun runs : Nat => Command.ofLine (sceneLine "Cove" runs)
    let here := coveShell.afterAll (["tables", "seed 7"].map Command.ofLine)
    let there := here.afterAll [line 2]
    (here.rehearsal (line 2)).counts.toList = [("GEAR_lamp", 2), ("GEAR_rope", 4)] ∧
      (there.rehearsal (line 3)).counts.toList = [("GEAR_lamp", 1), ("GEAR_rope", 2)] ∧
      (here.rehearsal (line 5)).counts.toList = [("GEAR_lamp", 3), ("GEAR_rope", 6)] ∧
      (here.rehearsal (line 5)).resolved = 5 ∧
      Tallies (here.rehearsal (line 5)).counts
        (here.reports "Cove" 2 ++ there.reports "Cove" 3) := by
  intro line here there
  have hearlier : ∀ command ∈ ["tables", "seed 7"].map Command.ofLine,
      coveShell.stops command = false := by
    decide +kernel
  have hscene : IsShellWord "Cove" := by decide
  have hcounter : coveShell.breaks (.scene "Cove" (2 + 3)) = false :=
    coveShell.breaks_of_runs_lt (by decide)
  obtain ⟨-, -, -, htallies, hreports, -⟩ := runs_of_scene_add_up coveShell hearlier hscene
    (show 1 ≤ 2 by decide) (show 1 ≤ 3 by decide) (by decide) hcounter
  rw [hreports] at htallies
  exact ⟨by decide +kernel, by decide +kernel, by decide +kernel, by decide +kernel, htallies⟩

/-- Runs that the shell cannot count break it off, and what is entered after them goes unread. -/
theorem run_sceneLine_of_breaks (shell : Shell) {scene : String} {runs : Nat}
    (hscene : IsShellWord scene) (hword : runs < UInt64.size)
    (h : shell.breaks (.scene scene runs) = true) (later : List String) :
    shell.run (sceneLine scene runs :: later) = Result.broken.after prompt := by
  have hpos : 1 ≤ runs := by
    simp only [Shell.breaks, Bool.and_eq_true, decide_eq_true_eq] at h
    exact le_trans (by decide) h.2
  have hline := ofLine_sceneLine hscene runs
  rw [if_pos hword, Nat.max_eq_left hpos] at hline
  rw [Shell.run, hline, shell.step_scene_of_breaks h]
  rfl

/-- A scene with a single item that is certain. -/
def campSession : Session :=
  ((Session.start {}).loadText ⟨"a.txt", "scene = camp\nitem = rope"⟩).1

/-- Every activation of the scene places its item and leaves the rolls as they are. -/
theorem reportsOf_camp (runs : Nat) (stream : Keystream) :
    reportsOf campSession "camp" runs stream =
      (List.replicate runs { scene := "camp", placed := ["GEAR_rope"] }, stream) := by
  have hdirectives : campSession.spawns.directives (sceneKey "camp") = [{ prefab := "rope" }] := by
    decide +kernel
  have hignores : (campSession.defaultResolver host random).ignores "camp" = false := by
    decide +kernel
  have hactivate : (campSession.defaultResolver host random).activate campSession.spawns
      (fun _ _ => ()) "camp" ⟨(), (), stream⟩ () =
        (some { scene := "camp", placed := ["GEAR_rope"] }, ⟨(), (), stream⟩, ()) := by
    rw [Resolver.activate, hignores, Resolver.resolve, hdirectives]
    rfl
  induction runs with
  | zero => rfl
  | succ runs ih => simp only [reportsOf, ih, hactivate, Option.toList_some, List.replicate_succ']

theorem count_camp {shell : Shell} (hsession : shell.session = campSession) {runs : Nat}
    (h : shell.breaks (.scene "camp" runs) = false) :
    (shell.rehearsal (.scene "camp" runs)).counts["GEAR_rope"]?.getD 0 = runs := by
  rw [(Shell.tallies_counts h).count, Shell.reports, hsession, reportsOf_camp]
  simp [List.flatMap_replicate]

def campTree : FileTree where
  root := .directory [("a.txt", .file (.text "scene = camp\nitem = rope"))]

/-- Where a counter that leaves its range breaks the shell off, 2147483647 runs and another one are
counted, and 2147483648 runs at once are not: the shell prints nothing and reads no more. Where the
counter goes on at the other end, 4294967296 runs are said to be none. And a number that does not
have 64 bits stands for a single run. -/
theorem runs_do_not_add_up_camp :
    let line := fun runs : Nat => Command.ofLine (sceneLine "camp" runs)
    let here := Shell.seeded .breaks campSession 42
    let there := here.afterAll [line 2147483647]
    ((here.rehearsal (line 2147483647)).counts["GEAR_rope"]?.getD 0 = 2147483647 ∧
      (there.rehearsal (line 1)).counts["GEAR_rope"]?.getD 0 = 1 ∧
      (here.replies [line 2147483647, line 1, .quit]).length = 3) ∧
    (here.step (line 2147483648) = (.breaksOff, "") ∧
      here.run [sceneLine "camp" 2147483648, sceneLine "camp" 1] =
        { code := 101, out := "spawns> ", err := "attempt to add with overflow\n" }) ∧
    ((Shell.seeded .wraps campSession 42).step (line 4294967296)).2 =
      "'camp' is not a gameplay scene; nothing spawns there.\n" ∧
    (run .wraps ["--spawns", "a.txt"] campTree ("scene camp 18446744073709551616\nscene camp 1\n" ++
        "seed 42\nscene camp 18446744073709551617")).out =
      "Loaded 1 spawn entries in 1 scenes\nSeed: 42\nType 'help' for commands.\n\n" ++
        "spawns> \n--- camp over 1 run(s) ---\n" ++
        "  GEAR_rope                            1  (100.0%)\n--- End ---\n\n" ++
        "spawns> \n--- camp over 1 run(s) ---\n" ++
        "  GEAR_rope                            1  (100.0%)\n--- End ---\n\n" ++
        "spawns> Seed set to 42\nspawns> \n--- camp over 1 run(s) ---\n" ++
        "  GEAR_rope                            1  (100.0%)\n--- End ---\n\nspawns> " := by
  intro line here there
  have hscene : IsShellWord "camp" := by decide
  have hline : ∀ runs, 1 ≤ runs → runs < UInt64.size → line runs = .scene "camp" runs := by
    intro runs hpos hlt
    have hread := ofLine_sceneLine hscene runs
    rwa [if_pos hlt, Nat.max_eq_left hpos] at hread
  have hmost := hline 2147483647 (by decide) (by decide)
  have hone := hline 1 (by decide) (by decide)
  have htooMany := hline 2147483648 (by decide) (by decide)
  have hwrapped := hline 4294967296 (by decide) (by decide)
  have hplays : plays campSession "camp" = true := by decide +kernel
  have hcounts : here.breaks (.scene "camp" 2147483647) = false :=
    here.breaks_of_runs_lt (by decide)
  have hbreaks : here.breaks (.scene "camp" 2147483648) = true := by
    rw [Shell.breaks, show here.session = campSession from rfl, hplays]
    decide
  have hthere : there = here.afterAll [.scene "camp" 2147483647] := by rw [← hmost]
  have hthereSession : there.session = campSession := by
    rw [hthere, Shell.afterAll_scene hcounts]
    rfl
  have hthereCounts : there.breaks (.scene "camp" 1) = false :=
    there.breaks_of_runs_lt (by decide)
  refine ⟨⟨?_, ?_, ?_⟩, ⟨?_, ?_⟩, ?_, by decide +kernel⟩
  · rw [hmost]
    exact count_camp rfl hcounts
  · rw [hone]
    exact count_camp hthereSession hthereCounts
  · rw [hmost, hone, Shell.replies_cons_scene hcounts, ← hthere,
      Shell.replies_cons_scene hthereCounts]
    rfl
  · rw [htooMany]
    exact here.step_scene_of_breaks hbreaks
  · exact run_sceneLine_of_breaks here hscene (by decide) hbreaks _
  · let shell := Shell.seeded .wraps campSession 42
    have hwraps : shell.breaks (.scene "camp" 4294967296) = false := by
      rw [Shell.breaks]
      rfl
    have hresolved := (Shell.resolved_eq_zero_iff hwraps).mpr (Or.inr (by norm_num))
    rw [hwrapped, Shell.snd_step_scene hwraps]
    exact if_pos hresolved

end LootSpawn.Tool.Preview
