import Mathlib.Data.List.DropRight
import LootSpawn.Proofs.Tool.Rehearsals

/-!
# What the preview shell prints

The shell keeps a session, which no command changes, and a stream of rolls, which only scene and
seed commands change. After any commands the stream is therefore the one of the seed in force, moved
on by the scenes since that seed was set, and the counts that a scene command prints hang on nothing
else. The shell stops where it is told to, or at a scene that is resolved more often than it can
count.
-/

namespace LootSpawn.Tool.Preview

open Text

/-! ## Commands -/

namespace Command

/-- The seed that a command sets. -/
def seed? : Command → Option UInt64
  | .seed value => value
  | _ => none

/-- The scene that a command resolves, and how often. -/
def scene? : Command → Option (String × Nat)
  | .scene name runs => some (name, runs)
  | _ => none

/-- How often a command resolves a scene. -/
def runs : Command → Nat
  | .scene _ runs => runs
  | _ => 0

/-- The command ends the shell, sets a seed or resolves a scene. -/
def acts (command : Command) : Bool :=
  command == .quit || command.seed?.isSome || command.scene?.isSome

theorem acts_eq_false_iff {command : Command} :
    command.acts = false ↔ command ≠ .quit ∧ command.seed? = none ∧ command.scene? = none := by
  simp [acts, and_assoc]

theorem ofWords_seed {word : String} (h : lowerString word = "seed") (value : String)
    (more : List String) : ofWords (word :: value :: more) = .seed (word64? value) := by
  simp [ofWords, h]

end Command

/-- The last seed that was set, or else the one at the start. -/
def seedInForce (seed : UInt64) (commands : List Command) : UInt64 :=
  (commands.filterMap Command.seed?).getLast?.getD seed

/-- The scenes since a seed was last set. -/
def scenesSince (commands : List Command) : List (String × Nat) :=
  (commands.rtakeWhile fun command => command.seed?.isNone).filterMap Command.scene?

@[simp]
theorem seedInForce_nil (seed : UInt64) : seedInForce seed [] = seed := rfl

@[simp]
theorem scenesSince_nil : scenesSince [] = [] := by simp [scenesSince]

theorem seedInForce_concat (seed : UInt64) (commands : List Command) (command : Command) :
    seedInForce seed (commands ++ [command]) =
      command.seed?.getD (seedInForce seed commands) := by
  cases h : command.seed? <;> simp [seedInForce, h]

theorem scenesSince_concat (commands : List Command) (command : Command) :
    scenesSince (commands ++ [command]) =
      if command.seed?.isSome then [] else scenesSince commands ++ command.scene?.toList := by
  cases hseed : command.seed? with
  | none => cases hscene : command.scene? <;> simp [scenesSince, hseed, hscene]
  | some value => simp [scenesSince, hseed]

/-! ## The state of the shell -/

/-- The stream of a seed after scenes were resolved. -/
def streamAfter (session : Session) (seed : UInt64) (scenes : List (String × Nat)) : Keystream :=
  scenes.foldl (fun stream scene => (reportsOf session scene.1 scene.2 stream).2)
    (Keystream.ofSeed seed)

/-- What is printed for a scene when others were resolved since the seed was set. -/
def sceneAnswer (overflow : Overflow) (session : Session) (seed : UInt64)
    (scenes : List (String × Nat)) (name : String) (runs : Nat) : String :=
  (rehearse overflow session name runs (streamAfter session seed scenes)).elim ""
    (sceneText name runs)

namespace Shell

/-- The command has a scene resolved more often than the shell can count. -/
def breaks (shell : Shell) : Command → Bool
  | .scene name runs =>
      shell.overflow == .breaks && plays shell.session name && decide (2 ^ 31 ≤ runs)
  | _ => false

/-- The shell carries out no other command after this one. -/
def stops (shell : Shell) (command : Command) : Bool :=
  command == .quit || shell.breaks command

/-- A shell that starts with a seed. -/
def seeded (overflow : Overflow) (session : Session) (seed : UInt64) : Shell :=
  ⟨overflow, session, Keystream.ofSeed seed⟩

/-- The shell that started with a seed, after commands that did not stop it. -/
def after (overflow : Overflow) (session : Session) (seed : UInt64) (commands : List Command) :
    Shell :=
  ⟨overflow, session, streamAfter session (seedInForce seed commands) (scenesSince commands)⟩

variable (overflow : Overflow) (session : Session) (seed : UInt64) (shell : Shell)

theorem stops_eq_false_iff {command : Command} :
    shell.stops command = false ↔ command ≠ .quit ∧ shell.breaks command = false := by
  simp [stops]

theorem breaks_of_runs_lt {command : Command} (h : command.runs < 2 ^ 31) :
    shell.breaks command = false := by
  cases command with
  | scene name runs =>
      have hruns : ¬ 2 ^ 31 ≤ runs := Nat.not_le.mpr h
      rw [breaks, decide_eq_false hruns, Bool.and_false]
  | _ => rfl

/-- Where the shell stops does not depend on the rolls. -/
theorem breaks_congr {first second : Shell} (hoverflow : first.overflow = second.overflow)
    (hsession : first.session = second.session) : first.breaks = second.breaks := by
  funext command
  cases command with
  | scene => simp only [breaks, hoverflow, hsession]
  | _ => rfl

theorem stops_congr {first second : Shell} (hoverflow : first.overflow = second.overflow)
    (hsession : first.session = second.session) : first.stops = second.stops := by
  funext command
  rw [stops, stops, breaks_congr hoverflow hsession]

theorem breaks_stream (stream : Keystream) :
    ({ shell with stream } : Shell).breaks = shell.breaks :=
  breaks_congr rfl rfl

theorem stops_stream (stream : Keystream) :
    ({ shell with stream } : Shell).stops = shell.stops :=
  stops_congr rfl rfl

/-! ## Steps -/

/-- The counter of a scene command, unless it breaks the shell off. -/
theorem count?_of_not_breaks {name : String} {runs : Nat}
    (h : shell.breaks (.scene name runs) = false) :
    shell.overflow.count? (if plays shell.session name then runs else 0) =
      some (Int32.ofNat (if plays shell.session name then runs else 0)) := by
  refine if_neg fun hbreaks => ?_
  cases hplays : plays shell.session name with
  | false => simp [hplays] at hbreaks
  | true =>
      rw [hplays, if_pos rfl] at hbreaks
      rw [breaks, hplays, hbreaks.1, decide_eq_true hbreaks.2] at h
      cases h

/-- What a rehearsal that does not break the shell off yields. -/
theorem rehearse_of_not_breaks {name : String} {runs : Nat}
    (h : shell.breaks (.scene name runs) = false) :
    rehearse shell.overflow shell.session name runs shell.stream =
      let (reports, after) := reportsOf shell.session name runs shell.stream
      some ⟨Int32.ofNat (if plays shell.session name then runs else 0),
        tally ∅ (reports.flatMap Report.placed), after⟩ := by
  rw [rehearse_eq]
  dsimp only
  rw [length_reportsOf, shell.count?_of_not_breaks h]
  rfl

theorem step_scene_of_breaks {name : String} {runs : Nat}
    (h : shell.breaks (.scene name runs) = true) :
    shell.step (.scene name runs) = (.breaksOff, "") := by
  simp only [breaks, Bool.and_eq_true, beq_iff_eq, decide_eq_true_eq] at h
  obtain ⟨⟨hoverflow, hplays⟩, hruns⟩ := h
  have hnone : rehearse shell.overflow shell.session name runs shell.stream = none := by
    rw [rehearse_eq]
    dsimp only
    rw [length_reportsOf, if_pos hplays, hoverflow, Overflow.count?_breaks hruns]
    rfl
  simp only [step, hnone]

/-- A scene command that does not break the shell off leaves it with the rolls after its runs. -/
theorem step_scene_of_not_breaks {name : String} {runs : Nat}
    (h : shell.breaks (.scene name runs) = false) :
    (shell.step (.scene name runs)).1 =
      .goesOn { shell with stream := (reportsOf shell.session name runs shell.stream).2 } := by
  simp only [step, shell.rehearse_of_not_breaks h]

/-- A command that does not act leaves the shell. -/
theorem step_of_not_acts {command : Command} (h : command.acts = false) :
    (shell.step command).1 = .goesOn shell := by
  cases command with
  | quit => cases h
  | scene name runs => cases h
  | seed value =>
      cases value with
      | none => rfl
      | some value => cases h
  | _ => rfl

/-- The shell goes on exactly after the commands that do not stop it, and with the same content. -/
theorem exists_step {command : Command} (h : shell.stops command = false) :
    ∃ stream, (shell.step command).1 = .goesOn { shell with stream } := by
  obtain ⟨hquit, hbreaks⟩ := shell.stops_eq_false_iff.mp h
  cases command with
  | quit => exact absurd rfl hquit
  | scene name runs => exact ⟨_, shell.step_scene_of_not_breaks hbreaks⟩
  | seed value => cases value <;> exact ⟨_, rfl⟩
  | _ => exact ⟨_, rfl⟩

theorem step_of_stops {command : Command} (h : shell.stops command = true) :
    ∃ text, shell.step command = (if shell.breaks command then .breaksOff else .ends, text) := by
  cases command with
  | quit => exact ⟨_, rfl⟩
  | scene name runs =>
      have hbreaks : shell.breaks (.scene name runs) = true := by simpa [stops] using h
      rw [if_pos hbreaks]
      exact ⟨_, shell.step_scene_of_breaks hbreaks⟩
  | _ => cases h

@[simp]
theorem after_nil : after overflow session seed [] = seeded overflow session seed := by
  simp [after, seeded, streamAfter]

/-- A command that sets a seed starts the shell anew. -/
theorem after_concat_seed (commands : List Command) (value : UInt64) :
    after overflow session seed (commands ++ [.seed (some value)]) =
      seeded overflow session value := by
  simp [after, seeded, streamAfter, seedInForce_concat, scenesSince_concat, Command.seed?]

theorem after_concat_scene (commands : List Command) (name : String) (runs : Nat) :
    after overflow session seed (commands ++ [.scene name runs]) =
      { after overflow session seed commands with
        stream :=
          (reportsOf session name runs (after overflow session seed commands).stream).2 } := by
  simp [after, streamAfter, seedInForce_concat, scenesSince_concat, Command.seed?, Command.scene?]

theorem after_concat_of_not_acts {command : Command} (h : command.acts = false)
    (commands : List Command) :
    after overflow session seed (commands ++ [command]) =
      after overflow session seed commands := by
  obtain ⟨-, hseed, hscene⟩ := Command.acts_eq_false_iff.mp h
  simp [after, seedInForce_concat, scenesSince_concat, hseed, hscene]

/-- A command moves the shell on to where all commands so far lead, unless it stops the shell. -/
theorem step_after (commands : List Command) {command : Command}
    (h : (after overflow session seed commands).stops command = false) :
    ((after overflow session seed commands).step command).1 =
      .goesOn (after overflow session seed (commands ++ [command])) := by
  obtain ⟨hquit, hbreaks⟩ := (stops_eq_false_iff _).mp h
  by_cases hacts : command.acts
  · cases command with
    | quit => exact absurd rfl hquit
    | scene name runs =>
        rw [step_scene_of_not_breaks _ hbreaks, after_concat_scene]
        rfl
    | seed value =>
        cases value with
        | none => cases hacts
        | some value =>
            rw [after_concat_seed]
            rfl
    | _ => cases hacts
  · rw [Bool.not_eq_true] at hacts
    rw [step_of_not_acts _ hacts, after_concat_of_not_acts _ _ _ hacts]

end Shell

/-! ## Answers -/

/-- A command, and what is printed for it. -/
structure Reply where
  command : Command
  text : String
  deriving DecidableEq, Repr

/-- What is printed for commands up to the one that stops the shell. -/
def Shell.replies (shell : Shell) : List Command → List Reply
  | [] => []
  | command :: rest =>
      ⟨command, (shell.step command).2⟩ :: match (shell.step command).1 with
        | .goesOn next => next.replies rest
        | _ => []

/-- What is printed after the greeting: each answer follows a prompt, and a prompt stands at the end
unless the shell was stopped. -/
def Shell.transcript (shell : Shell) (commands : List Command) : String :=
  String.join ((shell.replies commands).map fun reply => prompt ++ reply.text) ++
    if commands.any shell.stops then "" else prompt

/-- How the shell ends: with what it has printed, and broken off if that is what has stopped it. -/
def Shell.outcome (shell : Shell) (commands : List Command) : Result :=
  if (commands.find? shell.stops).any shell.breaks then
    Result.broken.after (shell.transcript commands)
  else { out := shell.transcript commands }

namespace Shell

variable (overflow : Overflow) (session : Session) (seed : UInt64) (shell : Shell)

theorem replies_cons_of_stops {command : Command} (h : shell.stops command = true)
    (rest : List Command) :
    shell.replies (command :: rest) = [⟨command, (shell.step command).2⟩] := by
  obtain ⟨text, hstep⟩ := shell.step_of_stops h
  rw [replies, hstep]
  cases shell.breaks command with
  | true => rfl
  | false => rfl

theorem replies_cons_of_step {command : Command} {next : Shell} (rest : List Command)
    (h : (shell.step command).1 = .goesOn next) :
    shell.replies (command :: rest) = ⟨command, (shell.step command).2⟩ :: next.replies rest := by
  rw [replies, h]

theorem transcript_cons_of_stops {command : Command} (h : shell.stops command = true)
    (rest : List Command) :
    shell.transcript (command :: rest) = prompt ++ (shell.step command).2 := by
  simp [transcript, shell.replies_cons_of_stops h, h, String.join]

section GoesOn

variable {shell} {command : Command} {stream : Keystream} (hstops : shell.stops command = false)
  (hnext : (shell.step command).1 = .goesOn { shell with stream }) (rest : List Command)
include hstops hnext

theorem transcript_cons_of_goesOn :
    shell.transcript (command :: rest) =
      prompt ++ (shell.step command).2 ++ ({ shell with stream } : Shell).transcript rest := by
  simp [transcript, shell.replies_cons_of_step _ hnext, hstops, shell.stops_stream stream,
    String.append_assoc]

/-- A command that does not stop the shell leaves its end to the others. -/
theorem outcome_cons_of_goesOn :
    shell.outcome (command :: rest) =
      (({ shell with stream } : Shell).outcome rest).after (prompt ++ (shell.step command).2) := by
  rw [outcome, outcome, transcript_cons_of_goesOn hstops hnext, shell.stops_stream stream,
    shell.breaks_stream stream, List.find?_cons_of_neg (by rw [hstops]; exact Bool.false_ne_true)]
  split
  next => simp [Result.after, String.append_assoc]
  next => simp [Result.after]

end GoesOn

theorem run_eq_outcome (lines : List String) :
    shell.run lines = shell.outcome (lines.map Command.ofLine) := by
  induction lines generalizing shell with
  | nil => simp [run, outcome, transcript, replies]
  | cons line rest ih =>
      rw [List.map_cons, run]
      cases hstops : shell.stops (Command.ofLine line) with
      | true =>
          obtain ⟨text, hstep⟩ := shell.step_of_stops hstops
          rw [outcome, shell.transcript_cons_of_stops hstops, hstep,
            List.find?_cons_of_pos hstops, Option.any_some]
          cases shell.breaks (Command.ofLine line) with
          | true => rfl
          | false => rfl
      | false =>
          obtain ⟨stream, hnext⟩ := shell.exists_step hstops
          have hstep : shell.step (Command.ofLine line) =
              (.goesOn { shell with stream }, (shell.step (Command.ofLine line)).2) :=
            Prod.ext hnext rfl
          rw [outcome_cons_of_goesOn hstops hnext, hstep, ← ih]

/-- A shell that can count all runs ends with zero. -/
theorem code_outcome {commands : List Command}
    (h : ∀ command ∈ commands, command.runs < 2 ^ 31) : (shell.outcome commands).code = 0 := by
  have hnone : (commands.find? shell.stops).any shell.breaks = false := by
    rw [Option.any_eq_false]
    intro command hfind
    exact shell.breaks_of_runs_lt (h command (List.mem_of_find?_eq_some hfind))
  rw [outcome, hnone]
  rfl

/-- Commands that do not act can be left out together with their answers. -/
theorem filter_replies (commands : List Command) :
    (shell.replies commands).filter (fun reply => reply.command.acts) =
      shell.replies (commands.filter Command.acts) := by
  induction commands generalizing shell with
  | nil => rfl
  | cons command rest ih =>
      by_cases hacts : command.acts
      · simp only [List.filter_cons, hacts, if_true, replies]
        cases (shell.step command).1 with
        | goesOn next => simp only [ih]
        | ends => rfl
        | breaksOff => rfl
      · have hstep := shell.step_of_not_acts (by simpa using hacts)
        simp only [shell.replies_cons_of_step rest hstep, List.filter_cons, hacts, ih]
        simp

/-- The answers to commands that follow others come from the shell that those lead to. -/
theorem replies_append {earlier : List Command}
    (h : ∀ command ∈ earlier, (seeded overflow session seed).stops command = false)
    (done later : List Command) :
    (after overflow session seed done).replies (earlier ++ later) =
      (after overflow session seed done).replies earlier ++
        (after overflow session seed (done ++ earlier)).replies later := by
  induction earlier generalizing done with
  | nil => simp [replies]
  | cons command rest ih =>
      obtain ⟨hcommand, hrest⟩ := List.forall_mem_cons.mp h
      have hsame : (after overflow session seed done).stops =
          (seeded overflow session seed).stops := stops_congr rfl rfl
      have hstep := step_after overflow session seed done (by rwa [hsame])
      rw [List.cons_append, replies_cons_of_step _ _ hstep, replies_cons_of_step _ _ hstep,
        ih hrest, List.cons_append, List.append_assoc, List.singleton_append]

theorem length_replies {commands : List Command}
    (h : ∀ command ∈ commands, shell.stops command = false) :
    (shell.replies commands).length = commands.length := by
  induction commands generalizing shell with
  | nil => rfl
  | cons command rest ih =>
      obtain ⟨hcommand, hrest⟩ := List.forall_mem_cons.mp h
      obtain ⟨stream, hnext⟩ := shell.exists_step hcommand
      rw [replies_cons_of_step _ _ hnext, List.length_cons, List.length_cons,
        ih _ (by rwa [shell.stops_stream stream])]

/-- What is printed for a scene is determined by the seed in force and the scenes since. -/
theorem getElem?_replies_scene {earlier : List Command}
    (h : ∀ command ∈ earlier, (seeded overflow session seed).stops command = false)
    (name : String) (runs : Nat) (later : List Command) :
    ((seeded overflow session seed).replies
        (earlier ++ .scene name runs :: later))[earlier.length]? =
      some ⟨.scene name runs, sceneAnswer overflow session (seedInForce seed earlier)
        (scenesSince earlier) name runs⟩ := by
  have happend := replies_append overflow session seed h [] (.scene name runs :: later)
  rw [after_nil, List.nil_append] at happend
  rw [happend, List.getElem?_append_right (by rw [length_replies _ h]), length_replies _ h,
    Nat.sub_self, replies, List.getElem?_cons_zero, sceneAnswer, step]
  dsimp only [after, List.nil_append]
  cases rehearse overflow session name runs
    (streamAfter session (seedInForce seed earlier) (scenesSince earlier)) with
  | none => rfl
  | some rehearsal => rfl

/-- After a seed is set, everything is answered as by a shell that starts with it. -/
theorem replies_seed {earlier : List Command}
    (h : ∀ command ∈ earlier, (seeded overflow session seed).stops command = false)
    (value : UInt64) (later : List Command) :
    (seeded overflow session seed).replies (earlier ++ .seed (some value) :: later) =
      (seeded overflow session seed).replies earlier ++
        ⟨.seed (some value), s!"Seed set to {value.toNat}\n"⟩ ::
          (seeded overflow session value).replies later := by
  have happend := replies_append overflow session seed h [] (.seed (some value) :: later)
  rw [after_nil, List.nil_append] at happend
  rw [happend]
  rfl

end Shell

/-! ## Arguments -/

theorem parseArgs_append_seed {options parsed : Options} {args : List String} (value : String)
    (h : parseArgs options args = .ok parsed) :
    parseArgs options (args ++ ["--seed", value]) =
      .ok { parsed with seed := (word64? value).getD 42 } := by
  induction options, args using parseArgs.induct with
  | case1 options =>
      cases h
      simp [parseArgs]
  | case2 options path rest ih => exact ih h
  | case3 options path rest ih => exact ih h
  | case4 options given rest ih => exact ih h
  | case5 options unknown rest hspawns hconfig hseed =>
      rw [parseArgs] at h
      · cases h
      all_goals assumption

/-- What it takes for the shell to start, and with what it does. -/
theorem start_eq_ok_iff {overflow : Overflow} {args : List String} {tree : FileTree}
    {shell : Shell} {text : String} :
    start overflow args tree = .ok (shell, text) ↔ ∃ options path session,
      wantsHelp args = false ∧ parseArgs {} args = .ok options ∧ options.spawns = some path ∧
      (setup tree path options.config).build tree = .ok session ∧
      shell = .seeded overflow session options.seed ∧ text = greeting session options.seed := by
  constructor
  · intro h
    rw [start] at h
    split at h
    · cases h
    next hhelp =>
      split at h
      · cases h
      next options hparse =>
        split at h
        · cases h
        next path hspawns =>
          split at h
          · cases h
          next session hbuild =>
            cases h
            exact ⟨options, path, session, by simpa using hhelp, hparse, hspawns, hbuild, rfl, rfl⟩
  · rintro ⟨options, path, session, hhelp, hparse, hspawns, hbuild, rfl, rfl⟩
    simp [start, hhelp, hparse, hspawns, hbuild, Shell.seeded]

/-! ## Counts -/

/-- What the shell prints for a scene hangs on the session, the seed in force and the scenes since
that seed was set. Two inputs with the same scenes, seeds and end therefore have the same answers to
them, whatever else is asked in between, and what follows a seed is answered as by a shell that
starts with that seed. -/
theorem counts_of_seed_and_scenes {overflow : Overflow} {args : List String} {tree : FileTree}
    {shell : Shell} {text : String} (hstart : start overflow args tree = .ok (shell, text)) :
    ∃ options, parseArgs {} args = .ok options ∧
      (∀ input, run overflow args tree input =
        (shell.outcome ((inputLines input).map Command.ofLine)).after text) ∧
      (∀ (earlier later : List Command) (name : String) (runs : Nat),
        (∀ command ∈ earlier, shell.stops command = false) →
        (shell.replies (earlier ++ .scene name runs :: later))[earlier.length]? =
          some ⟨.scene name runs, sceneAnswer overflow shell.session
            (seedInForce options.seed earlier) (scenesSince earlier) name runs⟩) ∧
      (∀ first second : List Command, first.filter Command.acts = second.filter Command.acts →
        (shell.replies first).filter (fun reply => reply.command.acts) =
          (shell.replies second).filter fun reply => reply.command.acts) ∧
      ∀ (value : String) (seed : UInt64), word64? value = some seed →
        ∃ fresh, start overflow (args ++ ["--seed", value]) tree =
            .ok (fresh, greeting shell.session seed) ∧
          ∀ (earlier later : List Command) (word : String) (more : List String),
            (∀ command ∈ earlier, shell.stops command = false) → lowerString word = "seed" →
            shell.replies (earlier ++ .ofWords (word :: value :: more) :: later) =
              shell.replies earlier ++
                ⟨.seed (some seed), s!"Seed set to {seed.toNat}\n"⟩ :: fresh.replies later := by
  obtain ⟨options, path, session, hhelp, hparse, hspawns, hbuild, rfl, rfl⟩ :=
    start_eq_ok_iff.mp hstart
  refine ⟨options, hparse, fun input => ?_, fun earlier later name runs hearlier => ?_,
    fun first second hsame => ?_, fun value seed hvalue => ?_⟩
  · rw [run, hstart]
    dsimp only
    rw [Shell.run_eq_outcome]
  · exact Shell.getElem?_replies_scene overflow session options.seed hearlier name runs later
  · rw [Shell.filter_replies, Shell.filter_replies, hsame]
  · have hhelp' : wantsHelp (args ++ ["--seed", value]) = false := by
      cases args with
      | nil => cases hhelp
      | cons first rest => exact hhelp
    refine ⟨.seeded overflow session seed, ?_, fun earlier later word more hearlier hword => ?_⟩
    · have hparse' := parseArgs_append_seed value hparse
      rw [hvalue] at hparse'
      exact start_eq_ok_iff.mpr
        ⟨_, path, session, hhelp', hparse', hspawns, hbuild, rfl, rfl⟩
    · rw [Command.ofWords_seed hword, hvalue]
      exact Shell.replies_seed overflow session options.seed hearlier seed later

/-- A scene with two items, of which one is rare. -/
def shoreTree : FileTree where
  root := .directory
    [("a.txt", .file (.text "scene = Shore\nitem = rope c = 60\nitem = lamp c = 5"))]

theorem counts_of_seed_and_scenes_shore :
    let args := ["--spawns", "a.txt", "--seed", "7"]
    ∃ shell text, start .breaks args shoreTree = .ok (shell, text) ∧
      (shell.replies [.scene "Shore" 4, .tables, .blank, .seed none, .scene "Shore" 4])[4]? =
        some ⟨.scene "Shore" 4,
          sceneAnswer .breaks shell.session 7 [("Shore", 4)] "Shore" 4⟩ ∧
      (shell.replies [.scene "Shore" 4, .tables, .blank, .seed none, .scene "Shore" 4]).filter
          (fun reply => reply.command.acts) =
        (shell.replies [.scene "Shore" 4, .scene "Shore" 4]).filter
          (fun reply => reply.command.acts) ∧
      (∃ fresh, start .breaks (args ++ ["--seed", "+8"]) shoreTree =
          .ok (fresh, greeting shell.session 8) ∧
        shell.replies [.scene "Shore" 4, .ofWords ["SEED", "+8"], .scene "Shore" 4] =
          shell.replies [.scene "Shore" 4] ++
            ⟨.seed (some 8), "Seed set to 8\n"⟩ :: fresh.replies [.scene "Shore" 4]) ∧
      (run .breaks args shoreTree "scene Shore 4\ntables\n\nseed x\nscene Shore 4\nquit").out =
        "Loaded 2 spawn entries in 1 scenes\nSeed: 7\nType 'help' for commands.\n\n" ++
          "spawns> \n--- Shore over 4 run(s) ---\n" ++
          "  GEAR_lamp                            1  (25.0%)\n" ++
          "  GEAR_rope                            3  (75.0%)\n--- End ---\n\n" ++
          "spawns> spawns> spawns> Usage: seed <n>\n" ++
          "spawns> \n--- Shore over 4 run(s) ---\n" ++
          "  GEAR_rope                            1  (25.0%)\n--- End ---\n\n" ++
          "spawns> Goodbye.\n" := by
  intro args
  cases hstart : start .breaks args shoreTree with
  | error result =>
      have hstarts : (start .breaks args shoreTree).isOk = true := by decide +kernel
      rw [hstart] at hstarts
      cases hstarts
  | ok started =>
      obtain ⟨shell, text⟩ := started
      obtain ⟨options, hparse, hrun, hscene, hsame, hseed⟩ := counts_of_seed_and_scenes hstart
      have hoptions : parseArgs {} args = .ok { spawns := some "a.txt", seed := 7 } := rfl
      cases hparse.symm.trans hoptions
      obtain ⟨fresh, hfresh, hlater⟩ := hseed "+8" 8 (by decide +kernel)
      -- Four runs are far from what the shell can count.
      have hgoesOn : ∀ command ∈
          [Command.scene "Shore" 4, .tables, .blank, .seed none], shell.stops command = false := by
        intro command hcommand
        have hmodest : ∀ command ∈ [Command.scene "Shore" 4, .tables, .blank, .seed none],
            command ≠ .quit ∧ command.runs < 2 ^ 31 := by
          decide
        obtain ⟨hquit, hruns⟩ := hmodest command hcommand
        exact shell.stops_eq_false_iff.mpr ⟨hquit, shell.breaks_of_runs_lt hruns⟩
      refine ⟨shell, text, rfl, ?_, hsame _ _ rfl, ⟨fresh, hfresh, ?_⟩, by decide +kernel⟩
      · exact hscene [.scene "Shore" 4, .tables, .blank, .seed none] [] "Shore" 4 hgoesOn
      · exact hlater [.scene "Shore" 4] [.scene "Shore" 4] "SEED" []
          (List.forall_mem_singleton.mpr (hgoesOn _ List.mem_cons_self)) (by decide +kernel)

end LootSpawn.Tool.Preview
