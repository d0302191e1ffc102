import MoonlightAddon.Responder
import MoonlightAddon.Sidecar.Tracking

/-!
# The threads of a run are runs of their programs

What is proved of a program alone, for any replies, holds of a thread that runs
it beside others.
-/

namespace MoonlightAddon

namespace Program

theorem Run.eq_of_ret {S : Signature} {α : Type}
    {bodies : (loop : S.Loop) → Program S (S.Result loop)} {value : α}
    {trace : List (Event S)} {finish : Program S α}
    (run : Run bodies (.ret value) trace finish) : finish = .ret value := by
  cases run with
  | refl => rfl
  | step stepped rest => cases stepped

end Program

namespace Machine

variable {S : Signature} {M : Machine S} {start config after : M.Config}
  {trace : M.Trace}

/-- A step that does not start the thread anew is at most one step of it. -/
theorem StepCase.program {happening : Option M.Happening}
    (stepped : StepCase config happening after) (thread : M.Thread)
    (unforked : ∀ runner event, happening = some (.ran runner event) →
      ∀ program, M.fork event config.shared ≠ some (thread, program)) :
    Program.Run M.bodies (config.pool thread)
      (eventsOf thread happening.toList) (after.pool thread) := by
  cases stepped with
  | @unfold runner loop next at_loop =>
      by_cases own : thread = runner
      · subst own
        have unfolds : Program.Run M.bodies (.enter loop next) []
            ((M.bodies loop).bind next) := .step .unfold (.refl _)
        simpa [at_loop] using unfolds
      · simpa [Function.update_of_ne own] using
          Program.Run.refl (config.pool thread)
  | @ran runner command next reply at_command possible =>
      have kept : spawned ⟨command, reply⟩ config.shared
          (Function.update config.pool runner (next reply)) thread =
            Function.update config.pool runner (next reply) thread := by
        unfold spawned
        cases forked : M.fork ⟨command, reply⟩ config.shared with
        | none => rfl
        | some child =>
            have distinct : thread ≠ child.1 := by
              intro same
              exact unforked runner _ rfl child.2
                (by rw [forked, same])
            exact Function.update_of_ne distinct ..
      by_cases own : runner = thread
      · subst own
        have acts : Program.Run M.bodies (.act command next)
            [⟨command, reply⟩] (next reply) := .step (.act reply) (.refl _)
        simpa [kept, at_command] using acts
      · simpa [kept, Function.update_of_ne (Ne.symm own), eventsOf_ran_ne own]
          using Program.Run.refl (config.pool thread)
  | outside acted =>
      simpa using Program.Run.refl (config.pool thread)

/-- A thread that no command starts runs what it was given. -/
theorem Run.program (run : Run start trace config) (thread : M.Thread)
    (unforked : ∀ event shared program,
      M.fork event shared ≠ some (thread, program)) :
    Program.Run M.bodies (start.pool thread) (eventsOf thread trace)
      (config.pool thread) := by
  induction run with
  | refl => exact .refl _
  | @snoc past before after move happening run stepped induction =>
      rw [eventsOf_append]
      exact induction.append ((step_cases stepped).program thread
        fun _ event _ program => unforked event _ program)

end Machine

namespace Sidecar

variable {libraries : Libraries} {trace : (process libraries).Trace}
  {config : (process libraries).Config}

/-- Nothing starts the reader again. -/
theorem not_fork_reader (event : Event sidecar) (shared : Shared)
    (program : Program sidecar Unit) :
    (process libraries).fork event shared ≠ some (.reader, program) := by
  obtain ⟨command, reply⟩ := event
  cases command with
  | spawn session doc =>
      obtain ⟨engine, _ | _⟩ := reply <;> simp
  | _ => simp

/-- The reader's thread runs `main`. -/
theorem reader_run
    (run : Machine.Run (process.start libraries) trace config) :
    Program.Run (Main.bodies libraries) (Main.main libraries)
      (readerEvents trace) (config.pool .reader) :=
  run.program Thread.reader fun event shared program =>
    not_fork_reader event shared program

/-- What the reader still owes is taking engines down. -/
theorem due_of_path {events : List (Event sidecar)} {phase : Main.Phase}
    (path : (mainThread libraries).Path Main.Phase.opening events phase) :
    ∀ command ∈ phase.due, (closing command).isSome = true := by
  apply path.invariant
    (fun _ phase => ∀ command ∈ phase.due, (closing command).isSome = true)
  · intro command member
    cases member
  · intro past before event after due next command member
    rcases Main.due_step next command member with earlier | ⟨session, _, same⟩
    · exact due command earlier
    · rw [same]
      rfl

/-- The reader issues its own commands only. -/
theorem readerOnly_of_run
    (run : Machine.Run (process.start libraries) trace config) :
    ∀ event ∈ readerEvents trace, readerOnly event.command = true := by
  intro event member
  obtain ⟨phase, path, _⟩ :=
    Typestate.follows_run Main.mainThread_sound (reader_run run)
      Main.follows_main
  obtain ⟨past, future, split⟩ := List.append_of_mem member
  obtain ⟨before, after, first, next, _⟩ := path.split split
  exact Main.readerOnly_of_next next (due_of_path first)

/-- How an engine's thread came to the program it still has to run. -/
inductive Life (trace : (process libraries).Trace)
    (config : (process libraries).Config) (engine : Engine) : Prop where
  | unborn (idle : engine ∉ startedEngines trace)
      (empty : config.pool (.worker engine) = .ret ()) :
      Life trace config engine
  | born {session : UInt32} {doc : MoonlightConnectDoc}
      (spawned : ⟨.spawn session doc, (engine, true)⟩ ∈ readerEvents trace)
      (runs : Program.Run (Main.bodies libraries)
        (Session.worker libraries session doc) (workerEvents engine trace)
        (config.pool (.worker engine))) :
      Life trace config engine

theorem fork_worker {event : Event sidecar} {shared : Shared} {engine : Engine}
    {program : Program sidecar Unit}
    (forks : (process libraries).fork event shared =
      some (.worker engine, program)) :
    ∃ session doc, event = ⟨.spawn session doc, (engine, true)⟩ ∧
      program = Session.worker libraries session doc := by
  obtain ⟨command, reply⟩ := event
  cases command with
  | spawn session doc =>
      obtain ⟨number, _ | _⟩ := reply
      · cases forks
      · cases forks
        exact ⟨session, doc, rfl, rfl⟩
  | _ => cases forks

/-- What the trace remembers, without more. -/
theorem tracked_of_run
    (run : Machine.Run (process.start libraries) trace config) :
    ∃ standing, Tracked trace config.shared standing := by
  obtain ⟨standing, tracked, _⟩ := tracked_invariant run (fun _ _ => True)
    (Machine.Obeys.of_forall fun _ _ _ => trivial) (fun _ _ _ => True) trivial
    (fun _ _ _ _ _ _ _ _ _ _ => trivial)
    (fun _ _ _ _ _ _ _ _ _ _ _ => trivial) (fun _ _ _ _ _ _ _ _ => trivial)
  exact ⟨standing, tracked⟩

/-- No engine's thread has issued a command of the reader. -/
theorem Tracked.not_readerOnly {shared : Shared} {standing : Standing}
    (tracked : Tracked trace shared standing) {engine : Engine}
    {event : Event sidecar} (member : event ∈ workerEvents engine trace) :
    readerOnly event.command = false := by
  have history := tracked.history engine
  generalize standing.workers engine = worker at history
  cases history with
  | unborn idle silent =>
      rw [silent] at member
      cases member
  | born spawned path =>
      obtain ⟨past, future, split⟩ := List.append_of_mem member
      obtain ⟨before, after, _, next, _⟩ := path.split split
      exact not_readerOnly_of_work next

theorem forks_of_startedBy {event : Event sidecar} {shared : Shared}
    {engine : Engine} (starts : startedBy event = some engine) :
    ∃ program, (process libraries).fork event shared =
      some (.worker engine, program) := by
  obtain ⟨command, reply⟩ := event
  cases command with
  | spawn session doc =>
      obtain ⟨number, _ | _⟩ := reply
      · cases starts
      · obtain rfl := Option.some.inj starts
        exact ⟨_, rfl⟩
  | _ => cases starts

theorem prefix_readerEvents (first second : (process libraries).Trace) :
    readerEvents first <+: readerEvents (first ++ second) := by
  unfold readerEvents
  rw [Machine.eventsOf_append]
  exact List.prefix_append _ _

/-- Only a step that starts the engine adds it to those started. -/
theorem not_started_of_unforked {past : (process libraries).Trace}
    {shared : Shared} {happening : Option (process libraries).Happening}
    {engine : Engine} (idle : engine ∉ startedEngines past)
    (unforked : ∀ runner event, happening = some (.ran runner event) →
      ∀ program, (process libraries).fork event shared ≠
        some (.worker engine, program)) :
    engine ∉ startedEngines (past ++ happening.toList) := by
  intro member
  match happening with
  | none => exact idle (by simpa using member)
  | some (.outside seen) =>
      rw [Option.toList_some, startedEngines_call] at member
      exact idle member
  | some (.ran (.worker runner) event) =>
      rw [Option.toList_some, startedEngines_work] at member
      exact idle member
  | some (.ran .reader event) =>
      rw [Option.toList_some, startedEngines_read, List.mem_append,
        Option.mem_toList] at member
      rcases member with earlier | starts
      · exact idle earlier
      · obtain ⟨program, forks⟩ := @forks_of_startedBy libraries _ shared _ starts
        exact unforked _ event rfl program forks

/-- An engine is started by the reader, and anew. -/
theorem newcomer_of_fork
    {before after : (process libraries).Config}
    {happening : Option (process libraries).Happening}
    (run : Machine.Run (process.start libraries) trace before)
    {move : (process libraries).Move}
    (stepped : Machine.step move before = some (happening, after))
    {runner : Thread} {event : Event sidecar} {engine : Engine}
    {program : Program sidecar Unit}
    (happened : happening = some (.ran runner event))
    (forks : (process libraries).fork event before.shared =
      some (.worker engine, program)) :
    runner = .reader ∧ workerEvents engine trace = [] ∧
      after.pool (.worker engine) = program := by
  obtain ⟨session, doc, rfl, rfl⟩ := fork_worker forks
  subst happened
  have cases := Machine.step_cases stepped
  obtain ⟨_, later⟩ := tracked_of_run (run.snoc stepped)
  obtain ⟨_, tracked⟩ := tracked_of_run run
  have own : runner = .reader := by
    cases runner with
    | reader => rfl
    | worker number =>
        have member : (⟨.spawn session doc, (engine, true)⟩ : Event sidecar) ∈
            workerEvents number (trace ++ (some (Machine.Happening.ran
              (Thread.worker number) ⟨.spawn session doc, (engine, true)⟩) :
                Option (process libraries).Happening).toList) := by
          rw [Option.toList_some, workerEvents_work]
          exact List.mem_append_right _ List.mem_cons_self
        have issued := later.not_readerOnly member
        cases issued
  subst own
  generalize observed : (some (Machine.Happening.ran Thread.reader
    ⟨.spawn session doc, (engine, true)⟩) :
      Option (process libraries).Happening) = happening at cases
  cases cases with
  | unfold => cases observed
  | outside => cases observed
  | ran at_command possible =>
      cases observed
      have allowed : Possible .reader before.shared
          ⟨.spawn session doc, (engine, true)⟩ := possible_of_reply possible
      refine ⟨rfl, (tracked.newcomer allowed rfl).2.2, ?_⟩
      unfold Machine.spawned
      rw [forks]
      exact Function.update_self ..

/-- The thread of every engine runs `connect_with_doc`'s closure. -/
theorem life_of_run
    (run : Machine.Run (process.start libraries) trace config)
    (engine : Engine) : Life trace config engine := by
  induction run with
  | refl => exact .unborn (fun member => by cases member) rfl
  | @snoc past before after move happening run stepped induction =>
      by_cases forked : ∃ runner event program,
          happening = some (.ran runner event) ∧
            (process libraries).fork event before.shared =
              some (.worker engine, program)
      · obtain ⟨runner, event, program, rfl, forks⟩ := forked
        obtain ⟨rfl, silent, fresh⟩ :=
          newcomer_of_fork run stepped rfl forks
        obtain ⟨session, doc, rfl, rfl⟩ := fork_worker forks
        rw [Option.toList_some]
        apply Life.born
        · rw [readerEvents_read]
          exact List.mem_append_right _ List.mem_cons_self
        · rw [workerEvents_read, silent, fresh]
          exact .refl _
      · have unforked : ∀ runner event, happening = some (.ran runner event) →
            ∀ program, (process libraries).fork event before.shared ≠
              some (.worker engine, program) :=
          fun runner event same program forks =>
            forked ⟨runner, event, program, same, forks⟩
        have moved := (Machine.step_cases stepped).program
          (Thread.worker engine) unforked
        cases induction with
        | unborn idle empty =>
            apply Life.unborn (not_started_of_unforked idle unforked)
            rw [empty] at moved
            exact moved.eq_of_ret
        | born spawned runs =>
            apply Life.born
            · exact (prefix_readerEvents _ _).subset spawned
            · unfold workerEvents
              rw [Machine.eventsOf_append]
              exact runs.append moved

/-- The commands only an engine's thread can have answered. -/
def workerOnly : Command → Bool
  | .loadStop | .receive => true
  | _ => false

/-- The environment can answer every other command. -/
theorem exists_answer {thread : Thread} {command : Command}
    (able : thread = .reader → workerOnly command = false) (shared : Shared) :
    ∃ answer reply, replyOf thread shared command answer = some reply := by
  cases command with
  | loadStop | receive =>
      cases thread with
      | reader => cases able rfl
      | worker engine => exact ⟨.nothing, _, rfl⟩
  | generateIdentity => exact ⟨.identity (.error []), _, rfl⟩
  | buildRuntime | control | frame => exact ⟨.result (.ok ()), _, rfl⟩
  | randBytes => exact ⟨.bytes (.error []), _, rfl⟩
  | request => exact ⟨.http (.body []), _, rfl⟩
  | finishStart => exact ⟨.code 0, _, rfl⟩
  | readMessage => exact ⟨.message (.ok none), _, rfl⟩
  | spawn => exact ⟨.spawned true, _, rfl⟩
  | mapDrain =>
      exact ⟨.order (sessionsOf shared), _, if_pos (List.Perm.refl _)⟩
  | _ => exact ⟨.nothing, _, rfl⟩

/-- A move of this thread. -/
abbrev turn (thread : Thread) (answer : Answer) : (process libraries).Move :=
  .run thread answer

/-- A thread at a command is not blocked while the process lives. -/
theorem step_of_act {thread : Thread} {command : Command}
    {next : command.Reply → Program sidecar Unit}
    (living : config.shared.exited = none)
    (waits : config.pool thread = .act command next)
    (able : thread = .reader → workerOnly command = false) :
    ∃ answer result, Machine.step (turn thread answer) config = some result := by
  obtain ⟨answer, reply, replied⟩ := exists_answer able config.shared
  refine ⟨answer, ?_⟩
  simp only [Machine.step, waits, if_pos living, replied]
  exact ⟨_, rfl⟩

/-- Nor is one that enters a loop. -/
theorem step_of_enter {thread : Thread} {loop : sidecar.Loop}
    {next : sidecar.Result loop → Program sidecar Unit}
    (waits : config.pool thread = .enter loop next) :
    ∃ answer result, Machine.step (turn thread answer) config = some result := by
  refine ⟨.nothing, ?_⟩
  simp only [Machine.step, waits]
  exact ⟨_, rfl⟩

end Sidecar

end MoonlightAddon
