import MoonlightAddon.Sidecar.Pipeline
import MoonlightAddon.Sidecar.Threads

/-!
# Where every unit goes

The C core hands its units to whatever sender is installed, with any number of
sessions connected.  A unit that a sender caught is written once, in order and
as a frame of that sender's session, or it still waits in its channel.
-/

namespace MoonlightAddon

namespace Sidecar

open Session

section

variable {libraries : Libraries}

/-- Whose sender is installed, and the units that each sender caught. -/
structure Catches where
  sink : Option Engine
  units : Engine → List VideoUnit

namespace Catches

def initial : Catches := ⟨none, fun _ => []⟩

/-- `dr_submit` with the unit it makes of a decode unit. -/
def submit (catches : Catches) (unit : VideoUnit) : Catches :=
  match catches.sink with
  | some engine =>
      { catches with
        units := Function.update catches.units engine
          (catches.units engine ++ [unit]) }
  | none => catches

def watch (catches : Catches) : (process libraries).Happening → Catches
  | .ran (.worker engine) ⟨.storeSink, _⟩ => { catches with sink := some engine }
  | .ran _ ⟨.clearSink _, _⟩ => { catches with sink := none }
  | .outside (.submit _ format unit) => catches.submit (Stream.drSubmit format unit)
  | _ => catches

/-- What was caught in a run. -/
def of (trace : (process libraries).Trace) : Catches :=
  trace.foldl watch initial

variable {trace : (process libraries).Trace} {event : Event sidecar}

theorem of_snoc (happening : (process libraries).Happening) :
    of (trace ++ [happening]) = (of trace).watch happening := by
  simp [of]

/-- A thread catches nothing. -/
theorem units_ran (catches : Catches) (thread : Thread) :
    (catches.watch (.ran thread event : (process libraries).Happening)).units =
      catches.units := by
  obtain ⟨command, reply⟩ := event
  cases command with
  | _ => cases thread <;> rfl

theorem units_submit (catches : Catches) (unit : VideoUnit) (engine : Engine) :
    (catches.submit unit).units engine = catches.units engine ++
      if catches.sink = some engine then [unit] else [] := by
  obtain ⟨sink, units⟩ := catches
  cases sink with
  | none => simp [submit]
  | some owner =>
      by_cases same : owner = engine
      · subst same
        simp [submit]
      · simp [submit, same, Function.update_of_ne (Ne.symm same)]

theorem sink_submit (catches : Catches) (unit : VideoUnit) :
    (catches.submit unit).sink = catches.sink := by
  unfold submit
  split <;> rfl

end Catches

/-- A frame that the thread tries to write, for whom. -/
def attemptOf : Event sidecar → Option (UInt32 × FrameUpdate)
  | ⟨.frame session update, _⟩ => some (session, update)
  | _ => none

def attempts (events : List (Event sidecar)) : List (UInt32 × FrameUpdate) :=
  events.filterMap attemptOf

/-- The frame that a thread makes of a unit. -/
def frameFor (worker : Worker) (unit : VideoUnit) : UInt32 × FrameUpdate :=
  (worker.session, frameUpdate worker.doc unit)

/-- Of the units an engine's sender caught, the first ones are written, the next
one may be in the hands of its thread, and the others wait. -/
def Delivers (trace : (process libraries).Trace) (shared : Shared)
    (worker : Worker) (engine : Engine) : Prop :=
  ∃ delivered,
    attempts (workerEvents engine trace) = delivered.map (frameFor worker) ∧
      delivered ++ (worker.phase.pending ++ shared.channel engine) =
        (Catches.of trace).units engine

structure Delivering (trace : (process libraries).Trace) (shared : Shared)
    (workers : Engine → Worker) : Prop where
  sink : (Catches.of trace).sink = shared.videoSink
  delivers : ∀ engine, Delivers trace shared (workers engine) engine

variable {trace : (process libraries).Trace} {shared : Shared}
  {standing : Standing} {event : Event sidecar}

theorem delivering_initial :
    Delivering ([] : (process libraries).Trace) .initial
      (fun _ => .unborn) where
  sink := rfl
  delivers _ := ⟨[], rfl, rfl⟩

theorem sink_watch (thread : Thread) {catches : Catches}
    (same : catches.sink = shared.videoSink) :
    (catches.watch (.ran thread event : (process libraries).Happening)).sink =
      (effectOf thread event shared).videoSink := by
  obtain ⟨command, reply⟩ := event
  cases command with
  | storeSink | clearSink => cases thread <;> first | rfl | exact same
  | _ => cases thread <;> exact same

/-- What does not touch the channel, the hands or the frames of an engine. -/
theorem Delivers.frame {happening : (process libraries).Happening}
    {worker : Worker} {engine : Engine} {after : Shared}
    (delivers : Delivers trace shared worker engine)
    (events : workerEvents engine (trace ++ [happening]) =
      workerEvents engine trace)
    (units : (Catches.of (trace ++ [happening])).units engine =
      (Catches.of trace).units engine)
    (channel : after.channel engine = shared.channel engine) :
    Delivers (trace ++ [happening]) after worker engine := by
  unfold Delivers
  rw [events, units, channel]
  exact delivers

theorem Delivering.read {after : Main.Phase}
    (delivering : Delivering trace shared standing.workers)
    (tracked : Tracked trace shared standing)
    (next : Main.Phase.Next libraries standing.reader event after)
    (possible : Possible .reader shared event) :
    Delivering (trace ++ [.ran .reader event]) (effectOf .reader event shared)
      (started event standing.workers) := by
  obtain ⟨unreceived, _⟩ :=
    apart_of_readerOnly (Main.readerOnly_of_next next tracked.due)
  have channel := effect_channel .reader unreceived shared
  constructor
  · rw [Catches.of_snoc]
    exact sink_watch .reader delivering.sink
  · intro engine
    have kept : Delivers (trace ++ [.ran .reader event])
        (effectOf .reader event shared) (standing.workers engine) engine :=
      (delivering.delivers engine).frame workerEvents_read
        (by rw [Catches.of_snoc, Catches.units_ran]) (by rw [channel])
    by_cases starts : startedBy event = some engine
    · obtain ⟨_, unborn, silent⟩ := tracked.newcomer possible starts
      obtain ⟨session, doc, rfl, rfl⟩ := startedBy_of_possible possible starts
      rw [started_spawn]
      rw [unborn] at kept
      obtain ⟨delivered, written, balance⟩ := kept
      rw [workerEvents_read, silent] at written
      obtain rfl := List.map_eq_nil_iff.mp written.symm
      refine ⟨[], ?_, balance⟩
      rw [workerEvents_read, silent]
      rfl
    · rw [started_other _ starts]
      exact kept

theorem Delivering.work {runner : Engine} {after : Worker}
    (delivering : Delivering trace shared standing.workers)
    (next : Worker.Next (standing.workers runner) event after)
    (possible : Possible (.worker runner) shared event) :
    Delivering (trace ++ [.ran (.worker runner) event])
      (effectOf (.worker runner) event shared)
      (Function.update standing.workers runner after) := by
  constructor
  · rw [Catches.of_snoc]
    exact sink_watch _ delivering.sink
  · intro engine
    have units : (Catches.of (trace ++ [.ran (.worker runner) event])).units =
        (Catches.of trace).units := by
      rw [Catches.of_snoc, Catches.units_ran]
    by_cases same : engine = runner
    · subst same
      rw [Function.update_self]
      obtain ⟨delivered, written, balance⟩ := delivering.delivers engine
      obtain ⟨sameSession, sameDoc⟩ := identity_of_work next
      have sameFrame : frameFor after = frameFor (standing.workers engine) := by
        funext unit
        simp only [frameFor, sameSession, sameDoc]
      unfold Delivers
      rw [workerEvents_work, units, sameFrame]
      rcases written_of_work next with
        ⟨unit, reply, pending, polling, rfl⟩ | unwritten
      · refine ⟨delivered ++ [unit], ?_, ?_⟩
        · rw [attempts, List.filterMap_append, ← attempts, written,
            List.map_append]
          rfl
        · rw [pending] at balance
          rw [polling, effect_channel _ Command.noConfusion, ← balance]
          simp [Phase.pending]
      · have silent : attemptOf event = none := by
          obtain ⟨command, reply⟩ := event
          cases command with
          | frame session update => exact absurd rfl (unwritten session update)
          | _ => rfl
        refine ⟨delivered, ?_, ?_⟩
        · rw [attempts, List.filterMap_append, ← attempts, written]
          simp [silent]
        · rw [← balance]
          congr 1
          by_cases receives : event.command = .receive
          · exact pending_of_receive next possible receives
          · rw [pending_of_work next receives unwritten,
              effect_channel _ receives]
    · rw [Function.update_of_ne same]
      exact (delivering.delivers engine).frame
        (workerEvents_other (Ne.symm same)) (by rw [units])
        (effect_channel_other same)

theorem Delivering.call
    (delivering : Delivering trace shared standing.workers)
    (callback : Callback) :
    Delivering (trace ++ [.outside (callBack callback shared).1])
      (callBack callback shared).2 standing.workers := by
  constructor
  · rw [Catches.of_snoc, callBack_sink]
    cases callback with
    | submit unit => exact (Catches.sink_submit _ _).trans delivering.sink
    | _ => exact delivering.sink
  · intro engine
    cases callback with
    | submit unit =>
        obtain ⟨delivered, written, balance⟩ := delivering.delivers engine
        refine ⟨delivered, ?_, ?_⟩
        · rw [workerEvents_call]
          exact written
        · rw [Catches.of_snoc, callBack_submit, channel_submit]
          change _ = (Catches.submit _ _).units engine
          rw [Catches.units_submit, ← balance, delivering.sink]
          simp only [List.append_assoc]
    | _ =>
        exact (delivering.delivers engine).frame workerEvents_call
          (by rw [Catches.of_snoc]; rfl) rfl

/-- The unit a thread has received as the last thing it did. -/
def inHand (events : List (Event sidecar)) : List VideoUnit :=
  match events.getLast? with
  | some ⟨.receive, .unit unit⟩ => [unit]
  | _ => []

theorem pending_of_quiet {phase : Phase} {command : Command}
    (quiet : phase.Quiet command = true) : phase.pending = [] := by
  cases Phase.routine_of_quiet quiet with
  | _ => cases phase with
    | delivering unit => cases quiet
    | _ => rfl

/-- A unit is in hand from its receipt to the next event. -/
theorem pending_of_next {session : UInt32} {doc : MoonlightConnectDoc}
    {before after : Phase} (next : Phase.Next session doc before event after)
    (past : List (Event sidecar)) : after.pending = inHand (past ++ [event]) := by
  rw [inHand, List.getLast?_concat]
  cases next with
  | quiet quiet =>
      rw [pending_of_quiet quiet]
      cases Phase.routine_of_quiet quiet <;> rfl
  | noRuntime settled => obtain rfl | rfl := settled <;> rfl
  | _ => rfl

theorem pending_of_path {session : UInt32} {doc : MoonlightConnectDoc}
    {worker : Worker} {events : List (Event sidecar)}
    (path : engineThread.Path (.born session doc) events worker) :
    worker.phase.pending = inHand events := by
  obtain ⟨phase, rfl, same⟩ := Worker.path_invariant path
    (fun past phase => phase.pending = inHand past) rfl
    (fun past _ _ _ _ next => pending_of_next next past)
  exact same

theorem Tracked.pending (tracked : Tracked trace shared standing)
    (engine : Engine) : (standing.workers engine).phase.pending =
      inHand (workerEvents engine trace) := by
  have history := tracked.history engine
  generalize standing.workers engine = worker at history
  cases history with
  | unborn _ silent =>
      rw [silent]
      rfl
  | born _ path => exact pending_of_path path

/-- In every run, with any number of sessions: each thread tries to write the
units that its own sender caught, each once, in their order and as frames of the
session and the size it was connected with.  What it has not tried yet is the
unit it has just received, or waits in its channel.  The channel is kept when
the thread has ended, with what it held and what is still submitted to it. -/
theorem units_delivered {config : (process libraries).Config}
    (run : Machine.Run (process.start libraries) trace config)
    (engine : Engine) :
    ∃ session doc delivered,
      (engine ∈ startedEngines trace →
        ⟨.spawn session doc, (engine, true)⟩ ∈ readerEvents trace) ∧
        attempts (workerEvents engine trace) =
          delivered.map (fun unit => (session, frameUpdate doc unit)) ∧
        delivered ++ (inHand (workerEvents engine trace) ++
          config.shared.channel engine) = (Catches.of trace).units engine := by
  obtain ⟨standing, tracked, delivering⟩ := tracked_invariant run
    (fun _ _ => True) (Machine.Obeys.of_forall fun _ _ _ => trivial)
    (fun trace shared standing => Delivering trace shared standing.workers)
    delivering_initial
    (fun _ _ _ _ _ tracked delivering _ next possible =>
      delivering.read tracked next possible)
    (fun _ _ _ _ _ _ _ delivering _ next possible =>
      delivering.work next possible)
    (fun _ _ _ callback _ delivering _ _ => delivering.call callback)
  obtain ⟨delivered, written, balance⟩ := delivering.delivers engine
  rw [tracked.pending] at balance
  exact ⟨_, _, delivered, tracked.spawned, written, balance⟩

end

open SampleHost

/-- The second of two sessions takes the stream over from the first. -/
theorem units_delivered_second :
    ∃ (trace : (process SampleHost.libraries).Trace)
      (config : (process SampleHost.libraries).Config),
      (attempts (workerEvents 0 trace)).length = 1 ∧
        (attempts (workerEvents 1 trace)).length = 1 ∧
          ∃ session doc delivered,
            (1 ∈ startedEngines trace →
              ⟨.spawn session doc, (1, true)⟩ ∈ readerEvents trace) ∧
              attempts (workerEvents 1 trace) =
                delivered.map (fun unit => (session, frameUpdate doc unit)) ∧
              delivered ++ (inHand (workerEvents 1 trace) ++
                config.shared.channel 1) = (Catches.of trace).units 1 := by
  obtain ⟨trace, config, run, checked⟩ := Machine.exists_run_of_play
    (fun trace _ => (attempts (workerEvents 0 trace)).length == 1 &&
      (attempts (workerEvents 1 trace)).length == 1)
    (show (Machine.play (greeting ++ connects (lit "1") ++ goesLive 0 ++
      [.outside (.setup 1)] ++ streams 0 keyFrame ++ connects (lit "2") ++
      goesLive 1 ++ streams 1 keyFrame)
      (process.start libraries)).any _ = true by decide +kernel)
  simp only [Bool.and_eq_true, beq_iff_eq] at checked
  exact ⟨trace, config, checked.1, checked.2, units_delivered run 1⟩

end Sidecar

end MoonlightAddon
