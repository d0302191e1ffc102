import MoonlightAddon.Sidecar.HostEnding
import MoonlightAddon.Sidecar.Pipeline

/-!
# One lifecycle call at a time

`LiStartConnection` and `LiStopConnection` are not re-entrant, and no lock keeps
the reader's `close` and the engine's thread apart.  With one session live the
calls do not overlap as long as the reader takes engines down, and threads set
out for their own calls, in turn.
-/

namespace MoonlightAddon

/-- `LiStartConnection` returns, or will not be called. -/
def endsStart : Event sidecar → Bool
  | ⟨.finishStart, _⟩ | ⟨.request (.cancel ..), _⟩ => true
  | _ => false

/-- `LiStartConnection` succeeds. -/
def isStarted : Event sidecar → Bool
  | ⟨.finishStart, code⟩ => code == (0 : Int32)
  | _ => false

def endsStop : Event sidecar → Bool
  | ⟨.finishStop .worker, _⟩ => true
  | _ => false

/-- The thread has set out for a lifecycle call: its launch was accepted and
`LiStartConnection` has not returned, or it left its loop and its own
`LiStopConnection` has not returned. -/
def setOut (events : List (Event sidecar)) : Bool :=
  events.any isLaunched && !events.any endsStart ||
    events.any isStarted && events.any leavesLoop && !events.any endsStop

/-- Whether a call has begun that has not returned. -/
def callAfter (inside : Bool) : Command → Bool
  | .beginStart _ _ | .beginStop _ => true
  | .finishStart | .finishStop _ => false
  | _ => inside

def insideCall (events : List (Event sidecar)) : Bool :=
  events.foldl (fun inside event => callAfter inside event.command) false

theorem insideCall_snoc (events : List (Event sidecar)) (event : Event sidecar) :
    insideCall (events ++ [event]) =
      callAfter (insideCall events) event.command := by
  rw [insideCall, List.foldl_append]
  rfl

namespace Phase

/-- `LiStartConnection` may still return. -/
def beforeStart : Phase → Bool
  | .starting => true
  | phase => phase.undialled

/-- The thread's own `LiStopConnection` may still return. -/
def beforeStop (phase : Phase) : Bool :=
  phase.beforeStart || phase.linked

def leaving : Phase → Bool
  | .stopping _ | .stoppingCore _ => true
  | _ => false

/-- Inside a lifecycle call. -/
def inside : Phase → Bool
  | .starting | .stoppingCore _ => true
  | _ => false

variable {session : UInt32} {doc : MoonlightConnectDoc}
  {before after : Phase} {event : Event sidecar}

theorem beforeStart_step (next : Next session doc before event after)
    (still : after.beforeStart = true) :
    before.beforeStart = true ∧ endsStart event = false := by
  cases next with
  | quiet quiet =>
      cases routine_of_quiet quiet <;> exact ⟨still, rfl⟩
  | runtime settled | noRuntime settled =>
      obtain rfl | rfl := settled <;> exact ⟨rfl, rfl⟩
  | proceed due | stopEarly due => obtain rfl | rfl := due <;> exact ⟨rfl, rfl⟩
  | _ => first | exact ⟨rfl, rfl⟩ | cases still

theorem beforeStop_step (next : Next session doc before event after)
    (still : after.beforeStop = true) :
    before.beforeStop = true ∧ endsStop event = false := by
  cases next with
  | quiet quiet =>
      cases routine_of_quiet quiet <;> exact ⟨still, rfl⟩
  | runtime settled | noRuntime settled =>
      obtain rfl | rfl := settled <;> exact ⟨rfl, rfl⟩
  | proceed due | stopEarly due => obtain rfl | rfl := due <;> exact ⟨rfl, rfl⟩
  | _ => first | exact ⟨rfl, rfl⟩ | cases still

theorem linked_started (next : Next session doc before event after)
    (linked : after.linked = true) :
    before.linked = true ∨ isStarted event = true := by
  cases next with
  | started => exact .inr rfl
  | quiet quiet => exact .inl linked
  | runtime settled | noRuntime settled =>
      obtain rfl | rfl := settled <;> cases linked
  | proceed due | stopEarly due => obtain rfl | rfl := due <;> cases linked
  | _ => first | exact .inl rfl | cases linked

theorem leaving_step (next : Next session doc before event after)
    (leaving : after.leaving = true) :
    before.leaving = true ∨ leavesLoop event = true := by
  cases next with
  | stop | terminated | disconnected => exact .inr rfl
  | quiet quiet => exact .inl leaving
  | runtime settled | noRuntime settled =>
      obtain rfl | rfl := settled <;> cases leaving
  | proceed due | stopEarly due => obtain rfl | rfl := due <;> cases leaving
  | _ => first | exact .inl rfl | cases leaving

theorem inside_step (next : Next session doc before event after) :
    after.inside = callAfter before.inside event.command := by
  cases next with
  | quiet quiet =>
      cases routine_of_quiet quiet <;> rfl
  | runtime settled | noRuntime settled => obtain rfl | rfl := settled <;> rfl
  | proceed due | stopEarly due => obtain rfl | rfl := due <;> rfl
  | @close phase error reply may =>
      cases before with
      | starting | stoppingCore => exact absurd may id
      | _ => rfl
  | _ => rfl

end Phase

namespace Worker

variable {session : UInt32} {doc : MoonlightConnectDoc}
  {past : List (Event sidecar)}

/-- What a thread's phase says about its lifecycle calls so far. -/
structure Strides (past : List (Event sidecar)) (phase : Phase) : Prop where
  start : phase.beforeStart = true → past.any endsStart = false
  started : phase.linked = true → past.any isStarted = true
  leaves : phase.leaving = true → past.any leavesLoop = true
  stop : phase.beforeStop = true → past.any endsStop = false
  inside : insideCall past = phase.inside

theorem strides_of_path {worker : Worker}
    (path : engineThread.Path (born session doc) past worker) :
    Strides past worker.phase := by
  have fresh : Strides [] .fresh :=
    ⟨by simp, by simp [Phase.linked], by simp [Phase.leaving], by simp, rfl⟩
  obtain ⟨phase, rfl, strides⟩ := path_invariant path Strides fresh
    fun past before event after strides next => by
      constructor
      · intro still
        obtain ⟨earlier, now⟩ := Phase.beforeStart_step next still
        rw [List.any_append, strides.start earlier]
        simpa using now
      · intro linked
        rw [List.any_append, Bool.or_eq_true]
        exact (Phase.linked_started next linked).imp strides.started
          fun now => by simpa using now
      · intro leaving
        rw [List.any_append, Bool.or_eq_true]
        exact (Phase.leaving_step next leaving).imp strides.leaves
          fun now => by simpa using now
      · intro still
        obtain ⟨earlier, now⟩ := Phase.beforeStop_step next still
        rw [List.any_append, strides.stop earlier]
        simpa using now
      · rw [insideCall_snoc, strides.inside, Phase.inside_step next]
  exact strides

/-- A thread inside a lifecycle call has set out for it. -/
theorem setOut_of_inside {worker : Worker}
    (path : engineThread.Path (born session doc) past worker)
    (inside : worker.phase.inside = true) : setOut past = true := by
  have strides := strides_of_path path
  obtain ⟨phase, rfl, accounts⟩ := accounts_of_path path
  cases phase with
  | starting =>
      have launched := (accounts (by simp)).launched
      have start := strides.start rfl
      simp [setOut, launched, start, Phase.launchedYet]
  | stoppingCore exit =>
      simp [setOut, strides.started rfl, strides.leaves rfl, strides.stop rfl]
  | _ => cases inside

end Worker

/-- The stops the reader owes for the engines it took out of the map. -/
def owedAfter (owed : Nat) : Event sidecar → Nat
  | ⟨.mapInsert _ _, replaced⟩ => owed + replaced.toList.length
  | ⟨.mapRemove _, removed⟩ => owed + 2 * removed.toList.length
  | ⟨.finishStop _, _⟩ => owed - 1
  | _ => owed

def stopsOwed (events : List (Event sidecar)) : Nat :=
  events.foldl owedAfter 0

/-- A drain that finds engines in the map. -/
def drainsSome : Event sidecar → Bool
  | ⟨.mapDrain, sessions⟩ => !sessions.isEmpty
  | _ => false

theorem stopsOwed_snoc (events : List (Event sidecar)) (event : Event sidecar) :
    stopsOwed (events ++ [event]) = owedAfter (stopsOwed events) event := by
  rw [stopsOwed, List.foldl_append]
  rfl

def returns : Command → Bool
  | .finishStop _ => true
  | _ => false

/-- Each of the commands that are due returns before the next one is called. -/
def Paired : (inside : Bool) → List Command → Prop
  | inside, [] => inside = false
  | inside, command :: due =>
      inside = returns command ∧ Paired (callAfter inside command) due

theorem paired_closeSteps (engine : Engine) {due : List Command}
    (paired : Paired false due) : Paired false (closeSteps engine ++ due) :=
  ⟨rfl, rfl, rfl, rfl, paired⟩

theorem paired_flatMap {steps : MoonlightSession → List Command}
    (each : ∀ session, ∀ due, Paired false due →
      Paired false (steps session ++ due)) :
    ∀ sessions : List MoonlightSession, Paired false (sessions.flatMap steps)
  | [] => rfl
  | session :: rest => each session _ (paired_flatMap each rest)

theorem paired_closeAndDrop (session : MoonlightSession) {due : List Command}
    (paired : Paired false due) :
    Paired false (closeAndDropSteps session ++ due) := by
  rw [closeAndDropSteps, List.append_assoc]
  exact paired_closeSteps _ (paired_closeSteps _ paired)

/-- A call that has not returned has its return due. -/
theorem returns_of_paired {due : List Command} (paired : Paired true due) :
    0 < due.countP returns := by
  cases due with
  | nil => cases paired
  | cons command due =>
      have returned : returns command = true := paired.1.symm
      rw [List.countP_cons, if_pos returned]
      exact Nat.succ_pos _

namespace Main

open Sidecar

variable {libraries : Libraries} {before after : Phase} {event : Event sidecar}

theorem due_of_listens (listening : before.listens = true) :
    before.due = [] := by
  cases before with
  | opening => rfl
  | _ => exact due_of_atRest listening

theorem paired_dueFor {steps : MoonlightSession → List Command}
    (each : ∀ session, ∀ due, Paired false due →
      Paired false (steps session ++ due)) (removed : Option MoonlightSession) :
    Paired false (Phase.dueFor steps removed) := by
  cases removed with
  | none => rfl
  | some session => simpa [Phase.dueFor] using each session [] rfl

/-- The reader's calls stay paired with their returns. -/
theorem paired_step (next : Phase.Next libraries before event after)
    {inside : Bool} (paired : Paired inside before.due) :
    Paired (callAfter inside event.command) after.due := by
  cases next with
  | read listening =>
      rw [due_of_listens listening] at paired
      rw [due_heard listening]
      exact paired
  | greet | spawn | send | swap | exit => exact paired
  | look =>
      simp only [Phase.found]
      split
      · split <;> exact paired
      · exact paired
  | insert =>
      obtain rfl : inside = false := paired
      exact paired_dueFor (fun old _ => paired_closeSteps old.engine) _
  | remove =>
      obtain rfl : inside = false := paired
      exact paired_dueFor (fun old _ => paired_closeAndDrop old) _
  | serve | empty | leave => exact paired.2
  | drain =>
      obtain rfl : inside = false := paired
      exact paired_flatMap (fun old _ => paired_closeAndDrop old) _
  | dropRest | drop =>
      obtain rfl : inside = false := paired
      exact paired_flatMap (fun old _ => paired_closeSteps old.engine) _

/-- What the events say the reader owes is what is due. -/
theorem owed_step (next : Phase.Next libraries before event after)
    (due : ∀ command ∈ before.due, (closing command).isSome = true)
    (none : drainsSome event = false) :
    owedAfter (before.due.countP returns) event =
      after.due.countP returns := by
  have served : ∀ {command : Command} {rest : List Command}
      {reply : command.Reply}, (closing command).isSome = true →
      owedAfter ((command :: rest).countP returns) ⟨command, reply⟩ =
        rest.countP returns := by
    intro command rest reply closes
    rw [List.countP_cons]
    cases command with
    | finishStop | beginStop | clearSink | storeStop =>
        simp [owedAfter, returns]
    | _ => cases closes
  cases next with
  | read listening =>
      rw [due_of_listens listening, due_heard listening]
      rfl
  | greet | spawn | send | swap | exit => rfl
  | look =>
      simp only [Phase.found]
      split
      · split <;> rfl
      · rfl
  | @insert session value replaced => cases replaced <;> rfl
  | @remove session removed => cases removed <;> rfl
  | serve | empty | leave => exact served (due _ List.mem_cons_self)
  | @drain sessions | @dropRest sessions | @drop code sessions =>
      cases sessions with
      | nil => rfl
      | cons session rest => cases none

end Main

namespace Sidecar

section

variable {libraries : Libraries}

/-- The thread is inside `LiStartConnection` or `LiStopConnection`. -/
def inside (thread : Thread) (trace : (process libraries).Trace) : Bool :=
  insideCall (@Machine.eventsOf sidecar (process libraries) thread trace)

def Exclusive (trace : (process libraries).Trace) : Prop :=
  ∀ first second : Thread, inside first trace = true →
    inside second trace = true → first = second

/-- The reader took engines out of the map and has stops to make for them. -/
def closingDown (trace : (process libraries).Trace) : Bool :=
  (readerEvents trace).any drainsSome ||
    decide (0 < stopsOwed (readerEvents trace))

/-- The reader takes engines out of the map while no thread has set out for a
lifecycle call, and no thread sets out while the reader has stops to make. -/
def inTurn (past : (process libraries).Trace) :
    (process libraries).Happening → Bool
  | .ran .reader event => (takenOut event).isEmpty ||
      (startedEngines past).all fun engine =>
        !setOut (workerEvents engine past)
  | .ran (.worker runner) event => !closingDown past ||
      setOut (workerEvents runner past) ||
        !setOut (workerEvents runner past ++ [event])
  | .outside _ => true

variable {trace : (process libraries).Trace} {shared : Shared}
  {standing : Standing} {event : Event sidecar}

/-- The reader and the threads take turns. -/
structure Turns (trace : (process libraries).Trace) (standing : Standing) :
    Prop where
  lone : Lone reportedClosed trace
  paired : Paired (insideCall (readerEvents trace)) standing.reader.due
  owed : (readerEvents trace).any drainsSome = false →
    stopsOwed (readerEvents trace) = standing.reader.due.countP returns
  apart : closingDown trace = true → ∀ engine ∈ startedEngines trace,
    setOut (workerEvents engine trace) = false

/-- Nothing new is owed while the map keeps its engines. -/
theorem owed_of_nothing (nothing : takenOut event = []) (owed : Nat) :
    drainsSome event = false ∧ owedAfter owed event ≤ owed := by
  obtain ⟨command, reply⟩ := event
  cases command with
  | mapInsert | mapRemove =>
      obtain rfl := Option.toList_eq_nil_iff.mp nothing
      exact ⟨rfl, Nat.le_refl _⟩
  | mapDrain =>
      obtain rfl := nothing
      exact ⟨rfl, Nat.le_refl _⟩
  | finishStop => exact ⟨rfl, Nat.sub_le ..⟩
  | _ => exact ⟨rfl, Nat.le_refl _⟩

theorem closingDown_read
    (down : closingDown (trace ++ [.ran .reader event]) = true)
    (nothing : takenOut event = []) : closingDown trace = true := by
  obtain ⟨empty, fewer⟩ := owed_of_nothing nothing
    (stopsOwed (readerEvents trace))
  simp only [closingDown, readerEvents_read, stopsOwed_snoc, List.any_append,
    List.any_cons, List.any_nil, empty, Bool.or_false, Bool.or_eq_true,
    decide_eq_true_eq] at down ⊢
  exact down.imp_right fun some => Nat.lt_of_lt_of_le some fewer

theorem Turns.read {after : Main.Phase} {workers : Engine → Worker}
    (turns : Turns trace standing) (tracked : Tracked trace shared standing)
    (alone : oneLive trace (.ran .reader event) = true)
    (careful : inTurn trace (.ran .reader event) = true)
    (next : Main.Phase.Next libraries standing.reader event after)
    (possible : Possible .reader shared event) :
    Turns (trace ++ [.ran .reader event]) ⟨after, workers⟩ := by
  constructor
  · exact lone_read turns.lone alone
  · rw [readerEvents_read, insideCall_snoc]
    exact Main.paired_step next turns.paired
  · rw [readerEvents_read, List.any_append, Bool.or_eq_false_iff,
      stopsOwed_snoc]
    intro none
    rw [turns.owed none.1]
    exact Main.owed_step next tracked.due (by simpa using none.2)
  · intro down engine member
    rw [workerEvents_read]
    rw [startedEngines_read, List.mem_append, Option.mem_toList] at member
    rcases member with before | starts
    · by_cases nothing : takenOut event = []
      · exact turns.apart (closingDown_read down nothing) engine before
      · simp only [inTurn, List.isEmpty_eq_false_iff.mpr nothing,
          Bool.false_or, List.all_eq_true, Bool.not_eq_true'] at careful
        exact careful engine before
    · rw [(tracked.newcomer possible starts).2.2]
      rfl

theorem Turns.work {runner : Engine} {workers : Engine → Worker}
    (turns : Turns trace standing)
    (careful : inTurn trace (.ran (.worker runner) event) = true) :
    Turns (trace ++ [.ran (.worker runner) event])
      ⟨standing.reader, workers⟩ := by
  constructor
  · exact turns.lone.extend (fun _ => reportedClosed_append) readerEvents_work
  · rw [readerEvents_work]
    exact turns.paired
  · rw [readerEvents_work]
    exact turns.owed
  · simp only [closingDown, readerEvents_work, startedEngines_work]
    intro down engine member
    have apart := turns.apart down
    by_cases same : runner = engine
    · subst same
      rw [workerEvents_work]
      simp only [inTurn, closingDown, down, Bool.not_true, Bool.false_or,
        apart runner member, Bool.not_eq_true'] at careful
      exact careful
    · rw [workerEvents_other same]
      exact apart engine member

theorem Turns.call {seen : Seen} (turns : Turns trace standing) :
    Turns (trace ++ [.outside seen]) standing := by
  constructor
  · exact turns.lone.extend (fun _ => reportedClosed_append) readerEvents_call
  · rw [readerEvents_call]
    exact turns.paired
  · rw [readerEvents_call]
    exact turns.owed
  · simp only [closingDown, readerEvents_call, startedEngines_call,
      workerEvents_call]
    exact turns.apart

theorem turns_initial : Turns ([] : (process libraries).Trace) .initial where
  lone _ member := by cases member
  paired := rfl
  owed _ := rfl
  apart down := by cases down

/-- A thread inside a call was started, has set out for it, and is not over. -/
theorem Tracked.worker_inside (tracked : Tracked trace shared standing)
    {engine : Engine} (inside : inside (.worker engine) trace = true) :
    engine ∈ startedEngines trace ∧
      setOut (workerEvents engine trace) = true ∧
      (standing.workers engine).phase ≠ .closed := by
  have history := tracked.history engine
  generalize standing.workers engine = worker at history
  change insideCall (workerEvents engine trace) = true at inside
  cases history with
  | unborn idle silent =>
      rw [silent] at inside
      cases inside
  | born spawned path =>
      rw [(Worker.strides_of_path path).inside] at inside
      refine ⟨mem_startedEngines spawned,
        Worker.setOut_of_inside path inside, ?_⟩
      intro closed
      rw [closed] at inside
      cases inside

theorem Turns.exclusive (turns : Turns trace standing)
    (tracked : Tracked trace shared standing) : Exclusive trace := by
  have apart : ∀ engine, inside .reader trace = true →
      inside (.worker engine) trace = false := by
    intro engine reader
    by_contra worker
    obtain ⟨started, ahead, _⟩ :=
      tracked.worker_inside (Bool.not_eq_false _ ▸ worker)
    have paired := turns.paired
    change insideCall (readerEvents trace) = true at reader
    rw [reader] at paired
    have down : closingDown trace = true := by
      cases drained : (readerEvents trace).any drainsSome with
      | true => simp [closingDown, drained]
      | false =>
          simp [closingDown, turns.owed drained, returns_of_paired paired]
    rw [turns.apart down engine started] at ahead
    cases ahead
  intro first second one other
  cases first with
  | reader =>
      cases second with
      | reader => rfl
      | worker engine =>
          rw [apart engine one] at other
          cases other
  | worker engine =>
      cases second with
      | reader =>
          rw [apart engine other] at one
          cases one
      | worker engine' =>
          obtain ⟨started, _, stays⟩ := tracked.worker_inside one
          obtain ⟨started', _, stays'⟩ := tracked.worker_inside other
          rw [tracked.same_of_open turns.lone started started' stays stays']

/-- At every moment of a run with one session live in which the reader and the
threads take turns, at most one thread is inside a lifecycle call. -/
theorem calls_exclusive {config : (process libraries).Config}
    (run : Machine.Run (process.start libraries) trace config)
    (alone : Machine.Obeys (fun past next => oneLive past next = true) trace)
    (careful : Machine.Obeys (fun past next => inTurn past next = true)
      trace) : Exclusive trace := by
  have obeys : Machine.Obeys (fun past next =>
      oneLive past next = true ∧ inTurn past next = true) trace :=
    fun past next future split =>
      ⟨alone past next future split, careful past next future split⟩
  obtain ⟨standing, tracked, turns⟩ := tracked_invariant run _ obeys
    (fun trace _ standing => Turns trace standing) turns_initial
    (fun _ _ _ _ _ tracked turns rules next possible =>
      turns.read tracked rules.1 rules.2 next possible)
    (fun _ _ _ _ _ _ _ turns rules _ _ => turns.work rules.2)
    (fun _ _ _ _ _ turns _ _ => turns.call)
  exact turns.exclusive tracked

end

open SampleHost

/-- The close arrives while the engine's thread is inside
`LiStartConnection`. -/
theorem calls_overlap :
    ¬ ∀ {libraries : Libraries} {trace : (process libraries).Trace}
      {config : (process libraries).Config},
      Machine.Run (process.start libraries) trace config →
      Machine.Obeys (fun past next => oneLive past next = true) trace →
      Exclusive trace := by
  intro claim
  obtain ⟨trace, config, run, checked⟩ := Machine.exists_run_of_play
    (fun trace _ => Machine.checkAll oneLive [] trace &&
      (inside .reader trace && inside (.worker 0) trace))
    (show (Machine.play (greeting ++ connects (lit "1") ++
      (goesLive 0).take 15 ++ [sends close] ++ passes reader 2)
      (process.start libraries)).any _ = true by decide +kernel)
  simp only [Bool.and_eq_true] at checked
  obtain ⟨alone, first, second⟩ := checked
  have same := claim run (Machine.obeys_of_checkAll alone) _ _ first second
  cases same

/-- The reader closes a live session, and then its thread stops the stream
too. -/
theorem calls_exclusive_closed :
    ∃ trace : (process SampleHost.libraries).Trace,
      closeCalled 0 trace = true ∧ inside (.worker 0) trace = true ∧
        Exclusive trace := by
  obtain ⟨trace, config, run, checked⟩ := Machine.exists_run_of_play
    (fun trace _ => Machine.checkAll oneLive [] trace &&
      (Machine.checkAll inTurn [] trace && (closeCalled 0 trace &&
        inside (.worker 0) trace)))
    (show (Machine.play (greeting ++ connects (lit "1") ++ goesLive 0 ++
      [sends close] ++ passes reader 9 ++ passes (worker 0) 2)
      (process.start libraries)).any _ = true by decide +kernel)
  simp only [Bool.and_eq_true] at checked
  obtain ⟨alone, careful, called, worker⟩ := checked
  exact ⟨trace, called, worker, calls_exclusive run
    (Machine.obeys_of_checkAll alone) (Machine.obeys_of_checkAll careful)⟩

end Sidecar

end MoonlightAddon
