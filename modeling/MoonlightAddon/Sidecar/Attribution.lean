import MoonlightAddon.Sidecar.HostEnding
import MoonlightAddon.Sidecar.Pipeline
import MoonlightAddon.Sidecar.Routing
import MoonlightAddon.Worker.Reasons

/-!
# Whose end it was

A closing message tells the host why a session ended.  The reasons an engine
thread reads are process-wide: the flag of the termination callback and the
sender whose loss disconnects its channel.  With one session after another they
are its own, until the map is emptied: the first engine that is closed then
takes the sender of the one that is live.
-/

namespace MoonlightAddon

open NvHttp Session

namespace Sidecar

variable {libraries : Libraries}

/-! ### What the closing messages say -/

section Reports

/-- The discipline under which an engine thread remembers what it did. -/
def remembering (libraries : Libraries) : Thread → Typestate sidecar
  | .reader => mainThread libraries
  | .worker _ => reasons

def blank (libraries : Libraries) :
    (thread : Thread) → (remembering libraries thread).State
  | .reader => Main.Phase.opening
  | .worker _ => []

def done (libraries : Libraries) :
    (thread : Thread) → (remembering libraries thread).State → Prop
  | .reader => Main.final
  | .worker _ => fun _ => True

/-- A closing message of an engine thread is warranted by what it did. -/
def Reported (past : (process libraries).Trace) :
    (process libraries).Happening → Prop
  | .ran (.worker engine) event => Warranted (workerEvents engine past) event
  | _ => True

theorem warranted_of_suffix {known past : List (Event sidecar)}
    {event : Event sidecar} (warranted : Warranted known event)
    (suffix : known <:+ past) : Warranted past event := by
  obtain ⟨before, rfl⟩ := suffix
  obtain ⟨command, reply⟩ := event
  cases command with
  | control message =>
      cases message with
      | sessionClosed session error =>
          intro isProper
          rw [proper, List.all_append, Bool.and_eq_true] at isProper
          rw [List.any_append, List.any_append, Bool.or_eq_true,
            Bool.or_eq_true]
          exact (warranted isProper.2).imp (fun ends same => .inr (ends same))
            (fun ends same => .inr (ends same))
      | _ => trivial
  | _ => trivial

section Memories

variable (states : (thread : Thread) → (remembering libraries thread).State)

/-- What an engine thread remembers. -/
def memory (engine : Engine) : List (Event sidecar) :=
  states (.worker engine)

theorem memory_update (runner : Engine)
    (after : (remembering libraries (.worker runner)).State) :
    memory (Function.update states (.worker runner) after) runner = after :=
  Function.update_self ..

theorem memory_other {thread : Thread} {engine : Engine}
    (different : .worker engine ≠ thread)
    (after : (remembering libraries thread).State) :
    memory (Function.update states thread after) engine =
      memory states engine :=
  Function.update_of_ne different ..

/-- A thread that is started has done nothing yet. -/
theorem memory_assign (event : Event sidecar) (shared : Shared)
    (engine : Engine) :
    memory (@Machine.assign sidecar (process libraries) (remembering libraries)
      (fun _ _ => blank libraries) event shared states) engine =
        memory states engine ∨
    memory (@Machine.assign sidecar (process libraries) (remembering libraries)
      (fun _ _ => blank libraries) event shared states) engine = [] := by
  obtain ⟨command, reply⟩ := event
  cases command with
  | spawn session doc =>
      obtain ⟨child, _ | _⟩ := reply
      · exact .inl rfl
      · by_cases same : Thread.worker engine = .worker child
        · cases same
          exact .inr (Function.update_self ..)
        · exact .inl (Function.update_of_ne same ..)
  | _ => exact .inl rfl

/-- A thread remembers the last of its events. -/
theorem memory_ran {past : (process libraries).Trace} {thread : Thread}
    {event : Event sidecar} {after : (remembering libraries thread).State}
    (known : ∀ engine, memory states engine <:+ workerEvents engine past)
    (next : (remembering libraries thread).Next (states thread) event after)
    (engine : Engine) :
    memory (Function.update states thread after) engine <:+
      workerEvents engine (past ++ [.ran thread event]) := by
  by_cases same : Thread.worker engine = thread
  · subst same
    obtain ⟨before, remembered⟩ := known engine
    obtain ⟨_, appended⟩ := next
    rw [memory_update, workerEvents_work, appended]
    refine ⟨before, ?_⟩
    rw [← remembered, List.append_assoc]
    rfl
  · rw [memory_other _ same]
    have unchanged : workerEvents engine (past ++ [.ran thread event]) =
        workerEvents engine past := by
      cases thread with
      | reader => exact workerEvents_read
      | worker runner => exact workerEvents_other (by simpa using Ne.symm same)
    rw [unchanged]
    exact known engine

end Memories

theorem reports_warranted {trace : (process libraries).Trace}
    {config : (process libraries).Config}
    (run : Machine.Run (process.start libraries) trace config)
    (unassuming : libraries.openSsl.Unassuming) :
    Machine.Obeys Reported trace := by
  obtain ⟨states, held, _⟩ := @Machine.Run.invariant sidecar
    (process libraries) (remembering libraries)
    (fun _ _ => blank libraries) (done libraries) _ _ _ run
    (fun thread => by
      cases thread with
      | reader => exact Main.mainThread_sound
      | worker engine => exact Worker.reasons_sound libraries)
    (by
      rintro ⟨command, reply⟩ shared child program forked
      cases command with
      | spawn session doc =>
          obtain ⟨engine, _ | _⟩ := reply
          · cases forked
          · cases forked
            exact Worker.reasons_worker unassuming
      | _ => cases forked)
    (fun _ _ => True) (fun _ _ _ _ => trivial)
    (fun past _ states => Machine.Obeys Reported past ∧ ∀ engine,
      memory states engine <:+ workerEvents engine past)
    (blank libraries)
    (fun thread => by
      cases thread with
      | reader => exact Main.follows_main
      | worker engine => trivial)
    (by
      constructor
      · intro past next future split
        simp at split
      · intro engine
        exact List.nil_suffix)
    (fun past shared states thread event after held _ next _ => by
      constructor
      · apply held.1.snoc
        cases thread with
        | reader => trivial
        | worker runner => exact warranted_of_suffix next.1 (held.2 runner)
      · intro engine
        rcases memory_assign (Function.update states thread after) event shared
          engine with same | fresh
        · rw [same]
          exact memory_ran states held.2 next engine
        · rw [fresh]
          exact List.nil_suffix)
    (fun past shared states callback seen next held _ _ => by
      refine ⟨held.1.snoc trivial, fun engine => ?_⟩
      rw [workerEvents_call]
      exact held.2 engine)
  exact held.1

end Reports

/-! ### One session after another -/

section Rules

/-- The engine a connect made, whether or not its thread did start. -/
def connected : Event sidecar → Option Engine
  | ⟨.spawn _ _, (engine, _)⟩ => some engine
  | _ => none

/-- A later connect was processed. -/
def superseded (engine : Engine) (trace : (process libraries).Trace) : Bool :=
  (readerEvents trace).any fun event =>
    (connected event).any fun later => engine < later

/-- A connect is processed when the end of every earlier session was reported,
a Close when no later connect was, and the C core calls back only while it has
a connection. -/
def successive (past : (process libraries).Trace) :
    (process libraries).Happening → Bool
  | .ran .reader ⟨.spawn _ _, _⟩ => (startedEngines past).all fun other =>
      reportedClosed other past
  | .ran .reader ⟨.mapRemove _, removed⟩ => removed.all fun session =>
      !superseded session.engine past
  | .outside seen => seen.connection != .idle
  | _ => true

/-- No error text the code passes on unchanged is a reserved one. -/
def properReply : (process libraries).Happening → Bool
  | .ran _ event => (handedOn event).all fun error => !reserved error
  | .outside _ => true

def inSuccession (past : (process libraries).Trace)
    (next : (process libraries).Happening) : Bool :=
  successive past next && freshIds past next && properReply next

variable (trace : (process libraries).Trace)

/-- The map was emptied, at a shutdown or at the exit. -/
def drained : Bool :=
  (readerEvents trace).any isDrain

/-- An engine that was still in the map when it was emptied is being closed. -/
def sweeping : Bool :=
  ((readerEvents trace).dropWhile fun event => !isDrain event).any fun event =>
    (closing event.command).isSome

end Rules

section Sweeping

variable {trace : (process libraries).Trace} {event : Event sidecar}
  {happening : (process libraries).Happening} {engine : Engine}

theorem readerEvents_append (first second : (process libraries).Trace) :
    readerEvents (first ++ second) =
      readerEvents first ++ readerEvents second :=
  Machine.eventsOf_append ..

theorem drained_append (isDrained : drained trace = true) :
    drained (trace ++ [happening]) = true := by
  unfold drained at isDrained ⊢
  rw [readerEvents_append, List.any_append, isDrained, Bool.true_or]

theorem dropWhile_drained (isDrained : drained trace = true)
    (rest : List (Event sidecar)) :
    (readerEvents trace ++ rest).dropWhile (fun event => !isDrain event) =
      (readerEvents trace).dropWhile (fun event => !isDrain event) ++ rest := by
  rw [List.dropWhile_append, if_neg]
  intro empty
  obtain ⟨event, member, drains⟩ := List.any_eq_true.mp isDrained
  have passed := List.dropWhile_eq_nil_iff.mp (List.isEmpty_iff.mp empty) event
    member
  simp [drains] at passed

theorem drained_of_sweeping (isSweeping : sweeping trace = true) :
    drained trace = true := by
  by_contra undrained
  have passed : (readerEvents trace).dropWhile (fun event => !isDrain event) =
      [] := by
    simpa [drained] using undrained
  rw [sweeping, passed] at isSweeping
  cases isSweeping

theorem sweeping_append (isSweeping : sweeping trace = true) :
    sweeping (trace ++ [happening]) = true := by
  unfold sweeping
  rw [readerEvents_append, dropWhile_drained (drained_of_sweeping isSweeping),
    List.any_append]
  exact Bool.or_eq_true_iff.mpr (.inl isSweeping)

/-- A step of `close` after the map was emptied. -/
theorem sweeping_of_closing (isDrained : drained trace = true)
    (closes : closing event.command = some engine) :
    sweeping (trace ++ [.ran .reader event]) = true := by
  unfold sweeping
  rw [readerEvents_read, dropWhile_drained isDrained, List.any_append]
  simp [closes]

end Sweeping

section Succession

variable {trace : (process libraries).Trace} {shared : Shared}
  {standing : Standing} {event : Event sidecar}

/-- What a run of one session after another keeps. -/
structure Succeeding (trace : (process libraries).Trace) (shared : Shared)
    (standing : Standing) : Prop where
  mapped : Mapped trace shared standing.reader
  vacant : ∀ session value, standing.reader = .inserting session value →
    shared.sessions.lookup session = none
  numbered : ∀ event ∈ readerEvents trace, ∀ engine,
    connected event = some engine → engine < shared.engines
  last : ∀ engine ∈ startedEngines trace, superseded engine trace = true →
    reportedClosed engine trace = true
  due : ∀ command ∈ standing.reader.due, ∀ engine,
    closing command = some engine → drained trace = true ∨
      superseded engine trace = false ∧ ∃ session, MadeFor session engine trace
  linked : Linked standing.workers shared.connection

theorem succeeding_initial :
    Succeeding ([] : (process libraries).Trace) .initial .initial where
  mapped := mapped_initial
  vacant _ _ impossible := by cases impossible
  numbered _ member := by cases member
  last _ member := by cases member
  due _ member := by cases member
  linked := trivial

theorem superseded_of_made {session : UInt32} {engine later : Engine}
    (made : MadeFor session later trace) (less : engine < later) :
    superseded engine trace = true := by
  obtain ⟨doc, started, member⟩ := made
  exact List.any_eq_true.mpr ⟨_, member, by simpa [connected] using less⟩

theorem made_of_started {engine : Engine}
    (begun : engine ∈ startedEngines trace) :
    ∃ session, MadeFor session engine trace := by
  obtain ⟨event, member, starts⟩ := List.mem_filterMap.mp begun
  obtain ⟨command, reply⟩ := event
  cases command with
  | spawn session doc =>
      obtain ⟨number, _ | _⟩ := reply
      · cases starts
      · obtain rfl := Option.some.inj starts
        exact ⟨session, doc, true, member⟩
  | _ => cases starts

/-- Only the engine of the last connect may be open. -/
theorem Succeeding.lone (succeeding : Succeeding trace shared standing) :
    Lone reportedClosed trace := by
  intro first begun second begun'
  rcases Nat.lt_trichotomy first second with less | same | greater
  · obtain ⟨session, made⟩ := made_of_started begun'
    exact .inr (.inl
      (succeeding.last first begun (superseded_of_made made less)))
  · exact .inl same
  · obtain ⟨session, made⟩ := made_of_started begun
    exact .inr (.inr
      (succeeding.last second begun' (superseded_of_made made greater)))

/-- An engine that is closed before the map is emptied is the open one. -/
theorem Succeeding.same_of_closing
    (succeeding : Succeeding trace shared standing)
    (tracked : Tracked trace shared standing) {engine closed : Engine}
    (begun : engine ∈ startedEngines trace)
    (stays : (standing.workers engine).phase ≠ .closed)
    (current : superseded closed trace = false)
    (made : ∃ session, MadeFor session closed trace) : engine = closed := by
  obtain ⟨session, made⟩ := made
  rcases Nat.lt_trichotomy engine closed with less | same | greater
  · have closes := succeeding.last engine begun (superseded_of_made made less)
    exact absurd ((tracked.footing engine).closed.mp closes) stays
  · exact same
  · obtain ⟨other, made'⟩ := made_of_started begun
    rw [superseded_of_made made' greater] at current
    cases current

theorem superseded_read {engine : Engine} :
    superseded engine (trace ++ [.ran .reader event]) =
      (superseded engine trace ||
        (connected event).any fun later => engine < later) := by
  simp [superseded]

theorem connected_of_possible (possible : Possible .reader shared event)
    {engine : Engine} (connects : connected event = some engine) :
    engine = shared.engines ∧
      (effectOf .reader event shared).engines = shared.engines + 1 := by
  obtain ⟨command, reply⟩ := event
  obtain ⟨_, answer, replied⟩ := possible
  cases command with
  | spawn session doc =>
      cases answer with
      | spawned started =>
          obtain rfl := Option.some.inj replied
          exact ⟨(Option.some.inj connects).symm, rfl⟩
      | _ => cases replied
  | _ => cases connects

theorem closed_of_connected
    (careful : successive trace (.ran .reader event) = true) {number : Engine}
    (connects : connected event = some number) :
    ∀ other ∈ startedEngines trace, reportedClosed other trace = true := by
  obtain ⟨command, reply⟩ := event
  cases command with
  | spawn session doc => simpa [successive] using careful
  | _ => cases connects

theorem Succeeding.lt_of_superseded
    (succeeding : Succeeding trace shared standing) {engine : Engine}
    (later : superseded engine trace = true) : engine < shared.engines := by
  obtain ⟨event, member, later⟩ := List.any_eq_true.mp later
  obtain ⟨number, connects, less⟩ := (Option.any_eq_true ..).mp later
  exact Nat.lt_trans (of_decide_eq_true less)
    (succeeding.numbered event member number connects)

/-- No connect is processed while commands are due. -/
theorem Tracked.not_connected_of_due (tracked : Tracked trace shared standing)
    {after : Main.Phase} {command : Command}
    (next : Main.Phase.Next libraries standing.reader event after)
    (due : command ∈ after.due) : connected event = none := by
  have closes := tracked.due
  generalize standing.reader = before at next closes
  obtain ⟨issued, reply⟩ := event
  cases issued with
  | spawn session doc =>
      cases next with
      | spawn => cases due
      | serve | empty | leave => cases closes _ List.mem_cons_self
  | _ => rfl

/-- A session leaves the map while it is the last one connected, or because the
map is emptied. -/
theorem Succeeding.current_of_taken
    (succeeding : Succeeding trace shared standing)
    (tracked : Tracked trace shared standing)
    {after : Main.Phase} {session : MoonlightSession}
    (careful : successive trace (.ran .reader event) = true)
    (next : Main.Phase.Next libraries standing.reader event after)
    (possible : Possible .reader shared event)
    (taken : session ∈ takenOut event) :
    isDrain event = true ∨ superseded session.engine trace = false ∧
      ∃ id, MadeFor id session.engine trace := by
  obtain ⟨command, reply⟩ := event
  obtain ⟨_, answer, replied⟩ := possible
  cases command with
  | mapInsert id value =>
      cases answer with
      | nothing =>
          obtain rfl := Option.some.inj replied
          have vacant : shared.sessions.lookup id = none := by
            have closes := tracked.due
            generalize before_def : standing.reader = before at next closes
            cases next with
            | insert => exact succeeding.vacant id value before_def
            | serve | empty | leave => cases closes _ List.mem_cons_self
          simp [takenOut, vacant] at taken
      | _ => cases replied
  | mapRemove id =>
      cases answer with
      | nothing =>
          obtain rfl := Option.some.inj replied
          have found : shared.sessions.lookup id = some session :=
            Option.mem_toList.mp taken
          rw [successive, found] at careful
          exact .inr ⟨by simpa using careful, id,
            succeeding.mapped.entries id session found⟩
      | _ => cases replied
  | mapDrain => exact .inl rfl
  | _ => cases taken

theorem Succeeding.read {after : Main.Phase}
    (succeeding : Succeeding trace shared standing)
    (tracked : Tracked trace shared standing)
    (careful : successive trace (.ran .reader event) = true)
    (fresh : freshIds trace (.ran .reader event) = true)
    (next : Main.Phase.Next libraries standing.reader event after)
    (possible : Possible .reader shared event) :
    Succeeding (trace ++ [.ran .reader event]) (effectOf .reader event shared)
      ⟨after, started event standing.workers⟩ := by
  constructor
  · exact succeeding.mapped.read tracked next
  · rintro session value rfl
    obtain ⟨doc, started, rfl⟩ := spawn_of_inserting next
    change shared.sessions.lookup session = none
    rw [Option.eq_none_iff_forall_ne_some]
    intro held found
    obtain ⟨doc', started', member⟩ :=
      succeeding.mapped.entries session held found
    have used : (readerEvents trace).any (spawnsFor session) = true :=
      List.any_eq_true.mpr ⟨_, member, by simp [spawnsFor]⟩
    simp [freshIds, used] at fresh
  · intro happened member engine connects
    rw [readerEvents_read, List.mem_append, List.mem_singleton] at member
    rcases member with before | rfl
    · exact Nat.lt_of_lt_of_le
        (succeeding.numbered happened before engine connects)
        (effect_engines ..)
    · obtain ⟨rfl, grown⟩ := connected_of_possible possible connects
      rw [grown]
      exact Nat.lt_succ_self _
  · intro engine member later
    rw [startedEngines_read, List.mem_append, Option.mem_toList] at member
    rw [superseded_read, Bool.or_eq_true] at later
    apply reportedClosed_append
    rcases member with before | starts
    · rcases later with earlier | now
      · exact succeeding.last engine before earlier
      · obtain ⟨number, connects, _⟩ := (Option.any_eq_true ..).mp now
        exact closed_of_connected careful connects engine before
    · obtain ⟨session, doc, rfl, rfl⟩ := startedBy_of_possible possible starts
      rcases later with earlier | now
      · exact absurd (succeeding.lt_of_superseded earlier) (Nat.lt_irrefl _)
      · simp [connected] at now
  · intro command member engine closes
    rw [superseded_read, tracked.not_connected_of_due next member]
    rcases Main.due_step next command member with due | ⟨session, taken, same⟩
    · rcases succeeding.due command due engine closes with
        isDrained | ⟨current, id, made⟩
      · exact .inl (drained_append isDrained)
      · exact .inr ⟨by simp [current], id, made.extend⟩
    · obtain rfl := Option.some.inj (closes.symm.trans same)
      rcases succeeding.current_of_taken tracked careful next possible taken
        with drains | ⟨current, id, made⟩
      · left
        simp [drained, drains]
      · exact .inr ⟨by simp [current], id, made.extend⟩
  · exact succeeding.linked.read tracked next possible

/-- What happens elsewhere leaves the order of the sessions alone. -/
theorem Succeeding.extend {happening : (process libraries).Happening}
    {after : Shared} {workers : Engine → Worker}
    (succeeding : Succeeding trace shared standing)
    (mapped : Mapped (trace ++ [happening]) after standing.reader)
    (same : readerEvents (trace ++ [happening]) = readerEvents trace)
    (sessions : after.sessions = shared.sessions)
    (engines : shared.engines ≤ after.engines)
    (linked : Linked workers after.connection) :
    Succeeding (trace ++ [happening]) after ⟨standing.reader, workers⟩ := by
  have later (engine : Engine) : superseded engine (trace ++ [happening]) =
      superseded engine trace := by
    rw [superseded, same]
    rfl
  constructor
  · exact mapped
  · rw [sessions]
    exact succeeding.vacant
  · rw [same]
    intro event member engine connects
    exact Nat.lt_of_lt_of_le
      (succeeding.numbered event member engine connects) engines
  · intro engine member isLater
    rw [startedEngines, same] at member
    rw [later] at isLater
    exact reportedClosed_append (succeeding.last engine member isLater)
  · intro command member engine closes
    rw [later]
    exact (succeeding.due command member engine closes).imp drained_append
      (And.imp_right (Exists.imp fun _ => MadeFor.extend))
  · exact linked

theorem Succeeding.work {runner : Engine} {after : Worker}
    (succeeding : Succeeding trace shared standing)
    (next : Worker.Next (standing.workers runner) event after) :
    Succeeding (trace ++ [.ran (.worker runner) event])
      (effectOf (.worker runner) event shared)
      ⟨standing.reader, Function.update standing.workers runner after⟩ :=
  succeeding.extend (succeeding.mapped.work next) readerEvents_work
    (effect_sessions _ (remaps_of_work next) shared) (effect_engines ..)
    (succeeding.linked.work next)

theorem Succeeding.call (succeeding : Succeeding trace shared standing)
    (callback : Callback) :
    Succeeding (trace ++ [.outside (callBack callback shared).1])
      (callBack callback shared).2 standing := by
  apply succeeding.extend (succeeding.mapped.call callback) readerEvents_call
    (callBack_sessions callback shared)
  · obtain ⟨_, _, _, same⟩ := callBack_frame callback shared
    rw [same]
  · rw [callBack_connection]
    exact succeeding.linked

end Succession

/-! ### The reasons are the thread's own -/

end Sidecar

namespace Phase

/-- From the reset of `TERMINATED` until the thread leaves its loop. -/
def primed : Phase → Bool
  | .armed => true
  | phase => phase.dialled

theorem attached_of_primed {phase : Phase} (primed : phase.primed = true) :
    phase.attached = true := by
  cases phase <;> first | rfl | cases primed

theorem open_of_attached {phase : Phase} (attached : phase.attached = true) :
    phase ≠ .closed ∧ phase ≠ .absent := by
  cases phase with
  | absent | closed => cases attached
  | _ => simp

variable {session : UInt32} {doc : MoonlightConnectDoc}
  {before after : Phase} {event : Event sidecar}

/-- A flag that is up was up before, and the thread was past its reset. -/
theorem raised_of_next {engine : Engine} {shared : Sidecar.Shared}
    (next : Next session doc before event after) (primed : after.primed = true)
    (raised : (Sidecar.effectOf (.worker engine) event shared).terminated =
      true) : before.primed = true ∧ shared.terminated = true := by
  cases next with
  | arm => cases raised
  | quiet quiet => cases routine_of_quiet quiet <;> exact ⟨primed, raised⟩
  | runtime settled | noRuntime settled =>
      obtain rfl | rfl := settled <;> cases primed
  | proceed due | stopEarly due => obtain rfl | rfl := due <;> cases primed
  | _ => first | exact ⟨rfl, raised⟩ | cases primed

/-- How a thread comes to an end that it has to explain. -/
theorem explains_step (next : Next session doc before event after) :
    (excused event = true → event = ⟨.loadStop, true⟩ ∨
      (event = ⟨.receive, .disconnected⟩ ∧ before.attached = true)) ∧
    (readsTerminated event = true →
      event = ⟨.loadTerminated, true⟩ ∧ before.primed = true) := by
  cases next with
  | stop | stopEarly due =>
      exact ⟨fun _ => .inl rfl, fun impossible => by cases impossible⟩
  | disconnected =>
      exact ⟨fun _ => .inr ⟨rfl, rfl⟩, fun impossible => by cases impossible⟩
  | terminated =>
      exact ⟨(fun impossible => by cases impossible), fun _ => ⟨rfl, rfl⟩⟩
  | quiet quiet =>
      cases routine_of_quiet quiet <;> constructor <;> intro impossible <;>
        cases impossible
  | _ => constructor <;> intro impossible <;> cases impossible

end Phase

namespace Sidecar

section Attribution

variable {libraries : Libraries} {trace : (process libraries).Trace}
  {shared : Shared}
  {standing : Standing} {event : Event sidecar} {engine : Engine}

/-- `close` was called on the engine, or on another one while the map was being
emptied. -/
def closedBy (engine : Engine) (trace : (process libraries).Trace) : Bool :=
  closeCalled engine trace || sweeping trace

/-- What an engine's thread reads about the end of its session is about its own
session. -/
structure Attributed (engine : Engine) (trace : (process libraries).Trace)
    (shared : Shared) (phase : Phase) : Prop where
  attached : closedBy engine trace = false → phase.attached = true →
    shared.videoSink = some engine
  raised : phase.primed = true → shared.terminated = true →
    terminatedByHost engine trace = true
  excuses : (workerEvents engine trace).any excused = true →
    closedBy engine trace = true
  reads : (workerEvents engine trace).any readsTerminated = true →
    terminatedByHost engine trace = true

theorem closedBy_append {happening : (process libraries).Happening}
    (closed : closedBy engine trace = true) :
    closedBy engine (trace ++ [happening]) = true := by
  rw [closedBy, Bool.or_eq_true] at closed ⊢
  apply closed.imp _ sweeping_append
  intro called
  rw [closeCalled_snoc, called, Bool.true_or]

theorem attributed_initial (engine : Engine) :
    Attributed engine ([] : (process libraries).Trace) .initial .absent where
  attached _ impossible := by cases impossible
  raised impossible := by cases impossible
  excuses impossible := by cases impossible
  reads impossible := by cases impossible

/-- What others do keeps the attribution of an engine's reasons. -/
theorem Attributed.extend {phase : Phase}
    {happening : (process libraries).Happening} {after : Shared}
    (attributed : Attributed engine trace shared phase)
    (own : workerEvents engine (trace ++ [happening]) = workerEvents engine trace)
    (sink : closedBy engine (trace ++ [happening]) = false →
      phase.attached = true → after.videoSink = shared.videoSink)
    (raised : phase.primed = true → after.terminated = true →
      terminatedByHost engine (trace ++ [happening]) = true) :
    Attributed engine (trace ++ [happening]) after phase := by
  constructor
  · intro unclosed attached
    rw [sink unclosed attached]
    apply attributed.attached _ attached
    by_contra closed
    rw [closedBy_append (Bool.not_eq_false _ ▸ closed)] at unclosed
    cases unclosed
  · exact raised
  · rw [own]
    exact fun excuses => closedBy_append (attributed.excuses excuses)
  · rw [own]
    exact fun reads => terminatedByHost_append (attributed.reads reads)

/-- The engine's own thread moves. -/
theorem Attributed.move {after : Worker}
    (attributed : Attributed engine trace shared
      (standing.workers engine).phase)
    (tracked : Tracked trace shared standing)
    (next : Worker.Next (standing.workers engine) event after)
    (possible : Possible (.worker engine) shared event) :
    Attributed engine (trace ++ [.ran (.worker engine) event])
      (effectOf (.worker engine) event shared) after.phase := by
  have closed : closedBy engine (trace ++ [.ran (.worker engine) event]) =
      closedBy engine trace := by
    rw [closedBy, closeCalled_work, sweeping, readerEvents_work]
    rfl
  generalize standing.workers engine = worker at attributed next
  obtain @⟨session, doc, before, after, event, next⟩ := next
  obtain ⟨excuse, read⟩ := Phase.explains_step next
  constructor
  · intro unclosed attached
    rw [closed] at unclosed
    exact sink_of_next next attached (attributed.attached unclosed)
  · intro primed raised
    rw [terminatedByHost_ran]
    obtain ⟨primed, raised⟩ := Phase.raised_of_next next primed raised
    exact attributed.raised primed raised
  · rw [closed, workerEvents_work, List.any_append, Bool.or_eq_true]
    rintro (earlier | now)
    · exact attributed.excuses earlier
    · rcases excuse (by simpa using now) with rfl | ⟨rfl, attached⟩
      · rw [closedBy, closeCalled_of_stop tracked (stop_of_read possible),
          Bool.true_or]
      · by_contra unclosed
        rw [Bool.not_eq_true] at unclosed
        exact connected_of_sink possible
          (attributed.attached unclosed attached) rfl
  · rw [terminatedByHost_ran, workerEvents_work, List.any_append,
      Bool.or_eq_true]
    rintro (earlier | now)
    · exact attributed.reads earlier
    · obtain ⟨rfl, primed⟩ := read (by simpa using now)
      exact attributed.raised primed (raised_of_read possible)

theorem Attributed.work {runner : Engine} {after : Worker}
    (attributed : Attributed engine trace shared
      (standing.workers engine).phase)
    (succeeding : Succeeding trace shared standing)
    (tracked : Tracked trace shared standing)
    (next : Worker.Next (standing.workers runner) event after)
    (possible : Possible (.worker runner) shared event) :
    Attributed engine (trace ++ [.ran (.worker runner) event])
      (effectOf (.worker runner) event shared)
      (Function.update standing.workers runner after engine).phase := by
  by_cases same : engine = runner
  · subst same
    rw [Function.update_self]
    exact attributed.move tracked next possible
  · rw [Function.update_of_ne same]
    -- Two threads at work would be two open engines.
    have detached : (standing.workers engine).phase.attached = false := by
      by_contra attached
      obtain ⟨stays, present⟩ :=
        Phase.open_of_attached (Bool.not_eq_false _ ▸ attached)
      exact same (tracked.same_of_open succeeding.lone
        (tracked.started_of_present present) (tracked.started_of_next next)
        stays (open_of_work next))
    apply attributed.extend (workerEvents_other (Ne.symm same))
    · intro _ attached
      rw [detached] at attached
      cases attached
    · intro primed
      rw [Phase.attached_of_primed primed] at detached
      cases detached

/-- While an engine's sender is installed, a step of `close` is for it, or one
that follows the emptying of the map. -/
theorem Succeeding.closedBy_of_closing
    (succeeding : Succeeding trace shared standing)
    (tracked : Tracked trace shared standing)
    {after : Main.Phase} {closed : Engine}
    (next : Main.Phase.Next libraries standing.reader event after)
    (attached : (standing.workers engine).phase.attached = true)
    (closing : closing event.command = some closed) :
    closedBy engine (trace ++ [.ran .reader event]) = true := by
  rw [closedBy, Bool.or_eq_true]
  obtain ⟨stays, present⟩ := Phase.open_of_attached attached
  rcases succeeding.due _ (Main.due_of_closing next closing) closed closing
    with isDrained | ⟨current, made⟩
  · exact .inr (sweeping_of_closing isDrained closing)
  · obtain rfl := succeeding.same_of_closing tracked
      (tracked.started_of_present present) stays current made
    left
    rw [closeCalled_snoc]
    simp [closes, closing]

theorem Attributed.read {after : Main.Phase}
    (attributed : Attributed engine trace shared
      (standing.workers engine).phase)
    (succeeding : Succeeding trace shared standing)
    (tracked : Tracked trace shared standing)
    (next : Main.Phase.Next libraries standing.reader event after)
    (possible : Possible .reader shared event) :
    Attributed engine (trace ++ [.ran .reader event])
      (effectOf .reader event shared)
      (started event standing.workers engine).phase := by
  by_cases starts : startedBy event = some engine
  · obtain ⟨_, _, silent⟩ := tracked.newcomer possible starts
    obtain ⟨session, doc, rfl, rfl⟩ := startedBy_of_possible possible starts
    rw [started_spawn]
    constructor
    · intro _ impossible
      cases impossible
    · intro impossible
      cases impossible
    · rw [workerEvents_read, silent]
      intro impossible
      cases impossible
    · rw [workerEvents_read, silent]
      intro impossible
      cases impossible
  · rw [started_other _ starts]
    have own := Main.readerOnly_of_next next tracked.due
    apply attributed.extend workerEvents_read
    · intro unclosed attached
      have unclosing : closing event.command = none := by
        rw [Option.eq_none_iff_forall_ne_some]
        intro closed closes
        rw [succeeding.closedBy_of_closing tracked next attached closes]
          at unclosed
        cases unclosed
      obtain ⟨command, reply⟩ := event
      cases command with
      | clearSink caller =>
          cases caller with
          | worker => cases own
          | closing closed => cases unclosing
      | storeSink | storeTerminated => cases own
      | _ => rfl
    · intro primed raised
      apply terminatedByHost_append
      apply attributed.raised primed
      obtain ⟨command, reply⟩ := event
      cases command with
      | storeTerminated => cases own
      | _ => exact raised

theorem Attributed.call
    (attributed : Attributed engine trace shared
      (standing.workers engine).phase)
    (succeeding : Succeeding trace shared standing)
    (tracked : Tracked trace shared standing) (callback : Callback)
    (careful : successive trace (.outside (callBack callback shared).1) =
      true) :
    Attributed engine (trace ++ [.outside (callBack callback shared).1])
      (callBack callback shared).2 (standing.workers engine).phase := by
  apply attributed.extend workerEvents_call
  · exact fun _ _ => (callBack_keeps callback shared).1
  · intro primed raised
    cases callback with
    | setup => exact terminatedByHost_append (attributed.raised primed raised)
    | submit unit =>
        apply terminatedByHost_append
        apply attributed.raised primed
        simp only [callBack] at raised
        split at raised
        · exact raised
        · exact raised
    | terminated =>
        -- The callback comes from the connection of the engine at work.
        have up : shared.connection ≠ .idle := by
          simpa [successive, callBack, Seen.connection] using careful
        obtain ⟨owner, owns, holds, dialled⟩ := succeeding.linked.holder up
        have present' : (standing.workers owner).phase ≠ .absent := by
          intro absent
          rw [absent] at dialled
          cases dialled
        obtain ⟨stays, present⟩ :=
          Phase.open_of_attached (Phase.attached_of_primed primed)
        obtain rfl := tracked.same_of_open succeeding.lone
          (tracked.started_of_present present)
          (tracked.started_of_present present') stays
          (Phase.open_of_holds holds)
        simp [terminatedByHost, callBack, owns]

/-- What a thread did about its end is attributed by the time of each of its
steps. -/
def Accounted (past : (process libraries).Trace) :
    (process libraries).Happening → Prop
  | .ran (.worker engine) _ =>
      ((workerEvents engine past).any excused = true →
        closedBy engine past = true) ∧
      ((workerEvents engine past).any readsTerminated = true →
        terminatedByHost engine past = true)
  | _ => True

theorem attributed_of_run {config : (process libraries).Config}
    (run : Machine.Run (process.start libraries) trace config)
    (careful : Machine.Obeys (fun past next => inSuccession past next = true)
      trace) :
    Machine.Obeys Accounted trace ∧ ∀ engine, ∃ phase,
      Attributed engine trace config.shared phase := by
  obtain ⟨standing, _, _, attributed, accounted⟩ := tracked_invariant run _
    careful
    (fun trace shared standing => Succeeding trace shared standing ∧
      (∀ engine, Attributed engine trace shared
        (standing.workers engine).phase) ∧
      Machine.Obeys Accounted trace)
    ⟨succeeding_initial, attributed_initial,
      fun past next future split => by simp at split⟩
    (fun past shared standing event after tracked held careful next
        possible => by
      obtain ⟨succeeding, attributed, accounted⟩ := held
      simp only [inSuccession, Bool.and_eq_true] at careful
      exact ⟨succeeding.read tracked careful.1.1 careful.1.2 next possible,
        fun engine => (attributed engine).read succeeding tracked next possible,
        accounted.snoc trivial⟩)
    (fun past shared standing runner event after tracked held careful next
        possible => by
      obtain ⟨succeeding, attributed, accounted⟩ := held
      exact ⟨succeeding.work next,
        fun engine => (attributed engine).work succeeding tracked next possible,
        accounted.snoc
          ⟨(attributed runner).excuses, (attributed runner).reads⟩⟩)
    (fun past shared standing callback tracked held careful running => by
      obtain ⟨succeeding, attributed, accounted⟩ := held
      simp only [inSuccession, Bool.and_eq_true] at careful
      exact ⟨succeeding.call callback,
        fun engine => (attributed engine).call succeeding tracked callback
          careful.1.1,
        accounted.snoc trivial⟩)
  exact ⟨accounted, fun engine => ⟨_, attributed engine⟩⟩

theorem proper_workerEvents
    (careful : Machine.Obeys (fun past next => inSuccession past next = true)
      trace) (engine : Engine) : proper (workerEvents engine trace) = true := by
  rw [proper, List.all_eq_true]
  intro event member
  obtain ⟨past, ruled⟩ := careful.of_mem (Machine.mem_of_mem_eventsOf member)
  simp only [inSuccession, Bool.and_eq_true] at ruled
  exact ruled.2

/-- The attribution of session ends: with one session after another, a thread
closes without an error only if `close` was called on its engine, or on another
one while the map was being emptied; and for its host only if the termination
callback of its own connection came. -/
theorem ends_attributed {config : (process libraries).Config}
    (run : Machine.Run (process.start libraries) trace config)
    (unassuming : libraries.openSsl.Unassuming)
    (careful : Machine.Obeys (fun past next => inSuccession past next = true)
      trace) :
    (∀ past future engine session error reply,
      trace = past ++ .ran (.worker engine)
        ⟨.control (.sessionClosed session error), reply⟩ :: future →
      (error = none →
        closeCalled engine past = true ∨ sweeping past = true) ∧
      (error = some hostTerminated →
        terminatedByHost engine past = true)) ∧
    ∀ engine,
      ((workerEvents engine trace).any excused = true →
        closeCalled engine trace = true ∨ sweeping trace = true) ∧
      ((workerEvents engine trace).any readsTerminated = true →
        terminatedByHost engine trace = true) := by
  obtain ⟨accounted, attributed⟩ := attributed_of_run run careful
  constructor
  · intro past future engine session error reply split
    have warranted : Warranted (workerEvents engine past)
        ⟨.control (.sessionClosed session error), reply⟩ :=
      reports_warranted run unassuming past _ future split
    obtain ⟨excuses, reads⟩ := accounted past _ future split
    rw [split] at careful
    obtain ⟨quiet, ended⟩ :=
      warranted (proper_workerEvents careful.of_append engine)
    exact ⟨fun clean => Bool.or_eq_true_iff.mp (excuses (quiet clean)),
      fun host => reads (ended host)⟩
  · intro engine
    obtain ⟨phase, attributed⟩ := attributed engine
    exact ⟨fun excuses => Bool.or_eq_true_iff.mp (attributed.excuses excuses),
      attributed.reads⟩

end Attribution

open SampleHost

/-- The closing message of an engine's thread. -/
def reportsEnd (engine : Engine) :
    (process SampleHost.libraries).Happening → Option (Option Text)
  | .ran (.worker runner) ⟨.control (.sessionClosed _ error), _⟩ =>
      if runner = engine then some error else none
  | _ => none

theorem eq_of_reportsEnd {engine : Engine}
    {happening : (process SampleHost.libraries).Happening}
    {error : Option Text} (reports : reportsEnd engine happening = some error) :
    ∃ session reply, happening = .ran (.worker engine)
      ⟨.control (.sessionClosed session error), reply⟩ := by
  match happening with
  | .ran (.worker runner) ⟨.control (.sessionClosed session found), reply⟩ =>
      simp only [reportsEnd] at reports
      split at reports
      · rename_i same
        subst same
        obtain rfl := Option.some.inj reports
        exact ⟨session, reply, rfl⟩
      · cases reports

theorem SampleHost.unassuming : libraries.openSsl.Unassuming where
  verifierUpdate _ _ _ failed := by cases failed
  verify _ _ _ _ failed := by cases failed
  signerUpdate _ _ _ failed := by cases failed
  sign _ _ _ failed := by cases failed

/-- From the frame loop to the closing message, without the last step. -/
def SampleHost.leaves (engine : Engine) (turn : Nat) : List Move :=
  passes (worker engine) (turn + 3) ++ [draws engine 16,
    answers engine "<r status_code=\"200\"><cancel>1</cancel></r>"]

/-- The first session ended on its own and is closed first at the shutdown; the
second one loses its sender before its own close is called. -/
theorem closed_before_close :
    ¬ ∀ {libraries : Libraries} {trace : (process libraries).Trace}
      {config : (process libraries).Config},
      Machine.Run (process.start libraries) trace config →
      libraries.openSsl.Unassuming →
      Machine.Obeys (fun past next => inSuccession past next = true) trace →
      ∀ past future engine session reply,
        trace = past ++ .ran (.worker engine)
          ⟨.control (.sessionClosed session none), reply⟩ :: future →
        closeCalled engine past = true := by
  intro claim
  obtain ⟨past, config, happening, after, run, stepped, checked⟩ :=
    Machine.exists_step_of_play (worker 1 (.result (.ok ())))
      (fun past _ happening _ =>
        Machine.checkAll inSuccession [] (past ++ [happening]) &&
          (!closeCalled 1 past && (reportsEnd 1 happening == some none)))
      (show (Machine.play (greeting ++ connects (lit "1") ++ goesLive 0 ++
        terminates 0 ++ connects (lit "2") ++ goesLive 1 ++ [sends shutdown,
          reader (.order [⟨0, 1920, 1080⟩, ⟨1, 1920, 1080⟩])] ++
        passes reader 3 ++ leaves 1 3) (process.start libraries)).any _ =
        true by decide +kernel)
  simp only [Bool.and_eq_true, beq_iff_eq, Bool.not_eq_true'] at checked
  obtain ⟨careful, uncalled, reports⟩ := checked
  obtain ⟨session, reply, rfl⟩ := eq_of_reportsEnd reports
  rw [claim (run.snoc stepped) unassuming (Machine.obeys_of_checkAll careful)
    past [] 1 session reply rfl] at uncalled
  cases uncalled

/-- A live session is closed and ends without an error. -/
theorem ends_attributed_closed :
    ∃ (past : (process SampleHost.libraries).Trace)
      (happening : (process SampleHost.libraries).Happening),
      reportsEnd 0 happening = some none ∧
        (closeCalled 0 past = true ∨ sweeping past = true) := by
  obtain ⟨past, config, happening, after, run, stepped, checked⟩ :=
    Machine.exists_step_of_play (worker 0 (.result (.ok ())))
      (fun past _ happening _ =>
        Machine.checkAll inSuccession [] (past ++ [happening]) &&
          (reportsEnd 0 happening == some none))
      (show (Machine.play (greeting ++ connects (lit "1") ++ goesLive 0 ++
        [sends close] ++ passes reader 9 ++ leaves 0 1)
        (process.start libraries)).any _ = true by decide +kernel)
  simp only [Bool.and_eq_true, beq_iff_eq] at checked
  obtain ⟨careful, reports⟩ := checked
  obtain ⟨session, reply, rfl⟩ := eq_of_reportsEnd reports
  have attributed := (ends_attributed (run.snoc stepped) unassuming
    (Machine.obeys_of_checkAll careful)).1 past [] 0 session none reply rfl
  exact ⟨past, _, reports, attributed.1 rfl⟩

end Sidecar

end MoonlightAddon
