import MoonlightAddon.Sidecar.Runs
import MoonlightAddon.Worker.Footing

/-!
# What the trace remembers

The facts every result about the process starts from: an engine's events are a
path of its phases since it was started, its stop flag is set exactly when the
trace says so, and the reader only takes down engines that left the map.
-/

namespace MoonlightAddon

namespace Sidecar

/-- The engine a step of `close` is for. -/
def closing : Command → Option Engine
  | .beginStop (.closing engine) | .finishStop (.closing engine)
  | .clearSink (.closing engine) | .storeStop engine => some engine
  | _ => none

/-- The commands that only the reader thread issues. -/
def readerOnly : Command → Bool
  | .readMessage | .spawn _ _ | .mapInsert _ _ | .mapRemove _ | .mapGet _
  | .mapDrain | .swapButtons _ _ | .liSend _ _ | .exit _
  | .control (.ready _ _) => true
  | command => (closing command).isSome

/-- The sessions an event takes out of the map. -/
def takenOut : Event sidecar → List MoonlightSession
  | ⟨.mapInsert _ _, replaced⟩ => replaced.toList
  | ⟨.mapRemove _, removed⟩ => removed.toList
  | ⟨.mapDrain, sessions⟩ => sessions
  | _ => []

/-- The engine a spawn started. -/
def startedBy : Event sidecar → Option Engine
  | ⟨.spawn _ _, (engine, true)⟩ => some engine
  | _ => none

def isStoreStop (engine : Engine) : Event sidecar → Bool
  | ⟨.storeStop stopped, _⟩ => stopped == engine
  | _ => false

section Commands

theorem closing_of_mem {engine : Engine} {command : Command}
    (member : command ∈ closeSteps engine) : closing command = some engine := by
  simp only [closeSteps, List.mem_cons, List.not_mem_nil, or_false] at member
  rcases member with rfl | rfl | rfl | rfl <;> rfl

theorem closing_of_mem_both {session : MoonlightSession} {command : Command}
    (member : command ∈ closeAndDropSteps session) :
    closing command = some session.engine := by
  rcases List.mem_append.mp member with member | member
  · exact closing_of_mem member
  · exact closing_of_mem member

theorem readerOnly_of_closing {command : Command} {engine : Engine}
    (closes : closing command = some engine) : readerOnly command = true := by
  cases command with
  | beginStop caller | finishStop caller | clearSink caller =>
      cases caller with
      | worker => cases closes
      | closing engine => rfl
  | storeStop engine => rfl
  | _ => cases closes

/-- No engine thread issues a command of the reader. -/
theorem not_readerOnly_of_next {session : UInt32} {doc : MoonlightConnectDoc}
    {before after : Phase} {event : Event sidecar}
    (next : Phase.Next session doc before event after) :
    readerOnly event.command = false := by
  cases next with
  | quiet quiet =>
      cases Phase.routine_of_quiet quiet <;> rfl
  | _ => rfl

theorem not_readerOnly_of_work {worker after : Worker} {event : Event sidecar}
    (next : Worker.Next worker event after) :
    readerOnly event.command = false := by
  cases next with
  | mk next => exact not_readerOnly_of_next next

end Commands

end Sidecar

namespace Main

open Sidecar

/-- The commands still due for engines that left the map. -/
def Phase.due : Phase → List Command
  | .serving due | .emptying due | .leaving due _ => due
  | _ => []

variable {libraries : Libraries} {before after : Phase} {event : Event sidecar}

theorem due_of_atRest (rest : before.atRest = true) : before.due = [] := by
  cases before with
  | serving due =>
      cases due with
      | nil => rfl
      | cons command due => cases rest
  | sending engine => rfl
  | _ => cases rest

/-- Where a message may take a listening phase. -/
inductive Turn (before : Phase) : Phase → Prop where
  | stay : Turn before before
  | accept : Turn before .greeting
  | ignore : Turn before (.serving [])
  | connect {session : UInt32} {doc : MoonlightConnectDoc} :
      Turn before (.connecting session doc)
  | look {session : UInt32} {input : RemoteInput} :
      Turn before (.looking session input)
  | remove {session : UInt32} : Turn before (.removing session)
  | finish : Turn before .ended
  | quit {code : Nat} : Turn before (.dropping code)

theorem turn_onMessage (before : Phase) (message : Proto.HostMsg) :
    Turn before (before.onMessage message) := by
  have later : Turn before (Phase.handling message) := by
    cases message with
    | hello | resize | frameAck => exact .ignore
    | connect => exact .connect
    | input => exact .look
    | close => exact .remove
    | shutdown => exact .finish
  cases before with
  | opening =>
      cases message with
      | hello abi version =>
          simp only [Phase.onMessage, Phase.opened]
          split
          · exact .quit
          · exact .accept
      | _ => exact .quit
  | _ => exact later

theorem turn_heard (before : Phase)
    (reply : Except Text (Option (UInt8 × Bytes))) :
    Turn before (before.heard libraries reply) := by
  match reply with
  | .error error => exact .quit
  | .ok none => cases before <;> first | exact .quit | exact .finish
  | .ok (some (kind, payload)) =>
      simp only [Phase.heard]
      split
      · exact .stay
      · split
        · exact turn_onMessage before _
        · exact .quit

theorem due_heard (listening : before.listens = true)
    (reply : Except Text (Option (UInt8 × Bytes))) :
    (before.heard libraries reply).due = [] := by
  have turn := @turn_heard libraries before reply
  generalize before.heard libraries reply = after at turn ⊢
  cases turn with
  | stay =>
      cases before with
      | opening => rfl
      | _ => exact due_of_atRest listening
  | _ => rfl

/-- A command falls due only for a session that leaves the map. -/
theorem due_step (next : Phase.Next libraries before event after) :
    ∀ command ∈ after.due, command ∈ before.due ∨
      ∃ session ∈ takenOut event, closing command = some session.engine := by
  intro command member
  cases next with
  | read listening =>
      rw [due_heard listening] at member
      cases member
  | greet | spawn | send | swap | exit => cases member
  | look =>
      simp only [Phase.found] at member
      split at member
      · split at member <;> cases member
      · cases member
  | @insert session value replaced =>
      cases replaced with
      | none => cases member
      | some old =>
          exact .inr ⟨old, by simp [takenOut], closing_of_mem member⟩
  | @remove session removed =>
      cases removed with
      | none => cases member
      | some old =>
          exact .inr ⟨old, by simp [takenOut], closing_of_mem_both member⟩
  | serve | empty | leave => exact .inl (List.mem_cons_of_mem _ member)
  | drain =>
      obtain ⟨old, taken, step⟩ := List.mem_flatMap.mp member
      exact .inr ⟨old, taken, closing_of_mem_both step⟩
  | dropRest | drop =>
      obtain ⟨old, taken, step⟩ := List.mem_flatMap.mp member
      exact .inr ⟨old, taken, closing_of_mem step⟩

/-- A step of `close` was due. -/
theorem due_of_closing (next : Phase.Next libraries before event after)
    {engine : Engine} (closes : closing event.command = some engine) :
    event.command ∈ before.due := by
  cases next with
  | serve | empty | leave => exact List.mem_cons_self
  | _ => cases closes

theorem readerOnly_of_next (next : Phase.Next libraries before event after)
    (due : ∀ command ∈ before.due, (closing command).isSome = true) :
    readerOnly event.command = true := by
  cases next with
  | serve | empty | leave =>
      obtain ⟨engine, closes⟩ :=
        Option.isSome_iff_exists.mp (due _ List.mem_cons_self)
      exact readerOnly_of_closing closes
  | _ => rfl

end Main

namespace Sidecar

section

variable {libraries : Libraries}

def readerEvents (trace : (process libraries).Trace) : List (Event sidecar) :=
  @Machine.eventsOf sidecar (process libraries) Thread.reader trace

def workerEvents (engine : Engine) (trace : (process libraries).Trace) :
    List (Event sidecar) :=
  @Machine.eventsOf sidecar (process libraries) (Thread.worker engine) trace

/-- The engines started so far. -/
def startedEngines (trace : (process libraries).Trace) : List Engine :=
  (readerEvents trace).filterMap startedBy

variable {trace : (process libraries).Trace} {event : Event sidecar}

@[simp] theorem readerEvents_read :
    readerEvents (trace ++ [.ran .reader event]) =
      readerEvents trace ++ [event] := by
  unfold readerEvents
  rw [Machine.eventsOf_append, Machine.eventsOf_ran_self]

@[simp] theorem readerEvents_work {engine : Engine} :
    readerEvents (trace ++ [.ran (.worker engine) event]) =
      readerEvents trace := by
  have distinct : Thread.worker engine ≠ Thread.reader := by simp
  unfold readerEvents
  rw [Machine.eventsOf_append, Machine.eventsOf_ran_ne distinct,
    List.append_nil]

@[simp] theorem readerEvents_call {seen : Seen} :
    readerEvents (trace ++ [.outside seen]) = readerEvents trace := by
  unfold readerEvents
  rw [Machine.eventsOf_append, Machine.eventsOf_outside, List.append_nil]

@[simp] theorem workerEvents_read {engine : Engine} :
    workerEvents engine (trace ++ [.ran .reader event]) =
      workerEvents engine trace := by
  have distinct : Thread.reader ≠ Thread.worker engine := by simp
  unfold workerEvents
  rw [Machine.eventsOf_append, Machine.eventsOf_ran_ne distinct,
    List.append_nil]

@[simp] theorem workerEvents_call {engine : Engine} {seen : Seen} :
    workerEvents engine (trace ++ [.outside seen]) =
      workerEvents engine trace := by
  unfold workerEvents
  rw [Machine.eventsOf_append, Machine.eventsOf_outside, List.append_nil]

@[simp] theorem workerEvents_work {engine : Engine} :
    workerEvents engine (trace ++ [.ran (.worker engine) event]) =
      workerEvents engine trace ++ [event] := by
  unfold workerEvents
  rw [Machine.eventsOf_append, Machine.eventsOf_ran_self]

theorem workerEvents_other {engine other : Engine} (distinct : other ≠ engine) :
    workerEvents engine (trace ++ [.ran (.worker other) event]) =
      workerEvents engine trace := by
  have different : Thread.worker other ≠ Thread.worker engine := by
    simpa using distinct
  unfold workerEvents
  rw [Machine.eventsOf_append, Machine.eventsOf_ran_ne different,
    List.append_nil]

/-- How an engine's thread came to where it stands. -/
inductive History (trace : (process libraries).Trace) (engine : Engine) :
    Worker → Prop where
  | unborn (idle : engine ∉ startedEngines trace)
      (silent : workerEvents engine trace = []) : History trace engine .unborn
  | born {session : UInt32} {doc : MoonlightConnectDoc} {worker : Worker}
      (spawned : ⟨.spawn session doc, (engine, true)⟩ ∈ readerEvents trace)
      (path : engineThread.Path (.born session doc) (workerEvents engine trace)
        worker) :
      History trace engine worker

structure Tracked (trace : (process libraries).Trace) (shared : Shared)
    (standing : Standing) : Prop where
  history : ∀ engine, History trace engine (standing.workers engine)
  numbered : ∀ engine ∈ startedEngines trace, engine < shared.engines
  stop : ∀ engine,
    shared.stopFlag engine = (readerEvents trace).any (isStoreStop engine)
  due : ∀ command ∈ standing.reader.due, (closing command).isSome = true

theorem mem_startedEngines {session : UInt32} {doc : MoonlightConnectDoc}
    {engine : Engine}
    (spawned : ⟨.spawn session doc, (engine, true)⟩ ∈ readerEvents trace) :
    engine ∈ startedEngines trace :=
  List.mem_filterMap.mpr ⟨_, spawned, rfl⟩

/-- A thread that was not started has done nothing. -/
theorem Tracked.unborn {trace : (process libraries).Trace} {shared : Shared}
    {standing : Standing} (tracked : Tracked trace shared standing)
    {engine : Engine} (idle : engine ∉ startedEngines trace) :
    standing.workers engine = .unborn ∧ workerEvents engine trace = [] := by
  have history := tracked.history engine
  generalize standing.workers engine = worker at history
  cases history with
  | unborn _ silent => exact ⟨rfl, silent⟩
  | born spawned path =>
      exact absurd (mem_startedEngines spawned) idle

theorem effect_stopFlag (thread : Thread) (event : Event sidecar)
    (shared : Shared) (engine : Engine) :
    (effectOf thread event shared).stopFlag engine =
      (shared.stopFlag engine || isStoreStop engine event) := by
  obtain ⟨command, reply⟩ := event
  cases command with
  | storeStop stopped =>
      by_cases same : engine = stopped
      · subst same
        simp [effectOf, isStoreStop]
      · simp [effectOf, isStoreStop, Function.update_of_ne same, Ne.symm same]
  | _ => cases thread <;> simp [effectOf, isStoreStop]

theorem effect_engines (thread : Thread) (event : Event sidecar)
    (shared : Shared) : shared.engines ≤ (effectOf thread event shared).engines := by
  obtain ⟨command, reply⟩ := event
  cases command with
  | spawn session doc => exact Nat.le_succ _
  | _ => cases thread <;> exact Nat.le_refl _

variable {shared : Shared} {standing : Standing}

theorem tracked_initial : Tracked ([] : (process libraries).Trace) .initial
    .initial where
  history _ := .unborn List.not_mem_nil rfl
  numbered _ member := by cases member
  stop _ := rfl
  due _ member := by cases member

/-- The reader numbers the engines one after the other. -/
theorem startedBy_of_possible (possible : Possible .reader shared event)
    {engine : Engine} (starts : startedBy event = some engine) :
    ∃ session doc, event = ⟨.spawn session doc, (shared.engines, true)⟩ ∧
      engine = shared.engines := by
  obtain ⟨command, reply⟩ := event
  obtain ⟨_, answer, replied⟩ := possible
  cases command with
  | spawn session doc =>
      obtain ⟨number, _ | _⟩ := reply
      · cases starts
      · cases answer with
        | spawned started =>
            obtain ⟨rfl, rfl⟩ := Prod.mk.inj (Option.some.inj replied)
            exact ⟨session, doc, rfl, (Option.some.inj starts).symm⟩
        | _ => cases replied
  | _ => cases starts

/-- The engine a step of the reader starts has done nothing yet. -/
theorem Tracked.newcomer (tracked : Tracked trace shared standing)
    (possible : Possible .reader shared event) {engine : Engine}
    (starts : startedBy event = some engine) :
    engine ∉ startedEngines trace ∧ standing.workers engine = .unborn ∧
      workerEvents engine trace = [] := by
  obtain ⟨_, _, _, rfl⟩ := startedBy_of_possible possible starts
  have unbegun : shared.engines ∉ startedEngines trace :=
    fun member => Nat.lt_irrefl _ (tracked.numbered _ member)
  exact ⟨unbegun, tracked.unborn unbegun⟩

theorem started_other (workers : Engine → Worker) {engine : Engine}
    (other : startedBy event ≠ some engine) :
    started event workers engine = workers engine := by
  obtain ⟨command, reply⟩ := event
  cases command with
  | spawn session doc =>
      obtain ⟨number, _ | _⟩ := reply
      · rfl
      · have distinct : engine ≠ number := by
          rintro rfl
          exact other rfl
        exact Function.update_of_ne distinct ..
  | _ => rfl

theorem startedBy_of_closing {command : Command} {engine : Engine}
    (closes : closing command = some engine) (reply : command.Reply) :
    startedBy ⟨command, reply⟩ = none := by
  cases command with
  | spawn => cases closes
  | _ => rfl

theorem startedEngines_read :
    startedEngines (trace ++ [.ran .reader event]) =
      startedEngines trace ++ (startedBy event).toList := by
  unfold startedEngines
  rw [readerEvents_read, List.filterMap_append]
  cases starts : startedBy event with
  | none => simp [starts]
  | some engine => simp [starts]

theorem startedEngines_work {engine : Engine} :
    startedEngines (trace ++ [.ran (.worker engine) event]) =
      startedEngines trace := by
  simp [startedEngines]

theorem startedEngines_call {seen : Seen} :
    startedEngines (trace ++ [.outside seen]) = startedEngines trace := by
  simp [startedEngines]

theorem History.read {engine : Engine} {worker : Worker}
    (history : History trace engine worker)
    (other : startedBy event ≠ some engine) :
    History (trace ++ [.ran .reader event]) engine worker := by
  cases history with
  | unborn idle silent =>
      apply History.unborn
      · rw [startedEngines_read, List.mem_append, not_or]
        refine ⟨idle, ?_⟩
        simpa [Option.mem_toList, eq_comm] using other
      · rw [workerEvents_read]
        exact silent
  | born spawned path =>
      apply History.born
      · rw [readerEvents_read]
        exact List.mem_append_left _ spawned
      · rw [workerEvents_read]
        exact path

/-- What happens to others leaves a thread's history alone. -/
theorem History.extend {engine : Engine} {worker : Worker}
    {happening : (process libraries).Happening}
    (history : History trace engine worker)
    (reader : readerEvents (trace ++ [happening]) = readerEvents trace)
    (own : workerEvents engine (trace ++ [happening]) =
      workerEvents engine trace) :
    History (trace ++ [happening]) engine worker := by
  cases history with
  | unborn idle silent =>
      apply History.unborn
      · rwa [startedEngines, reader]
      · rwa [own]
  | born spawned path =>
      apply History.born
      · rwa [reader]
      · rwa [own]

theorem Tracked.read {after : Main.Phase}
    (tracked : Tracked trace shared standing)
    (next : Main.Phase.Next libraries standing.reader event after)
    (possible : Possible .reader shared event) :
    Tracked (trace ++ [.ran .reader event]) (effectOf .reader event shared)
      ⟨after, started event standing.workers⟩ := by
  constructor
  · intro engine
    by_cases starts : startedBy event = some engine
    · obtain ⟨_, _, silent⟩ := tracked.newcomer possible starts
      obtain ⟨session, doc, rfl, rfl⟩ := startedBy_of_possible possible starts
      change History _ _ (started ⟨.spawn session doc, (shared.engines, true)⟩
        standing.workers shared.engines)
      rw [started_spawn]
      apply History.born
      · rw [readerEvents_read]
        exact List.mem_append_right _ List.mem_cons_self
      · rw [workerEvents_read, silent]
        exact .refl _
    · change History _ _ (started event standing.workers engine)
      rw [started_other _ starts]
      exact (tracked.history engine).read starts
  · intro engine member
    rw [startedEngines_read, List.mem_append] at member
    rcases member with before | new
    · exact Nat.lt_of_lt_of_le (tracked.numbered engine before)
        (effect_engines ..)
    · obtain ⟨session, doc, rfl, rfl⟩ :=
        startedBy_of_possible possible (Option.mem_toList.mp new)
      exact Nat.lt_succ_self _
  · intro engine
    rw [effect_stopFlag, tracked.stop, readerEvents_read]
    simp
  · intro command member
    rcases Main.due_step next command member with before | ⟨session, _, closes⟩
    · exact tracked.due command before
    · rw [closes]
      rfl

theorem present_of_next {session : UInt32} {doc : MoonlightConnectDoc}
    {before after : Phase} (next : Phase.Next session doc before event after) :
    before ≠ .absent := by
  rintro rfl
  cases next with
  | quiet quiet => cases quiet
  | runtime settled | noRuntime settled => simp at settled
  | proceed due | stopEarly due => simp at due
  | close may => exact may

theorem Tracked.work {engine : Engine} {after : Worker}
    (tracked : Tracked trace shared standing)
    (next : Worker.Next (standing.workers engine) event after) :
    Tracked (trace ++ [.ran (.worker engine) event])
      (effectOf (.worker engine) event shared)
      ⟨standing.reader, Function.update standing.workers engine after⟩ := by
  constructor
  · intro other
    change History _ other (Function.update standing.workers engine after other)
    by_cases same : other = engine
    · subst same
      rw [Function.update_self]
      have history := tracked.history other
      generalize standing.workers other = worker at next history
      cases history with
      | unborn idle silent =>
          cases next with
          | mk next => exact absurd rfl (present_of_next next)
      | born spawned path =>
          apply History.born
          · rw [readerEvents_work]
            exact spawned
          · rw [workerEvents_work]
            exact path.snoc next
    · rw [Function.update_of_ne same]
      exact (tracked.history other).extend readerEvents_work
        (workerEvents_other (Ne.symm same))
  · intro other member
    rw [startedEngines_work] at member
    exact Nat.lt_of_lt_of_le (tracked.numbered other member)
      (effect_engines ..)
  · intro other
    have foreign : isStoreStop other event = false := by
      have unread := not_readerOnly_of_work next
      obtain ⟨command, reply⟩ := event
      cases command with
      | storeStop stopped => cases unread
      | _ => rfl
    rw [effect_stopFlag, tracked.stop, readerEvents_work, foreign,
      Bool.or_false]
  · exact tracked.due

/-- A callback changes at most the format, the termination flag and the
channels. -/
theorem callBack_frame (callback : Callback) (shared : Shared) :
    ∃ format terminated channel, (callBack callback shared).2 =
      { shared with
        negotiatedFormat := format
        terminated := terminated
        channel := channel } := by
  cases callback with
  | setup format => exact ⟨format, _, _, rfl⟩
  | submit unit =>
      simp only [callBack]
      split
      · exact ⟨_, _, _, rfl⟩
      · exact ⟨_, _, _, rfl⟩
  | terminated => exact ⟨_, true, _, rfl⟩

theorem Tracked.call (tracked : Tracked trace shared standing)
    (callback : Callback) :
    Tracked (trace ++ [.outside (callBack callback shared).1])
      (callBack callback shared).2 standing := by
  obtain ⟨_, _, _, same⟩ := callBack_frame callback shared
  constructor
  · intro engine
    exact (tracked.history engine).extend readerEvents_call workerEvents_call
  · intro engine member
    rw [startedEngines_call] at member
    rw [same]
    exact tracked.numbered engine member
  · intro engine
    rw [same, readerEvents_call]
    exact tracked.stop engine
  · exact tracked.due

theorem Tracked.footing (tracked : Tracked trace shared standing)
    (engine : Engine) :
    Worker.Footing (workerEvents engine trace)
      (standing.workers engine).phase := by
  have history := tracked.history engine
  generalize standing.workers engine = worker at history
  cases history with
  | unborn idle silent =>
      rw [silent]
      exact ⟨by simp [Worker.unborn, Phase.ahead, Phase.streams], by simp,
        by simp, by simp, by simp [Worker.unborn]⟩
  | born spawned path => exact Worker.footing_of_path path

/-- A thread that has done something, or can, was started. -/
theorem Tracked.started_of_events (tracked : Tracked trace shared standing)
    {engine : Engine} (acted : workerEvents engine trace ≠ []) :
    engine ∈ startedEngines trace := by
  by_contra idle
  exact acted (tracked.unborn idle).2

theorem Tracked.started_of_next (tracked : Tracked trace shared standing)
    {engine : Engine} {after : Worker}
    (next : Worker.Next (standing.workers engine) event after) :
    engine ∈ startedEngines trace := by
  by_contra idle
  rw [(tracked.unborn idle).1] at next
  cases next with
  | mk next => exact present_of_next next rfl

/-- Nothing is started while commands are due. -/
theorem Tracked.not_startedBy_of_due (tracked : Tracked trace shared standing)
    {after : Main.Phase} {command : Command}
    (next : Main.Phase.Next libraries standing.reader event after)
    (due : command ∈ after.due) : startedBy event = none := by
  cases starts : startedBy event with
  | none => rfl
  | some engine =>
      have closes := tracked.due
      generalize standing.reader = before at next closes
      obtain ⟨issued, reply⟩ := event
      cases next with
      | serve | empty | leave =>
          obtain ⟨_, closing⟩ :=
            Option.isSome_iff_exists.mp (closes _ List.mem_cons_self)
          rw [startedBy_of_closing closing] at starts
          cases starts
      | spawn => cases due
      | _ => cases starts

/-- Of two engines that were started, one is over. -/
def Lone (gone : Engine → (process libraries).Trace → Bool)
    (trace : (process libraries).Trace) : Prop :=
  ∀ first ∈ startedEngines trace, ∀ second ∈ startedEngines trace,
    first = second ∨ gone first trace = true ∨ gone second trace = true

section Lone

variable {gone : Engine → (process libraries).Trace → Bool}

/-- An engine is started only when the others are over. -/
theorem Lone.read (lone : Lone gone trace)
    (kept : ∀ engine, gone engine trace = true →
      gone engine (trace ++ [.ran .reader event]) = true)
    (alone : ∀ engine, startedBy event = some engine →
      ∀ other ∈ startedEngines trace, other = engine ∨ gone other trace = true) :
    Lone gone (trace ++ [.ran .reader event]) := by
  intro first member second member'
  rw [startedEngines_read, List.mem_append, Option.mem_toList] at member member'
  rcases member with member | starts
  · rcases member' with member' | starts
    · exact (lone first member second member').imp_right
        (Or.imp (kept first) (kept second))
    · rcases alone second starts first member with same | isOver
      · exact .inl same
      · exact .inr (.inl (kept first isOver))
  · rcases member' with member' | starts'
    · rcases alone first starts second member' with same | isOver
      · exact .inl same.symm
      · exact .inr (.inr (kept second isOver))
    · exact .inl (Option.some.inj (starts.symm.trans starts'))

theorem Lone.extend {happening : (process libraries).Happening}
    (lone : Lone gone trace)
    (kept : ∀ engine, gone engine trace = true →
      gone engine (trace ++ [happening]) = true)
    (same : readerEvents (trace ++ [happening]) = readerEvents trace) :
    Lone gone (trace ++ [happening]) := by
  unfold Lone startedEngines
  rw [same]
  intro first member second member'
  exact (lone first member second member').imp_right
    (Or.imp (kept first) (kept second))

end Lone

/-- The invariant rule of the process, with what the trace remembers. -/
theorem tracked_invariant {config : (process libraries).Config}
    (run : Machine.Run (process.start libraries) trace config)
    (rule : (process libraries).Trace → (process libraries).Happening → Prop)
    (obeys : Machine.Obeys rule trace)
    (holds : (process libraries).Trace → Shared → Standing → Prop)
    (initial : holds [] .initial .initial)
    (read : ∀ past shared standing event after,
      Tracked past shared standing → holds past shared standing →
      rule past (.ran .reader event) →
      Main.Phase.Next libraries standing.reader event after →
      Possible .reader shared event →
      holds (past ++ [.ran .reader event]) (effectOf .reader event shared)
        ⟨after, started event standing.workers⟩)
    (work : ∀ past shared standing engine event after,
      Tracked past shared standing → holds past shared standing →
      rule past (.ran (.worker engine) event) →
      Worker.Next (standing.workers engine) event after →
      Possible (.worker engine) shared event →
      holds (past ++ [.ran (.worker engine) event])
        (effectOf (.worker engine) event shared)
        ⟨standing.reader, Function.update standing.workers engine after⟩)
    (call : ∀ past shared standing callback,
      Tracked past shared standing → holds past shared standing →
      rule past (.outside (callBack callback shared).1) →
      shared.exited = none →
      holds (past ++ [.outside (callBack callback shared).1])
        (callBack callback shared).2 standing) :
    ∃ standing, Tracked trace config.shared standing ∧
      holds trace config.shared standing := by
  apply invariant_of_run run rule obeys fun trace shared standing =>
    Tracked trace shared standing ∧ holds trace shared standing
  · exact ⟨tracked_initial, initial⟩
  · rintro past shared standing event after ⟨tracked, held⟩ ruled next possible
    exact ⟨tracked.read next possible,
      read past shared standing event after tracked held ruled next possible⟩
  · rintro past shared standing engine event after ⟨tracked, held⟩ ruled next
      possible
    exact ⟨tracked.work next,
      work past shared standing engine event after tracked held ruled next
        possible⟩
  · rintro past shared standing callback ⟨tracked, held⟩ ruled running
    exact ⟨tracked.call callback,
      call past shared standing callback tracked held ruled running⟩

end

end Sidecar

end MoonlightAddon
