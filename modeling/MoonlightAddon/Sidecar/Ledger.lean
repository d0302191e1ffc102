import MoonlightAddon.Sidecar.Isolation
import MoonlightAddon.Sidecar.Pipeline

/-!
# The ledger of sessions

What the host may count on when it keeps books of its own, however many
sessions it connects and whether or not it uses an id again: a session's
messages come while one of its engines is running, and every engine that
started is running still or had its end reported, once.
-/

namespace MoonlightAddon

/-- The engine a spawn started for a session. -/
def openedBy (session : UInt32) : Event sidecar → Option Engine
  | ⟨.spawn spawned _, (engine, true)⟩ =>
      if spawned = session then some engine else none
  | _ => none

/-- The session a message to the host is about. -/
def about : Command → Option UInt32
  | .control (.sessionReady session _ _) | .control (.sessionClosed session _)
  | .control (.event session _) | .frame session _ => some session
  | _ => none

/-- The end of a session is reported. -/
def reportsEndOf (session : UInt32) : Event sidecar → Bool
  | ⟨.control (.sessionClosed closed _), _⟩ => closed == session
  | _ => false

section Counting

variable {α : Type*}

/-- One of several different items stops to count. -/
theorem countP_retire {items : List α} {before after : α → Bool} {item : α}
    (distinct : items.Nodup) (member : item ∈ items)
    (counted : before item = true) (retired : after item = false)
    (others : ∀ other, other ≠ item → after other = before other) :
    items.countP after + 1 = items.countP before := by
  obtain ⟨first, rest, rfl⟩ := List.append_of_mem member
  have apart : item ∉ first ++ rest := by
    have moved := List.nodup_middle.mp distinct
    exact (List.nodup_cons.mp moved).1
  have same : ∀ part : List α, item ∉ part →
      part.countP after = part.countP before := by
    intro part absent
    apply List.countP_congr
    intro other present
    rw [others other fun equal => absent (equal ▸ present)]
  rw [List.countP_append, List.countP_append,
    same first fun present => apart (List.mem_append_left _ present),
    List.countP_cons_of_neg (by simp [retired]),
    List.countP_cons_of_pos counted,
    same rest fun present => apart (List.mem_append_right _ present),
    Nat.add_assoc]

end Counting

namespace Worker

variable {worker after : Worker} {event : Event sidecar}

/-- A thread speaks of its own session only. -/
theorem about_of_work (next : Worker.Next worker event after)
    {session : UInt32} (speaks : about event.command = some session) :
    session = worker.session := by
  obtain @⟨own, doc, before, after, event, next⟩ := next
  cases next with
  | quiet quiet =>
      cases Phase.routine_of_quiet quiet <;> cases speaks
  | _ => first | exact (Option.some.inj speaks).symm | cases speaks

theorem isClosed_of_reportsEndOf {session : UInt32}
    (reports : reportsEndOf session event = true) :
    isClosed event = true ∧ about event.command = some session := by
  obtain ⟨command, reply⟩ := event
  cases command with
  | control message =>
      cases message with
      | sessionClosed closed error =>
          exact ⟨rfl, congrArg some (eq_of_beq reports)⟩
      | _ => cases reports
  | _ => cases reports

theorem reportsEndOf_of_isClosed (closed : isClosed event = true) :
    ∃ session, about event.command = some session ∧
      reportsEndOf session event = true := by
  obtain ⟨command, reply⟩ := event
  cases command with
  | control message =>
      cases message with
      | sessionClosed session error => exact ⟨session, rfl, beq_self_eq_true _⟩
      | _ => cases closed
  | _ => cases closed

end Worker

namespace Sidecar

section

variable {libraries : Libraries} {trace : (process libraries).Trace}
  {shared : Shared} {standing : Standing} {event : Event sidecar}

/-- The engines started for a session. -/
def openedFor (session : UInt32) (trace : (process libraries).Trace) :
    List Engine :=
  (readerEvents trace).filterMap (openedBy session)

/-- How many of them have not reported their end. -/
def running (session : UInt32) (trace : (process libraries).Trace) : Nat :=
  (openedFor session trace).countP fun engine => !reportedClosed engine trace

/-- How often the end of a session was reported. -/
def reportedEnds (session : UInt32) (trace : (process libraries).Trace) : Nat :=
  trace.countP fun
    | .ran _ event => reportsEndOf session event
    | .outside _ => false

/-- A message about a session is written while one of its engines runs. -/
def Spoken (past : (process libraries).Trace) :
    (process libraries).Happening → Prop
  | .ran _ event => ∀ session, about event.command = some session →
      0 < running session past
  | .outside _ => True

theorem openedBy_le {session : UInt32} {engine : Engine}
    (opens : openedBy session event = some engine) :
    startedBy event = some engine := by
  obtain ⟨command, reply⟩ := event
  cases command with
  | spawn spawned doc =>
      obtain ⟨number, _ | _⟩ := reply
      · cases opens
      · simp only [openedBy] at opens
        split at opens
        · exact opens
        · cases opens
  | _ => cases opens

theorem openedFor_sublist (session : UInt32) (events : List (Event sidecar)) :
    (events.filterMap (openedBy session)).Sublist
      (events.filterMap startedBy) := by
  induction events with
  | nil => exact List.Sublist.slnil
  | cons event rest induction =>
      cases opens : openedBy session event with
      | none =>
          rw [List.filterMap_cons_none opens]
          cases starts : startedBy event with
          | none => rwa [List.filterMap_cons_none starts]
          | some engine =>
              rw [List.filterMap_cons_some starts]
              exact induction.cons engine
      | some engine =>
          rw [List.filterMap_cons_some opens,
            List.filterMap_cons_some (openedBy_le opens)]
          exact induction.cons_cons engine

/-- The books: engines are numbered once, each belongs to one session, and
they balance. -/
structure Balanced (trace : (process libraries).Trace)
    (workers : Engine → Worker) : Prop where
  once : (startedEngines trace).Nodup
  posted : ∀ session, ∀ engine ∈ openedFor session trace,
    (workers engine).session = session
  balance : ∀ session, reportedEnds session trace + running session trace =
    (openedFor session trace).length
  spoken : Machine.Obeys Spoken trace

theorem balanced_initial :
    Balanced ([] : (process libraries).Trace) (fun _ => .unborn) where
  once := List.nodup_nil
  posted _ _ member := by cases member
  balance _ := rfl
  spoken := Machine.Obeys.of_forall fun _ _ member => by cases member

/-- An engine was started for the session its thread speaks of. -/
theorem Tracked.mem_openedFor (tracked : Tracked trace shared standing)
    {engine : Engine} (begun : engine ∈ startedEngines trace) :
    engine ∈ openedFor (standing.workers engine).session trace := by
  refine List.mem_filterMap.mpr ⟨_, tracked.spawned begun, ?_⟩
  exact if_pos rfl

theorem openedFor_read (session : UInt32) :
    openedFor session (trace ++ [.ran .reader event]) =
      openedFor session trace ++ (openedBy session event).toList := by
  unfold openedFor
  rw [readerEvents_read, List.filterMap_append]
  cases opens : openedBy session event <;> simp [opens]

theorem reportedEnds_ran (session : UInt32) (thread : Thread) :
    reportedEnds session (trace ++ [.ran thread event]) =
      reportedEnds session trace + (reportsEndOf session event).toNat := by
  unfold reportedEnds
  rw [List.countP_append]
  cases reports : reportsEndOf session event <;> simp [reports]

/-- What happens to no engine's end and starts none keeps the books. -/
theorem running_congr {happening : (process libraries).Happening}
    (same : ∀ engine, reportedClosed engine (trace ++ [happening]) =
      reportedClosed engine trace)
    (reader : readerEvents (trace ++ [happening]) = readerEvents trace)
    (session : UInt32) :
    running session (trace ++ [happening]) = running session trace := by
  unfold running openedFor
  rw [reader]
  simp only [same]

theorem reportedClosed_work (engine runner : Engine) :
    reportedClosed engine (trace ++ [.ran (.worker runner) event]) =
      (reportedClosed engine trace ||
        (decide (runner = engine) && isClosed event)) := by
  unfold reportedClosed
  by_cases same : runner = engine
  · subst same
    rw [workerEvents_work, List.any_append]
    simp
  · rw [workerEvents_other same]
    simp [same]

theorem Tracked.still (tracked : Tracked trace shared standing)
    {runner : Engine} {after : Worker}
    (next : Worker.Next (standing.workers runner) event after) :
    reportedClosed runner trace = false := by
  by_contra closed
  rw [Bool.not_eq_false] at closed
  exact open_of_work next ((tracked.footing runner).closed.mp closed)

/-- A thread that still acts is one of those running for its session. -/
theorem Tracked.running_pos (tracked : Tracked trace shared standing)
    {runner : Engine} {after : Worker}
    (next : Worker.Next (standing.workers runner) event after) :
    0 < running (standing.workers runner).session trace := by
  apply List.countP_pos_iff.mpr
  refine ⟨runner, tracked.mem_openedFor (tracked.started_of_next next), ?_⟩
  rw [tracked.still next]
  rfl

theorem Balanced.work {runner : Engine} {after : Worker}
    (balanced : Balanced trace standing.workers)
    (tracked : Tracked trace shared standing)
    (next : Worker.Next (standing.workers runner) event after) :
    Balanced (trace ++ [.ran (.worker runner) event])
      (Function.update standing.workers runner after) := by
  have opened : ∀ session,
      openedFor session (trace ++ [.ran (.worker runner) event]) =
        openedFor session trace := by
    intro session
    unfold openedFor
    rw [readerEvents_work]
  constructor
  · rw [startedEngines_work]
    exact balanced.once
  · intro session engine member
    rw [opened] at member
    by_cases same : engine = runner
    · subst same
      rw [Function.update_self, (identity_of_work next).1]
      exact balanced.posted session engine member
    · rw [Function.update_of_ne same]
      exact balanced.posted session engine member
  · intro session
    have before := balanced.balance session
    rw [opened, reportedEnds_ran]
    cases closes : isClosed event with
    | false =>
        have unreported : reportsEndOf session event = false := by
          by_contra reports
          rw [Bool.not_eq_false] at reports
          rw [(Worker.isClosed_of_reportsEndOf reports).1] at closes
          cases closes
        rw [unreported, running_congr (fun engine => by
          rw [reportedClosed_work, closes, Bool.and_false, Bool.or_false])
          readerEvents_work]
        exact before
    | true =>
        obtain ⟨spoken, speaks, reports⟩ :=
          Worker.reportsEndOf_of_isClosed closes
        obtain rfl := Worker.about_of_work next speaks
        have begun := tracked.started_of_next next
        have closed : ∀ engine,
            reportedClosed engine (trace ++ [.ran (.worker runner) event]) =
              (reportedClosed engine trace || decide (runner = engine)) := by
          intro engine
          rw [reportedClosed_work, closes, Bool.and_true]
        by_cases own : session = (standing.workers runner).session
        · subst own
          have retired : running (standing.workers runner).session
              (trace ++ [.ran (.worker runner) event]) + 1 =
                running (standing.workers runner).session trace := by
            unfold running
            rw [opened]
            apply countP_retire
            · exact balanced.once.sublist (openedFor_sublist _ _)
            · exact tracked.mem_openedFor begun
            · rw [tracked.still next]
              rfl
            · rw [closed, tracked.still next]
              simp
            · intro other distinct
              rw [closed]
              simp [Ne.symm distinct]
          rw [reports]
          simp only [Bool.toNat_true]
          omega
        · have unreported : reportsEndOf session event = false := by
            by_contra other
            rw [Bool.not_eq_false] at other
            have same := (Worker.isClosed_of_reportsEndOf other).2
            exact own (Option.some.inj (same.symm.trans speaks))
          have kept : running session
              (trace ++ [.ran (.worker runner) event]) =
                running session trace := by
            unfold running
            rw [opened]
            apply List.countP_congr
            intro engine member
            have distinct : runner ≠ engine := by
              rintro rfl
              exact own (balanced.posted session runner member).symm
            rw [closed]
            simp [distinct]
          rw [unreported, kept]
          exact before
  · apply balanced.spoken.snoc
    intro session speaks
    obtain rfl := Worker.about_of_work next speaks
    exact tracked.running_pos next

theorem about_of_readerOnly {command : Command}
    (own : readerOnly command = true) : about command = none := by
  cases command with
  | control message => cases message <;> first | rfl | cases own
  | frame => cases own
  | _ => rfl

theorem Balanced.read {after : Main.Phase}
    (balanced : Balanced trace standing.workers)
    (tracked : Tracked trace shared standing)
    (next : Main.Phase.Next libraries standing.reader event after)
    (possible : Possible .reader shared event) :
    Balanced (trace ++ [.ran .reader event])
      (started event standing.workers) := by
  have silent := about_of_readerOnly (Main.readerOnly_of_next next tracked.due)
  have closed : ∀ engine,
      reportedClosed engine (trace ++ [.ran .reader event]) =
        reportedClosed engine trace := by
    intro engine
    unfold reportedClosed
    rw [workerEvents_read]
  have unreported : ∀ session, reportsEndOf session event = false := by
    intro session
    by_contra reports
    rw [Bool.not_eq_false] at reports
    rw [(Worker.isClosed_of_reportsEndOf reports).2] at silent
    cases silent
  constructor
  · rw [startedEngines_read]
    apply balanced.once.append
    · cases startedBy event <;> simp
    · intro engine begun new
      exact (tracked.newcomer possible (Option.mem_toList.mp new)).1 begun
  · intro session engine member
    rw [openedFor_read, List.mem_append] at member
    rcases member with old | new
    · rw [tracked.started_old possible]
      · exact balanced.posted session engine old
      · exact (openedFor_sublist session _).subset old
    · have opens := Option.mem_toList.mp new
      obtain ⟨spawned, doc, rfl, rfl⟩ :=
        startedBy_of_possible possible (openedBy_le opens)
      rw [started_spawn]
      simp only [openedBy] at opens
      split at opens
      · rename_i same
        exact same
      · cases opens
  · intro session
    rw [openedFor_read, reportedEnds_ran, unreported, List.length_append,
      ← balanced.balance session]
    have grown : running session (trace ++ [.ran .reader event]) =
        running session trace + (openedBy session event).toList.length := by
      unfold running
      rw [openedFor_read, List.countP_append]
      simp only [closed]
      congr 1
      cases opens : openedBy session event with
      | none => rfl
      | some engine =>
          have idle := (tracked.newcomer possible (openedBy_le opens)).2.2
          have unclosed : reportedClosed engine trace = false := by
            unfold reportedClosed
            rw [idle]
            rfl
          simp [unclosed]
    rw [grown]
    simp [Nat.add_assoc]
  · apply balanced.spoken.snoc
    intro session speaks
    rw [silent] at speaks
    cases speaks

theorem Balanced.call {workers : Engine → Worker} {seen : Seen}
    (balanced : Balanced trace workers) :
    Balanced (trace ++ [.outside seen]) workers := by
  have closed : ∀ engine, reportedClosed engine (trace ++ [.outside seen]) =
      reportedClosed engine trace := by
    intro engine
    unfold reportedClosed
    rw [workerEvents_call]
  constructor
  · rw [startedEngines_call]
    exact balanced.once
  · intro session
    unfold openedFor
    rw [readerEvents_call]
    exact balanced.posted session
  · intro session
    have same : reportedEnds session (trace ++ [.outside seen]) =
        reportedEnds session trace := by
      simp [reportedEnds]
    rw [same, running_congr closed readerEvents_call]
    unfold openedFor
    rw [readerEvents_call]
    exact balanced.balance session
  · exact balanced.spoken.snoc trivial

/-- Every message about a session is written while one of its engines runs, and
the ends reported are those of the engines that run no more. -/
theorem sessions_balance {config : (process libraries).Config}
    (run : Machine.Run (process.start libraries) trace config) :
    Machine.Obeys Spoken trace ∧
      ∀ session, reportedEnds session trace + running session trace =
        (openedFor session trace).length := by
  obtain ⟨standing, _, balanced⟩ := tracked_invariant run (fun _ _ => True)
    (Machine.Obeys.of_forall fun _ _ _ => trivial)
    (fun trace _ standing => Balanced trace standing.workers)
    balanced_initial
    (fun _ _ _ _ _ tracked balanced _ next possible =>
      balanced.read tracked next possible)
    (fun _ _ _ _ _ _ tracked balanced _ next _ =>
      balanced.work tracked next)
    (fun _ _ _ _ _ balanced _ _ => balanced.call)
  exact ⟨balanced.spoken, balanced.balance⟩

end

open SampleHost

/-- A session id is used again while its first engine still runs. -/
theorem sessions_balance_reused :
    ∃ trace : (process SampleHost.libraries).Trace,
      openedFor 1 trace = [0, 1] ∧ running 1 trace = 1 ∧
        reportedEnds 1 trace = 1 := by
  obtain ⟨trace, config, run, checked⟩ := Machine.exists_run_of_play
    (fun trace _ => openedFor 1 trace == [0, 1] && running 1 trace == 1)
    (show (Machine.play (greeting ++ connects (lit "1") ++ goesLive 0 ++
      connects (lit "1") ++ terminates 0)
      (process.start libraries)).any _ = true by decide +kernel)
  simp only [Bool.and_eq_true, beq_iff_eq] at checked
  obtain ⟨opened, runs⟩ := checked
  have balance := (sessions_balance run).2 1
  rw [opened, runs] at balance
  exact ⟨trace, opened, runs, Nat.succ.inj balance⟩

end Sidecar

end MoonlightAddon
