import MoonlightAddon.Sidecar.Tracking

/-!
# Whose connection it is

The C core has one connection.  Its owner is an engine whose thread is between
`LiStartConnection` and its own `LiStopConnection`.  A host that has one
session live at a time starts an engine only when the end of every earlier one
was reported.
-/

namespace MoonlightAddon

namespace Phase

/-- The thread believes that its connection is up. -/
def linked : Phase → Bool
  | .connected | .announced | .polling | .polled | .listening | .delivering _
  | .stopping _ | .stoppingCore _ => true
  | _ => false

variable {session : UInt32} {doc : MoonlightConnectDoc}
  {before after : Phase} {event : Event sidecar}

theorem linked_step (next : Next session doc before event after)
    (linked : before.linked = true)
    (kept : event.command ≠ .finishStop .worker) : after.linked = true := by
  cases next with
  | quiet quiet => exact linked
  | runtime settled | noRuntime settled =>
      obtain rfl | rfl := settled <;> cases linked
  | proceed due | stopEarly due => obtain rfl | rfl := due <;> cases linked
  | finishStop => exact absurd rfl kept
  | @close phase error reply may =>
      cases before with
      | connected | announced | polling | polled | listening | delivering
      | stopping | stoppingCore => exact absurd may id
      | _ => cases linked
  | _ => first | rfl | cases linked

theorem command_of_starting (next : Next session doc .starting event after) :
    event.command = .finishStart := by
  cases next with
  | started | refuse => rfl
  | quiet quiet => simp [Quiet] at quiet
  | noRuntime settled | runtime settled => simp at settled
  | proceed due | stopEarly due => simp at due
  | close may => exact absurd may id

end Phase

namespace Sidecar

/-- The owner's thread knows about its connection. -/
def Linked (workers : Engine → Worker) : Connection → Prop
  | .idle => True
  | .starting engine => (workers engine).phase = .starting
  | .established engine => (workers engine).phase.linked = true

/-- The commands that change the connection. -/
def relinks : Command → Bool
  | .beginStart _ _ | .finishStart | .finishStop _ => true
  | _ => false

theorem effect_connection (thread : Thread) {event : Event sidecar}
    (still : relinks event.command = false) (shared : Shared) :
    (effectOf thread event shared).connection = shared.connection := by
  obtain ⟨command, reply⟩ := event
  cases command with
  | beginStart | finishStart | finishStop => cases still
  | _ => cases thread <;> rfl

theorem callBack_connection (callback : Callback) (shared : Shared) :
    (callBack callback shared).2.connection = shared.connection := by
  obtain ⟨_, _, _, same⟩ := callBack_frame callback shared
  rw [same]

section

variable {libraries : Libraries} {trace : (process libraries).Trace}
  {shared : Shared} {standing : Standing} {workers : Engine → Worker}
  {connection : Connection} {event : Event sidecar}

theorem Linked.update {runner : Engine} {after : Worker}
    (linked : Linked workers connection)
    (starting : (workers runner).phase = .starting → after.phase = .starting)
    (up : (workers runner).phase.linked = true → after.phase.linked = true) :
    Linked (Function.update workers runner after) connection := by
  cases connection with
  | idle => exact trivial
  | starting engine =>
      by_cases same : engine = runner
      · subst same
        simpa [Linked] using starting linked
      · simpa [Linked, Function.update_of_ne same] using linked
  | established engine =>
      by_cases same : engine = runner
      · subst same
        simpa [Linked] using up linked
      · simpa [Linked, Function.update_of_ne same] using linked

/-- After a stop only a handshake of another thread can be left. -/
theorem Linked.stopped (linked : Linked workers connection) :
    Linked workers (stopped connection) := by
  cases connection with
  | idle | established => exact trivial
  | starting engine => exact linked

theorem Linked.work {runner : Engine} {after : Worker}
    (linked : Linked workers shared.connection)
    (next : Worker.Next (workers runner) event after) :
    Linked (Function.update workers runner after)
      (effectOf (.worker runner) event shared).connection := by
  generalize before_def : workers runner = before at next
  obtain @⟨session, doc, before, after, event, next⟩ := next
  have stands : (workers runner).phase = before := by rw [before_def]
  cases still : relinks event.command with
  | false =>
      rw [effect_connection _ still]
      apply linked.update
      · intro starting
        rw [stands] at starting
        subst starting
        rw [Phase.command_of_starting next] at still
        cases still
      · intro up
        rw [stands] at up
        apply Phase.linked_step next up
        intro stops
        rw [stops] at still
        cases still
  | true =>
      cases next with
      | beginStart => simp [effectOf, Linked]
      | started => simp [effectOf, Linked, Phase.linked]
      | @refuse error reply failure => simp [effectOf, Linked, failure]
      | finishStop =>
          change Linked _ (Sidecar.stopped shared.connection)
          cases owner : shared.connection with
          | idle | established => exact trivial
          | starting engine =>
              rw [owner] at linked
              have distinct : engine ≠ runner := by
                rintro rfl
                rw [linked] at stands
                cases stands
              simpa [Sidecar.stopped, Linked, Function.update_of_ne distinct]
                using linked
      | quiet quiet =>
          cases Phase.routine_of_quiet quiet <;> cases still
      | _ => cases still

theorem Linked.read {after : Main.Phase}
    (linked : Linked standing.workers shared.connection)
    (tracked : Tracked trace shared standing)
    (next : Main.Phase.Next libraries standing.reader event after)
    (possible : Possible .reader shared event) :
    Linked (started event standing.workers)
      (effectOf .reader event shared).connection := by
  have own := Main.readerOnly_of_next next tracked.due
  cases starts : startedBy event with
  | some engine =>
      obtain ⟨_, idle, _⟩ := tracked.newcomer possible starts
      obtain ⟨session, doc, rfl, rfl⟩ := startedBy_of_possible possible starts
      apply linked.update <;> rw [idle] <;> intro impossible <;> cases impossible
  | none =>
      have same : started event standing.workers = standing.workers := by
        funext engine
        apply started_other
        rw [starts]
        exact (Option.some_ne_none engine).symm
      rw [same]
      obtain ⟨command, reply⟩ := event
      cases command with
      | finishStop caller => exact linked.stopped
      | beginStart | finishStart => cases own
      | _ => exact linked

/-- The owner of an established connection was started and is not over. -/
theorem Tracked.owner_open (tracked : Tracked trace shared standing)
    (linked : Linked standing.workers shared.connection) {owner : Engine}
    (owns : shared.connection = .established owner) :
    owner ∈ startedEngines trace ∧
      (workerEvents owner trace).any isClosed = false := by
  rw [owns] at linked
  constructor
  · by_contra idle
    rw [Linked, (tracked.unborn idle).1] at linked
    cases linked
  · by_contra closed
    rw [Bool.not_eq_false] at closed
    rw [Linked, (tracked.footing owner).closed.mp closed] at linked
    cases linked

def reportedClosed (engine : Engine) (trace : (process libraries).Trace) :
    Bool :=
  (workerEvents engine trace).any isClosed

/-- A session is live until its end is reported; at most one is at a time. -/
def oneLive (past : (process libraries).Trace) :
    (process libraries).Happening → Bool
  | .ran .reader event =>
      (startedBy event).all fun _ => (startedEngines past).all fun other =>
        reportedClosed other past
  | _ => true

theorem reportedClosed_append {engine : Engine}
    {happening : (process libraries).Happening}
    (closed : reportedClosed engine trace = true) :
    reportedClosed engine (trace ++ [happening]) = true := by
  unfold reportedClosed workerEvents at closed ⊢
  rw [Machine.eventsOf_append, List.any_append, closed, Bool.true_or]

theorem lone_read (lone : Lone reportedClosed trace)
    (alone : oneLive trace (.ran .reader event) = true) :
    Lone reportedClosed (trace ++ [.ran .reader event]) := by
  apply lone.read fun _ => reportedClosed_append
  intro engine starts other member
  simp only [oneLive, starts, Option.all_some, List.all_eq_true] at alone
  exact .inr (alone other member)

end

end Sidecar

end MoonlightAddon
