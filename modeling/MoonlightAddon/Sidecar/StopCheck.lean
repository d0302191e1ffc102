import MoonlightAddon.Sidecar.Connection
import MoonlightAddon.Sidecar.Isolation

/-!
# Closed before the launch

An engine thread reads its stop flag once before it launches.  A close that
sets the flag by then keeps the session from going live; one that comes between
the check and the launch is not seen until the session is up.
-/

namespace MoonlightAddon

def asksLaunch : Event sidecar → Bool
  | ⟨.request (.launch ..), _⟩ => true
  | _ => false

/-- What only a session on its way up does: ask for the launch, go through
`start_stream`, and report that it is ready. -/
def entersStream : Event sidecar → Bool
  | ⟨.request (.launch ..), _⟩ | ⟨.storeSink, _⟩ | ⟨.storeTerminated _, _⟩
  | ⟨.beginStart _ _, _⟩ | ⟨.control (.sessionReady _ _ _), _⟩ => true
  | _ => false

namespace Phase

theorem ahead_of_entersStream {session : UInt32} {doc : MoonlightConnectDoc}
    {before after : Phase} {event : Event sidecar}
    (next : Next session doc before event after)
    (enters : entersStream event = true) : before.ahead = true := by
  cases next with
  | launch | launchFailed | install | arm | beginStart | ready => rfl
  | quiet quiet =>
      cases routine_of_quiet quiet <;> cases enters
  | _ => cases enters

end Phase

namespace Sidecar

section

variable {libraries : Libraries} {trace : (process libraries).Trace}
  {shared : Shared} {standing : Standing} {engine : Engine}

/-- A thread that goes up has read its stop flag as clear before. -/
theorem Tracked.goAhead_of_entersStream
    (tracked : Tracked trace shared standing) {event : Event sidecar}
    (member : event ∈ workerEvents engine trace)
    (enters : entersStream event = true) :
    (workerEvents engine trace).any isGoAhead = true := by
  have history := tracked.history engine
  generalize standing.workers engine = worker at history
  cases history with
  | unborn idle silent =>
      rw [silent] at member
      cases member
  | born spawned path =>
      obtain ⟨past, future, split⟩ := List.append_of_mem member
      obtain ⟨before, after, first, next, _⟩ := path.split split
      have footing := Worker.footing_of_path first
      cases next with
      | mk next =>
          rw [split, List.any_append,
            footing.ahead (Phase.ahead_of_entersStream next enters)]
          rfl

/-- No engine is stopped between its stop check and its launch. -/
def stopsInTime (past : (process libraries).Trace) :
    (process libraries).Happening → Bool
  | .ran .reader ⟨.storeStop engine, _⟩ =>
      !(workerEvents engine past).any isGoAhead ||
        (workerEvents engine past).any asksLaunch
  | _ => true

/-- The engine was stopped before it asked for its launch. -/
def StoppedFirst (engine : Engine) (trace : (process libraries).Trace) :
    Prop :=
  ∃ past future,
    trace = past ++ .ran .reader ⟨.storeStop engine, ()⟩ :: future ∧
      (workerEvents engine past).any asksLaunch = false

theorem StoppedFirst.of_snoc {happening : (process libraries).Happening}
    (stopped : StoppedFirst engine (trace ++ [happening])) :
    StoppedFirst engine trace ∨
      (happening = .ran .reader ⟨.storeStop engine, ()⟩ ∧
        (workerEvents engine trace).any asksLaunch = false) := by
  obtain ⟨past, future, split, unasked⟩ := stopped
  rcases Machine.split_snoc split with ⟨_, rfl, rfl⟩ | ⟨rest, _, before⟩
  · exact .inr ⟨rfl, unasked⟩
  · exact .inl ⟨past, rest, before, unasked⟩

theorem StoppedFirst.asked (stopped : StoppedFirst engine trace) :
    (readerEvents trace).any (isStoreStop engine) = true := by
  obtain ⟨past, future, rfl, _⟩ := stopped
  unfold readerEvents
  rw [List.append_cons, Machine.eventsOf_append, Machine.eventsOf_append,
    Machine.eventsOf_ran_self]
  simp [isStoreStop]

/-- An engine stopped before its launch has not read its flag as clear. -/
def Held (trace : (process libraries).Trace) : Prop :=
  ∀ engine, StoppedFirst engine trace →
    (workerEvents engine trace).any isGoAhead = false

theorem Held.read {event : Event sidecar} (held : Held trace)
    (careful : stopsInTime trace (.ran .reader event) = true) :
    Held (trace ++ [.ran .reader event]) := by
  intro engine stopped
  rw [workerEvents_read]
  rcases stopped.of_snoc with before | ⟨same, unasked⟩
  · exact held engine before
  · obtain ⟨_, rfl⟩ := Machine.Happening.ran.inj same
    simpa [stopsInTime, unasked] using careful

theorem Held.work {runner : Engine} {event : Event sidecar} (held : Held trace)
    (tracked : Tracked trace shared standing)
    (possible : Possible (.worker runner) shared event) :
    Held (trace ++ [.ran (.worker runner) event]) := by
  intro engine stopped
  rcases stopped.of_snoc with before | ⟨same, _⟩
  · by_cases own : runner = engine
    · subst own
      have stop := (tracked.stop runner).trans before.asked
      rw [workerEvents_work, List.any_append, held runner before]
      simpa using not_goAhead_of_stop possible stop
    · rw [workerEvents_other own]
      exact held engine before
  · cases same

theorem Held.call {seen : Seen} (held : Held trace) :
    Held (trace ++ [.outside seen]) := by
  intro engine stopped
  rw [workerEvents_call]
  rcases stopped.of_snoc with before | ⟨same, _⟩
  · exact held engine before
  · cases same

/-- An engine that is stopped before it asks for its launch never goes up, in
every run that stops no engine between its stop check and its launch. -/
theorem stopped_never_launches {config : (process libraries).Config}
    (run : Machine.Run (process.start libraries) trace config)
    (careful : Machine.Obeys (fun past next => stopsInTime past next = true)
      trace) (stopped : StoppedFirst engine trace) :
    ∀ event ∈ workerEvents engine trace, entersStream event = false := by
  obtain ⟨standing, tracked, held⟩ := tracked_invariant run _ careful
    (fun trace _ _ => Held trace)
    (fun _ ⟨past, _, split, _⟩ => by cases past <;> cases split)
    (fun _ _ _ _ _ _ held careful _ _ => held.read careful)
    (fun _ _ _ _ _ _ tracked held _ _ possible => held.work tracked possible)
    (fun _ _ _ _ _ held _ _ => held.call)
  intro event member
  by_contra enters
  rw [Bool.not_eq_false] at enters
  have ahead := tracked.goAhead_of_entersStream member enters
  rw [held engine stopped] at ahead
  cases ahead

end

open SampleHost

/-- A recogniser for the stop of an engine at the head of a trace. -/
def beginsWithStop (engine : Engine) :
    (process SampleHost.libraries).Trace → Bool
  | .ran .reader ⟨.storeStop stopped, _⟩ :: _ => stopped == engine
  | _ => false

theorem split_of_beginsWithStop {engine : Engine}
    {future : (process SampleHost.libraries).Trace}
    (begins : beginsWithStop engine future = true) :
    ∃ rest, future = .ran .reader ⟨.storeStop engine, ()⟩ :: rest := by
  match future, begins with
  | .ran .reader ⟨.storeStop stopped, reply⟩ :: rest, begins =>
      obtain rfl := eq_of_beq begins
      exact ⟨rest, rfl⟩

/-- The close arrives while the thread asks for the application list. -/
theorem stopped_launches :
    ¬ ∀ {libraries : Libraries} {trace : (process libraries).Trace}
      {config : (process libraries).Config} {engine : Engine},
      Machine.Run (process.start libraries) trace config →
      StoppedFirst engine trace →
      ∀ event ∈ workerEvents engine trace, entersStream event = false := by
  intro claim
  obtain ⟨past, future, config, run, checked⟩ := Machine.exists_split_of_play
    (process.start SampleHost.libraries)
    (greeting ++ connects (lit "1") ++ clears 0 ++ [sends close] ++
      passes reader 4)
    (passes reader 1 ++ continues 0)
    (fun past future _ => beginsWithStop 0 future &&
      (!(workerEvents 0 past).any asksLaunch &&
        (workerEvents 0 (past ++ future)).any entersStream))
    (by decide +kernel)
  simp only [Bool.and_eq_true, Bool.not_eq_true'] at checked
  obtain ⟨begins, unasked, enters⟩ := checked
  obtain ⟨rest, same⟩ := split_of_beginsWithStop begins
  obtain ⟨event, member, enters⟩ := List.any_eq_true.mp enters
  have never := claim run ⟨past, rest, by rw [same], unasked⟩ event member
  rw [enters] at never
  cases never

/-- The close arrives before the stop check. -/
theorem stopped_never_launches_closed :
    ∃ trace : (process SampleHost.libraries).Trace,
      reportedClosed 0 trace = true ∧
        ∀ event ∈ workerEvents 0 trace, entersStream event = false := by
  obtain ⟨past, future, config, run, checked⟩ := Machine.exists_split_of_play
    (process.start SampleHost.libraries)
    (greeting ++ connects (lit "1") ++ [sends close] ++ passes reader 4)
    (passes reader 1 ++ clears 0 ++ [worker 0 (.result (.ok ()))])
    (fun past future _ =>
      Machine.checkAll stopsInTime [] (past ++ future) &&
        (beginsWithStop 0 future && (!(workerEvents 0 past).any asksLaunch &&
          reportedClosed 0 (past ++ future))))
    (by decide +kernel)
  simp only [Bool.and_eq_true, Bool.not_eq_true'] at checked
  obtain ⟨careful, begins, unasked, closed⟩ := checked
  obtain ⟨rest, same⟩ := split_of_beginsWithStop begins
  exact ⟨past ++ future, closed, stopped_never_launches run
    (Machine.obeys_of_checkAll careful) ⟨past, rest, by rw [same], unasked⟩⟩

end Sidecar

end MoonlightAddon
