import MoonlightAddon.Sidecar.Isolation

/-!
# Releasing the host before the process exits

The exit of the process ends every thread, wherever it stands.  The drain at
the end of `run` sets the stop flags and does not wait, so the host is only
sure to be released when the threads were done with it before the drain.
-/

namespace MoonlightAddon

open Session

namespace Phase

/-- The thread leaves because it read `TERMINATED` as set. -/
def hostEnded : Phase → Bool
  | .stopping .hostEnded | .stoppingCore .hostEnded
  | .uninstalling .hostEnded => true
  | .closing (some error) => error == hostTerminated
  | _ => false

theorem hostEnded_step {session : UInt32} {doc : MoonlightConnectDoc}
    {before after : Phase} {event : Event sidecar}
    (next : Next session doc before event after)
    (known : ∀ error, before.pendingError = some error → StartError error)
    (ended : after.hostEnded = true) :
    before.hostEnded = true ∨ readsTerminated event = true := by
  cases next with
  | terminated => exact .inr rfl
  | quiet quiet | noRuntime settled => exact .inl ended
  | @beginStop exit | @finishStop exit => exact .inl (by cases exit <;> exact ended)
  | uninstallEnded => exact .inl rfl
  | @releaseFailed error =>
      have distinct := (known error rfl).2
      simp [hostEnded, distinct] at ended
  | _ => cases ended

end Phase

namespace Worker

variable {session : UInt32} {doc : MoonlightConnectDoc}
  {trace : List (Event sidecar)}

theorem readsTerminated_of_path {worker : Worker}
    (path : engineThread.Path (born session doc) trace worker)
    (ended : worker.phase.hostEnded = true) :
    trace.any readsTerminated = true := by
  have fresh : ∀ error, Phase.fresh.pendingError = some error →
      Phase.StartError error := by
    intro error impossible
    cases impossible
  obtain ⟨phase, rfl, _, reads⟩ := path_invariant path
    (fun past phase =>
      (∀ error, phase.pendingError = some error → Phase.StartError error) ∧
        (phase.hostEnded = true → past.any readsTerminated = true))
    (And.intro fresh (fun impossible => by cases impossible))
    (fun past before event after held next => by
      obtain ⟨known, reads⟩ := held
      refine ⟨Phase.pendingError_step next known, ?_⟩
      intro ended
      rw [List.any_append, Bool.or_eq_true]
      rcases Phase.hostEnded_step next known ended with earlier | now
      · exact .inl (reads earlier)
      · exact .inr (by simpa using now))
  exact reads ended

/-- A closed thread that had launched has released the host, unless it took
the session for ended by the host. -/
theorem released_of_closed
    (path : engineThread.Path (born session doc) trace ⟨session, doc, .closed⟩)
    (launched : trace.any isLaunched = true) :
    trace.any isCancel = true ∨ trace.any readsTerminated = true := by
  obtain ⟨past, before, error, reply, rfl, first, may⟩ := last_of_closed path
  obtain ⟨phase, same, accounts⟩ := accounts_of_path first
  obtain rfl : before = phase := congrArg Worker.phase same
  have still : before ≠ .closed := by
    rintro rfl
    exact may
  have books := accounts still
  have yet : before.launchedYet = true := by
    rw [← books.launched]
    simpa [isLaunched] using launched
  rw [List.any_append, List.any_append, Bool.or_eq_true, Bool.or_eq_true]
  cases before with
  | closing due =>
      cases released : (Phase.closing due).releasedYet with
      | true =>
          have cancels := books.cancels
          rw [released] at cancels
          have some : 0 < past.countP isCancel := by
            rw [cancels]
            exact Nat.one_pos
          obtain ⟨event, member, cancel⟩ := List.countP_pos_iff.mp some
          exact .inl (.inl (List.any_eq_true.mpr ⟨event, member, cancel⟩))
      | false =>
          have ended : (Phase.closing due).hostEnded = true := by
            cases due with
            | none => cases released
            | some text => simpa [Phase.releasedYet, Phase.hostEnded] using released
          exact .inr (.inl (readsTerminated_of_path first ended))
  | fresh | introduced | probing | pairing | unpaired | cleared | wrecked
  | stoppedEarly => cases yet
  | _ => exact absurd may id

end Worker

namespace Main

open Sidecar

/-- The map was drained. -/
def Phase.drained : Phase → Bool
  | .emptying _ | .leaving _ _ | .exited _ => true
  | _ => false

variable {libraries : Libraries} {before after : Phase} {event : Event sidecar}

theorem drained_heard (listening : before.listens = true)
    (reply : Except Text (Option (UInt8 × Bytes))) :
    (before.heard libraries reply).drained = false := by
  have turn := @turn_heard libraries before reply
  generalize before.heard libraries reply = after at turn ⊢
  cases turn with
  | stay =>
      cases before with
      | opening | serving | sending => rfl
      | _ => cases listening
  | _ => rfl

theorem drained_step (next : Phase.Next libraries before event after)
    (due : ∀ command ∈ before.due, (closing command).isSome = true) :
    after.drained = (before.drained || isDrain event) := by
  cases next with
  | read listening =>
      rw [drained_heard listening]
      cases before with
      | opening | serving | sending => rfl
      | _ => cases listening
  | @serve command rest reply =>
      have closes := due command List.mem_cons_self
      cases command with
      | mapDrain => cases closes
      | _ => rfl
  | look =>
      simp only [Phase.found]
      split
      · split <;> rfl
      · rfl
  | _ => rfl

/-- The process exits only from a drained phase. -/
theorem drained_of_exit (next : Phase.Next libraries before event after)
    (due : ∀ command ∈ before.due, (closing command).isSome = true)
    {code : Nat} (exits : event.command = .exit code) :
    before.drained = true := by
  cases next with
  | serve =>
      have closes := due _ List.mem_cons_self
      cases exits
      cases closes
  | empty | leave | exit => rfl
  | _ => cases exits

/-- No engine is started once the map was drained. -/
theorem not_startedBy_of_drained
    (next : Phase.Next libraries before event after)
    (due : ∀ command ∈ before.due, (closing command).isSome = true)
    (drained : after.drained = true) : startedBy event = none := by
  cases next with
  | @empty command | @leave command =>
      obtain ⟨engine, closes⟩ :=
        Option.isSome_iff_exists.mp (due command List.mem_cons_self)
      exact startedBy_of_closing closes _
  | serve | spawn => cases drained
  | _ => rfl

end Main

namespace Sidecar

variable {libraries : Libraries}

section Windows

variable (engine : Engine) (trace : (process libraries).Trace)

/-- The host machine of the engine ended the session itself. -/
def terminatedByHost : Bool :=
  trace.any fun happening =>
    match happening with
    | .outside (.terminated connection) => connection.owner == some engine
    | _ => false

/-- The engine's host needs nothing more: it ended the session, or the thread
is over and did not take it for ended, or it will never launch. -/
def settled : Bool :=
  terminatedByHost engine trace ||
    ((workerEvents engine trace).any isClosed &&
      !(workerEvents engine trace).any readsTerminated) ||
    ((readerEvents trace).any (isStoreStop engine) &&
      !(workerEvents engine trace).any isGoAhead)

end Windows

/-- The map is drained only when every engine is settled. -/
def patient (past : (process libraries).Trace) :
    (process libraries).Happening → Bool
  | .ran .reader event =>
      !isDrain event || (startedEngines past).all fun engine =>
        settled engine past
  | _ => true

section

variable {trace : (process libraries).Trace} {shared : Shared}
  {standing : Standing} {engine : Engine}

theorem terminatedByHost_append {happening : (process libraries).Happening}
    (ended : terminatedByHost engine trace = true) :
    terminatedByHost engine (trace ++ [happening]) = true := by
  unfold terminatedByHost at ended ⊢
  rw [List.any_append, ended, Bool.true_or]

theorem settled_iff :
    settled engine trace = true ↔
      terminatedByHost engine trace = true ∨
        ((workerEvents engine trace).any isClosed = true ∧
          (workerEvents engine trace).any readsTerminated = false) ∨
        (readerEvents trace).any (isStoreStop engine) = true ∧
          (workerEvents engine trace).any isGoAhead = false := by
  simp only [settled, Bool.or_eq_true, Bool.and_eq_true, Bool.not_eq_true',
    or_assoc]

theorem settled_read {event : Event sidecar}
    (isSettled : settled engine trace = true) :
    settled engine (trace ++ [.ran .reader event]) = true := by
  rw [settled_iff] at isSettled ⊢
  rw [workerEvents_read, readerEvents_read]
  rcases isSettled with ended | gone | ⟨asked, unread⟩
  · exact .inl (terminatedByHost_append ended)
  · exact .inr (.inl gone)
  · exact .inr (.inr ⟨by rw [List.any_append, asked, Bool.true_or], unread⟩)

theorem settled_call {seen : Seen} (isSettled : settled engine trace = true) :
    settled engine (trace ++ [.outside seen]) = true := by
  rw [settled_iff] at isSettled ⊢
  rw [workerEvents_call, readerEvents_call]
  exact isSettled.imp_left terminatedByHost_append

/-- What a settled engine's thread still does leaves it settled. -/
theorem Tracked.settled_work {runner : Engine} {event : Event sidecar}
    {after : Worker} (tracked : Tracked trace shared standing)
    (next : Worker.Next (standing.workers runner) event after)
    (possible : Possible (.worker runner) shared event)
    (isSettled : settled engine trace = true) :
    settled engine (trace ++ [.ran (.worker runner) event]) = true := by
  rw [settled_iff] at isSettled ⊢
  rw [readerEvents_work]
  rcases isSettled with ended | isOver
  · exact .inl (terminatedByHost_append ended)
  · right
    by_cases same : runner = engine
    · subst same
      rw [workerEvents_work]
      rcases isOver with ⟨closed, _⟩ | ⟨asked, unread⟩
      · have gone := (tracked.footing runner).closed.mp closed
        generalize standing.workers runner = worker at next gone
        cases next with
        | mk next => exact absurd gone (Worker.open_of_next next)
      · have stop := (tracked.stop runner).trans asked
        have stays := not_goAhead_of_stop possible stop
        exact .inr ⟨asked, by simp [List.any_append, unread, stays]⟩
    · rw [workerEvents_other same]
      exact isOver

/-- What is known about the engines once the map was drained. -/
structure Released (trace : (process libraries).Trace) (standing : Standing) :
    Prop where
  drained : standing.reader.drained = (readerEvents trace).any isDrain
  settled : standing.reader.drained = true →
    ∀ engine ∈ startedEngines trace, settled engine trace = true
  exits : ∀ code, ⟨.exit code, ()⟩ ∈ readerEvents trace →
    standing.reader.drained = true

theorem Released.read {event : Event sidecar} {after : Main.Phase}
    {workers : Engine → Worker} (released : Released trace standing)
    (tracked : Tracked trace shared standing)
    (careful : patient trace (.ran .reader event) = true)
    (next : Main.Phase.Next libraries standing.reader event after) :
    Released (trace ++ [.ran .reader event]) ⟨after, workers⟩ := by
  have drained := Main.drained_step next tracked.due
  constructor
  · change after.drained = _
    rw [readerEvents_read, List.any_append, drained, released.drained]
    simp
  · change after.drained = true → _
    intro now engine member
    have before : ∀ engine ∈ startedEngines trace,
        Sidecar.settled engine trace = true := by
      rw [drained, Bool.or_eq_true] at now
      rcases now with earlier | drains
      · exact released.settled earlier
      · simpa [patient, drains] using careful
    have idle := Main.not_startedBy_of_drained next tracked.due now
    rw [startedEngines_read, idle, Option.toList_none,
      List.append_nil] at member
    exact settled_read (before engine member)
  · change ∀ code, _ → after.drained = true
    intro code exits
    rw [readerEvents_read, List.mem_append, List.mem_singleton] at exits
    rw [drained, Bool.or_eq_true]
    left
    rcases exits with earlier | rfl
    · exact released.exits code earlier
    · exact Main.drained_of_exit next tracked.due rfl

theorem Released.work {runner : Engine} {event : Event sidecar}
    {after : Worker} {workers : Engine → Worker}
    (released : Released trace standing)
    (tracked : Tracked trace shared standing)
    (next : Worker.Next (standing.workers runner) event after)
    (possible : Possible (.worker runner) shared event) :
    Released (trace ++ [.ran (.worker runner) event])
      ⟨standing.reader, workers⟩ := by
  constructor
  · rw [readerEvents_work]
    exact released.drained
  · rw [startedEngines_work]
    intro now engine member
    exact tracked.settled_work next possible (released.settled now engine member)
  · rw [readerEvents_work]
    exact released.exits

theorem Released.call {seen : Seen} (released : Released trace standing) :
    Released (trace ++ [.outside seen]) standing := by
  constructor
  · rw [readerEvents_call]
    exact released.drained
  · rw [startedEngines_call]
    intro now engine member
    exact settled_call (released.settled now engine member)
  · rw [readerEvents_call]
    exact released.exits

theorem released_initial :
    Released ([] : (process libraries).Trace) .initial where
  drained := rfl
  settled impossible := by cases impossible
  exits _ member := by cases member

/-- A settled engine whose host did not end the session, and which launched,
has told the host to release it and reported its end. -/
theorem Tracked.released_of_settled (tracked : Tracked trace shared standing)
    (isSettled : settled engine trace = true)
    (launched : (workerEvents engine trace).any isLaunched = true)
    (kept : terminatedByHost engine trace = false) :
    (workerEvents engine trace).any isCancel = true ∧
      (workerEvents engine trace).any isClosed = true := by
  have footing := tracked.footing engine
  have ahead := footing.launched launched
  rcases settled_iff.mp isSettled with ended | ⟨closed, unread⟩ | ⟨_, unread⟩
  · rw [kept] at ended
    cases ended
  · refine ⟨?_, closed⟩
    have gone := footing.closed.mp closed
    have history := tracked.history engine
    generalize standing.workers engine = worker at history gone
    cases history with
    | unborn idle silent =>
        rw [silent] at launched
        cases launched
    | @born session doc worker spawned path =>
        obtain ⟨phase, rfl, _⟩ := Worker.accounts_of_path path
        obtain rfl : phase = .closed := gone
        rcases Worker.released_of_closed path launched with cancelled | reads
        · exact cancelled
        · rw [unread] at reads
          cases reads
  · rw [unread] at ahead
    cases ahead

def exitsCleanly : Event sidecar → Bool
  | ⟨.exit code, _⟩ => code == 0
  | _ => false

theorem mem_of_exitsCleanly {events : List (Event sidecar)}
    (exits : events.any exitsCleanly = true) : ⟨.exit 0, ()⟩ ∈ events := by
  obtain ⟨⟨command, reply⟩, member, clean⟩ := List.any_eq_true.mp exits
  cases command with
  | exit code =>
      obtain rfl := eq_of_beq clean
      exact member
  | _ => cases clean

/-- The process exits with code 0 only after every engine that launched, and
whose host did not end the session, has released its host, in every run where
the map is drained only when all engines are settled. -/
theorem shutdown_releases {config : (process libraries).Config}
    (run : Machine.Run (process.start libraries) trace config)
    (careful : Machine.Obeys (fun past next => patient past next = true) trace)
    (exits : ⟨.exit 0, ()⟩ ∈ readerEvents trace)
    (launched : (workerEvents engine trace).any isLaunched = true)
    (kept : terminatedByHost engine trace = false) :
    (workerEvents engine trace).any isCancel = true ∧
      (workerEvents engine trace).any isClosed = true := by
  obtain ⟨standing, tracked, released⟩ := tracked_invariant run _ careful
    (fun trace _ standing => Released trace standing) released_initial
    (fun _ _ _ _ _ tracked released careful next _ =>
      released.read tracked careful next)
    (fun _ _ _ _ _ _ tracked released _ next possible =>
      released.work tracked next possible)
    (fun _ _ _ _ _ released _ _ => released.call)
  have begun : engine ∈ startedEngines trace := by
    apply tracked.started_of_events
    intro nothing
    rw [nothing] at launched
    cases launched
  exact tracked.released_of_settled
    (released.settled (released.exits 0 exits) engine begun) launched kept

/-! ### Two shutdowns -/

end

open SampleHost

/-- The host shuts down while a session streams. -/
theorem shutdown_unreleased :
    ¬ ∀ {libraries : Libraries} {trace : (process libraries).Trace}
      {config : (process libraries).Config},
      Machine.Run (process.start libraries) trace config →
      ⟨.exit 0, ()⟩ ∈ readerEvents trace →
      ∀ engine, (workerEvents engine trace).any isLaunched = true →
        terminatedByHost engine trace = false →
        (workerEvents engine trace).any isCancel = true ∧
          (workerEvents engine trace).any isClosed = true := by
  intro claim
  obtain ⟨trace, config, run, checked⟩ :=
    Machine.exists_run_of_play
      (fun trace _ =>
        (readerEvents trace).any exitsCleanly &&
          ((workerEvents 0 trace).any isLaunched &&
            (!terminatedByHost 0 trace && !(workerEvents 0 trace).any isCancel)))
      (show (Machine.play (greeting ++ connects (lit "1") ++ goesLive 0 ++
        [sends shutdown, reader (.order [⟨0, 1920, 1080⟩])] ++
        passes reader 8 ++ [reader (.order []), reader .nothing])
        (process.start libraries)).any _ = true by decide +kernel)
  simp only [Bool.and_eq_true, Bool.not_eq_true'] at checked
  obtain ⟨exits, launched, kept, unreleased⟩ := checked
  have released := claim run (mem_of_exitsCleanly exits) 0 launched kept
  rw [unreleased] at released
  cases released.1

/-- The session was closed and had time to release its host. -/
theorem shutdown_releases_closed :
    ∃ trace : (process SampleHost.libraries).Trace,
      ⟨.exit 0, ()⟩ ∈ readerEvents trace ∧
        (workerEvents 0 trace).any isCancel = true ∧
          (workerEvents 0 trace).any isClosed = true := by
  obtain ⟨trace, config, run, checked⟩ :=
    Machine.exists_run_of_play
      (fun trace _ =>
        Machine.checkAll patient [] trace &&
          ((readerEvents trace).any exitsCleanly &&
            ((workerEvents 0 trace).any isLaunched &&
              !terminatedByHost 0 trace)))
      (show (Machine.play (greeting ++ connects (lit "1") ++ goesLive 0 ++
        [sends close] ++ passes reader 11 ++ passes (worker 0) 4 ++
        [draws 0 16, answers 0 "", worker 0 (.result (.ok ()))] ++
        [sends shutdown, reader (.order [])] ++
        [reader (.order []), reader .nothing])
        (process.start libraries)).any _ = true by decide +kernel)
  simp only [Bool.and_eq_true, Bool.not_eq_true'] at checked
  obtain ⟨careful, exits, launched, kept⟩ := checked
  have exits := mem_of_exitsCleanly exits
  exact ⟨trace, exits, shutdown_releases run
    (Machine.obeys_of_checkAll careful) exits launched kept⟩

end Sidecar

end MoonlightAddon
