import MoonlightAddon.Sidecar.Shutdown

/-!
# One session after another on the same host

A GameStream host has one video session, which a launch fills and a cancel
empties, and a cancel does not say whose.  An engine that was closed may still
hold the host when the next one launches; its cancel then takes away a session
that is not its own.
-/

namespace MoonlightAddon

namespace Phase

theorem hostEnded_kept {session : UInt32} {doc : MoonlightConnectDoc}
    {before after : Phase} {event : Event sidecar}
    (next : Next session doc before event after)
    (ended : before.hostEnded = true ∨ readsTerminated event = true) :
    after.hostEnded = true ∨ after = .closed := by
  cases next with
  | terminated => exact .inl rfl
  | quiet quiet =>
      cases routine_of_quiet quiet <;>
        exact .inl (ended.resolve_right (fun reads => by cases reads))
  | runtime settled | noRuntime settled =>
      obtain rfl | rfl := settled <;> simp [hostEnded, readsTerminated] at ended
  | proceed due | stopEarly due =>
      obtain rfl | rfl := due <;> simp [hostEnded, readsTerminated] at ended
  | @beginStop exit | @finishStop exit =>
      cases exit <;> simp [hostEnded, readsTerminated] at ended ⊢
  | @uninstall exit reply kept =>
      cases exit <;> simp [hostEnded, readsTerminated] at ended kept
  | uninstallEnded => exact .inl rfl
  | close => exact .inr rfl
  | _ => simp [hostEnded, readsTerminated] at ended

end Phase

namespace Worker

variable {session : UInt32} {doc : MoonlightConnectDoc}
  {trace : List (Event sidecar)}

theorem hostEnded_of_reads {worker : Worker}
    (path : engineThread.Path (born session doc) trace worker)
    (reads : trace.any readsTerminated = true) :
    worker.phase.hostEnded = true ∨ worker.phase = .closed := by
  obtain ⟨phase, rfl, ends⟩ := path_invariant path
    (fun past phase => past.any readsTerminated = true →
      phase.hostEnded = true ∨ phase = .closed)
    (fun impossible => by cases impossible)
    (fun past before event after held next => by
      intro reads
      rw [List.any_append, Bool.or_eq_true] at reads
      apply Phase.hostEnded_kept next
      rcases reads with earlier | now
      · exact .inl ((held earlier).resolve_right (open_of_next next))
      · exact .inr (by simpa using now))
  exact ends reads

/-- A thread that cancels has launched, and neither cancelled before nor taken
the session for ended by the host. -/
theorem launched_of_cancel {worker after : Worker} {event : Event sidecar}
    (path : engineThread.Path (born session doc) trace worker)
    (next : Next worker event after) (cancel : isCancel event = true) :
    trace.any isLaunched = true ∧ trace.any isCancel = false ∧
      trace.any readsTerminated = false ∧ trace.any isClosed = false := by
  obtain ⟨phase, rfl, accounts⟩ := accounts_of_path path
  cases next with
  | mk next =>
      have books := accounts (open_of_next next)
      have due : phase.launchedYet = true ∧ phase.releasedYet = false ∧
          phase.hostEnded = false ∧ phase ≠ .closed := by
        cases next with
        | release | releaseFailed => simp [Phase.launchedYet,
            Phase.releasedYet, Phase.hostEnded]
        | quiet quiet =>
            rw [(Phase.quiet_harmless quiet _).2.1] at cancel
            cases cancel
        | _ => cases cancel
      obtain ⟨yet, pending, stays, still⟩ := due
      refine ⟨books.launched.trans yet, ?_, ?_, books.silent⟩
      · have none := books.cancels
        rw [pending, Bool.toNat_false, List.countP_eq_zero] at none
        rw [List.any_eq_false]
        exact none
      · by_contra reads
        rw [Bool.not_eq_false] at reads
        rcases hostEnded_of_reads path reads with ended | closed
        · rw [stays] at ended
          cases ended
        · exact still closed

end Worker

namespace Sidecar

section

variable {libraries : Libraries}

section Windows

variable (engine : Engine) (trace : (process libraries).Trace)

/-- The host accepted the engine's launch, and the engine's thread has still
to release it. -/
def holdsHost : Bool :=
  (workerEvents engine trace).any isLaunched &&
    !(workerEvents engine trace).any isCancel &&
    !(workerEvents engine trace).any readsTerminated &&
    !(workerEvents engine trace).any isClosed

/-- The engine was closed before the other one was connected. -/
def closedBefore (other : Engine) : Bool :=
  decide (other ∈ startedEngines trace) &&
    ((readerEvents trace).takeWhile fun event =>
      startedBy event != some other).any (isStoreStop engine)

end Windows

/-- A host that accepts a launch is not held by a session closed before, and
has not launched a session connected after this one was closed.  Hosts are not
told apart, as in `Spares`: the condition is also asked of sessions on different
ones, whose cancels could not meet. -/
def handsOver (past : (process libraries).Trace) :
    (process libraries).Happening → Bool
  | .ran (.worker engine) event =>
      !isLaunched event || (startedEngines past).all fun other =>
        !(closedBefore other past engine && holdsHost other past) &&
          !(closedBefore engine past other &&
            (workerEvents other past).any isLaunched)
  | _ => true

def cancelsFor (engine : Engine) : (process libraries).Happening → Bool
  | .ran (.worker runner) event => runner == engine && isCancel event
  | _ => false

/-- A cancel of an engine finds no launch of an engine connected after it was
closed. -/
def Spares (past : (process libraries).Trace)
    (next : (process libraries).Happening) : Prop :=
  ∀ first second, first ≠ second → closedBefore first past second = true →
    cancelsFor first next = true →
      (workerEvents second past).any isLaunched = false

variable {trace : (process libraries).Trace} {shared : Shared}
  {standing : Standing} {event : Event sidecar} {first second : Engine}

theorem Tracked.holdsHost_of_cancel (tracked : Tracked trace shared standing)
    {after : Worker} (next : Worker.Next (standing.workers first) event after)
    (cancel : isCancel event = true) : holdsHost first trace = true := by
  have history := tracked.history first
  generalize standing.workers first = worker at next history
  cases history with
  | unborn idle silent =>
      cases next with
      | mk next => exact absurd rfl (present_of_next next)
  | born spawned path =>
      obtain ⟨launched, uncancelled, unread, still⟩ :=
        Worker.launched_of_cancel path next cancel
      simp [holdsHost, launched, uncancelled, unread, still]

/-- Only a launch makes an engine hold its host. -/
theorem holdsHost_work (holds :
      holdsHost first (trace ++ [.ran (.worker first) event]) = true) :
    holdsHost first trace = true ∨ isLaunched event = true := by
  simp only [holdsHost, workerEvents_work, List.any_append, Bool.and_eq_true,
    Bool.or_eq_true, Bool.not_eq_true', Bool.or_eq_false_iff, List.any_cons,
    List.any_nil, Bool.or_false] at holds ⊢
  obtain ⟨⟨⟨launched | now, uncancelled, _⟩, unread, _⟩, still, _⟩ := holds
  · exact .inl ⟨⟨⟨launched, uncancelled⟩, unread⟩, still⟩
  · exact .inr now

theorem takeWhile_append_of_mem {α : Type*} {keep : α → Bool}
    {front : List α} (stops : ∃ entry ∈ front, keep entry = false)
    (rest : List α) :
    (front ++ rest).takeWhile keep = front.takeWhile keep := by
  rw [List.takeWhile_append, if_neg]
  intro whole
  have same := (List.takeWhile_prefix keep).eq_of_length whole
  obtain ⟨entry, member, stop⟩ := stops
  have keeps := List.takeWhile_eq_self_iff.mp same entry member
  rw [stop] at keeps
  cases keeps

theorem started_of_closedBefore
    (closed : closedBefore first trace second = true) :
    second ∈ startedEngines trace := by
  rw [closedBefore, Bool.and_eq_true, decide_eq_true_eq] at closed
  exact closed.1

/-- What was closed before a connect is settled by then. -/
theorem closedBefore_read
    (closed : closedBefore first (trace ++ [.ran .reader event]) second = true) :
    closedBefore first trace second = true ∨ startedBy event = some second := by
  simp only [closedBefore, Bool.and_eq_true, decide_eq_true_eq,
    startedEngines_read, List.mem_append, Option.mem_toList] at closed ⊢
  obtain ⟨started | now, stopped⟩ := closed
  · left
    refine ⟨started, ?_⟩
    rw [readerEvents_read, takeWhile_append_of_mem] at stopped
    · exact stopped
    · obtain ⟨start, member, starts⟩ := List.mem_filterMap.mp started
      exact ⟨start, member, by simp [starts]⟩
  · exact .inr now

/-- What every step of a run leaves behind whose host hands over. -/
structure Succeeded (trace : (process libraries).Trace) : Prop where
  released : ∀ first second, first ≠ second →
    closedBefore first trace second = true →
    (workerEvents second trace).any isLaunched = true →
    holdsHost first trace = false
  spared : Machine.Obeys Spares trace

theorem Succeeded.read (succeeded : Succeeded trace)
    (tracked : Tracked trace shared standing)
    (possible : Possible .reader shared event) :
    Succeeded (trace ++ [.ran .reader event]) := by
  constructor
  · intro first second distinct closed launched
    rw [workerEvents_read] at launched
    have same : holdsHost first (trace ++ [.ran .reader event]) =
        holdsHost first trace := by
      simp only [holdsHost, workerEvents_read]
    rw [same]
    rcases closedBefore_read closed with before | starts
    · exact succeeded.released first second distinct before launched
    · rw [(tracked.newcomer possible starts).2.2] at launched
      cases launched
  · apply succeeded.spared.snoc
    intro first second distinct closed impossible
    cases impossible

theorem Succeeded.work {runner : Engine} {after : Worker}
    (succeeded : Succeeded trace) (tracked : Tracked trace shared standing)
    (careful : handsOver trace (.ran (.worker runner) event) = true)
    (next : Worker.Next (standing.workers runner) event after) :
    Succeeded (trace ++ [.ran (.worker runner) event]) := by
  have unmoved : ∀ first second,
      closedBefore first (trace ++ [.ran (.worker runner) event]) second =
        closedBefore first trace second := by
    intro first second
    simp only [closedBefore, startedEngines_work, readerEvents_work]
  have handed : isLaunched event = true → ∀ other ∈ startedEngines trace,
      (closedBefore other trace runner = true →
        holdsHost other trace = false) ∧
      (closedBefore runner trace other = true →
        (workerEvents other trace).any isLaunched = false) := by
    intro launched other started
    have careful : handsOver trace (.ran (.worker runner) event) = true :=
      careful
    simp only [handsOver, launched, Bool.not_true, Bool.false_or,
      List.all_eq_true, Bool.and_eq_true, Bool.not_and, Bool.or_eq_true,
      Bool.not_eq_true'] at careful
    obtain ⟨left, right⟩ := careful other started
    exact ⟨fun closed => left.resolve_left (by simp [closed]),
      fun closed => right.resolve_left (by simp [closed])⟩
  have released := succeeded.released
  constructor
  · intro first second distinct closed launched
    rw [unmoved] at closed
    by_contra holds
    rw [Bool.not_eq_false] at holds
    by_cases own : runner = first
    · subst own
      rw [workerEvents_other distinct] at launched
      rcases holdsHost_work holds with before | now
      · rw [released runner second distinct closed launched] at before
        cases before
      · have started := started_of_closedBefore closed
        rw [(handed now second started).2 closed] at launched
        cases launched
    · have same : holdsHost first (trace ++ [.ran (.worker runner) event]) =
          holdsHost first trace := by
        simp only [holdsHost, workerEvents_other own]
      rw [same] at holds
      by_cases theirs : runner = second
      · subst theirs
        rw [workerEvents_work, List.any_append, Bool.or_eq_true] at launched
        rcases launched with before | now
        · rw [released first runner distinct closed before] at holds
          cases holds
        · have started : first ∈ startedEngines trace := by
            apply tracked.started_of_events
            intro nothing
            simp [holdsHost, nothing] at holds
          rw [(handed (by simpa using now) first started).1 closed] at holds
          cases holds
      · rw [workerEvents_other theirs] at launched
        rw [released first second distinct closed launched] at holds
        cases holds
  · apply succeeded.spared.snoc
    intro first second distinct closed cancels
    simp only [cancelsFor, Bool.and_eq_true, beq_iff_eq] at cancels
    obtain ⟨rfl, cancel⟩ := cancels
    by_contra launched
    rw [Bool.not_eq_false] at launched
    have holds := tracked.holdsHost_of_cancel next cancel
    rw [released runner second distinct closed launched] at holds
    cases holds

theorem Succeeded.call {seen : Seen} (succeeded : Succeeded trace) :
    Succeeded (trace ++ [.outside seen]) := by
  constructor
  · intro first second distinct closed launched
    simp only [closedBefore, holdsHost, startedEngines_call, readerEvents_call,
      workerEvents_call] at closed launched ⊢
    exact succeeded.released first second distinct closed launched
  · apply succeeded.spared.snoc
    intro first second distinct closed impossible
    cases impossible

theorem succeeded_initial :
    Succeeded ([] : (process libraries).Trace) where
  released _ _ _ closed _ := by cases closed
  spared _ _ _ split := by simp at split

/-- No cancel of a closed session reaches the host after the launch of a
session connected later, in every run whose host hands over. -/
theorem cancel_spares_successor {config : (process libraries).Config}
    (run : Machine.Run (process.start libraries) trace config)
    (careful : Machine.Obeys (fun past next => handsOver past next = true)
      trace) : Machine.Obeys Spares trace := by
  obtain ⟨standing, _, succeeded⟩ := tracked_invariant run _ careful
    (fun trace _ _ => Succeeded trace) succeeded_initial
    (fun _ _ _ _ _ tracked succeeded _ _ possible =>
      succeeded.read tracked possible)
    (fun _ _ _ _ _ _ tracked succeeded careful next _ =>
      succeeded.work tracked careful next)
    (fun _ _ _ _ _ succeeded _ _ => succeeded.call)
  exact succeeded.spared

/-- The video session of the host is taken: by a launch, until a cancel or
until the host ends it. -/
def slotTaken (trace : (process libraries).Trace) : Bool :=
  trace.foldl (fun taken happening =>
    match happening with
    | .ran _ event => if isLaunched event then true
        else if isCancel event then false else taken
    | .outside (.terminated _) => false
    | _ => taken) false

/-- A host with one session launches only when there is none. -/
def singleSlot (past : (process libraries).Trace) :
    (process libraries).Happening → Bool
  | .ran _ event => !isLaunched event || !slotTaken past
  | _ => true

/-- The connect, if it is one, is to this host. -/
def connectsTo (host : Text) : Event sidecar → Bool
  | ⟨.spawn _ doc, _⟩ => doc.host == host
  | _ => true

end

open SampleHost

/-- The host ends the first session itself, the close of it comes next, and the
cancel is sent when the second session was launched. -/
theorem cancel_hits_successor :
    ¬ ∀ {libraries : Libraries} {trace : (process libraries).Trace}
      {config : (process libraries).Config} {host : Text},
      Machine.Run (process.start libraries) trace config →
      Machine.Obeys (fun past next => singleSlot past next = true) trace →
      (∀ event ∈ readerEvents trace, connectsTo host event = true) →
      Machine.Obeys Spares trace := by
  intro claim
  obtain ⟨past, config, happening, after, run, stepped, checked⟩ :=
    Machine.exists_step_of_play
      (answers 0 "<r status_code=\"200\"><cancel>1</cancel></r>")
      (fun past _ happening _ =>
        Machine.checkAll singleSlot [] (past ++ [happening]) &&
          ((readerEvents (past ++ [happening])).all (connectsTo (lit "pc")) &&
            (closedBefore 0 past 1 && (cancelsFor 0 happening &&
              (workerEvents 1 past).any isLaunched))))
      (show (Machine.play (greeting ++ connects (lit "1") ++ goesLive 0 ++
        passes (worker 0) 2 ++ [.outside .terminated, sends close] ++
        passes reader 11 ++ stopsStream 0 ++ [draws 0 16] ++
        connects (lit "2") ++ goesLive 1) (process.start libraries)).any _ =
        true by decide +kernel)
  simp only [Bool.and_eq_true, List.all_eq_true] at checked
  obtain ⟨single, same, closed, cancels, launched⟩ := checked
  have spares := (claim (run.snoc stepped) (Machine.obeys_of_checkAll single)
    same).last 0 1 (by decide) closed cancels
  rw [launched] at spares
  cases spares

/-- The first session has cancelled before the second one is launched. -/
theorem cancel_spares_successor_cancelled :
    ∃ trace : (process SampleHost.libraries).Trace,
      closedBefore 0 trace 1 = true ∧
        (workerEvents 1 trace).any isLaunched = true ∧
        Machine.Obeys Spares trace := by
  obtain ⟨trace, config, run, checked⟩ := Machine.exists_run_of_play
    (fun trace _ => Machine.checkAll handsOver [] trace &&
      (closedBefore 0 trace 1 && (workerEvents 1 trace).any isLaunched))
    (show (Machine.play (greeting ++ connects (lit "1") ++ goesLive 0 ++
      passes (worker 0) 2 ++ [sends close] ++ passes reader 11 ++
      stopsStream 0 ++ [draws 0 16,
        answers 0 "<r status_code=\"200\"><cancel>1</cancel></r>"] ++
      connects (lit "2") ++ goesLive 1) (process.start libraries)).any _ =
      true by decide +kernel)
  simp only [Bool.and_eq_true] at checked
  obtain ⟨careful, closed, launched⟩ := checked
  exact ⟨trace, closed, launched,
    cancel_spares_successor run (Machine.obeys_of_checkAll careful)⟩

end Sidecar

end MoonlightAddon
