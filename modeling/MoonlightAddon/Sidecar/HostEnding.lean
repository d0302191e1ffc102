import MoonlightAddon.Sidecar.Connection
import MoonlightAddon.Sidecar.Succession

/-!
# When the host ends the session

The termination callback sets a flag that the engine's thread looks at once in
each turn of its frame loop.  The thread stays away from the host only if it
gets to see that flag: before its stop flag, before its channel disconnects,
and not through a handshake that fails.
-/

namespace MoonlightAddon

/-- `LiStartConnection` fails. -/
def refuses : Event sidecar → Bool
  | ⟨.finishStart, code⟩ => code != (0 : Int32)
  | _ => false

/-- The commands that write a global of the stream. -/
def writesGlobal : Command → Bool
  | .storeSink | .clearSink _ | .storeTerminated _ => true
  | _ => false

namespace Phase

/-- From the installation of the sender until the thread leaves its loop. -/
def attached : Phase → Bool
  | .sinkInstalled | .armed | .starting | .refused _ | .connected | .announced
  | .polling | .polled | .listening | .delivering _ => true
  | _ => false

/-- From the call of `LiStartConnection` until the thread leaves its loop. -/
def dialled : Phase → Bool
  | .starting | .connected | .announced | .polling | .polled | .listening
  | .delivering _ => true
  | _ => false

/-- The thread left its loop, and not because of `TERMINATED`. -/
def quits : Phase → Bool
  | .stopping exit | .stoppingCore exit | .uninstalling exit
  | .releasing exit => exit != .hostEnded
  | _ => false

theorem attached_of_dialled {phase : Phase} (dialled : phase.dialled = true) :
    phase.attached = true := by
  cases phase <;> first | rfl | cases dialled

variable {session : UInt32} {doc : MoonlightConnectDoc}
  {before after : Phase} {event : Event sidecar}

/-- How a thread leaves its loop for another reason than `TERMINATED`. -/
theorem quits_step (next : Next session doc before event after)
    (quits : after.quits = true) :
    before.quits = true ∨ event = ⟨.loadStop, true⟩ ∨
      (before = .listening ∧ event = ⟨.receive, .disconnected⟩) := by
  cases next with
  | stop => exact .inr (.inl rfl)
  | disconnected => exact .inr (.inr ⟨rfl, rfl⟩)
  | quiet quiet => exact .inl quits
  | runtime settled | noRuntime settled =>
      obtain rfl | rfl := settled <;> cases quits
  | proceed due | stopEarly due => obtain rfl | rfl := due <;> cases quits
  | beginStop | finishStop | uninstall => exact .inl quits
  | _ => cases quits

theorem dialled_step (next : Next session doc before event after)
    (dialled : before.dialled = true) :
    after.dialled = true ∨ after.hostEnded = true ∨ after.quits = true ∨
      refuses event = true := by
  cases next with
  | started | ready | connectedMessage | poll | alive | receive | timeout
  | deliver => exact .inl rfl
  | terminated => exact .inr (.inl rfl)
  | stop | disconnected => exact .inr (.inr (.inl rfl))
  | refuse failure => exact .inr (.inr (.inr (by simpa [refuses] using failure)))
  | quiet quiet => exact .inl dialled
  | runtime settled | noRuntime settled =>
      obtain rfl | rfl := settled <;> cases dialled
  | proceed due | stopEarly due => obtain rfl | rfl := due <;> cases dialled
  | close may => cases before <;> first | exact absurd may id | cases dialled
  | _ => cases dialled

/-- A thread that cancels did not stop for `TERMINATED`, and is not in its
loop. -/
theorem aside_of_cancel (next : Next session doc before event after)
    (cancel : isCancel event = true) :
    before.hostEnded = false ∧ before ≠ .closed ∧ before.dialled = false := by
  cases next with
  | release | releaseFailed => simp [hostEnded, dialled]
  | quiet quiet =>
      rw [(quiet_harmless quiet _).2.1] at cancel
      cases cancel
  | _ => cases cancel

/-- The thread left its loop, or will never reach it. -/
def departed : Phase → Bool
  | .stoppedEarly | .startFailed _ | .stopping _ | .stoppingCore _
  | .uninstalling _ | .releasing _ | .closing _ | .closed => true
  | _ => false

theorem not_departed_of_attached {phase : Phase}
    (attached : phase.attached = true) : phase.departed = false := by
  cases phase <;> first | rfl | cases attached

theorem departed_step (next : Next session doc before event after)
    (stays : after.departed = false) :
    before.departed = false ∧ leavesLoop event = false := by
  cases next with
  | quiet quiet =>
      cases routine_of_quiet quiet <;> exact ⟨stays, rfl⟩
  | runtime settled | noRuntime settled =>
      obtain rfl | rfl := settled <;> exact ⟨rfl, rfl⟩
  | proceed due => obtain rfl | rfl := due <;> exact ⟨rfl, rfl⟩
  | stopEarly due => cases stays
  | _ => first | exact ⟨rfl, rfl⟩ | cases stays

theorem attached_step (next : Next session doc before event after)
    (attached : after.attached = true) :
    before.attached = true ∨ isInstall event = true := by
  cases next with
  | install => exact .inr rfl
  | quiet quiet => exact .inl attached
  | runtime settled | noRuntime settled =>
      obtain rfl | rfl := settled <;> cases attached
  | proceed due | stopEarly due => obtain rfl | rfl := due <;> cases attached
  | _ => first | exact .inl rfl | cases attached

end Phase

namespace Worker

theorem installed_of_attached {session : UInt32} {doc : MoonlightConnectDoc}
    {trace : List (Event sidecar)} {worker : Worker}
    (path : engineThread.Path (born session doc) trace worker)
    (attached : worker.phase.attached = true) :
    trace.any isInstall = true ∧ trace.any leavesLoop = false := by
  obtain ⟨phase, rfl, installed, stays⟩ := path_invariant path
    (fun past phase =>
      (phase.attached = true → past.any isInstall = true) ∧
        (phase.departed = false → past.any leavesLoop = false))
    (And.intro (fun impossible => by cases impossible) (fun _ => rfl))
    (fun past before event after held next => by
      obtain ⟨installed, stays⟩ := held
      constructor
      · intro attached
        rw [List.any_append, Bool.or_eq_true]
        exact (Phase.attached_step next attached).imp installed
          (fun install => by simpa using install)
      · intro still
        obtain ⟨before, inside⟩ := Phase.departed_step next still
        rw [List.any_append, stays before]
        simpa using inside)
  exact ⟨installed attached,
    stays (Phase.not_departed_of_attached attached)⟩

end Worker

namespace Sidecar

section Effects

variable {session : UInt32} {doc : MoonlightConnectDoc}
  {before after : Phase} {event : Event sidecar} {engine : Engine}
  {shared : Shared}

/-- The sender of a thread that is attached stays installed. -/
theorem sink_of_next (next : Phase.Next session doc before event after)
    (attached : after.attached = true)
    (held : before.attached = true → shared.videoSink = some engine) :
    (effectOf (.worker engine) event shared).videoSink = some engine := by
  cases next with
  | install => rfl
  | quiet quiet => cases Phase.routine_of_quiet quiet <;> exact held attached
  | runtime settled | noRuntime settled =>
      obtain rfl | rfl := settled <;> cases attached
  | proceed due | stopEarly due => obtain rfl | rfl := due <;> cases attached
  | _ => first | exact held rfl | cases attached

theorem terminated_of_next (next : Phase.Next session doc before event after)
    (dialled : before.dialled = true) :
    (effectOf (.worker engine) event shared).terminated =
      shared.terminated := by
  cases next with
  | quiet quiet => cases Phase.routine_of_quiet quiet <;> rfl
  | runtime settled | noRuntime settled =>
      obtain rfl | rfl := settled <;> cases dialled
  | proceed due | stopEarly due => obtain rfl | rfl := due <;> cases dialled
  | arm => cases dialled
  | _ => rfl

theorem effect_globals (thread : Thread)
    (unwritten : writesGlobal event.command = false) (shared : Shared) :
    (effectOf thread event shared).videoSink = shared.videoSink ∧
      (effectOf thread event shared).terminated = shared.terminated := by
  obtain ⟨command, reply⟩ := event
  cases command with
  | storeSink | clearSink caller | storeTerminated value => cases unwritten
  | _ => cases thread <;> exact ⟨rfl, rfl⟩

end Effects

section

variable {libraries : Libraries}

/-- A step of `close` on the engine. -/
def closes (engine : Engine) : (process libraries).Happening → Bool
  | .ran .reader event => closing event.command == some engine
  | _ => false

section Windows

variable (engine : Engine) (trace : (process libraries).Trace)

/-- `close` was called on the engine. -/
def closeCalled : Bool :=
  trace.any (closes engine)

/-- The termination callback of the engine's connection came first. -/
def endedFirst : Bool :=
  terminatedByHost engine (trace.takeWhile fun happening =>
    !closes engine happening)

/-- The engine's sender is installed and its thread is in the frame loop, or
on its way there. -/
def tunedIn : Bool :=
  (workerEvents engine trace).any isInstall &&
    !(workerEvents engine trace).any leavesLoop

end Windows

def writesGlobals : (process libraries).Happening → Bool
  | .ran _ event => writesGlobal event.command
  | .outside _ => false

/-- Nobody else writes the sink or `TERMINATED` of an engine that is tuned
in. -/
def undisturbed (past : (process libraries).Trace)
    (next : (process libraries).Happening) : Bool :=
  !writesGlobals next || (startedEngines past).all fun engine =>
    onBehalf next == some engine || !tunedIn engine past

/-- `close` comes after a termination callback only once the thread has read
the flag. -/
def awaited (past : (process libraries).Trace) :
    (process libraries).Happening → Bool
  | .ran .reader event => (closing event.command).all fun engine =>
      !endedFirst engine past ||
        (workerEvents engine past).any readsTerminated
  | _ => true

/-- The handshake during which a termination callback came succeeds. -/
def completes (past : (process libraries).Trace) :
    (process libraries).Happening → Bool
  | .ran (.worker runner) event => !refuses event || !endedFirst runner past
  | _ => true

def attentive (past : (process libraries).Trace)
    (next : (process libraries).Happening) : Bool :=
  undisturbed past next && (awaited past next && completes past next)

variable {trace : (process libraries).Trace} {shared : Shared}
  {standing : Standing} {event : Event sidecar} {engine : Engine}

theorem closeCalled_snoc (happening : (process libraries).Happening) :
    closeCalled engine (trace ++ [happening]) =
      (closeCalled engine trace || closes engine happening) := by
  simp [closeCalled]

@[simp] theorem closeCalled_work {runner : Engine} :
    closeCalled engine (trace ++ [.ran (.worker runner) event]) =
      closeCalled engine trace := by
  rw [closeCalled_snoc]
  exact Bool.or_false _

@[simp] theorem terminatedByHost_ran {thread : Thread} :
    terminatedByHost engine (trace ++ [.ran thread event]) =
      terminatedByHost engine trace := by
  simp [terminatedByHost]

theorem endedFirst_snoc (happening : (process libraries).Happening) :
    endedFirst engine (trace ++ [happening]) =
      (endedFirst engine trace || (!closeCalled engine trace &&
        (!closes engine happening &&
          terminatedByHost engine [happening]))) := by
  cases called : closeCalled engine trace with
  | true =>
      obtain ⟨entry, member, closes⟩ := List.any_eq_true.mp called
      rw [endedFirst, takeWhile_append_of_mem ⟨entry, member, by simp [closes]⟩]
      simp [endedFirst]
  | false =>
      have uncalled : ∀ entry ∈ trace, (!closes engine entry) = true := by
        simpa [closeCalled] using called
      have whole := List.takeWhile_eq_self_iff.mpr uncalled
      have split : terminatedByHost engine
          (trace ++ [happening].takeWhile fun next => !closes engine next) =
          (terminatedByHost engine trace || terminatedByHost engine
            ([happening].takeWhile fun next => !closes engine next)) :=
        List.any_append
      rw [endedFirst, endedFirst, List.takeWhile_append, if_pos (by rw [whole]),
        whole, split, List.takeWhile_cons, List.takeWhile_nil]
      cases closes engine happening <;> rfl

theorem endedFirst_ran (thread : Thread) (event : Event sidecar) :
    endedFirst engine (trace ++ [.ran thread event]) =
      endedFirst engine trace := by
  rw [endedFirst_snoc]
  simp [terminatedByHost]

theorem Tracked.tunedIn_of_attached (tracked : Tracked trace shared standing)
    (attached : (standing.workers engine).phase.attached = true) :
    engine ∈ startedEngines trace ∧ tunedIn engine trace = true := by
  have history := tracked.history engine
  generalize standing.workers engine = worker at attached history
  cases history with
  | unborn idle silent => cases attached
  | born spawned path =>
      obtain ⟨installed, stays⟩ := Worker.installed_of_attached path attached
      exact ⟨mem_startedEngines spawned, by simp [tunedIn, installed, stays]⟩

theorem Tracked.hostEnded_of_reads (tracked : Tracked trace shared standing)
    (reads : (workerEvents engine trace).any readsTerminated = true) :
    (standing.workers engine).phase.hostEnded = true ∨
      (standing.workers engine).phase = .closed := by
  have history := tracked.history engine
  generalize standing.workers engine = worker at history
  cases history with
  | unborn idle silent =>
      rw [silent] at reads
      cases reads
  | born spawned path => exact Worker.hostEnded_of_reads path reads

/-- What is known about an engine: while it is not closed, its thread has its
sender installed and leaves the loop only for `TERMINATED`; once its connection
was ended by the host, `TERMINATED` waits for the thread, or it has read it. -/
structure Heard (engine : Engine) (trace : (process libraries).Trace)
    (shared : Shared) (phase : Phase) : Prop where
  attached : closeCalled engine trace = false → phase.attached = true →
    shared.videoSink = some engine
  stays : closeCalled engine trace = false → phase.quits = false
  spared : endedFirst engine trace = true →
    (workerEvents engine trace).any isCancel = false
  ended : endedFirst engine trace = true →
    phase.hostEnded = true ∨ phase = .closed ∨
      (closeCalled engine trace = false ∧ phase.dialled = true ∧
        shared.terminated = true)

theorem closeCalled_of_stop (tracked : Tracked trace shared standing)
    (stop : shared.stopFlag engine = true) :
    closeCalled engine trace = true := by
  rw [tracked.stop] at stop
  obtain ⟨event, member, stops⟩ := List.any_eq_true.mp stop
  apply List.any_eq_true.mpr ⟨_, Machine.mem_of_mem_eventsOf member, _⟩
  obtain ⟨command, reply⟩ := event
  cases command with
  | storeStop stopped =>
      obtain rfl := eq_of_beq stops
      simp [closes, closing]
  | _ => cases stops

/-- What others do leaves what is known about an engine alone. -/
theorem Heard.extend {phase : Phase} {next : (process libraries).Happening}
    {after : Shared} (heard : Heard engine trace shared phase)
    (uncalled : closes engine next = false)
    (ended : endedFirst engine (trace ++ [next]) = endedFirst engine trace)
    (own : workerEvents engine (trace ++ [next]) = workerEvents engine trace)
    (kept : phase.attached = true → after.videoSink = shared.videoSink ∧
      (shared.terminated = true → after.terminated = true)) :
    Heard engine (trace ++ [next]) after phase := by
  have called : closeCalled engine (trace ++ [next]) =
      closeCalled engine trace := by
    rw [closeCalled_snoc, uncalled, Bool.or_false]
  constructor
  · intro still attached
    rw [called] at still
    rw [(kept attached).1]
    exact heard.attached still attached
  · intro still
    rw [called] at still
    exact heard.stays still
  · intro first
    rw [ended] at first
    rw [own]
    exact heard.spared first
  · intro first
    rw [ended] at first
    rw [called]
    refine (heard.ended first).imp_right (Or.imp_right ?_)
    rintro ⟨still, dialled, waits⟩
    exact ⟨still, dialled,
      (kept (Phase.attached_of_dialled dialled)).2 waits⟩

theorem Heard.read {after : Main.Phase}
    (heard : Heard engine trace shared (standing.workers engine).phase)
    (tracked : Tracked trace shared standing)
    (careful : attentive trace (.ran .reader event) = true)
    (next : Main.Phase.Next libraries standing.reader event after)
    (possible : Possible .reader shared event) :
    Heard engine (trace ++ [.ran .reader event])
      (effectOf .reader event shared)
      (started event standing.workers engine).phase := by
  simp only [attentive, Bool.and_eq_true] at careful
  obtain ⟨undisturbed, awaited, _⟩ := careful
  by_cases starts : startedBy event = some engine
  · obtain ⟨_, idle, _⟩ := tracked.newcomer possible starts
    obtain ⟨session, doc, rfl, rfl⟩ := startedBy_of_possible possible starts
    have silent : endedFirst shared.engines (trace ++ [.ran .reader
        ⟨.spawn session doc, (shared.engines, true)⟩]) = false := by
      rw [endedFirst_ran]
      by_contra ended
      have stands := heard.ended (Bool.not_eq_false _ ▸ ended)
      rw [idle] at stands
      rcases stands with impossible | impossible | ⟨_, impossible, _⟩ <;>
        cases impossible
    rw [started_spawn]
    constructor
    · intro _ impossible
      cases impossible
    · intro _
      rfl
    · rw [silent]
      intro impossible
      cases impossible
    · rw [silent]
      intro impossible
      cases impossible
  · rw [started_other _ starts]
    by_cases calls : closing event.command = some engine
    · have closesNow : closes engine
          (.ran .reader event : (process libraries).Happening) = true := by
        simp [closes, calls]
      have called : closeCalled engine (trace ++ [.ran .reader event]) =
          true := by
        rw [closeCalled_snoc, closesNow, Bool.or_true]
      have ended : endedFirst engine (trace ++ [.ran .reader event]) =
          endedFirst engine trace := endedFirst_ran .reader event
      constructor
      · intro still
        rw [called] at still
        cases still
      · intro still
        rw [called] at still
        cases still
      · rw [ended, workerEvents_read]
        exact heard.spared
      · rw [ended]
        intro first
        have reads : (workerEvents engine trace).any readsTerminated = true := by
          simpa [Sidecar.awaited, calls, first] using awaited
        exact (tracked.hostEnded_of_reads reads).imp_right .inl
    · apply heard.extend
      · simpa [closes] using calls
      · exact endedFirst_ran .reader event
      · exact workerEvents_read
      · intro attached
        obtain ⟨member, tuned⟩ := tracked.tunedIn_of_attached attached
        have unwritten : writesGlobal event.command = false := by
          by_contra writes
          rw [Bool.not_eq_false] at writes
          simp only [Sidecar.undisturbed, writesGlobals, writes, Bool.not_true,
            Bool.false_or, List.all_eq_true, Bool.or_eq_true, beq_iff_eq,
            Bool.not_eq_true'] at undisturbed
          rcases undisturbed engine member with behalf | untuned
          · exact calls behalf
          · rw [tuned] at untuned
            cases untuned
        obtain ⟨sink, flag⟩ := effect_globals .reader unwritten shared
        exact ⟨sink, fun waits => flag.trans waits⟩

/-- A thread whose sender is installed does not find its channel
disconnected. -/
theorem connected_of_sink {event : Event sidecar}
    (possible : Possible (.worker engine) shared event)
    (sink : shared.videoSink = some engine) :
    event ≠ ⟨.receive, .disconnected⟩ := by
  rintro rfl
  obtain ⟨_, answer, replied⟩ := possible
  cases answer with
  | nothing =>
      have found : received shared engine = .disconnected :=
        Option.some.inj replied
      unfold received at found
      split at found
      · cases found
      · rw [if_pos sink] at found
        cases found
  | _ => cases replied

theorem stop_of_read
    (possible : Possible (.worker engine) shared ⟨.loadStop, true⟩) :
    shared.stopFlag engine = true := by
  obtain ⟨_, answer, replied⟩ := possible
  cases answer with
  | nothing => exact Option.some.inj replied
  | _ => cases replied

theorem raised_of_read
    (possible : Possible (.worker engine) shared ⟨.loadTerminated, true⟩) :
    shared.terminated = true := by
  obtain ⟨_, answer, replied⟩ := possible
  cases answer with
  | nothing => exact Option.some.inj replied
  | _ => cases replied

/-- The engine's own thread moves. -/
theorem Heard.move {after : Worker}
    (heard : Heard engine trace shared (standing.workers engine).phase)
    (tracked : Tracked trace shared standing)
    (careful : attentive trace (.ran (.worker engine) event) = true)
    (next : Worker.Next (standing.workers engine) event after)
    (possible : Possible (.worker engine) shared event) :
    Heard engine (trace ++ [.ran (.worker engine) event])
      (effectOf (.worker engine) event shared) after.phase := by
  have called := @closeCalled_work _ trace event engine engine
  have ended : endedFirst engine (trace ++ [.ran (.worker engine) event]) =
      endedFirst engine trace := endedFirst_ran (.worker engine) event
  generalize standing.workers engine = worker at heard next
  obtain @⟨session, doc, before, after, event, next⟩ := next
  have stays : closeCalled engine trace = false → after.quits = false := by
    intro still
    by_contra quits
    rw [Bool.not_eq_false] at quits
    rcases Phase.quits_step next quits with quits | rfl | ⟨rfl, rfl⟩
    · rw [heard.stays still] at quits
      cases quits
    · rw [closeCalled_of_stop tracked (stop_of_read possible)] at still
      cases still
    · exact connected_of_sink possible (heard.attached still rfl) rfl
  constructor
  · intro still attached
    rw [called] at still
    exact sink_of_next next attached (heard.attached still)
  · intro still
    rw [called] at still
    exact stays still
  · intro first
    rw [ended] at first
    rw [workerEvents_work, List.any_append, heard.spared first]
    by_contra cancel
    obtain ⟨unended, still, undialled⟩ :=
      Phase.aside_of_cancel next (by simpa using cancel)
    rcases heard.ended first with ends | closed | ⟨_, dialled, _⟩
    · rw [unended] at ends
      cases ends
    · exact still closed
    · rw [undialled] at dialled
      cases dialled
  · intro first
    rw [ended] at first
    rw [called]
    rcases heard.ended first with ends | closed | ⟨still, dialled, waits⟩
    · exact (Phase.hostEnded_kept next (.inl ends)).imp_right .inl
    · exact absurd closed (Worker.open_of_next next)
    · rcases Phase.dialled_step next dialled with
        dialled' | ends | quits | refuses
      · exact .inr (.inr ⟨still, dialled',
          (terminated_of_next next dialled).trans waits⟩)
      · exact .inl ends
      · rw [stays still] at quits
        cases quits
      · simp [attentive, completes, refuses, first] at careful

theorem Heard.work {runner : Engine} {after : Worker}
    (heard : Heard engine trace shared (standing.workers engine).phase)
    (tracked : Tracked trace shared standing)
    (careful : attentive trace (.ran (.worker runner) event) = true)
    (next : Worker.Next (standing.workers runner) event after)
    (possible : Possible (.worker runner) shared event) :
    Heard engine (trace ++ [.ran (.worker runner) event])
      (effectOf (.worker runner) event shared)
      (Function.update standing.workers runner after engine).phase := by
  by_cases same : engine = runner
  · subst same
    rw [Function.update_self]
    exact heard.move tracked careful next possible
  · rw [Function.update_of_ne same]
    apply heard.extend rfl (endedFirst_ran (.worker runner) event)
      (workerEvents_other (Ne.symm same))
    intro attached
    obtain ⟨member, tuned⟩ := tracked.tunedIn_of_attached attached
    have unwritten : writesGlobal event.command = false := by
      by_contra writes
      rw [Bool.not_eq_false] at writes
      simp only [attentive, undisturbed, writesGlobals, writes, Bool.not_true,
        Bool.false_or, Bool.and_eq_true, List.all_eq_true, Bool.or_eq_true,
        beq_iff_eq, Bool.not_eq_true'] at careful
      rcases careful.1 engine member with behalf | untuned
      · exact same (Option.some.inj behalf).symm
      · rw [tuned] at untuned
        cases untuned
    obtain ⟨sink, flag⟩ := effect_globals (.worker runner) unwritten shared
    exact ⟨sink, fun waits => flag.trans waits⟩

/-- The owner of the connection that is not closed is in its loop, or stopped
for `TERMINATED`; it has not cancelled. -/
theorem Heard.owner
    (heard : Heard engine trace shared (standing.workers engine).phase)
    (tracked : Tracked trace shared standing)
    (linked : Linked standing.workers shared.connection)
    (still : closeCalled engine trace = false)
    (owns : shared.connection.owner = some engine) :
    (workerEvents engine trace).any isCancel = false ∧
      ((standing.workers engine).phase.dialled = true ∨
        (standing.workers engine).phase.hostEnded = true) := by
  have stands : (standing.workers engine).phase = .starting ∨
      (standing.workers engine).phase.linked = true := by
    cases connection : shared.connection with
    | idle =>
        rw [connection] at owns
        cases owns
    | starting owner =>
        rw [connection] at owns linked
        obtain rfl := Option.some.inj owns
        exact .inl linked
    | established owner =>
        rw [connection] at owns linked
        obtain rfl := Option.some.inj owns
        exact .inr linked
  have stays := heard.stays still
  have history := tracked.history engine
  generalize standing.workers engine = worker at stands stays history
  cases history with
  | unborn idle silent =>
      rcases stands with impossible | impossible <;> cases impossible
  | born spawned path =>
      obtain ⟨phase, rfl, accounts⟩ := Worker.accounts_of_path path
      have due : phase ≠ .closed ∧ phase.releasedYet = false ∧
          (phase.dialled = true ∨ phase.hostEnded = true) := by
        cases phase with
        | stopping exit | stoppingCore exit =>
            cases exit <;> simp_all [Phase.quits, Phase.releasedYet,
              Phase.hostEnded]
        | starting | connected | announced | polling | polled | listening
        | delivering => simp [Phase.releasedYet, Phase.dialled]
        | _ => rcases stands with impossible | impossible <;> cases impossible
      obtain ⟨present, pending, place⟩ := due
      have cancels := (accounts present).cancels
      rw [pending, Bool.toNat_false, List.countP_eq_zero] at cancels
      exact ⟨List.any_eq_false.mpr cancels, place⟩

theorem callBack_keeps (callback : Callback) (shared : Shared) :
    (callBack callback shared).2.videoSink = shared.videoSink ∧
      (shared.terminated = true →
        (callBack callback shared).2.terminated = true) := by
  cases callback with
  | setup => exact ⟨rfl, id⟩
  | submit unit =>
      simp only [callBack]
      split
      · exact ⟨rfl, id⟩
      · exact ⟨rfl, id⟩
  | terminated => exact ⟨rfl, fun _ => rfl⟩

theorem Heard.call (heard : Heard engine trace shared
      (standing.workers engine).phase)
    (tracked : Tracked trace shared standing)
    (linked : Linked standing.workers shared.connection)
    (callback : Callback) :
    Heard engine (trace ++ [.outside (callBack callback shared).1])
      (callBack callback shared).2 (standing.workers engine).phase := by
  generalize seen : (callBack callback shared).1 = happening
  have kept := callBack_keeps callback shared
  by_cases first : closeCalled engine trace = false ∧
      terminatedByHost engine
        ([.outside happening] : (process libraries).Trace) = true
  · obtain ⟨still, ends⟩ := first
    obtain ⟨owns, waits⟩ :
        shared.connection.owner = some engine ∧
          (callBack callback shared).2.terminated = true := by
      subst seen
      cases callback with
      | terminated => simpa [terminatedByHost, callBack] using ends
      | setup | submit => cases ends
    obtain ⟨uncancelled, place⟩ := heard.owner tracked linked still owns
    constructor
    · intro _ attached
      rw [kept.1]
      exact heard.attached still attached
    · intro _
      exact heard.stays still
    · intro _
      rw [workerEvents_call]
      exact uncancelled
    · intro _
      rw [closeCalled_snoc, still]
      rcases place with dialled | ends
      · exact .inr (.inr ⟨rfl, dialled, waits⟩)
      · exact .inl ends
  · apply heard.extend rfl _ workerEvents_call fun _ => kept
    rw [endedFirst_snoc]
    cases called : closeCalled engine trace with
    | true => simp
    | false =>
        rw [not_and, Bool.not_eq_true] at first
        simp [first called]

/-- A session that its host ended before it was closed is not cancelled, in
every run in which the termination callback reaches its thread. -/
theorem no_cancel_after_host_end {config : (process libraries).Config}
    (run : Machine.Run (process.start libraries) trace config)
    (careful : Machine.Obeys (fun past next => attentive past next = true)
      trace) (ended : endedFirst engine trace = true) :
    (workerEvents engine trace).any isCancel = false := by
  obtain ⟨standing, _, _, heard⟩ := tracked_invariant run _ careful
    (fun trace shared standing =>
      Linked standing.workers shared.connection ∧ ∀ engine,
        Heard engine trace shared (standing.workers engine).phase)
    ⟨trivial, fun engine => by
      constructor
      · intro _ impossible
        cases impossible
      · intro _
        rfl
      · intro impossible
        cases impossible
      · intro impossible
        cases impossible⟩
    (fun _ _ _ _ _ tracked held careful next possible =>
      ⟨held.1.read tracked next possible, fun engine =>
        (held.2 engine).read tracked careful next possible⟩)
    (fun _ _ _ _ _ _ tracked held careful next possible =>
      ⟨held.1.work next, fun engine =>
        (held.2 engine).work tracked careful next possible⟩)
    (fun _ shared _ callback tracked held _ _ =>
      ⟨(callBack_connection callback shared).symm ▸ held.1, fun engine =>
        (held.2 engine).call tracked held.1 callback⟩)
  exact (heard engine).spared ended

end

open SampleHost

/-- The close comes right after the callback, and the thread sees its stop flag
first. -/
theorem cancel_after_host_end :
    ¬ ∀ {libraries : Libraries} {trace : (process libraries).Trace}
      {config : (process libraries).Config} {engine : Engine},
      Machine.Run (process.start libraries) trace config →
      endedFirst engine trace = true →
      (workerEvents engine trace).any isCancel = false := by
  intro claim
  obtain ⟨trace, config, run, checked⟩ := Machine.exists_run_of_play
    (fun trace _ => endedFirst 0 trace && (workerEvents 0 trace).any isCancel)
    (show (Machine.play (greeting ++ connects (lit "1") ++ goesLive 0 ++
      [.outside .terminated, sends close] ++ passes reader 5 ++
      passes (worker 0) 4 ++ [draws 0 16,
        answers 0 "<r status_code=\"200\"><cancel>1</cancel></r>"])
      (process.start libraries)).any _ = true by decide +kernel)
  simp only [Bool.and_eq_true] at checked
  obtain ⟨ended, cancels⟩ := checked
  rw [claim run ended] at cancels
  cases cancels

/-- The thread has read `TERMINATED` when the close comes. -/
theorem no_cancel_after_host_end_closed :
    ∃ trace : (process SampleHost.libraries).Trace,
      reportedClosed 0 trace = true ∧ closeCalled 0 trace = true ∧
        (workerEvents 0 trace).any isCancel = false := by
  obtain ⟨trace, config, run, checked⟩ := Machine.exists_run_of_play
    (fun trace _ => Machine.checkAll attentive [] trace &&
      (endedFirst 0 trace && (reportedClosed 0 trace && closeCalled 0 trace)))
    (show (Machine.play (greeting ++ connects (lit "1") ++ goesLive 0 ++
      terminates 0 ++ [sends close] ++ passes reader 9)
      (process.start libraries)).any _ = true by decide +kernel)
  simp only [Bool.and_eq_true] at checked
  obtain ⟨careful, ended, closed, called⟩ := checked
  exact ⟨trace, closed, called, no_cancel_after_host_end run
    (Machine.obeys_of_checkAll careful) ended⟩

end Sidecar

end MoonlightAddon
