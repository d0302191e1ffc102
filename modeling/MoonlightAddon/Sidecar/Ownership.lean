import MoonlightAddon.Sidecar.Isolation
import MoonlightAddon.Sidecar.Pipeline

/-!
# Who holds the stream

Any number of sessions may be connected at once.  Whoever the connection of
the C core and the video sink belong to has taken them and not given them up
again, so nothing is left of the stream once the end of every session was
reported.
-/

namespace MoonlightAddon

/-- `LiStartConnection` is called. -/
def isDial : Event sidecar → Bool
  | ⟨.beginStart _ _, _⟩ => true
  | _ => false

/-- `LiStopConnection` returns on the engine's own thread. -/
def isHangUp : Event sidecar → Bool
  | ⟨.finishStop .worker, _⟩ => true
  | _ => false

namespace Phase

/-- Reached when the thread has stopped the connection. -/
def hungUp : Phase → Bool
  | .uninstalling _ | .releasing _ | .closing _ | .closed => true
  | _ => false

variable {session : UInt32} {doc : MoonlightConnectDoc}
  {before after : Phase} {event : Event sidecar}

theorem hungUp_step (next : Next session doc before event after)
    (hungUp : before.hungUp = true ∨ isHangUp event = true) :
    after.hungUp = true := by
  cases next with
  | quiet quiet =>
      cases routine_of_quiet quiet <;> simpa [isHangUp] using hungUp
  | runtime settled | noRuntime settled =>
      obtain rfl | rfl := settled <;> simp [Phase.hungUp, isHangUp] at hungUp
  | proceed due | stopEarly due =>
      obtain rfl | rfl := due <;> simp [Phase.hungUp, isHangUp] at hungUp
  | _ => first | rfl | simp [Phase.hungUp, isHangUp] at hungUp

/-- From the call of `LiStartConnection` until the thread clears the sink. -/
def engaged : Phase → Bool
  | .starting | .refused _ | .uninstalling _ => true
  | phase => phase.linked

theorem engaged_origin (next : Next session doc before event after)
    (engaged : after.engaged = true) :
    before.engaged = true ∨ isDial event = true := by
  cases next with
  | beginStart => exact .inr rfl
  | quiet quiet => exact .inl engaged
  | runtime settled | noRuntime settled =>
      obtain rfl | rfl := settled <;> cases engaged
  | proceed due | stopEarly due => obtain rfl | rfl := due <;> cases engaged
  | _ => first | exact .inl rfl | cases engaged

/-- A thread that engaged the core clears the sink before anything else. -/
theorem engaged_until_uninstall (next : Next session doc before event after)
    (engaged : before.engaged = true ∨ isDial event = true) :
    after.engaged = true ∨ isUninstall event = true := by
  cases next with
  | uninstallRefused | uninstall kept | uninstallEnded => exact .inr rfl
  | quiet quiet =>
      cases routine_of_quiet quiet <;>
        exact .inl (by simpa [isDial] using engaged)
  | runtime settled | noRuntime settled =>
      obtain rfl | rfl := settled <;>
        simp [Phase.engaged, linked, isDial] at engaged
  | proceed due | stopEarly due =>
      obtain rfl | rfl := due <;>
        simp [Phase.engaged, linked, isDial] at engaged
  | close may =>
      cases before with
      | fresh | introduced | probing | pairing | unpaired | cleared | wrecked
      | stoppedEarly | closing =>
          simp [Phase.engaged, linked, isDial] at engaged
      | _ => exact absurd may id
  | _ =>
      first
        | exact .inl rfl
        | simp [Phase.engaged, linked, isDial] at engaged

theorem not_hungUp_of_linked {phase : Phase}
    (up : phase = .starting ∨ phase.linked = true) :
    phase.hungUp = false ∧ phase.engaged = true := by
  rcases up with rfl | linked
  · exact ⟨rfl, rfl⟩
  · cases phase <;> first | exact ⟨rfl, rfl⟩ | cases linked

end Phase

namespace Worker

variable {session : UInt32} {doc : MoonlightConnectDoc}
  {past : List (Event sidecar)}

/-- What the events of a thread tell about its connection. -/
structure Line (past : List (Event sidecar)) (phase : Phase) : Prop where
  engaged : phase.engaged = true → past.any isDial = true
  hungUp : past.any isHangUp = true → phase.hungUp = true
  cleared : past.any isDial = true →
    phase.engaged = true ∨ past.any isUninstall = true

theorem line_step {before after : Phase} {event : Event sidecar}
    (line : Line past before)
    (next : Phase.Next session doc before event after) :
    Line (past ++ [event]) after := by
  have grown : ∀ test : Event sidecar → Bool,
      (past ++ [event]).any test = true ↔
        past.any test = true ∨ test event = true := by
    intro test
    simp
  constructor
  · intro engaged
    rw [grown]
    exact (Phase.engaged_origin next engaged).imp_left line.engaged
  · rw [grown]
    intro hungUp
    exact Phase.hungUp_step next (hungUp.imp_left line.hungUp)
  · rw [grown, grown]
    rintro (earlier | dials)
    · rcases line.cleared earlier with engaged | cleared
      · exact (Phase.engaged_until_uninstall next (.inl engaged)).imp_right
          Or.inr
      · exact .inr (.inl cleared)
    · exact (Phase.engaged_until_uninstall next (.inr dials)).imp_right Or.inr

theorem line_of_path {worker : Worker}
    (path : engineThread.Path (born session doc) past worker) :
    Line past worker.phase := by
  have fresh : Line [] .fresh :=
    ⟨by simp [Phase.engaged, Phase.linked], by simp, by simp⟩
  obtain ⟨phase, rfl, line⟩ := path_invariant path Line fresh
    fun _ _ _ _ line next => line_step line next
  exact line

end Worker

namespace Sidecar

section

variable {libraries : Libraries} {trace : (process libraries).Trace}
  {shared : Shared} {standing : Standing} {event : Event sidecar}

theorem Tracked.line (tracked : Tracked trace shared standing)
    (engine : Engine) :
    Worker.Line (workerEvents engine trace)
      (standing.workers engine).phase := by
  have history := tracked.history engine
  generalize standing.workers engine = worker at history
  cases history with
  | unborn idle silent =>
      rw [silent]
      exact ⟨by simp [Worker.unborn, Phase.engaged, Phase.linked], by simp,
        by simp⟩
  | born spawned path => exact Worker.line_of_path path

/-- The engine's thread has installed its sender and not cleared the sink. -/
def keepsSink (engine : Engine) (trace : (process libraries).Trace) : Bool :=
  (workerEvents engine trace).any isInstall &&
    !(workerEvents engine trace).any isUninstall

/-- The engine's thread has called `LiStartConnection`, not returned from its
own `LiStopConnection` and not closed its session. -/
def keepsConnection (engine : Engine) (trace : (process libraries).Trace) :
    Bool :=
  (workerEvents engine trace).any isDial &&
    !(workerEvents engine trace).any isHangUp && !reportedClosed engine trace

/-- The connection belongs to a thread that keeps it. -/
theorem Tracked.keepsConnection (tracked : Tracked trace shared standing)
    (linked : Linked standing.workers shared.connection) {engine : Engine}
    (owns : shared.connection.owner = some engine) :
    keepsConnection engine trace = true := by
  have up : (standing.workers engine).phase = .starting ∨
      (standing.workers engine).phase.linked = true := by
    cases connection : shared.connection with
    | idle =>
        rw [connection] at owns
        cases owns
    | starting owner =>
        rw [connection] at owns linked
        obtain rfl := Option.some.inj owns
        exact .inl linked
    | established owner =>
        rw [connection] at owns linked
        obtain rfl := Option.some.inj owns
        exact .inr linked
  obtain ⟨unhung, engaged⟩ := Phase.not_hungUp_of_linked up
  have line := tracked.line engine
  have hangUp : (workerEvents engine trace).any isHangUp = false := by
    by_contra hungUp
    rw [Bool.not_eq_false] at hungUp
    rw [line.hungUp hungUp] at unhung
    cases unhung
  have still : reportedClosed engine trace = false := by
    by_contra closed
    rw [Bool.not_eq_false] at closed
    rw [(tracked.footing engine).closed.mp closed] at unhung
    cases unhung
  unfold Sidecar.keepsConnection
  rw [line.engaged engaged, hangUp, still]
  rfl

/-- The sink is fed for a thread that keeps it. -/
def Kept (trace : (process libraries).Trace) (shared : Shared) : Prop :=
  ∀ engine, shared.videoSink = some engine → keepsSink engine trace = true

theorem isInstall_iff : isInstall event = true ↔ event.command = .storeSink := by
  obtain ⟨command, reply⟩ := event
  cases command <;> simp [isInstall]

theorem kept_of_same {happening : (process libraries).Happening}
    {after : Shared} (kept : Kept trace shared)
    (sink : after.videoSink = shared.videoSink ∨ after.videoSink = none)
    (own : ∀ engine, after.videoSink = some engine →
      workerEvents engine (trace ++ [happening]) = workerEvents engine trace ∨
        ∃ event, isUninstall event = false ∧
          workerEvents engine (trace ++ [happening]) =
            workerEvents engine trace ++ [event]) :
    Kept (trace ++ [happening]) after := by
  intro engine installed
  have before : keepsSink engine trace = true := by
    rcases sink with same | none
    · exact kept engine (same.symm.trans installed)
    · rw [none] at installed
      cases installed
  unfold keepsSink at before ⊢
  rw [Bool.and_eq_true, Bool.not_eq_true'] at before ⊢
  rcases own engine installed with same | ⟨event, kept, grown⟩
  · rwa [same]
  · rw [grown, List.any_append, List.any_append, before.1, before.2]
    simp [kept]

theorem Kept.work {runner : Engine} {after : Worker}
    (kept : Kept trace shared) (tracked : Tracked trace shared standing)
    (next : Worker.Next (standing.workers runner) event after) :
    Kept (trace ++ [.ran (.worker runner) event])
      (effectOf (.worker runner) event shared) := by
  by_cases stores : event.command = .storeSink
  · intro engine installed
    rw [effect_storeSink stores] at installed
    obtain rfl := Option.some.inj installed
    have uncleared : (workerEvents runner trace).any isUninstall = false := by
      by_contra cleared
      rw [Bool.not_eq_false] at cleared
      have gone := (tracked.footing runner).gone cleared
      generalize standing.workers runner = worker at next gone
      obtain @⟨session, doc, before, after, event, next⟩ := next
      have streams := Phase.streams_of_touches next (by rw [stores]; rfl)
      rw [Phase.not_gone_of_streams streams] at gone
      cases gone
    have installs : isInstall event = true := isInstall_iff.mpr stores
    have clears : isUninstall event = false := by
      obtain ⟨command, reply⟩ := event
      cases stores
      rfl
    unfold keepsSink
    rw [workerEvents_work, List.any_append, List.any_append, uncleared]
    simp [installs, clears]
  · have sink := effect_sink (.worker runner) (.inl stores) shared
    apply kept_of_same kept sink
    intro engine installed
    by_cases same : runner = engine
    · subst same
      right
      refine ⟨event, ?_, workerEvents_work⟩
      by_contra clears
      rw [Bool.not_eq_false] at clears
      obtain ⟨command, reply⟩ := event
      cases command with
      | clearSink caller => cases installed
      | _ => cases clears
    · exact .inl (workerEvents_other same)

/-- What the reader and the core do leaves every thread with what it keeps. -/
theorem Kept.read (kept : Kept trace shared) :
    Kept (trace ++ [.ran .reader event]) (effectOf .reader event shared) :=
  kept_of_same kept (effect_sink .reader (.inr rfl) shared)
    fun _ _ => .inl workerEvents_read

theorem Kept.call (kept : Kept trace shared) (callback : Callback) :
    Kept (trace ++ [.outside (callBack callback shared).1])
      (callBack callback shared).2 :=
  kept_of_same kept (.inl (callBack_sink callback shared))
    fun _ _ => .inl workerEvents_call

/-- In every run, with any number of sessions at once. -/
theorem owned_of_run {config : (process libraries).Config}
    (run : Machine.Run (process.start libraries) trace config) :
    ∃ standing, Tracked trace config.shared standing ∧
      Linked standing.workers config.shared.connection ∧
      Kept trace config.shared := by
  apply tracked_invariant run (fun _ _ => True)
    (Machine.Obeys.of_forall fun _ _ _ => trivial)
    fun trace shared standing =>
      Linked standing.workers shared.connection ∧ Kept trace shared
  · exact ⟨trivial, fun engine impossible => by cases impossible⟩
  · rintro past shared standing event after tracked ⟨linked, kept⟩ _ next
      possible
    exact ⟨linked.read tracked next possible, kept.read⟩
  · rintro past shared standing engine event after tracked ⟨linked, kept⟩ _
      next _
    exact ⟨linked.work next, kept.work tracked next⟩
  · rintro past shared standing callback _ ⟨linked, kept⟩ _ _
    rw [callBack_connection]
    exact ⟨linked, kept.call callback⟩

/-- The connection and the sink belong to threads that keep them. -/
theorem stream_owned {config : (process libraries).Config}
    (run : Machine.Run (process.start libraries) trace config) :
    (∀ engine, config.shared.connection.owner = some engine →
      keepsConnection engine trace = true) ∧
    ∀ engine, config.shared.videoSink = some engine →
      keepsSink engine trace = true := by
  obtain ⟨standing, tracked, linked, kept⟩ := owned_of_run run
  exact ⟨fun engine owns => tracked.keepsConnection linked owns, kept⟩

/-- Once the end of every session was reported the core has no connection, and
only a thread that failed before it called the core can have left a sender. -/
theorem stream_released {config : (process libraries).Config}
    (run : Machine.Run (process.start libraries) trace config)
    (ended : ∀ engine ∈ startedEngines trace,
      reportedClosed engine trace = true) :
    config.shared.connection = .idle ∧
      ∀ engine, config.shared.videoSink = some engine →
        (workerEvents engine trace).any isDial = false := by
  obtain ⟨standing, tracked, linked, kept⟩ := owned_of_run run
  have reported : ∀ engine, workerEvents engine trace ≠ [] →
      reportedClosed engine trace = true :=
    fun engine acted => ended engine (tracked.started_of_events acted)
  constructor
  · have unowned : ∀ engine, config.shared.connection.owner ≠ some engine := by
      intro engine owns
      have keeps := tracked.keepsConnection linked owns
      unfold Sidecar.keepsConnection at keeps
      simp only [Bool.and_eq_true, Bool.not_eq_true'] at keeps
      obtain ⟨⟨dials, _⟩, still⟩ := keeps
      have acted : workerEvents engine trace ≠ [] := by
        intro silent
        rw [silent] at dials
        cases dials
      rw [reported engine acted] at still
      cases still
    cases connection : config.shared.connection with
    | idle => rfl
    | starting engine | established engine =>
        rw [connection] at unowned
        exact absurd rfl (unowned engine)
  · intro engine installed
    by_contra dials
    rw [Bool.not_eq_false] at dials
    have acted : workerEvents engine trace ≠ [] := by
      intro silent
      rw [silent] at dials
      cases dials
    have closed := (tracked.footing engine).closed.mp (reported engine acted)
    have keeps := kept engine installed
    unfold keepsSink at keeps
    rw [Bool.and_eq_true, Bool.not_eq_true'] at keeps
    rcases (tracked.line engine).cleared dials with engaged | cleared
    · rw [closed] at engaged
      cases engaged
    · rw [cleared] at keeps
      cases keeps.2

end

open SampleHost

/-- Two sessions stream at once; the second one owns everything. -/
theorem stream_owned_second :
    ∃ trace : (process SampleHost.libraries).Trace,
      reportedClosed 0 trace = false ∧ keepsConnection 1 trace = true ∧
        keepsSink 1 trace = true := by
  obtain ⟨trace, config, run, checked⟩ := Machine.exists_run_of_play
    (fun trace config => !reportedClosed 0 trace &&
      (config.shared.connection == .established 1 &&
        config.shared.videoSink == some 1))
    (show (Machine.play (greeting ++ connects (lit "1") ++ goesLive 0 ++
      connects (lit "2") ++ goesLive 1)
      (process.start libraries)).any _ = true by decide +kernel)
  simp only [Bool.and_eq_true, Bool.not_eq_true', beq_iff_eq] at checked
  obtain ⟨still, owns, installed⟩ := checked
  obtain ⟨connection, sink⟩ := stream_owned run
  exact ⟨trace, still, connection 1 (by rw [owns]; rfl), sink 1 installed⟩

/-- Two sessions stream at once, and then both end. -/
theorem stream_released_both :
    ∃ (trace : (process SampleHost.libraries).Trace)
      (config : (process SampleHost.libraries).Config),
      startedEngines trace = [0, 1] ∧ config.shared.connection = .idle := by
  obtain ⟨trace, config, run, checked⟩ := Machine.exists_run_of_play
    (fun trace _ => startedEngines trace == [0, 1] &&
      (startedEngines trace).all fun engine => reportedClosed engine trace)
    (show (Machine.play (greeting ++ connects (lit "1") ++ goesLive 0 ++
      connects (lit "2") ++ goesLive 1 ++ terminates 0 ++ terminates 1)
      (process.start libraries)).any _ = true by decide +kernel)
  simp only [Bool.and_eq_true, beq_iff_eq, List.all_eq_true] at checked
  obtain ⟨both, ended⟩ := checked
  exact ⟨trace, config, both, (stream_released run ended).1⟩

end Sidecar

end MoonlightAddon
