import MoonlightAddon.Worker.Release

/-!
# Landmarks of an engine thread

What the events of a thread say about how far it has come: whether it passed
its stop check, launched, installed its sender, took it down again, or closed.
-/

namespace MoonlightAddon

/-- The commands that stop the connection or write a global of the stream. -/
def touchesStream : Command → Bool
  | .storeSink | .clearSink _ | .storeTerminated _ | .beginStop _
  | .finishStop _ => true
  | _ => false

def isGoAhead : Event sidecar → Bool
  | ⟨.loadStop, false⟩ => true
  | _ => false

def isInstall : Event sidecar → Bool
  | ⟨.storeSink, _⟩ => true
  | _ => false

def isUninstall : Event sidecar → Bool
  | ⟨.clearSink .worker, _⟩ => true
  | _ => false

def readsTerminated : Event sidecar → Bool
  | ⟨.loadTerminated, true⟩ => true
  | _ => false

/-- The thread leaves its frame loop, or never reaches it. -/
def leavesLoop : Event sidecar → Bool
  | ⟨.loadStop, true⟩ | ⟨.loadTerminated, true⟩ | ⟨.receive, .disconnected⟩
  | ⟨.clearSink .worker, _⟩ | ⟨.control (.sessionClosed _ _), _⟩ => true
  | _ => false

namespace Phase

/-- Between the launch and the end of `stop_stream`. -/
def streams : Phase → Bool
  | .launched | .sinkInstalled | .armed | .starting | .refused _ | .connected
  | .announced | .polling | .polled | .listening | .delivering _ | .stopping _
  | .stoppingCore _ | .uninstalling _ => true
  | _ => false

/-- Only reached once the stop flag was read false. -/
def ahead : Phase → Bool
  | .cleared | .startFailed _ | .releasing _ => true
  | phase => phase.streams

/-- Reached when the thread has cleared the sink. -/
def gone : Phase → Bool
  | .startFailed _ | .releasing _ | .closing _ | .closed => true
  | _ => false

theorem ahead_of_streams {phase : Phase} (streams : phase.streams = true) :
    phase.ahead = true := by
  cases phase <;> first | rfl | cases streams

theorem not_gone_of_streams {phase : Phase} (streams : phase.streams = true) :
    phase.gone = false := by
  cases phase <;> first | rfl | cases streams

variable {session : UInt32} {doc : MoonlightConnectDoc}
  {before after : Phase} {event : Event sidecar}

theorem streams_of_touches (next : Next session doc before event after)
    (touches : touchesStream event.command = true) : before.streams = true := by
  cases next with
  | quiet quiet =>
      cases routine_of_quiet quiet <;> cases touches
  | install | arm | uninstallRefused | beginStop | finishStop | uninstall
  | uninstallEnded => rfl
  | _ => cases touches

theorem ahead_step (next : Next session doc before event after)
    (ahead : after.ahead = true) :
    before.ahead = true ∨ isGoAhead event = true := by
  cases next with
  | proceed due => exact .inr rfl
  | runtime settled | stopEarly due => cases ahead
  | quiet quiet | noRuntime settled => exact .inl ahead
  | _ => first | exact .inl rfl | cases ahead

theorem gone_step (next : Next session doc before event after)
    (gone : before.gone = true ∨ isUninstall event = true) :
    after.gone = true := by
  cases next with
  | quiet quiet =>
      cases routine_of_quiet quiet <;> simpa [isUninstall] using gone
  | runtime settled | noRuntime settled =>
      obtain rfl | rfl := settled <;> simp [Phase.gone, isUninstall] at gone
  | proceed due | stopEarly due =>
      obtain rfl | rfl := due <;> simp [Phase.gone, isUninstall] at gone
  | _ => first | rfl | simp [Phase.gone, isUninstall] at gone

end Phase

theorem leavesLoop_of_isClosed {event : Event sidecar}
    (closed : isClosed event = true) : leavesLoop event = true := by
  obtain ⟨command, reply⟩ := event
  cases command with
  | control message =>
      cases message with
      | sessionClosed session error => rfl
      | _ => cases closed
  | _ => cases closed

theorem leavesLoop_of_isUninstall {event : Event sidecar}
    (uninstall : isUninstall event = true) : leavesLoop event = true := by
  obtain ⟨command, reply⟩ := event
  cases command with
  | clearSink caller =>
      cases caller with
      | worker => rfl
      | closing engine => cases uninstall
  | _ => cases uninstall

namespace Worker

variable {session : UInt32} {doc : MoonlightConnectDoc}
  {past : List (Event sidecar)}

/-- How far an engine thread has come, by its events. -/
structure Footing (past : List (Event sidecar)) (phase : Phase) : Prop where
  ahead : phase.ahead = true → past.any isGoAhead = true
  launched : past.any isLaunched = true → past.any isGoAhead = true
  installed : past.any isInstall = true → past.any isGoAhead = true
  gone : past.any isUninstall = true → phase.gone = true
  closed : past.any isClosed = true ↔ phase = .closed

theorem ahead_of_launch {before after : Phase} {event : Event sidecar}
    (next : Phase.Next session doc before event after)
    (launch : isLaunched event = true) : before.ahead = true := by
  cases next with
  | launch accepted | launchFailed rejected => rfl
  | quiet quiet => simp [(Phase.quiet_harmless quiet _).1] at launch
  | _ => cases launch

theorem ahead_of_install {before after : Phase} {event : Event sidecar}
    (next : Phase.Next session doc before event after)
    (install : isInstall event = true) : before.ahead = true := by
  cases next with
  | install => rfl
  | quiet quiet =>
      cases Phase.routine_of_quiet quiet <;> cases install
  | _ => cases install

theorem isClosed_iff {before after : Phase} {event : Event sidecar}
    (next : Phase.Next session doc before event after) :
    isClosed event = true ↔ after = .closed := by
  constructor
  · intro closed
    by_contra still
    rw [isClosed_of_next next still] at closed
    cases closed
  · rintro rfl
    cases next with
    | close may => rfl
    | quiet quiet => cases quiet
    | noRuntime settled => simp at settled

theorem footing_step {before after : Phase} {event : Event sidecar}
    (footing : Footing past before)
    (next : Phase.Next session doc before event after) :
    Footing (past ++ [event]) after := by
  have grown : ∀ test : Event sidecar → Bool,
      (past ++ [event]).any test = true ↔
        past.any test = true ∨ test event = true := by
    intro test
    simp
  constructor
  · intro ahead
    rw [grown]
    exact (Phase.ahead_step next ahead).imp_left footing.ahead
  · rw [grown, grown]
    rintro (earlier | launch)
    · exact .inl (footing.launched earlier)
    · exact .inl (footing.ahead (ahead_of_launch next launch))
  · rw [grown, grown]
    rintro (earlier | install)
    · exact .inl (footing.installed earlier)
    · exact .inl (footing.ahead (ahead_of_install next install))
  · rw [grown]
    intro uninstalled
    exact Phase.gone_step next (uninstalled.imp_left footing.gone)
  · rw [grown, footing.closed, isClosed_iff next]
    exact or_iff_right (open_of_next next)

theorem footing_of_path {worker : Worker}
    (path : engineThread.Path (born session doc) past worker) :
    Footing past worker.phase := by
  have fresh : Footing [] .fresh :=
    ⟨by simp [Phase.ahead, Phase.streams], by simp, by simp, by simp, by simp⟩
  obtain ⟨phase, rfl, footing⟩ := path_invariant path Footing fresh
    fun _ _ _ _ footing next => footing_step footing next
  exact footing

end Worker

end MoonlightAddon
