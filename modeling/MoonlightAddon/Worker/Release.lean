import MoonlightAddon.Worker.Prompt

/-!
# Accounting for launch and cancel

The books of one engine thread: whether the host accepted a launch, how often
it was asked to release the session, and how far the stream has been stopped.
Each entry is a function of the phase, and every step keeps it up to date.
-/

namespace MoonlightAddon

open NvHttp Session

/-- `nvhttp::launch` returned `Ok`. -/
def isLaunched : Event sidecar → Bool
  | ⟨.request (.launch ..), reply⟩ => launchAccepted reply
  | _ => false

def isCancel : Event sidecar → Bool
  | ⟨.request (.cancel ..), _⟩ => true
  | _ => false

def isClosed : Event sidecar → Bool
  | ⟨.control (.sessionClosed _ _), _⟩ => true
  | _ => false

/-- The session is reported as ended by its host. -/
def endedByHost : Event sidecar → Bool
  | ⟨.control (.sessionClosed _ error), _⟩ => error == some hostTerminated
  | _ => false

/-- `stop_stream` on the engine's own thread. -/
def stopCommands : List Command :=
  [.beginStop .worker, .finishStop .worker, .clearSink .worker]

namespace Phase

def launchedYet : Phase → Bool
  | .launched | .sinkInstalled | .armed | .starting | .refused _
  | .startFailed _ | .connected | .announced | .polling | .polled | .listening
  | .delivering _ | .stopping _ | .stoppingCore _ | .uninstalling _
  | .releasing _ | .closing _ => true
  | _ => false

def releasedYet : Phase → Bool
  | .closing none => true
  | .closing (some error) => error ≠ hostTerminated
  | _ => false

/-- The calls made since `LiStartConnection` succeeded, if it did. -/
def sinceStart : Phase → Option (List Command)
  | .connected | .announced | .polling | .polled | .listening | .delivering _
  | .stopping _ => some [.finishStart]
  | .stoppingCore _ => some [.finishStart, .beginStop .worker]
  | .uninstalling _ =>
      some [.finishStart, .beginStop .worker, .finishStop .worker]
  | .releasing _ | .closing none => some (.finishStart :: stopCommands)
  | .closing (some error) =>
      if error = hostTerminated then some (.finishStart :: stopCommands)
      else none
  | _ => none

/-- The errors kept while the host is still to be released. -/
def pendingError : Phase → Option Text
  | .refused error | .startFailed error => some error
  | _ => none

section

variable {session : UInt32} {doc : MoonlightConnectDoc}
  {before after : Phase} {event : Event sidecar}

theorem quiet_harmless {phase : Phase} {command : Command}
    (quiet : Quiet phase command = true) (reply : command.Reply) :
    isLaunched ⟨command, reply⟩ = false ∧ isCancel ⟨command, reply⟩ = false ∧
      isClosed ⟨command, reply⟩ = false ∧
      (⟨command, reply⟩ : Event sidecar) ≠ Worker.startSucceeded := by
  cases routine_of_quiet quiet <;>
  exact ⟨rfl, rfl, rfl, by simp [Worker.startSucceeded]⟩

theorem launchedYet_step (next : Next session doc before event after)
    (still : after ≠ .closed) :
    after.launchedYet = (before.launchedYet || isLaunched event) := by
  cases next with
  | close may => exact absurd rfl still
  | quiet quiet => simp [(quiet_harmless quiet _).1]
  | runtime settled | noRuntime settled =>
      obtain rfl | rfl := settled <;> rfl
  | proceed due | stopEarly due => obtain rfl | rfl := due <;> rfl
  | launch accepted => simp [launchedYet, isLaunched, accepted]
  | launchFailed rejected => simp [launchedYet, isLaunched, rejected]
  | _ => rfl

theorem pendingError_step (next : Next session doc before event after)
    (known : ∀ error, before.pendingError = some error → StartError error) :
    ∀ error, after.pendingError = some error → StartError error := by
  cases next with
  | quiet quiet | noRuntime settled => exact known
  | badString fixed | refuse failure fixed =>
      rintro error same
      obtain rfl := Option.some.inj same
      exact fixed
  | uninstallRefused => exact known
  | _ =>
      intro error impossible
      cases impossible

theorem releasedYet_step (next : Next session doc before event after)
    (known : ∀ error, before.pendingError = some error → StartError error)
    (still : after ≠ .closed) :
    (before.releasedYet = false ∨ isCancel event = false) ∧
      after.releasedYet = (before.releasedYet || isCancel event) := by
  cases next with
  | close may => exact absurd rfl still
  | quiet quiet => simp [(quiet_harmless quiet _).2.1]
  | runtime settled | noRuntime settled =>
      obtain rfl | rfl := settled <;> simp [releasedYet, isCancel]
  | proceed due | stopEarly due =>
      obtain rfl | rfl := due <;> simp [releasedYet, isCancel]
  | @releaseFailed error =>
      have distinct := (known error rfl).2
      simp [releasedYet, isCancel, distinct]
  | _ => simp [releasedYet, isCancel]

/-- A step leaves the calls since the start alone, begins them, or adds one. -/
theorem sinceStart_step (next : Next session doc before event after)
    (known : ∀ error, before.pendingError = some error → StartError error)
    (still : after ≠ .closed) :
    (after.sinceStart = before.sinceStart ∧ event ≠ Worker.startSucceeded) ∨
      (event = Worker.startSucceeded ∧
        after.sinceStart = some [.finishStart]) ∨
      ∃ calls, before.sinceStart = some calls ∧
        after.sinceStart = some (calls ++ [event.command]) := by
  cases next with
  | close may => exact absurd rfl still
  | quiet quiet => exact .inl ⟨rfl, (quiet_harmless quiet _).2.2.2⟩
  | runtime settled | noRuntime settled =>
      obtain rfl | rfl := settled <;>
        exact .inl ⟨rfl, by simp [Worker.startSucceeded]⟩
  | proceed due | stopEarly due =>
      obtain rfl | rfl := due <;>
        exact .inl ⟨rfl, by simp [Worker.startSucceeded]⟩
  | started => exact .inr (.inl ⟨rfl, rfl⟩)
  | refuse failure fixed =>
      refine .inl ⟨rfl, ?_⟩
      intro same
      exact failure (by simpa [Worker.startSucceeded] using same)
  | beginStop => exact .inr (.inr ⟨_, rfl, rfl⟩)
  | finishStop => exact .inr (.inr ⟨_, rfl, rfl⟩)
  | uninstall kept => exact .inr (.inr ⟨_, rfl, rfl⟩)
  | uninstallEnded =>
      refine .inr (.inr ⟨_, rfl, ?_⟩)
      simp [sinceStart, stopCommands]
  | @releaseFailed error =>
      have distinct := (known error rfl).2
      refine .inl ⟨?_, by simp [Worker.startSucceeded]⟩
      exact if_neg distinct
  | _ => exact .inl ⟨rfl, by simp [Worker.startSucceeded]⟩

end

end Phase

namespace Worker

variable {session : UInt32} {doc : MoonlightConnectDoc}
  {libraries : Libraries} {trace : List (Event sidecar)}

/-- The calls made since the start, as the trace shows them. -/
def Since (trace : List (Event sidecar)) : Option (List Command) → Prop
  | none => startSucceeded ∉ trace
  | some calls => calls.Sublist (trace.map Event.command)

/-- The books of a thread that has not closed yet. -/
structure Accounts (trace : List (Event sidecar)) (phase : Phase) : Prop where
  launched : trace.any isLaunched = phase.launchedYet
  cancels : trace.countP isCancel = phase.releasedYet.toNat
  since : Since trace phase.sinceStart
  silent : trace.any isClosed = false
  known : ∀ error, phase.pendingError = some error → Phase.StartError error

theorem isClosed_of_next {before after : Phase} {event : Event sidecar}
    (next : Phase.Next session doc before event after)
    (still : after ≠ .closed) : isClosed event = false := by
  cases next with
  | close may => exact absurd rfl still
  | quiet quiet => exact (Phase.quiet_harmless quiet _).2.2.1
  | _ => rfl

theorem Since.step {past : List (Event sidecar)} {before after : Phase}
    {event : Event sidecar} (since : Since past before.sinceStart)
    (next : Phase.Next session doc before event after)
    (known : ∀ error, before.pendingError = some error →
      Phase.StartError error)
    (still : after ≠ .closed) :
    Since (past ++ [event]) after.sinceStart := by
  obtain ⟨same, other⟩ | ⟨rfl, begun⟩ | ⟨calls, due, added⟩ :=
    Phase.sinceStart_step next known still
  · rw [same]
    cases calls : before.sinceStart with
    | none =>
        rw [calls] at since
        simpa [Since] using ⟨since, fun equality => other equality.symm⟩
    | some calls' =>
        rw [calls] at since
        simp only [Since, List.map_append]
        exact since.trans (List.sublist_append_left _ _)
  · rw [begun]
    simp only [Since, List.map_append]
    exact List.sublist_append_right _ _
  · rw [due] at since
    rw [added]
    simp only [Since, List.map_append]
    exact since.append (List.Sublist.refl _)

theorem accounts_step {past : List (Event sidecar)} {before after : Phase}
    {event : Event sidecar} (accounts : Accounts past before)
    (next : Phase.Next session doc before event after)
    (still : after ≠ .closed) : Accounts (past ++ [event]) after where
  launched := by
    rw [List.any_append, accounts.launched,
      Phase.launchedYet_step next still]
    simp
  cancels := by
    obtain ⟨once, released⟩ :=
      Phase.releasedYet_step next accounts.known still
    rw [List.countP_append, accounts.cancels, released]
    obtain first | second := once
    · cases cancelled : isCancel event <;> simp [first, cancelled]
    · simp [second]
  since := accounts.since.step next accounts.known still
  silent := by
    rw [List.any_append, accounts.silent]
    simp [isClosed_of_next next still]
  known := Phase.pendingError_step next accounts.known

theorem accounts_of_path {worker : Worker}
    (path : engineThread.Path (born session doc) trace worker) :
    ∃ phase, worker = ⟨session, doc, phase⟩ ∧
      (phase ≠ .closed → Accounts trace phase) := by
  apply path_invariant path
    (fun trace phase => phase ≠ .closed → Accounts trace phase)
  · intro still
    exact {
      launched := rfl
      cancels := rfl
      since := by simp [Since, Phase.sinceStart]
      silent := rfl
      known := by
        intro error impossible
        cases impossible }
  · intro past before event after accounts next still
    exact accounts_step (accounts (open_of_next next)) next still

/-- A cancel is due only after a launch, and after the stream was stopped if
it had started. -/
theorem release_due {before after : Phase} {event : Event sidecar}
    (accounts : Accounts trace before)
    (next : Phase.Next session doc before event after)
    (ending : isCancel event = true ∨ isClosed event = true) :
    (isCancel event = true → trace.any isLaunched = true) ∧
      (startSucceeded ∈ trace →
        (Command.finishStart :: stopCommands).Sublist
          (trace.map Event.command)) := by
  have since := accounts.since
  have launched := accounts.launched
  cases next with
  | release =>
      exact ⟨fun _ => launched, fun _ => since⟩
  | releaseFailed =>
      exact ⟨fun _ => launched, fun started => absurd started since⟩
  | @close phase error reply may =>
      refine ⟨fun cancel => by simp [isCancel] at cancel, ?_⟩
      intro started
      cases before with
      | closing due =>
          cases due with
          | none => exact since
          | some text =>
              by_cases host : text = hostTerminated
              · subst host
                exact since
              · have unstarted : Since trace none := by
                  simpa [Phase.sinceStart, host] using since
                exact absurd started unstarted
      | fresh | introduced | probing | pairing | unpaired | cleared | wrecked
      | stoppedEarly => exact absurd started since
      | _ => exact absurd may id
  | @quiet phase command reply quiet =>
      obtain ⟨_, uncancelled, unclosed, _⟩ :=
        Phase.quiet_harmless quiet reply
      simp [uncancelled, unclosed] at ending
  | _ => simp [isCancel, isClosed] at ending

/-- The launch and cancel accounting of a finished thread. -/
theorem release_accounting
    (run : Program.Run (Main.bodies libraries)
      (worker libraries session doc) trace (.ret ())) :
    (∀ past event future, trace = past ++ event :: future →
      isCancel event = true → past.any isLaunched = true) ∧
    (trace.countP isCancel =
      if trace.any isLaunched && !trace.any endedByHost then 1 else 0) ∧
    (∀ past event future, trace = past ++ event :: future →
      isCancel event = true ∨ isClosed event = true →
      startSucceeded ∈ past →
        (Command.finishStart :: stopCommands).Sublist
          (past.map Event.command)) := by
  have path := path_of_finished run
  have due : ∀ past event future, trace = past ++ event :: future →
      isCancel event = true ∨ isClosed event = true →
      (isCancel event = true → past.any isLaunched = true) ∧
        (startSucceeded ∈ past →
          (Command.finishStart :: stopCommands).Sublist
            (past.map Event.command)) := by
    intro past event future split ending
    obtain ⟨worker, after, first, next, _⟩ := path.split split
    obtain ⟨phase, rfl, accounts⟩ := accounts_of_path first
    cases next with
    | mk next =>
        exact release_due (accounts (open_of_next next)) next ending
  refine ⟨?_, ?_, ?_⟩
  · intro past event future split cancel
    exact (due past event future split (.inl cancel)).1 cancel
  · obtain ⟨past, before, error, reply, rfl, first, may⟩ :=
      last_of_closed path
    obtain ⟨phase, same, accounts⟩ := accounts_of_path first
    obtain rfl : before = phase := congrArg Worker.phase same
    have still : before ≠ .closed := by
      rintro rfl
      exact may
    have books := accounts still
    have reports : (past ++ [⟨.control (.sessionClosed session error), reply⟩]
        : List (Event sidecar)).any endedByHost =
          (error == some hostTerminated) := by
      have none : past.any endedByHost = false := by
        rw [List.any_eq_false]
        intro event member ended
        have unclosed := List.any_eq_false.mp books.silent event member
        unfold endedByHost at ended
        unfold isClosed at unclosed
        split at ended <;> simp_all
      rw [List.any_append, none]
      simp [endedByHost]
    rw [reports, List.countP_append, List.any_append, books.launched,
      books.cancels]
    cases before with
    | closing due =>
        obtain rfl : error = due := may
        cases error with
        | none => rfl
        | some text =>
            by_cases host : text = hostTerminated
            · simp [Phase.releasedYet, Phase.launchedYet, host, isCancel]
            · simp [Phase.releasedYet, Phase.launchedYet, host, isCancel]
    | fresh | introduced | probing | pairing | unpaired | cleared | wrecked
    | stoppedEarly => rfl
    | _ => exact absurd may id
  · intro past event future split ending
    exact (due past event future split ending).2

theorem release_accounting_stopped :
    ∃ trace, Program.Run (Main.bodies default) (worker default 1 .stored) trace
        (.ret ()) ∧
      (trace.any isLaunched && !trace.any endedByHost) = true ∧
      trace.countP isCancel = 1 := by
  obtain ⟨⟨⟩, trace, run, owing⟩ := Program.exists_run_of_serve
    (fun () trace => trace.any isLaunched && !trace.any endedByHost)
    (show (Program.serve (cooperative none)
      (Program.serveLoops (cooperative none) (Main.bodies default) 2)
      (worker default 1 .stored) 0).any _ = true by decide +kernel)
  refine ⟨trace, run, owing, ?_⟩
  rw [(release_accounting run).2.1, if_pos owing]

end Worker

end MoonlightAddon
