import MoonlightAddon.Observer
import MoonlightAddon.Sidecar.Ledger

/-!
# The service the host relies on

What the sidecar is for, as the host sees it: after one greeting it holds any
number of conversations on one pipe, one for each session the host connects,
and each conversation has a course of its own.  `service` is that
specification; the process, with all its threads, is a refinement of it.
-/

namespace MoonlightAddon

/-- What passes between the host and the sidecar about a session. -/
inductive Notice where
  | connected
  | event (event : Proto.EventMsg)
  | ready
  | frame
  | closed

/-- How far a session has come for the host. -/
inductive View where
  | absent
  | opening
  /-- An identity to be kept has come. -/
  | introduced
  | talking
  /-- The pairing dialog is up. -/
  | prompting
  | answered
  | ready
  | streaming
  | closed
deriving DecidableEq

/-- The course of a session; an id may be used again after its end. -/
def View.hear : View → Notice → Option View
  | .absent, .connected | .closed, .connected => some .opening
  | .opening, .event (.identity _ _ _) => some .introduced
  | .opening, .event (.serviceMessage _)
  | .introduced, .event (.serviceMessage _)
  | .talking, .event (.serviceMessage _) => some .talking
  | .answered, .event (.serviceMessage _) => some .answered
  | .ready, .event (.serviceMessage _) => some .ready
  | .talking, .event (.pairPrompt _ _) => some .prompting
  | .prompting, .event (.pairFinished _) => some .answered
  | .talking, .ready | .answered, .ready => some .ready
  | .ready, .frame | .streaming, .frame => some .streaming
  | .absent, .closed | .closed, .closed => none
  | _, .closed => some .closed
  | _, _ => none

def conversation : Observer Notice where
  State := View
  step := View.hear

/-- One thing the host sees on the pipe, or does. -/
inductive Label where
  | greeted
  | session (session : UInt32) (notice : Notice)

structure Service where
  greeted : Bool
  views : UInt32 → View

def Service.start : Service := ⟨false, fun _ => .absent⟩

/-- A greeting, once, and then one conversation for each session. -/
def service : Observer Label where
  State := Service
  step state
    | .greeted =>
        if state.greeted then none else some { state with greeted := true }
    | .session session notice =>
        if state.greeted then
          (conversation.each.step state.views (session, notice)).map
            fun views => { state with views := views }
        else
          none

def Label.notice : Label → Option (UInt32 × Notice)
  | .greeted => none
  | .session addressee heard => some (addressee, heard)

/-- What the host sees of one session. -/
def noticesOf (session : UInt32) (labels : List Label) : List Notice :=
  Observer.addressed session (labels.filterMap Label.notice)

/-- A run of the service is a run of the conversation for every session. -/
theorem conversation_of_service {labels : List Label} {state final : Service}
    (watched : service.watch state labels = some final) (session : UInt32) :
    conversation.watch (state.views session) (noticesOf session labels) =
      some (final.views session) := by
  suffices together : conversation.each.watch state.views
      (labels.filterMap Label.notice) = some final.views from
    Observer.watch_addressed together session
  induction labels generalizing state with
  | nil =>
      obtain rfl := Option.some.inj watched
      rfl
  | cons label rest induction =>
      obtain ⟨middle, stepped, watched⟩ := Observer.step_of_watch watched
      have later := induction watched
      cases label with
      | greeted =>
          simp only [service] at stepped
          split at stepped
          · cases stepped
          · obtain rfl := Option.some.inj stepped
            exact later
      | session addressee notice =>
          simp only [service] at stepped
          split at stepped
          · obtain ⟨views, moved, rfl⟩ := Option.map_eq_some_iff.mp stepped
            exact (Observer.watch_cons moved _).trans later
          · cases stepped

/-- What the host sees of an event, if the pipe takes it: a write that fails
counts as well. -/
def labelOf : Event sidecar → Option Label
  | ⟨.spawn session _, (_, true)⟩ => some (.session session .connected)
  | ⟨.control (.ready _ _), _⟩ => some .greeted
  | ⟨.control (.sessionReady session _ _), _⟩ => some (.session session .ready)
  | ⟨.control (.sessionClosed session _), _⟩ => some (.session session .closed)
  | ⟨.control (.event session event), _⟩ =>
      some (.session session (.event event))
  | ⟨.frame session _, _⟩ => some (.session session .frame)
  | _ => none

namespace Phase

/-- Where the conversation stands when the engine stands in a phase. -/
def Shows : Phase → View → Prop
  | .absent, view => view = .absent
  | .fresh, view | .minted _, view => view = .opening
  | .introduced, view => view = .introduced
  | .opening, view => view = .opening ∨ view = .introduced
  | .probing, view | .inviting, view => view = .talking
  | .pairing, view | .wrecked, view => view = .prompting
  | .paired, view | .unpaired, view | .settled, view => view = .answered
  | .cleared, view | .stoppedEarly, view | .launched, view
  | .sinkInstalled, view | .armed, view | .starting, view | .refused _, view
  | .startFailed _, view | .connected, view =>
      view = .talking ∨ view = .answered
  | .announced, view => view = .ready
  | .polling, view | .polled, view | .listening, view | .delivering _, view
  | .stopping _, view | .stoppingCore _, view | .uninstalling _, view
  | .releasing _, view => view = .ready ∨ view = .streaming
  | .closing _, view =>
      (view = .talking ∨ view = .answered) ∨ view = .ready ∨ view = .streaming
  | .closed, view => view = .closed

variable {session : UInt32} {doc : MoonlightConnectDoc}
  {before after : Phase} {event : Event sidecar} {view : View}

/-- A session that has not ended may end at any time. -/
theorem hear_closed (shows : before.Shows view) {error : Option Text}
    (may : before.MayClose error) : view.hear .closed = some .closed := by
  cases before with
  | fresh | introduced | probing | pairing | unpaired | wrecked =>
      obtain rfl : view = _ := shows
      rfl
  | cleared | stoppedEarly =>
      rcases shows with rfl | rfl <;> rfl
  | closing due =>
      rcases shows with (rfl | rfl) | rfl | rfl <;> rfl
  | _ => exact absurd may id

/-- One event of the thread is one notice of its conversation, or none. -/
theorem shows_step (next : Next session doc before event after)
    (shows : before.Shows view) :
    (labelOf event = none ∧ after.Shows view) ∨
      ∃ notice heard, labelOf event = some (.session session notice) ∧
        view.hear notice = some heard ∧ after.Shows heard := by
  cases next with
  | introduce =>
      obtain rfl : view = .opening := shows
      exact .inr ⟨_, _, rfl, rfl, rfl⟩
  | runtime settled =>
      left
      obtain rfl | rfl := settled
      · exact ⟨rfl, .inl shows⟩
      · exact ⟨rfl, .inr shows⟩
  | connecting =>
      right
      rcases shows with rfl | rfl
      · exact ⟨_, _, rfl, rfl, rfl⟩
      · exact ⟨_, _, rfl, rfl, rfl⟩
  | quiet quiet =>
      cases routine_of_quiet quiet <;> exact .inl ⟨rfl, shows⟩
  | invite =>
      obtain rfl : view = .talking := shows
      exact .inr ⟨_, _, rfl, rfl, rfl⟩
  | prompt =>
      obtain rfl : view = .talking := shows
      exact .inr ⟨_, _, rfl, rfl, rfl⟩
  | finishPaired | finishUnpaired =>
      obtain rfl : view = .prompting := shows
      exact .inr ⟨_, _, rfl, rfl, rfl⟩
  | pairedMessage =>
      obtain rfl : view = .answered := shows
      exact .inr ⟨_, _, rfl, rfl, rfl⟩
  | proceed due | stopEarly due =>
      left
      obtain rfl | rfl := due
      · exact ⟨rfl, .inl shows⟩
      · exact ⟨rfl, .inr shows⟩
  | launching =>
      right
      rcases shows with rfl | rfl
      · exact ⟨_, _, rfl, rfl, .inl rfl⟩
      · exact ⟨_, _, rfl, rfl, .inr rfl⟩
  | ready =>
      right
      rcases shows with rfl | rfl
      · exact ⟨_, _, rfl, rfl, rfl⟩
      · exact ⟨_, _, rfl, rfl, rfl⟩
  | connectedMessage =>
      obtain rfl : view = .ready := shows
      exact .inr ⟨_, _, rfl, rfl, .inl rfl⟩
  | deliver =>
      right
      rcases shows with rfl | rfl
      · exact ⟨_, _, rfl, rfl, .inr rfl⟩
      · exact ⟨_, _, rfl, rfl, .inr rfl⟩
  | uninstallEnded | release => exact .inl ⟨rfl, .inr shows⟩
  | releaseFailed => exact .inl ⟨rfl, .inl shows⟩
  | close may => exact .inr ⟨_, _, rfl, hear_closed shows may, rfl⟩
  | _ => exact .inl ⟨rfl, shows⟩

end Phase

namespace Main.Phase

/-- Before the greeting is written. -/
def early : Main.Phase → Bool
  | .opening | .greeting => true
  | _ => false

/-- In the message loop. -/
def inLoop : Main.Phase → Bool
  | .serving _ | .connecting _ _ | .inserting _ _ | .looking _ _ | .sending _
  | .removing _ => true
  | _ => false

variable {libraries : Libraries} {before after : Main.Phase}
  {event : Event sidecar}

theorem early_heard {reply : Except Text (Option (UInt8 × Bytes))}
    (early : (before.heard libraries reply).early = true) :
    before.early = true := by
  cases before with
  | opening | greeting => rfl
  | _ =>
      obtain error | _ | ⟨kind, payload⟩ := reply
      · cases early
      · cases early
      · simp only [heard] at early
        split at early
        · cases early
        · split at early
          · rename_i message _
            cases message <;> cases early
          · cases early

theorem inLoop_heard (listening : before.listens = true)
    {reply : Except Text (Option (UInt8 × Bytes))}
    (inLoop : (before.heard libraries reply).inLoop = true) :
    before.inLoop = true := by
  cases before with
  | serving due | sending engine => rfl
  | opening =>
      match reply with
      | .error error => cases inLoop
      | .ok none => cases inLoop
      | .ok (some (kind, payload)) =>
          simp only [heard] at inLoop
          split at inLoop
          · cases inLoop
          · split at inLoop
            · rename_i message _
              cases message with
              | hello abi version =>
                  simp only [onMessage, opened] at inLoop
                  split at inLoop <;> cases inLoop
              | _ => cases inLoop
            · cases inLoop
  | _ => cases listening

theorem early_step (next : Next libraries before event after)
    (early : after.early = true) :
    before.early = true ∧ labelOf event = none := by
  cases next with
  | read listening => exact ⟨early_heard early, rfl⟩
  | look =>
      simp only [found] at early
      split at early
      · split at early <;> cases early
      · cases early
  | _ => cases early

theorem inLoop_step (next : Next libraries before event after)
    (inLoop : after.inLoop = true) :
    before.inLoop = true ∨ labelOf event = some .greeted := by
  cases next with
  | read listening => exact .inl (inLoop_heard listening inLoop)
  | greet => exact .inr rfl
  | _ => first | exact .inl rfl | cases inLoop

/-- The greeting is due where it is written. -/
theorem early_of_greeted (next : Next libraries before event after)
    (due : ∀ command ∈ before.due, (Sidecar.closing command).isSome = true)
    (greeted : labelOf event = some .greeted) : before.early = true := by
  cases next with
  | greet => rfl
  | @spawn session doc engine started =>
      cases started <;> cases greeted
  | @serve command | @empty command | @leave command =>
      have closes := due _ List.mem_cons_self
      cases command with
      | control => cases closes
      | spawn => cases closes
      | frame => cases closes
      | _ => cases greeted
  | _ => cases greeted

theorem inLoop_of_spawn {session : UInt32} {doc : MoonlightConnectDoc}
    {reply : Engine × Bool}
    (next : Next libraries before ⟨.spawn session doc, reply⟩ after)
    (due : ∀ command ∈ before.due, (Sidecar.closing command).isSome = true) :
    before.inLoop = true := by
  cases next with
  | spawn | serve => rfl
  | empty | leave => cases due _ List.mem_cons_self

end Main.Phase

namespace Sidecar

section

variable {libraries : Libraries} {trace : (process libraries).Trace}
  {shared : Shared} {standing : Standing} {event : Event sidecar}
  {state : Service}

/-- All that the host sees. -/
def labels (trace : (process libraries).Trace) : List Label :=
  trace.filterMap fun
    | .ran _ event => labelOf event
    | .outside _ => none

theorem labels_silent {thread : Thread} (silent : labelOf event = none) :
    labels (trace ++ [.ran thread event]) = labels trace := by
  simp [labels, silent]

theorem labels_seen {thread : Thread} {label : Label}
    (seen : labelOf event = some label) :
    labels (trace ++ [.ran thread event]) = labels trace ++ [label] := by
  simp [labels, seen]

/-- The host uses an id again only when no engine runs for it any more. -/
def idFree (past : (process libraries).Trace) :
    (process libraries).Happening → Bool
  | .ran .reader ⟨.spawn session _, (_, true)⟩ => running session past == 0
  | _ => true

/-- The state of the service that a state of the process stands for. -/
structure Mirrors (trace : (process libraries).Trace) (standing : Standing)
    (state : Service) : Prop where
  early : standing.reader.early = true → state.greeted = false
  inLoop : standing.reader.inLoop = true → state.greeted = true
  begun : ∀ engine ∈ startedEngines trace, state.greeted = true
  shown : ∀ session, ∀ engine ∈ openedFor session trace,
    reportedClosed engine trace = false →
      (standing.workers engine).phase.Shows (state.views session)
  vacant : ∀ session, running session trace = 0 →
    state.views session = .absent ∨ state.views session = .closed
  alone : ∀ session, ∀ first ∈ openedFor session trace,
    ∀ second ∈ openedFor session trace,
      reportedClosed first trace = false →
        reportedClosed second trace = false → first = second

/-- The host's view of what happened is a run of the service. -/
def Refines (trace : (process libraries).Trace) (standing : Standing) : Prop :=
  ∃ state, service.watch Service.start (labels trace) = some state ∧
    Mirrors trace standing state

theorem running_eq_zero {session : UInt32} :
    running session trace = 0 ↔ ∀ engine ∈ openedFor session trace,
      reportedClosed engine trace = true := by
  unfold running
  rw [List.countP_eq_zero]
  simp

theorem refines_initial :
    Refines ([] : (process libraries).Trace) .initial := by
  refine ⟨Service.start, rfl, ?_⟩
  constructor
  · intro _
    rfl
  · intro impossible
    cases impossible
  · intro engine impossible
    cases impossible
  · intro session engine impossible
    cases impossible
  · intro session _
    exact .inl rfl
  · intro session first impossible
    cases impossible

/-- A conversation moves on by a notice its observer expects. -/
theorem service_step {session : UInt32} {notice : Notice} {heard : View}
    (greeted : state.greeted = true)
    (hears : (state.views session).hear notice = some heard) :
    service.step state (.session session notice) =
      some ⟨true, Function.update state.views session heard⟩ := by
  have moved : conversation.each.step state.views (session, notice) =
      some (Function.update state.views session heard) :=
    Option.map_eq_some_iff.mpr ⟨heard, hears, rfl⟩
  simp only [service, greeted, if_true, moved, Option.map_some]

theorem label_of_read (own : readerOnly event.command = true) :
    labelOf event = none ∨ labelOf event = some .greeted ∨
      ∃ session doc engine,
        event = ⟨.spawn session doc, (engine, true)⟩ := by
  obtain ⟨command, reply⟩ := event
  cases command with
  | control message =>
      cases message with
      | ready => exact .inr (.inl rfl)
      | _ => cases own
  | spawn session doc =>
      obtain ⟨engine, _ | _⟩ := reply
      · exact .inl rfl
      · exact .inr (.inr ⟨session, doc, engine, rfl⟩)
  | frame => cases own
  | _ => exact .inl rfl

theorem openedBy_of_label (unseen : ∀ session,
    labelOf event ≠ some (.session session .connected)) :
    startedBy event = none := by
  obtain ⟨command, reply⟩ := event
  cases command with
  | spawn session doc =>
      obtain ⟨engine, _ | _⟩ := reply
      · rfl
      · exact absurd rfl (unseen session)
  | _ => rfl

/-- A step of the reader that starts no engine leaves every conversation where
it is. -/
theorem Mirrors.read_other {after : Main.Phase} {greeted : Bool}
    (mirrors : Mirrors trace standing state)
    (starts : startedBy event = none)
    (early : after.early = true → greeted = false)
    (inLoop : after.inLoop = true → greeted = true)
    (begun : state.greeted = true → greeted = true) :
    Mirrors (trace ++ [.ran .reader event])
      ⟨after, started event standing.workers⟩ ⟨greeted, state.views⟩ := by
  have closed : ∀ engine,
      reportedClosed engine (trace ++ [.ran .reader event]) =
        reportedClosed engine trace := by
    intro engine
    unfold reportedClosed
    rw [workerEvents_read]
  have opened : ∀ session,
      openedFor session (trace ++ [.ran .reader event]) =
        openedFor session trace := by
    intro session
    rw [openedFor_read]
    cases opens : openedBy session event with
    | none => simp
    | some engine =>
        rw [openedBy_le opens] at starts
        cases starts
  have workers : started event standing.workers = standing.workers := by
    funext engine
    apply started_other
    rw [starts]
    exact (Option.some_ne_none engine).symm
  rw [workers]
  constructor
  · exact early
  · exact inLoop
  · intro engine member
    rw [startedEngines_read, starts] at member
    simp only [Option.toList_none, List.append_nil] at member
    exact begun (mirrors.begun engine member)
  · intro session
    rw [opened]
    simp only [closed]
    exact mirrors.shown session
  · intro session
    rw [running_eq_zero, opened]
    simp only [closed]
    rw [← running_eq_zero]
    exact mirrors.vacant session
  · intro session
    rw [opened]
    simp only [closed]
    exact mirrors.alone session

/-- An id that is free is given to the engine that starts. -/
theorem Mirrors.spawn {after : Main.Phase} {session : UInt32}
    {doc : MoonlightConnectDoc}
    (mirrors : Mirrors trace standing state)
    (tracked : Tracked trace shared standing)
    (possible : Possible .reader shared
      ⟨.spawn session doc, (shared.engines, true)⟩)
    (free : running session trace = 0) (late : after.early = false) :
    Mirrors (trace ++ [.ran .reader ⟨.spawn session doc, (shared.engines, true)⟩])
      ⟨after, started ⟨.spawn session doc, (shared.engines, true)⟩
        standing.workers⟩
      ⟨true, Function.update state.views session .opening⟩ := by
  obtain ⟨_, _, idle⟩ := tracked.newcomer possible rfl
  have closed : ∀ engine, reportedClosed engine (trace ++
      [.ran .reader ⟨.spawn session doc, (shared.engines, true)⟩]) =
        reportedClosed engine trace := by
    intro engine
    unfold reportedClosed
    rw [workerEvents_read]
  have fresh : reportedClosed shared.engines trace = false := by
    unfold reportedClosed
    rw [idle]
    rfl
  have opened : ∀ other, ∀ engine ∈ openedFor other (trace ++
      [.ran .reader ⟨.spawn session doc, (shared.engines, true)⟩]),
        engine ∈ openedFor other trace ∨
          other = session ∧ engine = shared.engines := by
    intro other engine member
    rw [openedFor_read, List.mem_append, Option.mem_toList] at member
    refine member.imp_right fun opens => ?_
    simp only [openedBy] at opens
    split at opens
    · rename_i same
      exact ⟨same.symm, (Option.some.inj opens).symm⟩
    · cases opens
  have old : ∀ other, ∀ engine ∈ openedFor other trace,
      reportedClosed engine trace = false → other ≠ session := by
    rintro other engine member still rfl
    rw [running_eq_zero.mp free engine member] at still
    cases still
  constructor
  · intro early
    rw [early] at late
    cases late
  · intro _
    rfl
  · intro _ _
    rfl
  · intro other engine member still
    rw [closed] at still
    rcases opened other engine member with earlier | ⟨rfl, rfl⟩
    · have distinct := old other engine earlier still
      have begun := (openedFor_sublist other _).subset earlier
      change (started _ standing.workers engine).phase.Shows
        (Function.update state.views session .opening other)
      rw [tracked.started_old possible begun, Function.update_of_ne distinct]
      exact mirrors.shown other engine earlier still
    · change (started _ standing.workers shared.engines).phase.Shows
        (Function.update state.views other .opening other)
      rw [started_spawn, Function.update_self]
      rfl
  · intro other vacant
    rw [running_eq_zero] at vacant
    simp only [closed] at vacant
    have distinct : other ≠ session := by
      rintro rfl
      have member : shared.engines ∈ openedFor other (trace ++
          [.ran .reader ⟨.spawn other doc, (shared.engines, true)⟩]) := by
        rw [openedFor_read]
        exact List.mem_append_right _
          (Option.mem_toList.mpr (if_pos rfl))
      rw [vacant _ member] at fresh
      cases fresh
    change Function.update state.views session .opening other = _ ∨
      Function.update state.views session .opening other = _
    rw [Function.update_of_ne distinct]
    apply mirrors.vacant
    rw [running_eq_zero]
    intro engine member
    apply vacant
    rw [openedFor_read]
    exact List.mem_append_left _ member
  · intro other first member second member' still still'
    rw [closed] at still still'
    rcases opened other first member with earlier | ⟨same, rfl⟩
    · rcases opened other second member' with earlier' | ⟨same, rfl⟩
      · exact mirrors.alone other first earlier second earlier' still still'
      · exact absurd same (old other first earlier still)
    · rcases opened other second member' with earlier' | ⟨_, rfl⟩
      · exact absurd same (old other second earlier' still')
      · rfl

/-- A thread moves its own conversation only. -/
theorem Mirrors.work {runner : Engine} {after : Worker} {heard : View}
    (mirrors : Mirrors trace standing state)
    (balanced : Balanced trace standing.workers)
    (tracked : Tracked trace shared standing)
    (next : Worker.Next (standing.workers runner) event after)
    (shows : after.phase.Shows heard) :
    Mirrors (trace ++ [.ran (.worker runner) event])
      ⟨standing.reader, Function.update standing.workers runner after⟩
      ⟨true, Function.update state.views (standing.workers runner).session
        heard⟩ := by
  have begun := tracked.started_of_next next
  have member := tracked.mem_openedFor begun
  have still := tracked.still next
  have opened : ∀ session,
      openedFor session (trace ++ [.ran (.worker runner) event]) =
        openedFor session trace := by
    intro session
    unfold openedFor
    rw [readerEvents_work]
  have before : ∀ engine, reportedClosed engine
      (trace ++ [.ran (.worker runner) event]) = false →
        reportedClosed engine trace = false := by
    intro engine still
    rw [reportedClosed_work, Bool.or_eq_false_iff] at still
    exact still.1
  have greeted := mirrors.begun runner begun
  constructor
  · intro early
    have quiet := mirrors.early early
    rw [greeted] at quiet
    cases quiet
  · intro _
    rfl
  · intro _ _
    rfl
  · intro session engine present running
    rw [opened] at present
    have running := before engine running
    by_cases same : engine = runner
    · subst same
      obtain rfl := balanced.posted session engine present
      change (Function.update standing.workers engine after engine).phase.Shows
        (Function.update state.views _ heard _)
      rw [Function.update_self, Function.update_self]
      exact shows
    · have distinct : session ≠ (standing.workers runner).session := by
        rintro rfl
        exact same (mirrors.alone _ engine present runner member running still)
      change (Function.update standing.workers runner after engine).phase.Shows
        (Function.update state.views _ heard _)
      rw [Function.update_of_ne same, Function.update_of_ne distinct]
      exact mirrors.shown session engine present running
  · intro session vacant
    rw [running_eq_zero, opened] at vacant
    by_cases own : session = (standing.workers runner).session
    · subst own
      have closes := vacant runner member
      rw [reportedClosed_work, still] at closes
      have closed : isClosed event = true := by simpa using closes
      have ended : after.phase = .closed := by
        generalize standing.workers runner = worker at next
        cases next with
        | mk next => exact (Worker.isClosed_iff next).mp closed
      rw [ended] at shows
      right
      change Function.update state.views _ heard _ = _
      rw [Function.update_self]
      exact shows
    · change Function.update state.views _ heard session = _ ∨
        Function.update state.views _ heard session = _
      rw [Function.update_of_ne own]
      apply mirrors.vacant
      rw [running_eq_zero]
      intro engine present
      have closes := vacant engine present
      have distinct : runner ≠ engine := by
        rintro rfl
        exact own (balanced.posted session runner present).symm
      rw [reportedClosed_work] at closes
      simpa [distinct] using closes
  · intro session first present second present' running running'
    rw [opened] at present present'
    exact mirrors.alone session first present second present'
      (before first running) (before second running')

theorem Refines.work {runner : Engine} {after : Worker}
    (refines : Refines trace standing)
    (balanced : Balanced trace standing.workers)
    (tracked : Tracked trace shared standing)
    (next : Worker.Next (standing.workers runner) event after) :
    Refines (trace ++ [.ran (.worker runner) event])
      ⟨standing.reader, Function.update standing.workers runner after⟩ := by
  obtain ⟨state, watched, mirrors⟩ := refines
  have begun := tracked.started_of_next next
  have greeted := mirrors.begun runner begun
  have shown := mirrors.shown _ runner (tracked.mem_openedFor begun)
    (tracked.still next)
  have moves : (labelOf event = none ∧
      after.phase.Shows (state.views (standing.workers runner).session)) ∨
      ∃ notice heard,
        labelOf event =
          some (.session (standing.workers runner).session notice) ∧
        (state.views (standing.workers runner).session).hear notice =
          some heard ∧ after.phase.Shows heard := by
    generalize standing.workers runner = worker at next shown
    cases next with
    | mk next => exact Phase.shows_step next shown
  rcases moves with ⟨silent, shows⟩ | ⟨notice, heard, seen, hears, shows⟩
  · refine ⟨_, ?_, mirrors.work balanced tracked next shows⟩
    rw [labels_silent silent, Function.update_eq_self]
    rw [← greeted]
    exact watched
  · refine ⟨_, ?_, mirrors.work balanced tracked next shows⟩
    rw [labels_seen seen]
    exact Observer.watch_snoc watched (service_step greeted hears)

theorem Refines.read {after : Main.Phase}
    (refines : Refines trace standing)
    (tracked : Tracked trace shared standing)
    (free : idFree trace (.ran .reader event) = true)
    (next : Main.Phase.Next libraries standing.reader event after)
    (possible : Possible .reader shared event) :
    Refines (trace ++ [.ran .reader event])
      ⟨after, started event standing.workers⟩ := by
  obtain ⟨state, watched, mirrors⟩ := refines
  rcases label_of_read (Main.readerOnly_of_next next tracked.due) with
    silent | greets | ⟨session, doc, engine, rfl⟩
  · refine ⟨state, ?_, mirrors.read_other ?_ ?_ ?_ id⟩
    · rw [labels_silent silent]
      exact watched
    · apply openedBy_of_label
      rw [silent]
      exact fun _ => (Option.some_ne_none _).symm
    · intro early
      exact mirrors.early (Main.Phase.early_step next early).1
    · intro inLoop
      rcases Main.Phase.inLoop_step next inLoop with before | greets
      · exact mirrors.inLoop before
      · rw [silent] at greets
        cases greets
  · have before := Main.Phase.early_of_greeted next tracked.due greets
    have quiet := mirrors.early before
    refine ⟨⟨true, state.views⟩, ?_, mirrors.read_other ?_ ?_ ?_ fun _ => rfl⟩
    · rw [labels_seen greets]
      apply Observer.watch_snoc watched
      simp [service, quiet]
    · apply openedBy_of_label
      rw [greets]
      exact fun _ same => by cases same
    · intro early
      have unseen := (Main.Phase.early_step next early).2
      rw [greets] at unseen
      cases unseen
    · intro _
      rfl
  · obtain ⟨_, _, same, _⟩ := startedBy_of_possible possible rfl
    cases same
    have inLoop := Main.Phase.inLoop_of_spawn next tracked.due
    have vacant : running session trace = 0 := eq_of_beq free
    have late : after.early = false := by
      by_contra early
      rw [Bool.not_eq_false] at early
      cases (Main.Phase.early_step next early).2
    refine ⟨_, ?_, mirrors.spawn tracked possible vacant late⟩
    rw [labels_seen rfl]
    apply Observer.watch_snoc watched
    apply service_step (mirrors.inLoop inLoop)
    rcases mirrors.vacant session vacant with view | view
    · rw [view]
      rfl
    · rw [view]
      rfl

theorem Refines.call {seen : Seen} (refines : Refines trace standing) :
    Refines (trace ++ [.outside seen]) standing := by
  obtain ⟨state, watched, mirrors⟩ := refines
  have closed : ∀ engine, reportedClosed engine (trace ++ [.outside seen]) =
      reportedClosed engine trace := by
    intro engine
    unfold reportedClosed
    rw [workerEvents_call]
  have opened : ∀ session, openedFor session (trace ++ [.outside seen]) =
      openedFor session trace := by
    intro session
    unfold openedFor
    rw [readerEvents_call]
  refine ⟨state, ?_, mirrors.early, mirrors.inLoop, ?_, ?_, ?_, ?_⟩
  · have same : labels (trace ++ [.outside seen]) = labels trace := by
      simp [labels]
    rw [same]
    exact watched
  · rw [startedEngines_call]
    exact mirrors.begun
  · intro session
    rw [opened]
    simp only [closed]
    exact mirrors.shown session
  · intro session
    rw [running_eq_zero, opened]
    simp only [closed]
    rw [← running_eq_zero]
    exact mirrors.vacant session
  · intro session
    rw [opened]
    simp only [closed]
    exact mirrors.alone session

/-- The process, with all its threads in any order, refines the service, for a
host that uses an id again only when it is free. -/
theorem process_refines_service {config : (process libraries).Config}
    (run : Machine.Run (process.start libraries) trace config)
    (free : Machine.Obeys (fun past next => idFree past next = true) trace) :
    ∃ state, service.watch Service.start (labels trace) = some state ∧
      ∀ session,
        conversation.watch .absent (noticesOf session (labels trace)) =
            some (state.views session) ∧
          (running session trace = 0 →
            state.views session = .absent ∨ state.views session = .closed) := by
  obtain ⟨standing, _, _, state, watched, mirrors⟩ := tracked_invariant run
    (fun past next => idFree past next = true) free
    (fun trace _ standing =>
      Balanced trace standing.workers ∧ Refines trace standing)
    ⟨balanced_initial, refines_initial⟩
    (fun _ _ _ _ _ tracked held free next possible =>
      ⟨held.1.read tracked next possible,
        held.2.read tracked free next possible⟩)
    (fun _ _ _ _ _ _ tracked held _ next _ =>
      ⟨held.1.work tracked next, held.2.work held.1 tracked next⟩)
    (fun _ _ _ _ _ held _ _ => ⟨held.1.call, held.2.call⟩)
  exact ⟨state, watched, fun session =>
    ⟨conversation_of_service watched session, mirrors.vacant session⟩⟩

end

open SampleHost

/-- An id is used again after the end of its session, beside another one. -/
theorem process_refines_service_reused :
    ∃ (trace : (process SampleHost.libraries).Trace) (state : Service),
      openedFor 1 trace = [0, 2] ∧ openedFor 2 trace = [1] ∧
        service.watch Service.start (labels trace) = some state := by
  obtain ⟨trace, config, run, checked⟩ := Machine.exists_run_of_play
    (fun trace _ => Machine.checkAll idFree [] trace &&
      (openedFor 1 trace == [0, 2] && openedFor 2 trace == [1]))
    (show (Machine.play (greeting ++ connects (lit "1") ++ goesLive 0 ++
      connects (lit "2") ++ goesLive 1 ++ terminates 0 ++
      connects (lit "1") ++ goesLive 2) (process.start libraries)).any _ =
      true by decide +kernel)
  simp only [Bool.and_eq_true, beq_iff_eq] at checked
  obtain ⟨free, first, second⟩ := checked
  obtain ⟨state, watched, _⟩ :=
    process_refines_service run (Machine.obeys_of_checkAll free)
  exact ⟨trace, state, first, second, watched⟩

end Sidecar

end MoonlightAddon
