import MoonlightAddon.Addon.RoundTrip
import MoonlightAddon.Conveyor
import MoonlightAddon.Sidecar.Connection
import MoonlightAddon.Sidecar.Isolation

/-!
# The video pipeline

From `dr_submit` through the global sink, the channel of an engine and its
frame loop to the FRAME messages on the wire.  Every channel is a conveyor
whose sender is the global sink.
-/

namespace MoonlightAddon

open Session MoonlightAddon.Stream

/-! ### What a decode unit becomes -/

/-- The buffers of the chain that hold data. -/
def buffers (unit : DecodeUnit) : List Bytes :=
  unit.bufferList.filterMap fun entry =>
    if 0 < entry.length then
      entry.data.map (List.take entry.length.toInt.toNat)
    else
      none

/-- The payload of the FRAME message for a decode unit under a negotiated
format. -/
def image (session : UInt32) (doc : MoonlightConnectDoc)
    (submission : Int32 × DecodeUnit) : Bytes :=
  LittleEndian.u32 session ++ LittleEndian.u32 0 ++
    [if hasH265 submission.1 then 5 else 4] ++
    [if submission.2.frameType = frameTypeIdr then 1 else 0] ++
    [doc.width, doc.height, 0, 0, doc.width, doc.height, 0, 0].flatMap
      LittleEndian.u16 ++
    (buffers submission.2).flatten

theorem flatten_buffers (unit : DecodeUnit) :
    (buffers unit).flatten = unit.bufferList.flatMap LEntry.bytes := by
  unfold buffers
  induction unit.bufferList with
  | nil => rfl
  | cons entry rest induction =>
      rw [List.filterMap_cons, List.flatMap_cons, ← induction]
      obtain ⟨data, length⟩ := entry
      cases data with
      | none => simp [LEntry.bytes]
      | some memory =>
          by_cases positive : 0 < length <;> simp [LEntry.bytes, positive]

/-- The frame loop and `Writer::frame` make this message of what `dr_submit`
sent. -/
theorem framePayload_drSubmit (session : UInt32) (doc : MoonlightConnectDoc)
    (format : Int32) (unit : DecodeUnit) :
    Proto.framePayload session (frameUpdate doc (drSubmit format unit)) =
      image session doc (format, unit) := by
  simp only [Proto.framePayload, Proto.frameHeader, frameUpdate, drSubmit,
    image, flatten_buffers, beq_iff_eq]
  cases hasH265 format <;> rfl

/-! ### What an engine's phase tells about its channel -/

namespace Phase

/-- The unit received but not yet written. -/
def pending : Phase → List VideoUnit
  | .delivering unit => [unit]
  | _ => []

/-- From the installation of the thread's sender until it clears the sink. -/
def holds : Phase → Bool
  | .sinkInstalled | .armed | .starting | .refused _ | .uninstalling _ => true
  | phase => phase.linked

/-- Before `LiStartConnection` is called. -/
def undialled : Phase → Bool
  | .absent | .fresh | .minted _ | .introduced | .opening | .probing
  | .inviting | .pairing | .wrecked | .paired | .unpaired | .settled
  | .cleared | .stoppedEarly | .launched | .sinkInstalled | .armed => true
  | _ => false

variable {session : UInt32} {doc : MoonlightConnectDoc}
  {before after : Phase} {event : Event sidecar}

theorem holds_of_linked {phase : Phase} (linked : phase.linked = true) :
    phase.holds = true := by
  cases phase <;> first | rfl | cases linked

/-- A thread that holds the sink is not over. -/
theorem open_of_holds {phase : Phase} (holds : phase.holds = true) :
    phase ≠ .closed := by
  rintro rfl
  cases holds

/-- The sink is held on, newly installed or cleared. -/
theorem holds_step (next : Next session doc before event after)
    (holds : after.holds = true) :
    before.holds = true ∨ event.command = .storeSink := by
  cases next with
  | install => exact .inr rfl
  | quiet quiet => exact .inl holds
  | runtime settled | noRuntime settled =>
      obtain rfl | rfl := settled <;> cases holds
  | proceed due | stopEarly due => obtain rfl | rfl := due <;> cases holds
  | _ => first | exact .inl rfl | cases holds

theorem undialled_step (next : Next session doc before event after)
    (undialled : after.undialled = true) : before.undialled = true := by
  cases next with
  | quiet quiet => exact undialled
  | runtime settled | noRuntime settled => obtain rfl | rfl := settled <;> rfl
  | proceed due | stopEarly due => obtain rfl | rfl := due <;> rfl
  | _ => first | rfl | cases undialled

/-- Only receiving and writing change the pending unit. -/
theorem pending_step (next : Next session doc before event after)
    (unreceived : event.command ≠ .receive)
    (unwritten : ∀ written update, event.command ≠ .frame written update) :
    after.pending = before.pending := by
  cases next with
  | quiet quiet => rfl
  | runtime settled | noRuntime settled => obtain rfl | rfl := settled <;> rfl
  | proceed due | stopEarly due => obtain rfl | rfl := due <;> rfl
  | receive | timeout | disconnected => exact absurd rfl unreceived
  | deliver => exact absurd rfl (unwritten _ _)
  | close may => cases before <;> first | rfl | exact absurd may id
  | _ => rfl

end Phase

namespace Sidecar

section

variable {libraries : Libraries}

section Records

/-- The decode units of an engine's connection, with the format in force. -/
def submission (engine : Engine) :
    (process libraries).Happening → Option (Int32 × DecodeUnit)
  | .outside (.submit connection format unit) =>
      if connection.owner = some engine then some (format, unit) else none
  | _ => none

def submitted (engine : Engine) (trace : (process libraries).Trace) :
    List (Int32 × DecodeUnit) :=
  trace.filterMap (submission engine)

/-- A FRAME message of the session that was written. -/
def frameOf (session : UInt32) : (process libraries).Happening → Option Bytes
  | .ran _ ⟨.frame written update, .ok ()⟩ =>
      if written = session then some (Proto.framePayload written update)
      else none
  | _ => none

def frames (session : UInt32) (trace : (process libraries).Trace) :
    List Bytes :=
  trace.filterMap (frameOf session)

def setupFormat : (process libraries).Happening → Option Int32
  | .outside (.setup _ format) => some format
  | _ => none

/-- The format of the last `dr_setup`. -/
def negotiated (trace : (process libraries).Trace) : Int32 :=
  (trace.filterMap setupFormat).getLast?.getD 0

end Records

section Rules

def spawnsFor (session : UInt32) : Event sidecar → Bool
  | ⟨.spawn spawned _, _⟩ => spawned == session
  | _ => false

/-- No session id is used twice. -/
def freshIds (past : (process libraries).Trace) :
    (process libraries).Happening → Bool
  | .ran .reader ⟨.spawn session _, _⟩ =>
      !(readerEvents past).any (spawnsFor session)
  | _ => true

/-- A frame that `raw` does not refuse is written. -/
def writes : (process libraries).Happening → Bool
  | .ran _ ⟨.frame session update, reply⟩ =>
      (Writer.outboundLength (Proto.framePayload session update)).isNone ||
        reply.isOk
  | _ => true

def Seen.connection : Seen → Connection
  | .setup connection _ | .submit connection _ _ | .terminated connection =>
      connection

/-- The C core calls back only for a connection, and a decode unit fits into
one message. -/
def callsInOrder : (process libraries).Happening → Bool
  | .outside seen =>
      seen.connection != .idle &&
        match seen with
        | .submit _ _ unit =>
            (buffers unit).flatten.length + 27 ≤ Proto.maxFrameBytes.toNat
        | _ => true
  | _ => true

def sequential (past : (process libraries).Trace)
    (next : (process libraries).Happening) : Bool :=
  oneLive past next && freshIds past next && writes next && callsInOrder next

end Rules

section Effects

variable {event : Event sidecar} {shared : Shared}

theorem effect_channel (thread : Thread) (unreceived : event.command ≠ .receive)
    (shared : Shared) :
    (effectOf thread event shared).channel = shared.channel := by
  obtain ⟨command, reply⟩ := event
  cases command with
  | receive => exact absurd rfl unreceived
  | _ => cases thread <;> rfl

theorem effect_channel_other {runner engine : Engine}
    (distinct : engine ≠ runner) :
    (effectOf (.worker runner) event shared).channel engine =
      shared.channel engine := by
  obtain ⟨command, reply⟩ := event
  cases command with
  | receive => exact Function.update_of_ne distinct ..
  | _ => rfl

/-- Only an engine thread installs a sender. -/
theorem effect_sink (thread : Thread)
    (unstored : event.command ≠ .storeSink ∨ thread = .reader)
    (shared : Shared) :
    (effectOf thread event shared).videoSink = shared.videoSink ∨
      (effectOf thread event shared).videoSink = none := by
  obtain ⟨command, reply⟩ := event
  cases command with
  | storeSink =>
      rcases unstored with unstored | rfl
      · exact absurd rfl unstored
      · exact .inl rfl
  | clearSink => cases thread <;> exact .inr rfl
  | _ => cases thread <;> exact .inl rfl

theorem effect_storeSink {runner : Engine}
    (stores : event.command = .storeSink) :
    (effectOf (.worker runner) event shared).videoSink = some runner := by
  obtain ⟨command, reply⟩ := event
  cases stores
  rfl

end Effects

section Appends

variable {trace : (process libraries).Trace} {thread : Thread}
  {event : Event sidecar} {engine : Engine} {session : UInt32} {seen : Seen}

@[simp] theorem submitted_ran :
    submitted engine (trace ++ [.ran thread event]) =
      submitted engine trace := by
  simp [submitted, submission]

@[simp] theorem frames_outside :
    frames session (trace ++ [.outside seen]) = frames session trace := by
  simp [frames, frameOf]

theorem frames_ran :
    frames session (trace ++ [.ran thread event]) =
      frames session trace ++
        (frameOf session
          (.ran thread event : (process libraries).Happening)).toList := by
  unfold frames
  rw [List.filterMap_append]
  cases written : frameOf session
    (.ran thread event : (process libraries).Happening) with
  | none => simp [written]
  | some payload => simp [written]

theorem frameOf_unwritten
    (unwritten : ∀ written update, event.command ≠ .frame written update) :
    frameOf session (.ran thread event : (process libraries).Happening) =
      none := by
  obtain ⟨command, reply⟩ := event
  cases command with
  | frame written update => exact absurd rfl (unwritten written update)
  | _ => rfl

end Appends

section Feeding

variable {trace : (process libraries).Trace} {shared : Shared}
  {standing : Standing} {event : Event sidecar}

/-- Who feeds which channel. -/
structure Fed (trace : (process libraries).Trace) (shared : Shared)
    (workers : Engine → Worker) : Prop where
  holds : ∀ engine, (workers engine).phase.holds = true →
    shared.videoSink = some engine ∨ shared.videoSink = none
  undialled : ∀ engine, (workers engine).phase.undialled = true →
    submitted engine trace = []
  sink : ∀ engine, shared.videoSink = some engine →
    engine ∈ startedEngines trace
  idle : ∀ engine ∉ startedEngines trace, shared.channel engine = []
  sized : ∀ engine, ∀ unit ∈ submitted engine trace,
    (buffers unit.2).flatten.length + 27 ≤ Proto.maxFrameBytes.toNat

theorem fed_initial :
    Fed ([] : (process libraries).Trace) .initial (fun _ => .unborn) where
  holds _ impossible := by cases impossible
  undialled _ _ := rfl
  sink _ impossible := by cases impossible
  idle _ _ := rfl
  sized _ _ member := by cases member

/-- Two threads that are not over are the same. -/
theorem Tracked.same_of_open (tracked : Tracked trace shared standing)
    (lone : Lone reportedClosed trace) {first second : Engine}
    (begun : first ∈ startedEngines trace)
    (begun' : second ∈ startedEngines trace)
    (stays : (standing.workers first).phase ≠ .closed)
    (stays' : (standing.workers second).phase ≠ .closed) : first = second := by
  rcases lone first begun second begun' with same | closed | closed
  · exact same
  · exact absurd ((tracked.footing first).closed.mp closed) stays
  · exact absurd ((tracked.footing second).closed.mp closed) stays'

theorem Tracked.started_of_present (tracked : Tracked trace shared standing)
    {engine : Engine} (present : (standing.workers engine).phase ≠ .absent) :
    engine ∈ startedEngines trace := by
  by_contra idle
  exact present (congrArg Worker.phase (tracked.unborn idle).1)

theorem open_of_work {worker after : Worker}
    (next : Worker.Next worker event after) : worker.phase ≠ .closed := by
  cases next with
  | mk next => exact Worker.open_of_next next

theorem Fed.work {runner : Engine} {after : Worker}
    (fed : Fed trace shared standing.workers)
    (tracked : Tracked trace shared standing)
    (lone : Lone reportedClosed trace)
    (next : Worker.Next (standing.workers runner) event after) :
    Fed (trace ++ [.ran (.worker runner) event])
      (effectOf (.worker runner) event shared)
      (Function.update standing.workers runner after) := by
  have begun := tracked.started_of_next next
  have held : after.phase.holds = true →
      (standing.workers runner).phase.holds = true ∨
        event.command = .storeSink := by
    generalize standing.workers runner = worker at next
    cases next with
    | mk next => exact Phase.holds_step next
  have dialled : after.phase.undialled = true →
      (standing.workers runner).phase.undialled = true := by
    generalize standing.workers runner = worker at next
    cases next with
    | mk next => exact Phase.undialled_step next
  constructor
  · intro engine holds
    by_cases stores : event.command = .storeSink
    · rw [effect_storeSink stores]
      by_cases same : engine = runner
      · exact .inl (by rw [same])
      · rw [Function.update_of_ne same] at holds
        have present : (standing.workers engine).phase ≠ .absent := by
          intro absent
          rw [absent] at holds
          cases holds
        exact absurd (tracked.same_of_open lone
          (tracked.started_of_present present) begun
          (Phase.open_of_holds holds) (open_of_work next)) same
    · have before : (standing.workers engine).phase.holds = true := by
        by_cases same : engine = runner
        · subst same
          rw [Function.update_self] at holds
          exact (held holds).resolve_right stores
        · rwa [Function.update_of_ne same] at holds
      rcases effect_sink (.worker runner) (.inl stores) shared with same | none
      · rw [same]
        exact fed.holds engine before
      · exact .inr none
  · intro engine undialled
    rw [submitted_ran]
    apply fed.undialled
    by_cases same : engine = runner
    · subst same
      rw [Function.update_self] at undialled
      exact dialled undialled
    · rwa [Function.update_of_ne same] at undialled
  · intro engine installed
    rw [startedEngines_work]
    by_cases stores : event.command = .storeSink
    · rw [effect_storeSink stores] at installed
      obtain rfl := Option.some.inj installed
      exact begun
    · rcases effect_sink (.worker runner) (.inl stores) shared with same | none
      · exact fed.sink engine (same.symm.trans installed)
      · rw [none] at installed
        cases installed
  · intro engine idle
    rw [startedEngines_work] at idle
    have distinct : engine ≠ runner := by
      rintro rfl
      exact idle begun
    rw [effect_channel_other distinct]
    exact fed.idle engine idle
  · intro engine
    rw [submitted_ran]
    exact fed.sized engine

/-- The reader neither takes frames from a channel nor writes them. -/
theorem apart_of_readerOnly {command : Command}
    (own : readerOnly command = true) :
    command ≠ .receive ∧ ∀ session update, command ≠ .frame session update := by
  constructor
  · intro receives
    rw [receives] at own
    cases own
  · intro session update writes
    rw [writes] at own
    cases own

theorem Fed.read {after : Main.Phase}
    (fed : Fed trace shared standing.workers)
    (tracked : Tracked trace shared standing)
    (next : Main.Phase.Next libraries standing.reader event after)
    (possible : Possible .reader shared event) :
    Fed (trace ++ [.ran .reader event]) (effectOf .reader event shared)
      (started event standing.workers) := by
  obtain ⟨unreceived, _⟩ :=
    apart_of_readerOnly (Main.readerOnly_of_next next tracked.due)
  have kept := @effect_sink event .reader (.inr rfl) shared
  have grown : ∀ engine, engine ∈ startedEngines trace →
      engine ∈ startedEngines (trace ++ [.ran .reader event]) := by
    intro engine begun
    rw [startedEngines_read]
    exact List.mem_append_left _ begun
  constructor
  · intro engine holds
    have before : (standing.workers engine).phase.holds = true := by
      by_cases starts : startedBy event = some engine
      · obtain ⟨session, doc, rfl, rfl⟩ := startedBy_of_possible possible starts
        simp [started, Worker.born, Phase.holds, Phase.linked] at holds
      · rwa [started_other _ starts] at holds
    rcases kept with same | none
    · rw [same]
      exact fed.holds engine before
    · exact .inr none
  · intro engine undialled
    rw [submitted_ran]
    apply fed.undialled
    by_cases starts : startedBy event = some engine
    · rw [(tracked.newcomer possible starts).2.1]
      rfl
    · rwa [started_other _ starts] at undialled
  · intro engine installed
    rcases kept with same | none
    · exact grown engine (fed.sink engine (same.symm.trans installed))
    · rw [none] at installed
      cases installed
  · intro engine idle
    rw [effect_channel .reader unreceived]
    exact fed.idle engine fun begun => idle (grown engine begun)
  · intro engine
    rw [submitted_ran]
    exact fed.sized engine

end Feeding

section Working

variable {worker after : Worker} {event : Event sidecar}

theorem identity_of_work (next : Worker.Next worker event after) :
    after.session = worker.session ∧ after.doc = worker.doc := by
  cases next with
  | mk next => exact ⟨rfl, rfl⟩

/-- A thread writes only the frame it has received. -/
theorem written_of_work (next : Worker.Next worker event after) :
    (∃ unit reply, worker.phase = .delivering unit ∧ after.phase = .polling ∧
      event = ⟨.frame worker.session (frameUpdate worker.doc unit), reply⟩) ∨
    ∀ written update, event.command ≠ .frame written update := by
  obtain @⟨session, doc, before, after, event, next⟩ := next
  cases next with
  | @deliver unit reply => exact .inl ⟨unit, reply, rfl, rfl, rfl⟩
  | quiet quiet =>
      cases Phase.routine_of_quiet quiet <;> simp
  | _ => exact .inr fun _ _ => by simp

theorem received_of_work (next : Worker.Next worker event after)
    (receives : event.command = .receive) :
    worker.phase = .listening ∧
      ((∃ unit, event = ⟨.receive, .unit unit⟩ ∧
        after.phase = .delivering unit) ∨
      after.phase.pending = [] ∧ ∀ unit, event ≠ ⟨.receive, .unit unit⟩) := by
  obtain @⟨session, doc, before, after, event, next⟩ := next
  cases next with
  | @receive unit => exact ⟨rfl, .inl ⟨unit, rfl, rfl⟩⟩
  | timeout | disconnected => exact ⟨rfl, .inr ⟨rfl, fun unit => by simp⟩⟩
  | quiet quiet =>
      cases Phase.routine_of_quiet quiet <;> cases receives
  | _ => cases receives

theorem undialled_of_store (next : Worker.Next worker event after)
    (stores : event.command = .storeSink) : worker.phase.undialled = true := by
  obtain @⟨session, doc, before, after, event, next⟩ := next
  cases next with
  | install => rfl
  | quiet quiet =>
      cases Phase.routine_of_quiet quiet <;> cases stores
  | _ => cases stores

theorem pending_of_work (next : Worker.Next worker event after)
    (unreceived : event.command ≠ .receive)
    (unwritten : ∀ written update, event.command ≠ .frame written update) :
    after.phase.pending = worker.phase.pending := by
  cases next with
  | mk next => exact Phase.pending_step next unreceived unwritten

/-- What a thread receives moves from the head of its channel into its
hands. -/
theorem pending_of_receive {engine : Engine} {shared : Shared}
    (next : Worker.Next worker event after)
    (possible : Possible (.worker engine) shared event)
    (receives : event.command = .receive) :
    after.phase.pending ++
        (effectOf (.worker engine) event shared).channel engine =
      worker.phase.pending ++ shared.channel engine := by
  obtain ⟨listening, outcome⟩ := received_of_work next receives
  obtain ⟨command, reply⟩ := event
  obtain rfl : command = .receive := receives
  obtain ⟨_, answer, replied⟩ := possible
  have same : reply = received shared engine := by
    cases answer with
    | nothing => exact (Option.some.inj replied).symm
    | _ => cases replied
  have rest : (effectOf (.worker engine) ⟨.receive, reply⟩ shared).channel
      engine = (shared.channel engine).tail := Function.update_self ..
  rw [rest, listening]
  unfold received at same
  cases waiting : shared.channel engine with
  | nil =>
      rw [waiting] at same
      have empty : ∀ unit, reply ≠ .unit unit := by
        intro unit
        rw [same]
        dsimp only
        split <;> simp
      rcases outcome with ⟨unit, got, _⟩ | ⟨none, _⟩
      · cases got
        exact absurd rfl (empty unit)
      · rw [none]
        rfl
  | cons unit others =>
      rw [waiting] at same
      rcases outcome with ⟨got, is_got, phase⟩ | ⟨_, other⟩
      · cases is_got
        obtain rfl := Received.unit.inj same
        rw [phase]
        rfl
      · exact absurd (congrArg _ same) (other unit)

end Working

section Conveying

variable {trace : (process libraries).Trace} {shared : Shared}
  {standing : Standing} {event : Event sidecar}

/-- The message the frame loop makes of a unit. -/
def payload (worker : Worker) (unit : VideoUnit) : Bytes :=
  Proto.framePayload worker.session (frameUpdate worker.doc unit)

/-- The conveyor of an engine: from its connection through its channel and its
hands to the messages of its session. -/
def Conveys (trace : (process libraries).Trace) (shared : Shared)
    (worker : Worker) (engine : Engine) : Prop :=
  Conveyor (image worker.session worker.doc) (submitted engine trace)
    (frames worker.session trace)
    ((worker.phase.pending ++ shared.channel engine).map (payload worker))
    (shared.videoSink = some engine)

structure Conveying (trace : (process libraries).Trace) (shared : Shared)
    (workers : Engine → Worker) : Prop where
  apart : ∀ first ∈ startedEngines trace, ∀ second ∈ startedEngines trace,
    (workers first).session = (workers second).session → first = second
  posted : ∀ session doc engine,
    ⟨.spawn session doc, (engine, true)⟩ ∈ readerEvents trace →
      (workers engine).session = session ∧ (workers engine).doc = doc
  unheard : ∀ session,
    (∀ engine ∈ startedEngines trace, (workers engine).session ≠ session) →
      frames session trace = []
  conveys : ∀ engine ∈ startedEngines trace,
    Conveys trace shared (workers engine) engine

theorem conveying_initial :
    Conveying ([] : (process libraries).Trace) .initial (fun _ => .unborn) where
  apart _ member := by cases member
  posted _ _ _ member := by cases member
  unheard _ _ := rfl
  conveys _ member := by cases member

/-- A message that is not too long is written. -/
theorem written_of_fits {thread : Thread} {session : UInt32}
    {update : FrameUpdate} {reply : Except Text Unit}
    (succeeds : writes (.ran thread ⟨.frame session update, reply⟩ :
      (process libraries).Happening) = true)
    (fits : (Proto.framePayload session update).length + 1 ≤
      Proto.maxFrameBytes.toNat) : reply = .ok () := by
  have passes := @Writer.outboundLength_of_fits
    (Proto.kindFrame, Proto.framePayload session update)
    (by rw [Proto.Fits, Nat.add_comm]; exact fits)
  cases reply with
  | ok value => rfl
  | error error => simp [writes, passes, Except.isOk, Except.toBool] at succeeds

theorem length_image {session : UInt32} {doc : MoonlightConnectDoc}
    {submission : Int32 × DecodeUnit} :
    (image session doc submission).length =
      26 + (buffers submission.2).flatten.length := by
  simp [image]
  omega

/-- What the runner of a step does to its own conveyor. -/
theorem Conveys.work {runner : Engine} {worker after : Worker}
    (conveys : Conveys trace shared worker runner)
    (undialled : worker.phase.undialled = true → submitted runner trace = [])
    (sized : ∀ unit ∈ submitted runner trace,
      (buffers unit.2).flatten.length + 27 ≤ Proto.maxFrameBytes.toNat)
    (succeeds : writes (.ran (.worker runner) event :
      (process libraries).Happening) = true)
    (next : Worker.Next worker event after)
    (possible : Possible (.worker runner) shared event) :
    Conveys (trace ++ [.ran (.worker runner) event])
      (effectOf (.worker runner) event shared) after runner := by
  obtain ⟨same_session, same_doc⟩ := identity_of_work next
  have same_payload : payload after = payload worker := by
    funext unit
    simp only [payload, same_session, same_doc]
  unfold Conveys
  rw [same_session, same_doc, same_payload, submitted_ran, frames_ran]
  rcases written_of_work next with
    ⟨unit, reply, delivering, polling, rfl⟩ | unwritten
  · have waiting : payload worker unit ∈
        (worker.phase.pending ++ shared.channel runner).map (payload worker) := by
      rw [delivering]
      exact List.mem_cons_self
    obtain ⟨source, member, same⟩ := conveys.submitted_of_waiting waiting
    have fits : (payload worker unit).length + 1 ≤
        Proto.maxFrameBytes.toNat := by
      rw [← same, length_image]
      have size := sized source member
      omega
    obtain rfl := written_of_fits succeeds fits
    have written : frameOf worker.session (.ran (.worker runner)
        ⟨.frame worker.session (frameUpdate worker.doc unit), .ok ()⟩ :
          (process libraries).Happening) = some (payload worker unit) :=
      if_pos rfl
    rw [written, polling]
    unfold Conveys at conveys
    rw [delivering] at conveys
    exact conveys.deliver
  · rw [frameOf_unwritten unwritten, Option.toList_none, List.append_nil]
    have same_waiting : after.phase.pending ++
        (effectOf (.worker runner) event shared).channel runner =
          worker.phase.pending ++ shared.channel runner := by
      by_cases receives : event.command = .receive
      · exact pending_of_receive next possible receives
      · rw [pending_of_work next receives unwritten,
          effect_channel _ receives]
    rw [same_waiting]
    by_cases stores : event.command = .storeSink
    · have none := undialled (undialled_of_store next stores)
      unfold Conveys at conveys
      rw [none] at conveys ⊢
      exact conveys.install
    · apply conveys.remove
      intro installed
      rcases effect_sink (.worker runner) (.inl stores) shared with same | none
      · exact same.symm.trans installed
      · rw [none] at installed
        cases installed

/-- What others do to a conveyor: at most they clear the sink. -/
theorem Conveys.frame {thread : Thread} {worker : Worker} {engine : Engine}
    (conveys : Conveys trace shared worker engine)
    (unwritten : frameOf worker.session (.ran thread event :
      (process libraries).Happening) = none)
    (channel : (effectOf thread event shared).channel engine =
      shared.channel engine)
    (kept : (effectOf thread event shared).videoSink = some engine →
      shared.videoSink = some engine) :
    Conveys (trace ++ [.ran thread event]) (effectOf thread event shared) worker
      engine := by
  unfold Conveys
  rw [submitted_ran, frames_ran, unwritten, channel, Option.toList_none,
    List.append_nil]
  exact conveys.remove kept

/-- A thread writes frames for no session but its own. -/
theorem frameOf_other {runner : Engine} {worker after : Worker}
    {session : UInt32} (next : Worker.Next worker event after)
    (other : worker.session ≠ session) :
    frameOf session (.ran (.worker runner) event :
      (process libraries).Happening) = none := by
  rcases written_of_work next with ⟨unit, reply, _, _, rfl⟩ | unwritten
  · cases reply with
    | ok value => exact if_neg other
    | error error => rfl
  · exact frameOf_unwritten unwritten

theorem Conveying.work {runner : Engine} {after : Worker}
    (conveying : Conveying trace shared standing.workers)
    (fed : Fed trace shared standing.workers)
    (tracked : Tracked trace shared standing)
    (succeeds : writes (.ran (.worker runner) event :
      (process libraries).Happening) = true)
    (next : Worker.Next (standing.workers runner) event after)
    (possible : Possible (.worker runner) shared event) :
    Conveying (trace ++ [.ran (.worker runner) event])
      (effectOf (.worker runner) event shared)
      (Function.update standing.workers runner after) := by
  have begun := tracked.started_of_next next
  have identity : ∀ engine,
      (Function.update standing.workers runner after engine).session =
          (standing.workers engine).session ∧
        (Function.update standing.workers runner after engine).doc =
          (standing.workers engine).doc := by
    intro engine
    by_cases same : engine = runner
    · subst same
      rw [Function.update_self]
      exact identity_of_work next
    · rw [Function.update_of_ne same]
      exact ⟨rfl, rfl⟩
  have sessions := fun engine => (identity engine).1
  constructor
  · simp only [startedEngines_work, sessions]
    exact conveying.apart
  · rw [readerEvents_work]
    intro session doc engine spawned
    rw [(identity engine).1, (identity engine).2]
    exact conveying.posted session doc engine spawned
  · simp only [startedEngines_work, sessions]
    intro session unused
    rw [frames_ran, conveying.unheard session unused,
      frameOf_other next (unused runner begun)]
    rfl
  · rw [startedEngines_work]
    intro engine member
    by_cases same : engine = runner
    · subst same
      rw [Function.update_self]
      exact (conveying.conveys engine member).work (fed.undialled engine)
        (fed.sized engine) succeeds next possible
    · rw [Function.update_of_ne same]
      apply (conveying.conveys engine member).frame
      · apply frameOf_other next
        intro shared_session
        exact same (conveying.apart engine member runner begun
          shared_session.symm)
      · exact effect_channel_other same
      · intro installed
        by_cases stores : event.command = .storeSink
        · rw [effect_storeSink stores] at installed
          exact absurd (Option.some.inj installed).symm same
        · rcases effect_sink (.worker runner) (.inl stores) shared with
            kept | none
          · exact kept.symm.trans installed
          · rw [none] at installed
            cases installed

/-- An engine that was started was spawned for its session. -/
theorem Tracked.spawned (tracked : Tracked trace shared standing)
    {engine : Engine} (begun : engine ∈ startedEngines trace) :
    ⟨.spawn (standing.workers engine).session (standing.workers engine).doc,
      (engine, true)⟩ ∈ readerEvents trace := by
  have history := tracked.history engine
  generalize standing.workers engine = worker at history
  cases history with
  | unborn idle silent => exact absurd begun idle
  | born spawned path =>
      obtain ⟨phase, rfl, _⟩ := Worker.accounts_of_path path
      exact spawned

/-- A step of the reader leaves the threads alone that run already. -/
theorem Tracked.started_old (tracked : Tracked trace shared standing)
    (possible : Possible .reader shared event) {engine : Engine}
    (begun : engine ∈ startedEngines trace) :
    started event standing.workers engine = standing.workers engine := by
  apply started_other
  intro starts
  exact (tracked.newcomer possible starts).1 begun

/-- An engine that starts brings a session id no other engine has. -/
theorem Tracked.started_fresh (tracked : Tracked trace shared standing)
    (fresh : freshIds trace (.ran .reader event) = true)
    (possible : Possible .reader shared event) {engine : Engine}
    (starts : startedBy event = some engine) :
    ∃ session doc,
      started event standing.workers engine = .born session doc ∧
        ∀ other ∈ startedEngines trace,
          (standing.workers other).session ≠ session := by
  obtain ⟨session, doc, rfl, rfl⟩ := startedBy_of_possible possible starts
  refine ⟨session, doc, Function.update_self .., ?_⟩
  intro other begun same
  have spawned := tracked.spawned begun
  simp only [freshIds, Bool.not_eq_true', List.any_eq_false] at fresh
  exact fresh _ spawned (by simp [spawnsFor, same])

theorem Conveying.read {after : Main.Phase}
    (conveying : Conveying trace shared standing.workers)
    (fed : Fed trace shared standing.workers)
    (tracked : Tracked trace shared standing)
    (fresh : freshIds trace (.ran .reader event) = true)
    (next : Main.Phase.Next libraries standing.reader event after)
    (possible : Possible .reader shared event) :
    Conveying (trace ++ [.ran .reader event]) (effectOf .reader event shared)
      (started event standing.workers) := by
  obtain ⟨unreceived, unwritten⟩ :=
    apart_of_readerOnly (Main.readerOnly_of_next next tracked.due)
  have silent : ∀ session, frameOf session (.ran .reader event :
      (process libraries).Happening) = none :=
    fun _ => frameOf_unwritten unwritten
  have old : ∀ engine ∈ startedEngines trace,
      started event standing.workers engine = standing.workers engine :=
    fun _ => tracked.started_old possible
  constructor
  · intro first member second member' same
    rw [startedEngines_read, List.mem_append, Option.mem_toList] at member member'
    rcases member with member | starts
    · rw [old first member] at same
      rcases member' with member' | starts
      · rw [old second member'] at same
        exact conveying.apart first member second member' same
      · obtain ⟨session, doc, born, unused⟩ :=
          tracked.started_fresh fresh possible starts
        rw [born] at same
        exact absurd same (unused first member)
    · rcases member' with member' | starts'
      · obtain ⟨session, doc, born, unused⟩ :=
          tracked.started_fresh fresh possible starts
        rw [old second member', born] at same
        exact absurd same.symm (unused second member')
      · exact Option.some.inj (starts.symm.trans starts')
  · intro session doc engine spawned
    rw [readerEvents_read, List.mem_append, List.mem_singleton] at spawned
    rcases spawned with earlier | now
    · rw [old engine (mem_startedEngines earlier)]
      exact conveying.posted session doc engine earlier
    · subst now
      rw [started, Function.update_self]
      exact ⟨rfl, rfl⟩
  · intro session unused
    rw [frames_ran, silent, Option.toList_none, List.append_nil]
    apply conveying.unheard
    intro engine begun same
    apply unused engine
    · rw [startedEngines_read]
      exact List.mem_append_left _ begun
    · rw [old engine begun]
      exact same
  · intro engine member
    rw [startedEngines_read, List.mem_append, Option.mem_toList] at member
    have channel := effect_channel .reader unreceived shared
    rcases member with begun | starts
    · rw [old engine begun]
      apply (conveying.conveys engine begun).frame (silent _)
      · rw [channel]
      · intro installed
        rcases @effect_sink event .reader (.inr rfl) shared with kept | none
        · exact kept.symm.trans installed
        · rw [none] at installed
          cases installed
    · obtain ⟨unbegun, unborn, _⟩ := tracked.newcomer possible starts
      obtain ⟨session, doc, born, unused⟩ :=
        tracked.started_fresh fresh possible starts
      have unsubmitted : submitted engine trace = [] := by
        apply fed.undialled
        rw [unborn]
        rfl
      unfold Conveys
      rw [born, submitted_ran, unsubmitted, frames_ran, silent, channel,
        fed.idle engine unbegun]
      have unheard := conveying.unheard session unused
      change Conveyor _ _ (frames session trace ++ _) _ _
      rw [unheard]
      exact .empty

end Conveying

section Calls

variable {trace : (process libraries).Trace} {shared : Shared}
  {standing : Standing} {workers : Engine → Worker}

/-- The owner of a connection holds the sink, unless it was taken. -/
theorem Linked.holder (linked : Linked workers shared.connection)
    (up : shared.connection ≠ .idle) :
    ∃ owner, shared.connection.owner = some owner ∧
      (workers owner).phase.holds = true ∧
      (workers owner).phase.undialled = false := by
  cases connection : shared.connection with
  | idle => exact absurd connection up
  | starting owner =>
      rw [connection] at linked
      have phase : (workers owner).phase = .starting := linked
      refine ⟨owner, rfl, ?_, ?_⟩ <;> rw [phase] <;> rfl
  | established owner =>
      rw [connection] at linked
      have linked : (workers owner).phase.linked = true := linked
      refine ⟨owner, rfl, Phase.holds_of_linked linked, ?_⟩
      generalize (workers owner).phase = phase at linked
      cases phase <;> first | rfl | cases linked

theorem submitted_submit {engine : Engine} {connection : Connection}
    {format : Int32} {unit : DecodeUnit} :
    submitted engine (trace ++ [.outside (.submit connection format unit)]) =
      submitted engine trace ++
        if connection.owner = some engine then [(format, unit)] else [] := by
  unfold submitted
  rw [List.filterMap_append]
  by_cases owner : connection.owner = some engine <;>
    simp [submission, owner]

theorem callBack_sink (callback : Callback) (shared : Shared) :
    (callBack callback shared).2.videoSink = shared.videoSink := by
  obtain ⟨_, _, _, same⟩ := callBack_frame callback shared
  rw [same]

/-- Only a decode unit changes a channel or counts as submitted. -/
theorem callBack_cases (callback : Callback) (shared : Shared) :
    (∃ unit, callback = .submit unit) ∨
      (callBack callback shared).2.channel = shared.channel ∧
        ∀ (engine : Engine) (trace : (process libraries).Trace),
          submitted engine (trace ++ [.outside (callBack callback shared).1]) =
            submitted engine trace := by
  cases callback with
  | submit unit => exact .inl ⟨unit, rfl⟩
  | _ => exact .inr ⟨rfl, fun _ _ => by simp [submitted, submission, callBack]⟩

theorem callBack_submit (unit : DecodeUnit) (shared : Shared) :
    (callBack (.submit unit) shared).1 =
      .submit shared.connection shared.negotiatedFormat unit := rfl

theorem channel_submit {unit : DecodeUnit} {engine : Engine} :
    (callBack (.submit unit) shared).2.channel engine =
      shared.channel engine ++
        if shared.videoSink = some engine then
          [drSubmit shared.negotiatedFormat unit]
        else [] := by
  cases sink : shared.videoSink with
  | none => simp [callBack, sink]
  | some owner =>
      by_cases same : owner = engine
      · subst same
        simp [callBack, sink]
      · simp [callBack, sink, same, Function.update_of_ne (Ne.symm same)]

theorem Fed.call (fed : Fed trace shared standing.workers)
    (linked : Linked standing.workers shared.connection) (callback : Callback)
    (inOrder : callsInOrder (.outside (callBack callback shared).1 :
      (process libraries).Happening) = true) :
    Fed (trace ++ [.outside (callBack callback shared).1])
      (callBack callback shared).2 standing.workers := by
  have sink := callBack_sink callback shared
  rcases @callBack_cases libraries callback shared with
    ⟨unit, rfl⟩ | ⟨channel, unsubmitted⟩
  · simp only [callsInOrder, callBack_submit, Seen.connection, Bool.and_eq_true,
      bne_iff_ne, decide_eq_true_eq] at inOrder
    obtain ⟨up, size⟩ := inOrder
    obtain ⟨owner, owns, holds, dialled⟩ := linked.holder up
    constructor
    · rw [sink]
      exact fed.holds
    · intro engine undialled
      have distinct : owner ≠ engine := by
        rintro rfl
        rw [dialled] at undialled
        cases undialled
      rw [callBack_submit, submitted_submit, fed.undialled engine undialled,
        owns]
      simp [distinct]
    · rw [sink, startedEngines_call]
      exact fed.sink
    · rw [startedEngines_call]
      intro engine idle
      have uninstalled : shared.videoSink ≠ some engine :=
        fun installed => idle (fed.sink engine installed)
      rw [channel_submit, fed.idle engine idle, if_neg uninstalled]
      rfl
    · intro engine entry member
      rw [callBack_submit, submitted_submit, List.mem_append] at member
      rcases member with earlier | now
      · exact fed.sized engine entry earlier
      · split at now
        · obtain rfl := List.mem_singleton.mp now
          exact size
        · cases now
  · constructor
    · rw [sink]
      exact fed.holds
    · intro engine
      rw [unsubmitted]
      exact fed.undialled engine
    · rw [sink, startedEngines_call]
      exact fed.sink
    · rw [startedEngines_call, channel]
      exact fed.idle
    · intro engine
      rw [unsubmitted]
      exact fed.sized engine

/-- A decode unit goes onto the conveyor of the connection's owner, or is lost
with the sink gone. -/
theorem Conveys.call {engine : Engine} {worker : Worker} {unit : DecodeUnit}
    (conveys : Conveys trace shared worker engine)
    (owned : ∃ owner, shared.connection.owner = some owner ∧
      (shared.videoSink = some owner ∨ shared.videoSink = none)) :
    Conveys (trace ++ [.outside (callBack (.submit unit) shared).1])
      (callBack (.submit unit) shared).2 worker engine := by
  obtain ⟨owner, owns, fed⟩ := owned
  unfold Conveys
  rw [frames_outside, callBack_sink, channel_submit, callBack_submit,
    submitted_submit, owns]
  by_cases same : owner = engine
  · subst same
    rw [if_pos rfl]
    rcases fed with installed | none
    · rw [if_pos installed, ← List.append_assoc, List.map_append,
        List.map_singleton]
      have imaged : payload worker (drSubmit shared.negotiatedFormat unit) =
          image worker.session worker.doc (shared.negotiatedFormat, unit) :=
        framePayload_drSubmit ..
      rw [imaged]
      exact conveys.submit installed _
    · have uninstalled : shared.videoSink ≠ some owner := by
        rw [none]
        exact (Option.some_ne_none owner).symm
      rw [if_neg uninstalled, List.append_nil]
      exact conveys.miss uninstalled _
  · have uninstalled : shared.videoSink ≠ some engine := by
      rcases fed with installed | none
      · rw [installed]
        simpa using same
      · rw [none]
        exact (Option.some_ne_none engine).symm
    have other : some owner ≠ some engine := by simpa using same
    rw [if_neg other, if_neg uninstalled, List.append_nil, List.append_nil]
    exact conveys

theorem Conveying.call (conveying : Conveying trace shared standing.workers)
    (fed : Fed trace shared standing.workers)
    (linked : Linked standing.workers shared.connection) (callback : Callback)
    (inOrder : callsInOrder (.outside (callBack callback shared).1 :
      (process libraries).Happening) = true) :
    Conveying (trace ++ [.outside (callBack callback shared).1])
      (callBack callback shared).2 standing.workers := by
  constructor
  · rw [startedEngines_call]
    exact conveying.apart
  · rw [readerEvents_call]
    exact conveying.posted
  · rw [startedEngines_call]
    intro session
    rw [frames_outside]
    exact conveying.unheard session
  · rw [startedEngines_call]
    intro engine begun
    have conveys := conveying.conveys engine begun
    rcases @callBack_cases libraries callback shared with
      ⟨unit, rfl⟩ | ⟨channel, unsubmitted⟩
    · simp only [callsInOrder, callBack_submit, Seen.connection,
        Bool.and_eq_true, bne_iff_ne] at inOrder
      obtain ⟨owner, owns, holds, _⟩ := linked.holder inOrder.1
      exact conveys.call ⟨owner, owns, fed.holds owner holds⟩
    · unfold Conveys
      rw [frames_outside, callBack_sink, channel, unsubmitted]
      exact conveys

end Calls

section Run

variable {trace : (process libraries).Trace}
  {config : (process libraries).Config}

/-- A decode unit is taken for the format of the last `dr_setup`. -/
def FormatInForce (past : (process libraries).Trace)
    (next : (process libraries).Happening) : Prop :=
  ∀ connection format unit,
    next = .outside (.submit connection format unit) → format = negotiated past

structure Formatted (trace : (process libraries).Trace) (shared : Shared) :
    Prop where
  current : shared.negotiatedFormat = negotiated trace
  recorded : Machine.Obeys FormatInForce trace

theorem formatted_initial :
    Formatted ([] : (process libraries).Trace) .initial where
  current := rfl
  recorded _ _ _ split := by simp at split

theorem Formatted.ran {shared : Shared} (formatted : Formatted trace shared)
    (thread : Thread) (event : Event sidecar) :
    Formatted (trace ++ [.ran thread event])
      (effectOf thread event shared) := by
  have kept : (effectOf thread event shared).negotiatedFormat =
      shared.negotiatedFormat := by
    obtain ⟨command, reply⟩ := event
    cases command <;> cases thread <;> rfl
  constructor
  · rw [kept, formatted.current]
    simp [negotiated, setupFormat]
  · apply formatted.recorded.snoc
    intro connection format unit same
    cases same

theorem Formatted.call {shared : Shared} (formatted : Formatted trace shared)
    (callback : Callback) :
    Formatted (trace ++ [.outside (callBack callback shared).1])
      (callBack callback shared).2 := by
  constructor
  · cases callback with
    | setup format => simp [negotiated, setupFormat, callBack]
    | submit unit =>
        have kept : (callBack (.submit unit) shared).2.negotiatedFormat =
            shared.negotiatedFormat := by
          cases sink : shared.videoSink <;> simp [callBack, sink]
        rw [kept, formatted.current]
        simp [negotiated, setupFormat, callBack]
    | terminated =>
        change shared.negotiatedFormat = _
        rw [formatted.current]
        simp [negotiated, setupFormat, callBack]
  · apply formatted.recorded.snoc
    intro connection format unit same
    cases callback with
    | submit submitted =>
        rw [callBack_submit] at same
        cases same
        exact formatted.current
    | _ => cases same

/-- Everything the pipeline keeps. -/
structure Running (trace : (process libraries).Trace) (shared : Shared)
    (workers : Engine → Worker) : Prop where
  lone : Lone reportedClosed trace
  linked : Linked workers shared.connection
  fed : Fed trace shared workers
  conveying : Conveying trace shared workers
  formatted : Formatted trace shared

theorem running_of_run
    (run : Machine.Run (process.start libraries) trace config)
    (inOrder : Machine.Obeys (fun past next => sequential past next = true)
      trace) :
    ∃ standing, Tracked trace config.shared standing ∧
      Running trace config.shared standing.workers := by
  have rules : ∀ {past : (process libraries).Trace} {next},
      sequential past next = true → oneLive past next = true ∧
        freshIds past next = true ∧ writes next = true ∧
        callsInOrder next = true := by
    intro past next rule
    simpa [sequential, and_assoc] using rule
  apply tracked_invariant run _ inOrder
    (fun trace shared standing => Running trace shared standing.workers)
  · exact {
      lone := fun _ member => by cases member
      linked := trivial
      fed := fed_initial
      conveying := conveying_initial
      formatted := formatted_initial }
  · intro past shared standing event after tracked running rule next possible
    obtain ⟨alone, fresh, _, _⟩ := rules rule
    exact {
      lone := lone_read running.lone alone
      linked := running.linked.read tracked next possible
      fed := running.fed.read tracked next possible
      conveying :=
        running.conveying.read running.fed tracked fresh next possible
      formatted := running.formatted.ran .reader event }
  · intro past shared standing engine event after tracked running rule next
      possible
    obtain ⟨_, _, succeeds, _⟩ := rules rule
    exact {
      lone := running.lone.extend (fun _ => reportedClosed_append)
        readerEvents_work
      linked := running.linked.work next
      fed := running.fed.work tracked running.lone next
      conveying :=
        running.conveying.work running.fed tracked succeeds next possible
      formatted := running.formatted.ran (.worker engine) event }
  · intro past shared standing callback tracked running rule _
    obtain ⟨_, _, _, ordered⟩ := rules rule
    have linked : Linked standing.workers
        (callBack callback shared).2.connection := by
      rw [callBack_connection]
      exact running.linked
    exact {
      lone := running.lone.extend (fun _ => reportedClosed_append)
        readerEvents_call
      linked := linked
      fed := running.fed.call running.linked callback ordered
      conveying :=
        running.conveying.call running.fed running.linked callback ordered
      formatted := running.formatted.call callback }

/-- The FRAME messages of a session are the images of the first decode units
of its connection, in order, and there are none for a session that was never
started; every unit is taken for the negotiated format. -/
theorem video_pipeline
    (run : Machine.Run (process.start libraries) trace config)
    (inOrder : Machine.Obeys (fun past next => sequential past next = true)
      trace) :
    (∀ session doc engine,
      ⟨.spawn session doc, (engine, true)⟩ ∈ readerEvents trace →
        frames session trace <+:
          (submitted engine trace).map (image session doc)) ∧
    (∀ session, (∀ doc engine,
      ⟨.spawn session doc, (engine, true)⟩ ∉ readerEvents trace) →
        frames session trace = []) ∧
    Machine.Obeys FormatInForce trace := by
  obtain ⟨standing, tracked, running⟩ := running_of_run run inOrder
  refine ⟨?_, ?_, running.formatted.recorded⟩
  · intro session doc engine spawned
    have conveys := running.conveying.conveys engine
      (mem_startedEngines spawned)
    obtain ⟨rfl, rfl⟩ := running.conveying.posted session doc engine spawned
    exact conveys.delivered_begins
  · intro session unspawned
    apply running.conveying.unheard
    rintro engine begun rfl
    exact unspawned _ engine (tracked.spawned begun)

end Run

end

open SampleHost

def starts (session : UInt32) (doc : MoonlightConnectDoc) (engine : Engine) :
    Event sidecar → Bool
  | ⟨.spawn spawned given, (number, true)⟩ =>
      spawned == session && (decide (given = doc) && number == engine)
  | _ => false

theorem mem_of_starts {session : UInt32} {doc : MoonlightConnectDoc}
    {engine : Engine} {events : List (Event sidecar)}
    (found : events.any (starts session doc engine) = true) :
    ⟨.spawn session doc, (engine, true)⟩ ∈ events := by
  obtain ⟨event, member, isStart⟩ := List.any_eq_true.mp found
  unfold starts at isStart
  split at isStart
  · simp only [Bool.and_eq_true, beq_iff_eq, decide_eq_true_eq] at isStart
    obtain ⟨rfl, rfl, rfl⟩ := isStart
    exact member
  · cases isStart

/-- One session writes two frames, with one more unit in its channel. -/
theorem video_pipeline_two_frames :
    ∃ trace : (process SampleHost.libraries).Trace,
      (frames 1 trace).length = 2 ∧ (submitted 0 trace).length = 3 ∧
        frames 1 trace <+: (submitted 0 trace).map
          (image 1 (Main.toCoreDoc SampleHost.doc)) := by
  obtain ⟨trace, config, run, checked⟩ :=
    Machine.exists_run_of_play
      (fun trace _ =>
        Machine.checkAll sequential [] trace &&
          ((readerEvents trace).any
              (starts 1 (Main.toCoreDoc SampleHost.doc) 0) &&
            ((frames 1 trace).length == 2 &&
              (submitted 0 trace).length == 3)))
      (show (Machine.play (greeting ++ connects (lit "1") ++ goesLive 0 ++
        [.outside (.setup 1)] ++ streams 0 keyFrame ++
        [worker 0 .nothing] ++ streams 0 keyFrame ++
        [.outside (.submit keyFrame)])
        (process.start libraries)).any _ = true by decide +kernel)
  simp only [Bool.and_eq_true, beq_iff_eq] at checked
  obtain ⟨inOrder, started, written, sent⟩ := checked
  exact ⟨trace, written, sent, (video_pipeline run
    (Machine.obeys_of_checkAll inOrder)).1 1 _ 0 (mem_of_starts started)⟩

end Sidecar

end MoonlightAddon
