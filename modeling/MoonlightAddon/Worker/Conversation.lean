import MoonlightAddon.Worker.Discipline
import MoonlightAddon.Responder

/-!
# What an engine thread writes to the host

`Conversation` is the grammar of the messages of one session, as a structure:
whatever it contains can be written in one order only.  Every run of an engine
thread, also one that panics anywhere in `run_moonlight`, writes one.
-/

namespace MoonlightAddon

open NvHttp Session

/-- A message an engine thread attempts to write. -/
inductive Output where
  | message (message : Proto.AddonMsg)
  | frame (session : UInt32) (update : FrameUpdate)
deriving DecidableEq

def outputOf : Event sidecar → Option Output
  | ⟨.control message, _⟩ => some (.message message)
  | ⟨.frame session update, _⟩ => some (.frame session update)
  | _ => none

def outputs (trace : List (Event sidecar)) : List Output :=
  trace.filterMap outputOf

@[simp] theorem outputs_nil : outputs [] = [] := rfl

@[simp] theorem outputs_append (first second : List (Event sidecar)) :
    outputs (first ++ second) = outputs first ++ outputs second :=
  List.filterMap_append

theorem outputs_singleton (event : Event sidecar) :
    outputs [event] = (outputOf event).toList := by
  cases written : outputOf event <;> simp [outputs, written]

theorem outputOf_quiet {phase : Phase} {command : Command}
    (quiet : Phase.Quiet phase command = true) (reply : command.Reply) :
    outputOf ⟨command, reply⟩ = none := by
  cases Phase.routine_of_quiet quiet <;> rfl

/-- A prompt, and what follows once it is taken down. -/
structure PairingTalk where
  pin : Text
  url : Text
  answer : Option (Option Text × List Text)

/-- Everything an engine writes before its last message. -/
structure Talk where
  identity : Option (Text × Text × Text)
  greetings : List Text
  pairing : Option PairingTalk
  /-- "Ready", at most one service message, then frames. -/
  live : Option (Option Text × List FrameUpdate)

/-- All the messages of a session that has ended. -/
structure Conversation where
  talk : Talk
  error : Option Text

section

variable (session : UInt32)

def say (line : Text) : Output :=
  .message (.event session (.serviceMessage line))

def PairingTalk.outputs (pairing : PairingTalk) : List Output :=
  .message (.event session (.pairPrompt pairing.pin pairing.url)) ::
    match pairing.answer with
    | none => []
    | some (error, lines) =>
        .message (.event session (.pairFinished error)) ::
          lines.map (say session)

/-- The messages before any prompt. -/
def Talk.opening (talk : Talk) : List Output :=
  (talk.identity.toList.map fun (uniqueId, certPem, keyPem) =>
      .message (.event session (.identity uniqueId certPem keyPem))) ++
    talk.greetings.map (say session)

def Talk.liveOutputs (talk : Talk) : List Output :=
  match talk.live with
  | none => []
  | some (line, frames) =>
      .message (.sessionReady session 0 0) ::
        (line.toList.map (say session) ++ frames.map (.frame session))

def Talk.outputs (talk : Talk) : List Output :=
  talk.opening session ++
    (match talk.pairing with
      | none => []
      | some pairing => pairing.outputs session) ++
    talk.liveOutputs session

def Conversation.outputs (conversation : Conversation) : List Output :=
  conversation.talk.outputs session ++
    [.message (.sessionClosed session conversation.error)]

end

namespace Talk

def silent : Talk where
  identity := none
  greetings := []
  pairing := none
  live := none

/-- No prompt is left up. -/
def Answered (talk : Talk) : Prop :=
  ∀ pairing, talk.pairing = some pairing → ∃ answer,
    pairing.answer = some answer

/-- What has been written when the engine stands in a phase. -/
def Fits (talk : Talk) : Phase → Prop
  | .absent | .closed => False
  | .fresh | .minted _ => talk = .silent
  | .introduced | .opening =>
      talk.greetings = [] ∧ talk.pairing = none ∧ talk.live = none
  | .probing | .inviting => talk.pairing = none ∧ talk.live = none
  | .pairing | .wrecked =>
      (∃ pin url, talk.pairing = some ⟨pin, url, none⟩) ∧ talk.live = none
  | .paired | .unpaired | .settled =>
      (∃ pin url answer, talk.pairing = some ⟨pin, url, some answer⟩) ∧
        talk.live = none
  | .cleared | .stoppedEarly | .launched | .sinkInstalled | .armed
  | .starting | .refused _ | .startFailed _ | .connected =>
      talk.Answered ∧ talk.live = none
  | .announced => talk.Answered ∧ talk.live = some (none, [])
  | .polling | .polled | .listening | .delivering _ =>
      talk.Answered ∧ ∃ line frames, talk.live = some (line, frames)
  | .stopping _ | .stoppingCore _ | .uninstalling _ | .releasing _
  | .closing _ => talk.Answered

variable {session : UInt32} {doc : MoonlightConnectDoc}

/-- A service message before the session is ready. -/
theorem speak {talk : Talk} (answered : talk.Answered)
    (before : talk.live = none) (line : Text) :
    ∃ later : Talk, talk.outputs session ++ [say session line] =
        later.outputs session ∧ later.Answered ∧ later.live = none := by
  cases prompted : talk.pairing with
  | none =>
      let later : Talk :=
        { talk with greetings := talk.greetings ++ [line] }
      refine ⟨later, ?_, answered, before⟩
      simp [later, outputs, opening, liveOutputs, prompted, before]
  | some pairing =>
      obtain ⟨⟨error, lines⟩, answer⟩ := answered pairing prompted
      let pairingLater : PairingTalk :=
        { pairing with answer := some (error, lines ++ [line]) }
      let later : Talk := { talk with pairing := some pairingLater }
      refine ⟨later, ?_, ?_, before⟩
      · simp [later, pairingLater, outputs, opening, liveOutputs, PairingTalk.outputs, prompted,
          answer, before]
      · intro other same
        obtain rfl : pairingLater = other := Option.some.inj same
        exact ⟨_, rfl⟩

theorem answered_of_settled {talk : Talk}
    (fits : talk.Fits .probing ∨ talk.Fits .settled) :
    talk.Answered ∧ talk.live = none := by
  obtain ⟨unprompted, before⟩ | ⟨⟨pin, url, answer, prompted⟩, before⟩ := fits
  · refine ⟨?_, before⟩
    intro pairing same
    simp [unprompted] at same
  · refine ⟨?_, before⟩
    intro pairing same
    obtain rfl := Option.some.inj (prompted.symm.trans same)
    exact ⟨answer, rfl⟩

/-- One step of the engine continues what was written, or closes it. -/
theorem fits_step {talk : Talk} {before after : Phase}
    {event : Event sidecar}
    (next : Phase.Next session doc before event after)
    (fits : talk.Fits before) :
    (∃ later : Talk, talk.outputs session ++ (outputOf event).toList =
        later.outputs session ∧ later.Fits after) ∨
      (after = .closed ∧ ∃ error,
        outputOf event = some (.message (.sessionClosed session error))) := by
  cases next with
  | close may => exact .inr ⟨rfl, _, rfl⟩
  | quiet quiet =>
      refine .inl ⟨talk, ?_, fits⟩
      rw [outputOf_quiet quiet]
      exact List.append_nil _
  | @introduce identity reply =>
      obtain rfl : talk = .silent := fits
      exact .inl ⟨{ silent with identity := some (_, _, _) }, rfl,
        rfl, rfl, rfl⟩
  | runtime settled =>
      refine .inl ⟨talk, List.append_nil _, ?_⟩
      obtain rfl | rfl := settled
      · obtain rfl : talk = .silent := fits
        exact ⟨rfl, rfl, rfl⟩
      · exact fits
  | @connecting line reply =>
      obtain ⟨empty, unprompted, before⟩ := fits
      refine .inl ⟨{ talk with greetings := [line] }, ?_, unprompted, before⟩
      simp [outputs, opening, liveOutputs, outputOf, say, empty, unprompted, before]
  | @invite line reply =>
      obtain ⟨unprompted, before⟩ := fits
      refine .inl ⟨{ talk with greetings := talk.greetings ++ [line] }, ?_,
        unprompted, before⟩
      simp [outputs, opening, liveOutputs, outputOf, say, unprompted, before]
  | @prompt pin url reply =>
      obtain ⟨unprompted, before⟩ := fits
      refine .inl ⟨{ talk with pairing := some ⟨pin, url, none⟩ }, ?_,
        ⟨pin, url, rfl⟩, before⟩
      simp [outputs, opening, liveOutputs, PairingTalk.outputs, outputOf, unprompted, before]
  | finishPaired =>
      obtain ⟨⟨pin, url, prompted⟩, before⟩ := fits
      refine .inl ⟨{ talk with
        pairing := some ⟨pin, url, some (none, [])⟩ }, ?_,
        ⟨pin, url, _, rfl⟩, before⟩
      simp [outputs, opening, liveOutputs, PairingTalk.outputs, outputOf, prompted, before]
  | @finishUnpaired error reply =>
      obtain ⟨⟨pin, url, prompted⟩, before⟩ := fits
      refine .inl ⟨{ talk with
        pairing := some ⟨pin, url, some (some error, [])⟩ }, ?_,
        ⟨pin, url, _, rfl⟩, before⟩
      simp [outputs, opening, liveOutputs, PairingTalk.outputs, outputOf, prompted, before]
  | @pairedMessage line reply =>
      obtain ⟨⟨pin, url, ⟨error, lines⟩, prompted⟩, before⟩ := fits
      refine .inl ⟨{ talk with
        pairing := some ⟨pin, url, some (error, lines ++ [line])⟩ }, ?_,
        ⟨pin, url, _, rfl⟩, before⟩
      simp [outputs, opening, liveOutputs, PairingTalk.outputs, outputOf, say, prompted, before]
  | proceed due | stopEarly due =>
      refine .inl ⟨talk, List.append_nil _, ?_⟩
      apply answered_of_settled
      obtain rfl | rfl := due
      · exact .inl fits
      · exact .inr fits
  | @launching line reply =>
      exact .inl (speak fits.1 fits.2 line)
  | ready =>
      obtain ⟨answered, before⟩ := fits
      refine .inl ⟨{ talk with live := some (none, []) }, ?_, answered, rfl⟩
      simp [outputs, opening, liveOutputs, outputOf, before]
  | @connectedMessage line reply =>
      obtain ⟨answered, announced⟩ := fits
      refine .inl ⟨{ talk with live := some (some line, []) }, ?_,
        answered, some line, [], rfl⟩
      simp [outputs, opening, liveOutputs, outputOf, say, announced]
  | @deliver unit reply =>
      obtain ⟨answered, line, frames, live⟩ := fits
      refine .inl ⟨{ talk with
        live := some (line, frames ++ [frameUpdate doc unit]) }, ?_,
        answered, line, _, rfl⟩
      simp [outputs, opening, liveOutputs, outputOf, live]
  | stop | terminated | disconnected =>
      exact .inl ⟨talk, List.append_nil _, fits.1⟩
  | releaseFailed => exact .inl ⟨talk, List.append_nil _, fits.1⟩
  | _ => exact .inl ⟨talk, List.append_nil _, fits⟩

/-- A prompt is left up only in the two phases of the handshake. -/
theorem answered_of_fits {talk : Talk} {phase : Phase}
    (fits : talk.Fits phase) (down : phase ≠ .pairing)
    (unwrecked : phase ≠ .wrecked) : talk.Answered := by
  have unprompted (none : talk.pairing = none) : talk.Answered := by
    intro pairing same
    simp [none] at same
  cases phase with
  | absent | closed => exact absurd fits id
  | pairing => exact absurd rfl down
  | wrecked => exact absurd rfl unwrecked
  | fresh | minted =>
      obtain rfl : talk = .silent := fits
      exact unprompted rfl
  | introduced | opening => exact unprompted fits.2.1
  | probing | inviting => exact unprompted fits.1
  | paired | unpaired | settled => exact (answered_of_settled (.inr fits)).1
  | stopping | stoppingCore | uninstalling | releasing | closing => exact fits
  | _ => exact fits.1

end Talk

namespace Worker

variable {session : UInt32} {doc : MoonlightConnectDoc}
  {libraries : Libraries} {trace : List (Event sidecar)}

/-- The messages written by the time the engine stands in `phase`. -/
def Written (session : UInt32) (trace : List (Event sidecar)) :
    Phase → Prop
  | .closed => ∃ conversation : Conversation,
      outputs trace = conversation.outputs session
  | phase => ∃ talk : Talk, outputs trace = talk.outputs session ∧
      talk.Fits phase

theorem Written.talk {phase : Phase} (written : Written session trace phase)
    (still : phase ≠ .closed) :
    ∃ talk : Talk, outputs trace = talk.outputs session ∧
      talk.Fits phase := by
  cases phase with
  | closed => exact absurd rfl still
  | _ => exact written

theorem Written.of_talk {talk : Talk} {phase : Phase}
    (equality : outputs trace = talk.outputs session)
    (fits : talk.Fits phase) : Written session trace phase := by
  cases phase with
  | closed => exact absurd fits id
  | _ => exact ⟨talk, equality, fits⟩

/-- Nothing happens after the closing message. -/
theorem open_of_next {before after : Phase} {event : Event sidecar}
    (next : Phase.Next session doc before event after) :
    before ≠ .closed := by
  rintro rfl
  cases next with
  | quiet quiet => simp [Phase.Quiet] at quiet
  | runtime settled | noRuntime settled => simp at settled
  | proceed due | stopEarly due => simp at due
  | close may => exact may

theorem written_of_path {worker : Worker}
    (path : engineThread.Path (born session doc) trace worker) :
    ∃ phase, worker = ⟨session, doc, phase⟩ ∧
      Written session trace phase := by
  apply path_invariant path (fun trace phase => Written session trace phase)
  · exact ⟨.silent, rfl, rfl⟩
  · intro past before event after written next
    obtain ⟨talk, equality, fits⟩ := written.talk (open_of_next next)
    have appended : outputs (past ++ [event]) =
        talk.outputs session ++ (outputOf event).toList := by
      rw [outputs_append, outputs_singleton, equality]
    obtain ⟨later, continued, fitsLater⟩ | ⟨rfl, error, closing⟩ :=
      Talk.fits_step next fits
    · exact .of_talk (appended.trans continued) fitsLater
    · refine ⟨⟨talk, error⟩, ?_⟩
      rw [appended, closing]
      rfl

/-- Whatever has been written, the closing message completes it. -/
theorem Written.completes {phase : Phase}
    (written : Written session trace phase) :
    ∃ rest, ∃ conversation : Conversation,
      outputs trace ++ rest = conversation.outputs session := by
  by_cases gone : phase = .closed
  · subst gone
    obtain ⟨conversation, equality⟩ := written
    exact ⟨[], conversation, by simpa using equality⟩
  · obtain ⟨talk, equality, fits⟩ := written.talk gone
    exact ⟨[.message (.sessionClosed session none)], ⟨talk, none⟩, by
      rw [equality]
      rfl⟩

/-- `run_moonlight` on its own never gets as far as the closing message. -/
theorem open_of_follows {rest : Rust Unit} {phase : Phase}
    (follows : engineThread.Follows rest (Ends libraries session doc)
      ⟨session, doc, phase⟩) : phase ≠ .closed := by
  rintro rfl
  cases rest with
  | ret outcome =>
      obtain ⟨phase, same, may, _⟩ := follows
      obtain rfl : Phase.closed = phase := congrArg Worker.phase same
      exact may
  | act command next =>
      obtain ⟨after, next, _⟩ := follows command.quietReply
      cases next with
      | mk next => exact open_of_next next rfl
  | enter loop next =>
      have entered := follows.1
      cases loop with
      | frameLoop session doc =>
          have same := congrArg Worker.phase entered
          exact absurd same (by simp)
      | readControl => exact entered
      | readerLoop => exact entered

/-- A run of an engine thread.  Besides the panics the model contains, anything
`run_moonlight` calls may panic between two commands. -/
inductive ThreadRun (libraries : Libraries) (session : UInt32)
    (doc : MoonlightConnectDoc) :
    List (Event sidecar) → Program sidecar Unit → Prop where
  | runs {trace : List (Event sidecar)} {finish : Program sidecar Unit} :
      Program.Run (Main.bodies libraries) (worker libraries session doc)
        trace finish →
      ThreadRun libraries session doc trace finish
  | panics {before after : List (Event sidecar)} {rest : Rust Unit}
      {finish : Program sidecar Unit} (message : Text) :
      Program.Run (Main.bodies libraries)
        (runMoonlight libraries session doc) before rest →
      Program.Run (Main.bodies libraries)
        (reportClosed session (.panicked message)) after finish →
      ThreadRun libraries session doc (before ++ after) finish

theorem reportClosed_run {outcome : Outcome Unit}
    {finish : Program sidecar Unit}
    (run : Program.Run (Main.bodies libraries)
      (reportClosed session outcome) trace finish) :
    (trace = [] ∧ finish ≠ .ret ()) ∨
      ∃ error reply,
        trace = [⟨.control (.sessionClosed session error), reply⟩] := by
  have shape : reportClosed session outcome =
      .act (.control (.sessionClosed session (reported (closeReason outcome))))
        fun _ => .ret () := rfl
  rw [shape] at run
  cases run with
  | refl => exact .inl ⟨rfl, by simp⟩
  | step stepped rest =>
      cases stepped with
      | act reply =>
          cases rest with
          | refl => exact .inr ⟨_, reply, rfl⟩
          | step stepped rest => cases stepped

/-- Both kinds of run reach a phase whose messages are written; when the thread
is over, they are a whole conversation. -/
theorem threadRun_written {finish : Program sidecar Unit}
    (run : ThreadRun libraries session doc trace finish) :
    (∃ phase, Written session trace phase) ∧
      (finish = .ret () → Written session trace .closed) := by
  cases run with
  | runs run =>
      obtain ⟨after, path, final⟩ := path_of_run run
      obtain ⟨phase, rfl, written⟩ := written_of_path path
      refine ⟨⟨phase, written⟩, ?_⟩
      rintro rfl
      obtain ⟨phase, same, written⟩ :=
        written_of_path (path_of_finished run)
      obtain rfl : Phase.closed = phase := congrArg Worker.phase same
      exact written
  | @panics before after rest _ message run closing =>
      obtain ⟨reached, path, follows⟩ := Typestate.follows_run
        (engineThread_sound libraries) run follows_runMoonlight
      obtain ⟨phase, rfl, written⟩ := written_of_path path
      have still := open_of_follows follows
      obtain ⟨rfl, unfinished⟩ | ⟨error, reply, rfl⟩ :=
        reportClosed_run closing
      · rw [List.append_nil]
        exact ⟨⟨phase, written⟩, fun gone => absurd gone unfinished⟩
      · obtain ⟨talk, equality, fits⟩ := written.talk still
        have closed : Written session (before ++
            [⟨.control (.sessionClosed session error), reply⟩]) .closed := by
          refine ⟨⟨talk, error⟩, ?_⟩
          rw [outputs_append, equality]
          rfl
        exact ⟨⟨.closed, closed⟩, fun _ => closed⟩

/-- `LiStartConnection` succeeded, hence `start_stream` returned `Ok`. -/
def startSucceeded : Event sidecar := ⟨.finishStart, (0 : Int32)⟩

/-- Only that success leads to the connected phase. -/
theorem event_of_connected {before after : Phase} {event : Event sidecar}
    (next : Phase.Next session doc before event after)
    (connected : after = .connected) :
    event = startSucceeded ∨ before = .connected := by
  cases next with
  | started => exact .inl rfl
  | quiet quiet | noRuntime settled => exact .inr connected
  | _ => cases connected

/-- "Ready" is due only after the stream was started. -/
theorem started_of_ready {worker after : Worker} {width height : UInt16}
    {id : UInt32} {reply : Except Text Unit}
    (path : engineThread.Path (born session doc) trace worker)
    (next : Worker.Next worker
      ⟨.control (.sessionReady id width height), reply⟩ after) :
    startSucceeded ∈ trace := by
  have invariant := path_invariant path
    (fun trace phase => phase = .connected → startSucceeded ∈ trace)
    (by intro impossible; cases impossible) (by
      intro past before event after held next connected
      apply List.mem_append.mpr
      obtain rfl | same := event_of_connected next connected
      · exact .inr (List.mem_singleton.mpr rfl)
      · exact .inl (held same))
  obtain ⟨phase, rfl, started⟩ := invariant
  cases next with
  | mk next =>
      cases next with
      | ready => exact started rfl
      | quiet quiet => simp [Phase.Quiet] at quiet

/-- The path behind a run of either kind, up to any event but a panicking
thread's closing message. -/
theorem path_of_threadRun {finish : Program sidecar Unit}
    {past future : List (Event sidecar)} {event : Event sidecar}
    (run : ThreadRun libraries session doc trace finish)
    (split : trace = past ++ event :: future) :
    (∃ worker after, engineThread.Path (born session doc) past worker ∧
      Worker.Next worker event after) ∨
      ∃ error reply,
        event = ⟨.control (.sessionClosed session error), reply⟩ := by
  cases run with
  | runs run =>
      obtain ⟨final, path, follows⟩ := path_of_run run
      obtain ⟨worker, after, before, next, _⟩ := path.split split
      exact .inl ⟨worker, after, before, next⟩
  | @panics before after rest _ message run closing =>
      obtain ⟨reached, path, follows⟩ := Typestate.follows_run
        (engineThread_sound libraries) run follows_runMoonlight
      obtain ⟨rfl, unfinished⟩ | ⟨error, reply, rfl⟩ :=
        reportClosed_run closing
      · rw [List.append_nil] at split
        obtain ⟨worker, after, first, next, _⟩ := path.split split
        exact .inl ⟨worker, after, first, next⟩
      · obtain ⟨middle, rfl, tail⟩ | ⟨middle, rfl, tail⟩ :=
          List.append_eq_append_iff.mp split
        · cases middle with
          | nil =>
              obtain ⟨rfl, rfl⟩ := List.cons.inj tail
              exact .inr ⟨error, reply, rfl⟩
          | cons head middle => simp at tail
        · cases middle with
          | nil =>
              obtain ⟨rfl, rfl⟩ := List.cons.inj tail
              exact .inr ⟨error, reply, rfl⟩
          | cons head middle =>
              obtain ⟨rfl, rfl⟩ := List.cons.inj tail
              obtain ⟨worker, after, first, next, _⟩ := path.split rfl
              exact .inl ⟨worker, after, first, next⟩

/-- The messages of an engine thread form a conversation when it is over and
the beginning of one before that, however `run_moonlight` ends; and "ready" is
attempted only once the stream was started. -/
theorem threadRun_conversation {finish : Program sidecar Unit}
    (run : ThreadRun libraries session doc trace finish) :
    (finish = .ret () → ∃ conversation : Conversation,
      outputs trace = conversation.outputs session) ∧
    (∃ rest, ∃ conversation : Conversation,
      outputs trace ++ rest = conversation.outputs session) ∧
    ∀ past id width height reply future,
      trace = past ++ ⟨.control (.sessionReady id width height), reply⟩ ::
        future → startSucceeded ∈ past := by
  obtain ⟨⟨phase, written⟩, closed⟩ := threadRun_written run
  refine ⟨closed, written.completes, ?_⟩
  intro past id width height reply future split
  obtain ⟨worker, after, path, next⟩ | ⟨error, reply, impossible⟩ :=
    path_of_threadRun run split
  · exact started_of_ready path next
  · cases impossible

/-- The order in which every service message comes before "ready", as a
recogniser of complete conversations. -/
def servicesFirst (session : UInt32) : (prompted : Bool) → List Output → Bool
  | prompted, .message (.event id (.serviceMessage _)) :: rest
  | prompted, .message (.event id (.pairFinished _)) :: rest =>
      id = session && servicesFirst session prompted rest
  | false, .message (.event id (.pairPrompt _ _)) :: rest =>
      id = session && servicesFirst session true rest
  | _, .message (.sessionReady id _ _) :: rest => id = session && live rest
  | _, rest => closed rest
where
  live : List Output → Bool
    | .frame id _ :: rest => id = session && live rest
    | rest => closed rest
  closed : List Output → Bool
    | [.message (.sessionClosed id _)] => id = session
    | _ => false

def withIdentityFirst (session : UInt32) : List Output → Bool
  | .message (.event id (.identity _ _ _)) :: rest =>
      id = session && servicesFirst session false rest
  | rest => servicesFirst session false rest

/-- A host that answers every request.  It is paired already unless it has a
body for the pairing requests. -/
def hostReplies (pairing : Option Text) : HttpRequest → HttpReply
  | .serverInfo .. | .serverInfoHttps .. => .body (statusOk ++
      (match pairing with
        | none => lit "<PairStatus>1</PairStatus>"
        | some _ => lit "<PairStatus>0</PairStatus>"))
  | .appList .. => .body (statusOk ++
      lit "<App><AppTitle>Desktop</AppTitle><ID>1</ID></App>")
  | .launch .. => .body (statusOk ++ lit "<gamesession>1</gamesession>")
  | .cancel .. => .body statusOk
  | .pair .. => .body (statusOk ++ pairing.getD [])

/-- Everything succeeds, and the session is asked to stop in the frame loop.
The state counts the readings of the stop flag. -/
def cooperative (pairing : Option Text) : Responder sidecar Nat :=
  fun polls command =>
    match command with
    | .request request => (hostReplies pairing request, polls)
    | .loadStop => (decide (0 < polls), polls + 1)
    | command => (command.quietReply, polls)

/-- A stopped stream: "Connected" is written after "ready". -/
theorem connected_after_ready :
    ∃ trace, ThreadRun default 1 .stored trace (.ret ()) ∧
      withIdentityFirst 1 (outputs trace) = false := by
  obtain ⟨⟨⟩, trace, run, unexpected⟩ := Program.exists_run_of_serve
    (fun () trace => !withIdentityFirst 1 (outputs trace))
    (show (Program.serve (cooperative none)
      (Program.serveLoops (cooperative none) (Main.bodies default) 2)
      (worker default 1 .stored) 0).any _ = true by decide +kernel)
  exact ⟨trace, .runs run, by simpa using unexpected⟩

theorem threadRun_conversation_stopped :
    ∃ trace, ThreadRun default 1 .stored trace (.ret ()) ∧
      7 < trace.length ∧ ∃ conversation : Conversation,
        outputs trace = conversation.outputs 1 := by
  obtain ⟨⟨⟩, trace, run, long⟩ := Program.exists_run_of_serve
    (fun () trace => decide (7 < trace.length))
    (show (Program.serve (cooperative none)
      (Program.serveLoops (cooperative none) (Main.bodies default) 2)
      (worker default 1 .stored) 0).any _ = true by decide +kernel)
  exact ⟨trace, .runs run, of_decide_eq_true long,
    (threadRun_conversation (.runs run)).1 rfl⟩

end Worker

end MoonlightAddon
