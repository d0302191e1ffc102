import MoonlightAddon.Core.InfoDocument
import MoonlightAddon.Worker.Footprint

/-!
# What an engine's thread knows of its host

A thread asks for the server information once over HTTPS, and over plain HTTP
only if that gave nothing.  The answer decides whether it pairs, and nothing is
launched on a host that neither called the client paired nor was paired with
since.
-/

namespace MoonlightAddon

open NvHttp Session

/-- What is known of the host. -/
structure Admission where
  info : Option ServerInfo
  /-- The user was shown a PIN. -/
  prompted : Bool
  paired : Bool

namespace Admission

def unknown : Admission := ⟨none, false, false⟩

/-- The server information a response gives. -/
def accepted (label : Text) (fallbackPort : UInt16) (body : Text) :
    Option ServerInfo :=
  match checkStatus label body, readServerInfo body fallbackPort with
  | .ok _, .ok info => some info
  | _, _ => none

def informed (admission : Admission) (answer : Option ServerInfo) : Admission :=
  { admission with info := answer.or admission.info }

def learn (admission : Admission) : Event sidecar → Admission
  | ⟨.request (.serverInfoHttps _ port _ _), .body body⟩ =>
      admission.informed (accepted (lit "serverinfo(https)") port body)
  | ⟨.request (.serverInfo _ _ _ _), .body body⟩ =>
      admission.informed (accepted (lit "serverinfo") 47984 body)
  | ⟨.control (.event _ (.pairPrompt ..)), _⟩ =>
      { admission with prompted := true }
  | ⟨.control (.event _ (.pairFinished none)), _⟩ =>
      { admission with paired := true }
  | _ => admission

/-- The host called the client unpaired. -/
def Unpaired (admission : Admission) : Prop :=
  ∃ info, admission.info = some info ∧ info.pairStatus = 0

/-- The user of an unpaired host was shown a PIN. -/
def Asked (admission : Admission) : Prop :=
  admission.Unpaired → admission.prompted = true

theorem unknown_asked : unknown.Asked := by
  rintro ⟨info, impossible, _⟩
  cases impossible

/-- The host called the client paired, or was paired with. -/
def Admitted (admission : Admission) : Prop :=
  ∃ info, admission.info = some info ∧
    (info.pairStatus ≠ 0 ∨ admission.paired = true)

/-- The C core is told what the host said of itself. -/
def Describes (admission : Admission) (server : ServerInformation) : Prop :=
  ∃ info, admission.info = some info ∧
    server.serverInfoAppVersion = info.appVersion ∧
    server.serverInfoGfeVersion = info.gfeVersion ∧
    server.serverCodecModeSupport = info.serverCodecModeSupport.toInt32

/-- What a thread that knows this may do. -/
def Permits (admission : Admission) : Command → Prop
  | .request (.serverInfo ..) | .request (.serverInfoHttps ..) =>
      admission.info = none
  | .request (.pair ..) | .control (.event _ (.pairPrompt ..)) =>
      admission.Unpaired ∧ admission.paired = false
  | .request (.appList ..) | .request (.launch ..) | .request (.cancel ..) =>
      admission.Admitted
  | .beginStart server _ => admission.Admitted ∧ admission.Describes server
  | _ => True

end Admission

/-- The discipline of a thread that keeps to what it knows. -/
def admission : Typestate sidecar where
  State := Admission
  Next before event after :=
    after = before.learn event ∧ before.Permits event.command
  Pre
    | .frameLoop _ _, _ => True
    | _, _ => False
  Post _ before _ after := after = before

namespace Worker

open Effect

variable {libraries : Libraries} {session : UInt32}
  {doc : MoonlightConnectDoc} {identity : MoonlightIdentity}
  {state : Admission} {α β : Type}

/-- A command that is permitted and teaches nothing. -/
def Steady (state : Admission) (command : Command) : Prop :=
  state.Permits command ∧ ∀ reply : command.Reply,
    state.learn ⟨command, reply⟩ = state

/-- The effect leaves what is known, however it ends. -/
def Rests (state : Admission) (effect : Rust α) : Prop :=
  admission.Follows effect (fun _ (after : Admission) => after = state) state

theorem rests_confined {effect : Rust α} {yields : α → Prop}
    (confined : Confined (Steady state) effect yields) : Rests state effect := by
  have follows := @Confined.follows _ _ _ _ admission _ confined
    (fun after : Admission => after = state)
    (by
      rintro _ command reply rfl steady
      exact ⟨_, ⟨rfl, steady.1⟩, steady.2 reply⟩)
    state rfl
  exact follows.mono fun _ _ held => held.1

theorem rests_bind {effect : Rust α} {rest : α → Rust β}
    (first : Rests state effect) (later : ∀ value, Rests state (rest value)) :
    Rests state (effect >>= rest) := by
  apply Typestate.follows_bind
  apply Typestate.Follows.mono first
  rintro outcome _ rfl
  cases outcome with
  | ok value => exact later value
  | err error => rfl
  | panicked message => rfl

theorem steady_draw (count : Nat) : Steady state (.randBytes count) :=
  ⟨trivial, fun _ => rfl⟩

theorem rests_lift (outcome : Outcome α) : Rests state (lift outcome) :=
  rests_confined (confined_lift outcome)

theorem rests_issue {command : Command} (steady : Steady state command) :
    Rests state (issue command) :=
  rests_confined (confined_perform steady fun _ => trivial)

theorem rests_line (line : Text) :
    Rests state (onServiceMessage session line) :=
  rests_confined (confined_send ⟨trivial, fun _ => rfl⟩)

theorem rests_ready : Rests state (onReady session) :=
  rests_confined (confined_send ⟨trivial, fun _ => rfl⟩)

/-! ### The frame loop -/

theorem rests_stopStream : Rests state (Stream.stopStream .worker) :=
  rests_confined (confined_stopStream ⟨trivial, fun _ => rfl⟩
    ⟨trivial, fun _ => rfl⟩ ⟨trivial, fun _ => rfl⟩)

theorem rests_frameLoop : Rests state (frameLoop session doc) :=
  ⟨trivial, fun _ _ same => same⟩

theorem rests_frameLoopBody : Rests state (frameLoopBody session doc) := by
  refine rests_bind (rests_issue ⟨trivial, fun _ => rfl⟩) ?_
  intro stop
  cases stop with
  | true => exact rests_lift (.ok ())
  | false =>
      refine rests_bind (rests_issue ⟨trivial, fun _ => rfl⟩) ?_
      intro terminated
      cases terminated with
      | true =>
          apply rests_bind rests_stopStream
          intro _
          exact rests_lift (.err _)
      | false =>
          refine rests_bind (rests_issue ⟨trivial, fun _ => rfl⟩) ?_
          intro received
          cases received with
          | unit unit =>
              apply rests_bind (rests_confined
                (confined_frameSink (fun _ => ⟨trivial, fun _ => rfl⟩) _))
              intro _
              exact rests_frameLoop
          | timeout => exact rests_frameLoop
          | disconnected => exact rests_lift (.ok ())

theorem admission_sound (libraries : Libraries) :
    admission.Sound (Main.bodies libraries) := by
  rintro (⟨session, doc⟩ | _ | _) state pre
  · exact rests_frameLoopBody
  · exact pre.elim
  · exact pre.elim

/-! ### The server information -/

/-- What asking the host leaves behind. -/
def Learns : Outcome ServerInfo → Admission → Prop
  | .ok info, after => after = ⟨some info, false, false⟩
  | _, after => after = .unknown

/-- The end of both functions: the answer is read, or it was not one. -/
theorem learns_read {label body : Text} {port : UInt16} :
    admission.Follows
      (do
        lift (checkStatus label body)
        lift (readServerInfo body port) : Rust ServerInfo)
      Learns (Admission.unknown.informed (Admission.accepted label port body)) := by
  obtain ⟨info, read⟩ := readServerInfo_ok body port
  rw [Admission.accepted, read]
  unfold checkStatus
  split <;> rfl

theorem rests_newUuid : Rests state newUuid :=
  rests_confined (confined_newUuid (steady_draw 16))

/-- An effect that leaves what is known, before one that need not. -/
theorem follows_rests {effect : Rust α} {rest : α → Rust β}
    {post : Outcome β → Admission → Prop} (first : Rests state effect)
    (later : ∀ value, admission.Follows (rest value) post state)
    (fails : ∀ error, post (.err error) state)
    (panics : ∀ message, post (.panicked message) state) :
    admission.Follows (effect >>= rest : Rust β) post state := by
  apply Typestate.follows_bind
  apply Typestate.Follows.mono first
  rintro outcome _ rfl
  cases outcome with
  | ok value => exact later value
  | err error => exact fails error
  | panicked message => exact panics message

theorem learns_serverInfoHttps {host : Text} {port : UInt16} :
    admission.Follows (serverInfoHttps libraries identity host port) Learns
      Admission.unknown := by
  refine follows_rests rests_newUuid ?_ (fun _ => rfl) fun _ => rfl
  intro uuid
  refine follows_rests (rests_lift _) ?_ (fun _ => rfl) fun _ => rfl
  intro client
  apply Typestate.follows_bind
  apply Typestate.follows_performResult
  intro reply
  refine ⟨_, ⟨rfl, rfl⟩, ?_⟩
  cases reply with
  | sendFailed error => rfl
  | readFailed error => rfl
  | body body => exact learns_read

theorem learns_serverInfo {host uniqueId : Text} {port : UInt16} :
    admission.Follows (serverInfo libraries host port uniqueId) Learns
      Admission.unknown := by
  refine follows_rests rests_newUuid ?_ (fun _ => rfl) fun _ => rfl
  intro uuid
  refine follows_rests (rests_lift _) ?_ (fun _ => rfl) fun _ => rfl
  intro client
  apply Typestate.follows_bind
  apply Typestate.follows_performResult
  intro reply
  refine ⟨_, ⟨rfl, rfl⟩, ?_⟩
  cases reply with
  | sendFailed error => rfl
  | readFailed error => rfl
  | body body => exact learns_read

theorem learns_learnServerInfo :
    admission.Follows (learnServerInfo libraries doc identity) Learns
      Admission.unknown := by
  apply Typestate.follows_bind
  apply Typestate.follows_attempt
  apply Typestate.Follows.mono learns_serverInfoHttps
  intro outcome after learnt
  cases outcome with
  | ok info => exact learnt
  | err error =>
      obtain rfl := learnt
      exact learns_serverInfo
  | panicked message => exact learnt

/-! ### Launching -/

theorem rests_cString {what text : Text} {rest : Text → Rust β}
    (later : Rests state (rest text)) :
    Rests state (lift (Stream.cString what text) >>= rest : Rust β) := by
  rw [Stream.cString]
  split
  · exact rests_lift (.err _)
  · exact later

theorem rests_startStream {opts : Stream.StreamOptions}
    (admitted : state.Admitted)
    (described : ∀ address, state.Describes ⟨address, opts.appVersion,
      opts.gfeVersion, opts.codecModeSupport⟩) :
    Rests state (Stream.startStream opts) := by
  refine rests_bind (rests_issue ⟨trivial, fun _ => rfl⟩) fun _ => ?_
  refine rests_bind (rests_issue ⟨trivial, fun _ => rfl⟩) fun _ => ?_
  apply rests_cString
  apply rests_cString
  apply rests_cString
  refine rests_bind (rests_issue
    ⟨⟨admitted, described opts.host⟩, fun _ => rfl⟩) fun _ => ?_
  refine rests_bind (rests_issue ⟨trivial, fun _ => rfl⟩) fun code => ?_
  apply Typestate.follows_if
  · intro refused
    refine rests_bind (rests_issue ⟨trivial, fun _ => rfl⟩) fun _ => ?_
    exact rests_lift (.err _)
  · intro started
    exact rests_lift (.ok ())

theorem rests_releaseHost (admitted : state.Admitted) :
    Rests state (releaseHost libraries doc identity) :=
  rests_confined (confined_releaseHost (steady_draw 16)
    fun _ => ⟨admitted, fun _ => rfl⟩)

theorem rests_attempt {effect : Rust α} {rest : Except Text α → Rust β}
    (first : Rests state effect) (later : ∀ result, Rests state (rest result)) :
    Rests state (Effect.attempt effect >>= rest : Rust β) := by
  apply Typestate.follows_bind
  apply Typestate.follows_attempt
  apply Typestate.Follows.mono first
  rintro outcome _ rfl
  cases outcome with
  | ok value => exact later (.ok value)
  | err error => exact later (.error error)
  | panicked message => rfl

theorem rests_streamSession {info : ServerInfo} {launched : LaunchSession}
    (admitted : state.Admitted) (told : state.info = some info) :
    Rests state
      (streamSession libraries session doc identity info launched) := by
  apply rests_attempt (rests_startStream admitted
    fun _ => ⟨info, told, rfl, rfl, rfl⟩)
  intro result
  cases result with
  | error error =>
      apply rests_bind (rests_releaseHost admitted)
      intro _
      exact rests_lift (.err error)
  | ok started =>
      apply rests_bind rests_ready
      intro _
      apply rests_bind (rests_line _)
      intro _
      apply rests_bind rests_frameLoop
      intro _
      apply rests_bind rests_stopStream
      intro _
      exact rests_releaseHost admitted

theorem rests_launchSession {info : ServerInfo} (admitted : state.Admitted)
    (told : state.info = some info) :
    Rests state (launchSession libraries session doc identity info) := by
  refine rests_bind (rests_issue ⟨trivial, fun _ => rfl⟩) ?_
  intro stop
  cases stop with
  | true => exact rests_lift (.ok ())
  | false =>
      apply rests_bind (rests_confined (confined_appList (steady_draw 16)
        fun _ => ⟨admitted, fun _ => rfl⟩))
      intro apps
      apply rests_bind (rests_lift _)
      intro app
      apply rests_bind (rests_line _)
      intro _
      apply rests_bind (rests_confined (confined_launch steady_draw
        fun _ _ _ => ⟨admitted, fun _ => rfl⟩))
      intro launched
      exact rests_streamSession admitted told

/-! ### Pairing -/

theorem follows_drawOrZero_bind {count : Nat} {rest : Bytes → Rust β}
    {post : Outcome β → Admission → Prop}
    (later : ∀ bytes, admission.Follows (rest bytes) post state) :
    admission.Follows (drawOrZero count >>= rest : Rust β) post state := by
  apply Typestate.follows_bind
  apply Typestate.follows_bind
  apply Typestate.follows_perform
  intro reply
  refine ⟨_, ⟨rfl, trivial⟩, ?_⟩
  cases reply with
  | ok bytes => exact later bytes.1
  | error error => exact later _

theorem follows_send_bind {message : Proto.AddonMsg} {rest : Unit → Rust β}
    {post : Outcome β → Admission → Prop}
    (permits : state.Permits (.control message))
    (later : ∀ reply, admission.Follows (rest ()) post
      (state.learn ⟨.control message, reply⟩)) :
    admission.Follows (send message >>= rest : Rust β) post state := by
  apply Typestate.follows_bind
  apply Typestate.follows_bind
  apply Typestate.follows_perform
  intro reply
  exact ⟨_, ⟨rfl, permits⟩, later reply⟩

/-- What pairing leaves behind: the user was shown a PIN, whatever came of
it. -/
def Pairs (info : ServerInfo) : Outcome Unit → Admission → Prop
  | .ok (), after => after = ⟨some info, true, true⟩
  | _, after => after.prompted = true

theorem admission_pairWithHost {info : ServerInfo}
    (unpaired : info.pairStatus = 0) :
    admission.Follows (pairWithHost libraries session doc identity)
      (Pairs info) (⟨some info, false, false⟩ : Admission) := by
  have asks (prompted : Bool) :
      (⟨some info, prompted, false⟩ : Admission).Unpaired ∧ false = false :=
    ⟨⟨info, rfl, unpaired⟩, rfl⟩
  apply Typestate.follows_bind
  apply follows_drawOrZero_bind
  intro bytes
  apply Typestate.follows_then
  apply follows_send_bind
  · trivial
  intro _
  apply follows_send_bind
  · exact asks false
  intro _
  apply follows_drawOrZero_bind
  intro salt
  apply PairingClient.follows_new ?_ fun _ _ => rfl
  refine follows_rests (rests_confined (confined_attempt (confined_pair
    (steady_draw 16) fun _ _ _ => ⟨asks true, fun _ => rfl⟩))) ?_
    (fun _ => rfl) fun _ => rfl
  intro result
  cases result with
  | ok paired =>
      apply follows_send_bind
      · trivial
      intro _
      exact (rests_line _).mono fun outcome after same => by
        cases outcome with
        | ok sent => exact same
        | err error => exact congrArg Admission.prompted same
        | panicked message => exact congrArg Admission.prompted same
  | error error =>
      refine follows_rests
        (rests_confined (confined_send ⟨trivial, fun _ => rfl⟩)) ?_
        (fun _ => rfl) fun _ => rfl
      intro _
      exact rfl

theorem asked_withIdentity :
    admission.Follows (withIdentity libraries session doc identity)
      (fun _ (after : Admission) => after.Asked) Admission.unknown := by
  refine follows_rests (rests_confined (confined_performResult
    ⟨trivial, fun _ => rfl⟩ fun _ _ _ => trivial)) ?_
    (fun _ => Admission.unknown_asked) fun _ => Admission.unknown_asked
  intro runtime
  refine follows_rests (rests_line _) ?_ (fun _ => Admission.unknown_asked) fun _ => Admission.unknown_asked
  intro _
  apply Typestate.follows_bind
  apply Typestate.Follows.mono learns_learnServerInfo
  intro outcome after learnt
  cases outcome with
  | err error =>
      obtain rfl := learnt
      exact Admission.unknown_asked
  | panicked message =>
      obtain rfl := learnt
      exact Admission.unknown_asked
  | ok info =>
      obtain rfl := learnt
      apply Typestate.follows_if
      · intro unpaired
        apply Typestate.follows_bind
        apply Typestate.Follows.mono (admission_pairWithHost unpaired)
        intro outcome after pairs
        cases outcome with
        | err error => exact fun _ => pairs
        | panicked message => exact fun _ => pairs
        | ok paired =>
            obtain rfl := pairs
            exact (rests_launchSession ⟨info, rfl, .inr rfl⟩ rfl).mono
              fun _ _ same _ => congrArg Admission.prompted same
      · intro paired
        exact (rests_launchSession ⟨info, rfl, .inl paired⟩ rfl).mono (by
          rintro _ _ rfl ⟨_, ⟨⟩, unpaired⟩
          exact absurd unpaired paired)

theorem rests_settleIdentity : Rests state (settleIdentity session doc) := by
  unfold settleIdentity
  cases restoreIdentity doc with
  | some identity => exact rests_lift (.ok identity)
  | none =>
      refine rests_bind (rests_confined (confined_performResult
        ⟨trivial, fun _ => rfl⟩ fun _ _ _ => trivial)) ?_
      intro identity
      refine rests_bind (rests_confined
        (confined_send ⟨trivial, fun _ => rfl⟩)) ?_
      intro _
      exact rests_lift (.ok identity)

/-- A thread that is done has shown an unpaired host's user a PIN. -/
theorem admission_worker :
    admission.Follows (worker libraries session doc)
      (fun _ (after : Admission) => after.Asked) Admission.unknown := by
  have runs : admission.Follows (runMoonlight libraries session doc)
      (fun _ (after : Admission) => after.Asked) Admission.unknown :=
    follows_rests rests_settleIdentity (fun _ => asked_withIdentity)
      (fun _ => Admission.unknown_asked) fun _ => Admission.unknown_asked
  apply Typestate.Follows.bind
  apply Typestate.Follows.mono runs
  intro outcome after asked
  apply Typestate.Follows.bind
  have sent : Rests after (onClosed session (closeReason outcome)) :=
    rests_confined (confined_send ⟨trivial, fun _ => rfl⟩)
  exact sent.mono fun _ _ same => same ▸ asked

/-- What is known after these events. -/
def knows (events : List (Event sidecar)) : Admission :=
  events.foldl Admission.learn .unknown

theorem knows_of_path {events : List (Event sidecar)} {after : Admission}
    (path : admission.Path Admission.unknown events after) :
    after = knows events := by
  apply path.invariant fun past (state : Admission) => state = knows past
  · rfl
  · rintro past state event after rfl ⟨rfl, _⟩
    simp [knows]

/-- Everything a thread does is permitted by what it has learnt before. -/
theorem permitted_of_run {past rest : List (Event sidecar)}
    {event : Event sidecar} {finish : Program sidecar Unit}
    (run : Program.Run (Main.bodies libraries) (worker libraries session doc)
      (past ++ event :: rest) finish) :
    (knows past).Permits event.command := by
  obtain ⟨after, path, _⟩ :=
    Typestate.follows_run (admission_sound libraries) run admission_worker
  obtain ⟨before, later, first, next, _⟩ := path.split rfl
  rw [← knows_of_path first]
  exact next.2

/-! ### What a described host is taken for -/

theorem accepted_document (document : InfoDocument) (label : Text)
    (fallbackPort : UInt16) :
    Admission.accepted label fallbackPort document.text =
      some (document.info fallbackPort) := by
  rw [Admission.accepted, document.checkStatus_text,
    document.readServerInfo_text]

/-- A host that is known is not asked again. -/
theorem told_of_next {before after : Admission} {event : Event sidecar}
    {info : ServerInfo} (next : admission.Next before event after)
    (told : before.info = some info) : after.info = some info := by
  obtain ⟨rfl, permits⟩ := next
  unfold Admission.learn
  split
  · exact absurd (permits.symm.trans told) nofun
  · exact absurd (permits.symm.trans told) nofun
  · exact told
  · exact told
  · exact told

theorem told_of_path {before after : Admission} {events : List (Event sidecar)}
    {info : ServerInfo} (path : admission.Path before events after)
    (told : before.info = some info) : after.info = some info := by
  apply path.invariant fun _ (state : Admission) => state.info = some info
  · exact told
  · intro past state event later told next
    exact told_of_next next told

def asksInfo : HttpRequest → Bool
  | .serverInfo .. | .serverInfoHttps .. => true
  | _ => false

/-- The host answered with a document, which describes it. -/
theorem told_of_answer {document : InfoDocument} {info : ServerInfo}
    {request : HttpRequest} {before after : Admission}
    (describes : document.Describes info) (asks : asksInfo request = true)
    (next : admission.Next before ⟨.request request, .body document.text⟩
      after) : after.info = some info := by
  obtain ⟨rfl, _⟩ := next
  cases request with
  | serverInfo | serverInfoHttps =>
      simp only [Admission.learn, Admission.informed, accepted_document,
        info_of_describes describes, Option.some_or]
  | _ => cases asks

/-- The user is shown a PIN. -/
def showsPrompt : Event sidecar → Bool
  | ⟨.control (.event _ (.pairPrompt ..)), _⟩ => true
  | _ => false

theorem prompt_of_shows {trace : List (Event sidecar)}
    (shown : trace.any showsPrompt = true) :
    ∃ id pin url reply,
      ⟨.control (.event id (.pairPrompt pin url)), reply⟩ ∈ trace := by
  obtain ⟨event, member, shows⟩ := List.any_eq_true.mp shown
  unfold showsPrompt at shows
  split at shows
  · exact ⟨_, _, _, _, member⟩
  · cases shows

theorem prompted_learn (state : Admission) (event : Event sidecar) :
    (state.learn event).prompted = true →
      state.prompted = true ∨ showsPrompt event = true := by
  unfold Admission.learn
  split
  · exact .inl
  · exact .inl
  · exact fun _ => .inr rfl
  · exact .inl
  · exact .inl

theorem prompted_of_path {events : List (Event sidecar)} {after : Admission}
    (path : admission.Path Admission.unknown events after)
    (prompted : after.prompted = true) : events.any showsPrompt = true := by
  revert prompted
  apply path.invariant fun past (state : Admission) =>
    state.prompted = true → past.any showsPrompt = true
  · exact nofun
  · rintro past state event after earlier ⟨rfl, _⟩ prompted
    rw [List.any_append, Bool.or_eq_true]
    rcases prompted_learn state event prompted with before | shows
    · exact .inl (earlier before)
    · exact .inr (by simpa using shows)

/-- A thread that is done has shown a PIN exactly for an unpaired host. -/
theorem prompted_iff_unpaired {trace : List (Event sidecar)}
    (run : Program.Run (Main.bodies libraries) (worker libraries session doc)
      trace (.ret ())) :
    trace.any showsPrompt = true ↔ (knows trace).Unpaired := by
  obtain ⟨after, path, asked⟩ :=
    Typestate.follows_run (admission_sound libraries) run admission_worker
  rw [← knows_of_path path]
  constructor
  · intro shown
    obtain ⟨id, pin, url, reply, member⟩ := prompt_of_shows shown
    obtain ⟨past, future, split⟩ := List.append_of_mem member
    obtain ⟨before, next, _, step, rest⟩ := path.split split
    obtain ⟨⟨info, told, unpaired⟩, _⟩ := step.2
    exact ⟨info, told_of_path rest (told_of_next step told), unpaired⟩
  · intro unpaired
    exact prompted_of_path path (asked unpaired)

/-- The pairing with the host succeeded. -/
def finishesPairing : Event sidecar → Bool
  | ⟨.control (.event _ (.pairFinished none)), _⟩ => true
  | _ => false

theorem paired_learn (state : Admission) (event : Event sidecar) :
    (state.learn event).paired = true →
      state.paired = true ∨ finishesPairing event = true := by
  unfold Admission.learn
  split
  · exact .inl
  · exact .inl
  · exact .inl
  · exact fun _ => .inr rfl
  · exact .inl

theorem paired_of_path {events : List (Event sidecar)} {after : Admission}
    (path : admission.Path Admission.unknown events after)
    (paired : after.paired = true) : events.any finishesPairing = true := by
  revert paired
  apply path.invariant fun past (state : Admission) =>
    state.paired = true → past.any finishesPairing = true
  · exact nofun
  · rintro past state event later induction ⟨rfl, _⟩ paired
    rw [List.any_append, Bool.or_eq_true]
    rcases paired_learn state event paired with earlier | finishes
    · exact .inl (induction earlier)
    · exact .inr (by simpa using finishes)

/-- Only for a host that admits the client. -/
def needsAdmission : Command → Bool
  | .request (.appList ..) | .request (.launch ..) | .request (.cancel ..)
  | .beginStart _ _ => true
  | _ => false

/-- A thread goes by what its host is. -/
structure Heeds (info : ServerInfo) (events : List (Event sidecar)) :
    Prop where
  core : ∀ server settings reply,
    ⟨.beginStart server settings, reply⟩ ∈ events →
      server.serverInfoAppVersion = info.appVersion ∧
        server.serverInfoGfeVersion = info.gfeVersion ∧
        server.serverCodecModeSupport = info.serverCodecModeSupport.toInt32
  pairing : ∀ host port query reply,
    ⟨.request (.pair host port query), reply⟩ ∈ events → info.pairStatus = 0
  admitted : ∀ event ∈ events, needsAdmission event.command = true →
    info.pairStatus ≠ 0 ∨ events.any finishesPairing = true

theorem admitted_of_permits {state : Admission} {command : Command}
    (needs : needsAdmission command = true) (permits : state.Permits command) :
    state.Admitted := by
  cases command with
  | request request =>
      cases request with
      | appList | launch | cancel => exact permits
      | _ => cases needs
  | beginStart => exact permits.1
  | _ => cases needs

theorem heeds_of_path {events : List (Event sidecar)} {last : Admission}
    {info : ServerInfo} (path : admission.Path Admission.unknown events last)
    (told : last.info = some info) : Heeds info events := by
  have reached : ∀ event ∈ events, ∃ (past : List (Event sidecar))
      (state : Admission), past ⊆ events ∧
        admission.Path Admission.unknown past state ∧
        state.Permits event.command ∧
        ∀ known, state.info = some known → known = info := by
    intro event member
    obtain ⟨past, future, rfl⟩ := List.append_of_mem member
    obtain ⟨state, after, first, next, rest⟩ := path.split rfl
    refine ⟨past, state, List.subset_append_left .., first, next.2, ?_⟩
    intro known same
    have kept := told_of_path rest (told_of_next next same)
    exact Option.some.inj (kept.symm.trans told)
  constructor
  · intro server settings reply member
    obtain ⟨_, _, _, _, ⟨_, known, same, described⟩, unique⟩ := reached _ member
    obtain rfl := unique known same
    exact described
  · intro host port query reply member
    obtain ⟨_, _, _, _, ⟨⟨known, same, unpaired⟩, _⟩, unique⟩ := reached _ member
    obtain rfl := unique known same
    exact unpaired
  · intro event member needs
    obtain ⟨past, state, within, first, permits, unique⟩ := reached event member
    obtain ⟨known, same, status | paired⟩ := admitted_of_permits needs permits
    · obtain rfl := unique known same
      exact .inl status
    · obtain ⟨finished, earlier, finishes⟩ :=
        List.any_eq_true.mp (paired_of_path first paired)
      exact .inr (List.any_eq_true.mpr ⟨finished, within earlier, finishes⟩)

/-- A thread whose host answered with a document that describes it heeds that
description. -/
theorem heeds_of_run {events : List (Event sidecar)}
    {finish : Program sidecar Unit} {document : InfoDocument}
    {info : ServerInfo} {request : HttpRequest}
    (run : Program.Run (Main.bodies libraries) (worker libraries session doc)
      events finish)
    (describes : document.Describes info) (asks : asksInfo request = true)
    (answered : ⟨.request request, .body document.text⟩ ∈ events) :
    Heeds info events := by
  obtain ⟨last, path, _⟩ :=
    Typestate.follows_run (admission_sound libraries) run admission_worker
  obtain ⟨past, future, split⟩ := List.append_of_mem answered
  obtain ⟨before, after, _, next, rest⟩ := path.split split
  exact heeds_of_path path
    (told_of_path rest (told_of_answer describes asks next))

end Worker

end MoonlightAddon
