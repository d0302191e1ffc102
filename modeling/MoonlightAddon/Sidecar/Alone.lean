import MoonlightAddon.Sidecar
import MoonlightAddon.Solo
import MoonlightAddon.Worker.Narrowing

/-!
# An engine's thread alone

The course of a session against a host that the client is paired with, which
has one application and starts it: from the first command into the frame loop,
and one turn of the loop.
-/

namespace MoonlightAddon

namespace Sidecar

open Machine NvHttp Session
open Worker (desktopBody pairedBody pairedInfo readServerInfo_pairedBody)

section

variable {libraries : Libraries} {engine : Engine} {shared : Shared}
  {session : UInt32} {doc : MoonlightConnectDoc}
  {identity : MoonlightIdentity} {host : Text} {port : UInt16} {α β : Type}

/-- The thread of the engine gets the value between these shared states. -/
abbrev Gets (libraries : Libraries) (engine : Engine) (effect : Rust α)
    (before : Shared) (value : α) (after : Shared) : Prop :=
  @Obtains sidecar (process libraries) α (.worker engine) effect before value
    after

/-- It gets the value and leaves all shared state as it was. -/
abbrev Gives (libraries : Libraries) (engine : Engine) (shared : Shared)
    (effect : Rust α) (value : α) : Prop :=
  Gets libraries engine effect shared value shared

theorem gets_issueResult {command : Command}
    {result : command.Reply → Except Text α} (answer : Answer)
    {reply : command.Reply} {value : α} (living : shared.exited = none)
    (replied : replyOf (.worker engine) shared command answer = some reply)
    (unforked : (process libraries).fork ⟨command, reply⟩ shared = none)
    (returned : result reply = .ok value) :
    Gets libraries engine (issueResult command result) shared value
      (effectOf (.worker engine) ⟨command, reply⟩ shared) :=
  @obtains_performResult sidecar (process libraries) (.worker engine) α value
    shared command result answer reply ((if_pos living).trans replied) unforked
    returned

theorem gets_issue {command : Command} (answer : Answer)
    {reply : command.Reply} (living : shared.exited = none)
    (replied : replyOf (.worker engine) shared command answer = some reply)
    (unforked : (process libraries).fork ⟨command, reply⟩ shared = none) :
    Gets libraries engine (issue command) shared reply
      (effectOf (.worker engine) ⟨command, reply⟩ shared) :=
  @obtains_perform sidecar (process libraries) (.worker engine) shared command
    answer reply ((if_pos living).trans replied) unforked

theorem gets_bind {effect : Rust α} {rest : α → Rust β} {value : α} {result : β}
    {before between after : Shared}
    (first : Gets libraries engine effect before value between)
    (later : Gets libraries engine (rest value) between result after) :
    Gets libraries engine (effect >>= rest : Rust β) before result after :=
  obtains_bind first later

theorem gets_attempt {effect : Rust α} {value : α} {before after : Shared}
    (gets : Gets libraries engine effect before value after) :
    Gets libraries engine (Effect.attempt effect) before (.ok value) after :=
  obtains_attempt gets

theorem gives_done {outcome : Outcome α} {value : α}
    (returned : outcome = .ok value) :
    Gives libraries engine shared (lift outcome) value :=
  @obtains_done sidecar (process libraries) (.worker engine) α value outcome
    returned shared

theorem gives_pure (value : α) :
    Gives libraries engine shared (pure value) value :=
  gives_done rfl

theorem gives_send (living : shared.exited = none) (message : Proto.AddonMsg) :
    Gives libraries engine shared (send message) () := by
  apply gets_bind (gets_issue (.result (.ok ())) living rfl rfl)
  exact gives_pure ()

theorem replyOf_randBytes {thread : Thread} {count : Nat} (drawn : Drawn count) :
    replyOf thread shared (.randBytes count) (.bytes (.ok drawn.1)) =
      some (.ok drawn) :=
  dif_pos drawn.2

theorem gives_newUuid (living : shared.exited = none) :
    Gives libraries engine shared newUuid (formatUuid (drawnOf 0).1) := by
  have drawn : Gives libraries engine shared (drawOrZero 16) (drawnOf 0).1 := by
    apply gets_bind
      (gets_issue (.bytes _) living (replyOf_randBytes (drawnOf 0)) rfl)
    exact gives_pure _
  apply gets_bind drawn
  exact gives_pure _

theorem gives_httpGet (living : shared.exited = none) {label : Text}
    {request : HttpRequest} (body : Text) :
    Gives libraries engine shared (httpGet label request) body :=
  gets_issueResult (.http (.body body)) living rfl rfl rfl

theorem gives_serverInfoHttps (living : shared.exited = none)
    (client : httpsClient libraries identity = .ok ()) :
    Gives libraries engine shared (serverInfoHttps libraries identity host port)
      (pairedInfo port) := by
  have accepted : checkStatus (lit "serverinfo(https)") pairedBody = .ok () := by
    decide +kernel
  apply gets_bind (gives_newUuid living)
  apply gets_bind (gives_done client)
  apply gets_bind (gives_httpGet living pairedBody)
  apply gets_bind (gives_done accepted)
  exact gives_done readServerInfo_pairedBody

theorem gives_learnServerInfo (living : shared.exited = none)
    (client : httpsClient libraries identity = .ok ()) :
    Gives libraries engine shared (learnServerInfo libraries doc identity)
      (pairedInfo doc.httpsPort) := by
  apply gets_bind (gets_attempt (gives_serverInfoHttps living client))
  exact gives_pure _

theorem gives_appList (living : shared.exited = none)
    (client : httpsClient libraries identity = .ok ()) :
    Gives libraries engine shared (appList libraries identity host port)
      [⟨1, lit "Desktop"⟩] := by
  have accepted : checkStatus (lit "applist") desktopBody = .ok () := by
    decide +kernel
  apply gets_bind (gives_newUuid living)
  apply gets_bind (gives_done client)
  apply gets_bind (gives_httpGet living desktopBody)
  apply gets_bind (gives_done accepted)
  apply gives_done
  decide +kernel

theorem gives_launch (living : shared.exited = none)
    (client : httpsClient libraries identity = .ok ())
    {appId width height fps : UInt32} :
    Gives libraries engine shared
      (launch libraries identity host port appId width height fps)
      ⟨drawnOf 0, 1⟩ := by
  have key : Gives libraries engine shared rand16 (drawnOf 0) :=
    gets_issueResult (.bytes _) living (replyOf_randBytes (drawnOf 0)) rfl rfl
  have keyId : Gives libraries engine shared (issueResult (.randBytes 4) id)
      ⟨[0, 0, 0, 0], rfl⟩ :=
    gets_issueResult (.bytes _) living
      (replyOf_randBytes ⟨[0, 0, 0, 0], rfl⟩) rfl rfl
  have checked : checkLaunch launchedBody = .ok () := by decide +kernel
  apply gets_bind key
  apply gets_bind keyId
  apply gets_bind (gives_newUuid living)
  apply gets_bind (gives_done client)
  apply gets_bind (gives_httpGet living launchedBody)
  apply gets_bind (gives_done checked)
  exact gives_pure _

/-! ### Into the frame loop -/

/-- What a start that succeeds leaves behind. -/
def connectedTo (engine : Engine) (shared : Shared) : Shared :=
  { shared with
    videoSink := some engine
    terminated := false
    connection := .established engine }

theorem gets_startStream (living : shared.exited = none)
    {opts : Stream.StreamOptions} (address : '\x00' ∉ opts.host)
    (appVersion : opts.appVersion = []) (gfeVersion : opts.gfeVersion = []) :
    Gets libraries engine (Stream.startStream opts) shared ()
      (connectedTo engine shared) := by
  have free : ∀ what, Stream.cString what [] = .ok [] :=
    fun what => if_neg List.not_mem_nil
  refine gets_bind (gets_issue .nothing living rfl rfl) ?_
  refine gets_bind (gets_issue .nothing living rfl rfl) ?_
  apply gets_bind (gives_done (if_neg address))
  rw [appVersion, gfeVersion]
  apply gets_bind (gives_done (free _))
  apply gets_bind (gives_done (free _))
  refine gets_bind (gets_issue .nothing living rfl rfl) ?_
  refine gets_bind (gets_issue (.code 0) living rfl rfl) ?_
  exact gives_pure ()

/-- The message that a session is ready. -/
def readyEvent (session : UInt32) : Event sidecar :=
  ⟨.control (.sessionReady session 0 0), .ok ()⟩

/-- The thread says that the session is ready and comes to its frame loop. -/
def GoesLive (libraries : Libraries) (engine : Engine) (session : UInt32)
    (doc : MoonlightConnectDoc) (shared : Shared) {γ : Type}
    (program : Program sidecar γ) : Prop :=
  ∃ rest : Outcome Unit → Program sidecar γ,
    @Leads sidecar (process libraries) γ (.worker engine) program shared
      (readyEvent session) (Program.bind (frameLoop session doc) rest)
      (connectedTo engine shared)

theorem GoesLive.bind {γ δ : Type} {program : Program sidecar γ}
    (live : GoesLive libraries engine session doc shared program)
    (later : γ → Program sidecar δ) :
    GoesLive libraries engine session doc shared (program.bind later) := by
  obtain ⟨rest, leads⟩ := live
  exact ⟨fun outcome => (rest outcome).bind later, leads.bind later⟩

theorem GoesLive.after {effect : Rust α} {value : α} {rest : α → Rust β}
    (gives : Gives libraries engine shared effect value)
    (live : GoesLive libraries engine session doc shared (rest value)) :
    GoesLive libraries engine session doc shared
      (effect >>= rest : Rust β) := by
  obtain ⟨last, leads⟩ := live
  exact ⟨last, Obtains.leads gives leads⟩

theorem leads_send (living : shared.exited = none) (message : Proto.AddonMsg)
    {rest : Unit → Rust β} :
    @Leads sidecar (process libraries) (Outcome β) (.worker engine)
      (send message >>= rest : Rust β) shared ⟨.control message, .ok ()⟩
      (rest ()) shared :=
  @leads_act sidecar (process libraries) (.worker engine) (Outcome β) shared
    (.control message) _ (.result (.ok ())) _ ((if_pos living).trans rfl) rfl

theorem goesLive_streamSession (living : shared.exited = none)
    (address : '\x00' ∉ doc.host) {launched : LaunchSession} :
    GoesLive libraries engine session doc shared
      (streamSession libraries session doc identity (pairedInfo doc.httpsPort)
        launched) := by
  have starts : Gets libraries engine (Effect.attempt (Stream.startStream
      (streamOptions doc (pairedInfo doc.httpsPort) launched))) shared (.ok ())
      (connectedTo engine shared) :=
    gets_attempt (gets_startStream living address rfl rfl)
  have up : (connectedTo engine shared).exited = none := living
  have connected : Gives libraries engine (connectedTo engine shared)
      (onServiceMessage session (lit "Connected")) () :=
    gives_send up _
  let streams : Rust Unit := do
    frameLoop session doc
    Stream.stopStream .worker
    releaseHost libraries doc identity
  have ready : @Leads sidecar (process libraries) (Outcome Unit)
      (.worker engine)
      (do onReady session
          onServiceMessage session (lit "Connected")
          streams : Rust Unit) (connectedTo engine shared)
      (readyEvent session)
      (do onServiceMessage session (lit "Connected")
          streams : Rust Unit) (connectedTo engine shared) :=
    leads_send up (.sessionReady session 0 0)
  exact ⟨_, Obtains.leads starts (ready.then connected)⟩

theorem goesLive_launchSession (living : shared.exited = none)
    (unstopped : shared.stopFlag engine = false)
    (client : httpsClient libraries identity = .ok ())
    (address : '\x00' ∉ doc.host) :
    GoesLive libraries engine session doc shared
      (launchSession libraries session doc identity
        (pairedInfo doc.httpsPort)) := by
  have goOn : Gives libraries engine shared (issue .loadStop) false :=
    gets_issue .nothing living (congrArg some unstopped) rfl
  apply GoesLive.after goOn
  apply GoesLive.after (gives_appList living client)
  apply GoesLive.after (gives_done rfl)
  apply GoesLive.after (gives_send living _)
  apply GoesLive.after (gives_launch living client)
  exact goesLive_streamSession living address

/-- What a host has to send for its session to come up. -/
structure Usable (libraries : Libraries) (doc : MoonlightConnectDoc)
    (identity : MoonlightIdentity) : Prop where
  settled : restoreIdentity doc = some identity ∨ restoreIdentity doc = none
  client : httpsClient libraries identity = .ok ()
  address : '\x00' ∉ doc.host

theorem gives_settleIdentity (living : shared.exited = none)
    (settled : restoreIdentity doc = some identity ∨
      restoreIdentity doc = none) :
    Gives libraries engine shared (settleIdentity session doc) identity := by
  unfold settleIdentity
  rcases settled with same | missing
  · rw [same]
    exact gives_pure identity
  · rw [missing]
    refine gets_bind
      (gets_issueResult (.identity (.ok identity)) living rfl rfl rfl) ?_
    apply gets_bind (gives_send living _)
    exact gives_pure identity

/-- An engine's thread that is not stopped can go live. -/
theorem goesLive_worker (living : shared.exited = none)
    (unstopped : shared.stopFlag engine = false)
    (usable : Usable libraries doc identity) :
    GoesLive libraries engine session doc shared
      (worker libraries session doc) := by
  have runs : GoesLive libraries engine session doc shared
      (runMoonlight libraries session doc) := by
    rw [runMoonlight]
    apply GoesLive.after (gives_settleIdentity living usable.settled)
    refine GoesLive.after
      (gets_issueResult (.result (.ok ())) living rfl rfl rfl) ?_
    apply GoesLive.after (gives_send living _)
    apply GoesLive.after (gives_learnServerInfo living usable.client)
    exact goesLive_launchSession living unstopped usable.client usable.address
  exact runs.bind _

/-! ### A turn of the frame loop -/

theorem leads_frameSink (living : shared.exited = none)
    (update : FrameUpdate) :
    @Leads sidecar (process libraries) (Outcome Unit) (.worker engine)
      (frameSink session [update]) shared ⟨.frame session update, .ok ()⟩
      (frameSink session []) shared :=
  @leads_act sidecar (process libraries) (.worker engine) (Outcome Unit) shared
    (.frame session update) _ (.result (.ok ())) (.ok ())
    ((if_pos living).trans rfl) rfl

theorem leads_frameLoopBody (living : shared.exited = none)
    (unstopped : shared.stopFlag engine = false)
    (clear : shared.terminated = false) {unit : VideoUnit}
    {units : List VideoUnit} (waiting : shared.channel engine = unit :: units) :
    ∃ finish after, @Leads sidecar (process libraries) (Outcome Unit)
      (.worker engine) (frameLoopBody session doc) shared
      ⟨.frame session (frameUpdate doc unit), .ok ()⟩ finish after := by
  have goOn : Gives libraries engine shared (issue .loadStop) false :=
    gets_issue .nothing living (congrArg some unstopped) rfl
  have stillUp : Gives libraries engine shared Stream.isTerminated false :=
    gets_issue .nothing living (congrArg some clear) rfl
  have head : replyOf (.worker engine) shared .receive .nothing =
      some (.unit unit) := by
    simp only [replyOf, received, waiting]
  have takes : Gets libraries engine (issue .receive) shared (.unit unit) _ :=
    gets_issue .nothing living head rfl
  have written := @leads_frameSink libraries engine
    (effectOf (.worker engine) ⟨.receive, .unit unit⟩ shared) session living
    (frameUpdate doc unit)
  exact ⟨_, _, Obtains.leads goOn (Obtains.leads stillUp
    (Obtains.leads takes (written.bind _)))⟩

/-- A unit that waits in the channel is written. -/
theorem leads_frameLoop {γ : Type} (living : shared.exited = none)
    (unstopped : shared.stopFlag engine = false)
    (clear : shared.terminated = false) {unit : VideoUnit}
    {units : List VideoUnit} (waiting : shared.channel engine = unit :: units)
    (rest : Outcome Unit → Program sidecar γ) :
    ∃ finish after, @Leads sidecar (process libraries) γ (.worker engine)
      (Program.bind (frameLoop session doc) rest) shared
      ⟨.frame session (frameUpdate doc unit), .ok ()⟩ finish after := by
  obtain ⟨finish, after, leads⟩ := @leads_frameLoopBody libraries engine shared
    session doc living unstopped clear unit units waiting
  obtain ⟨trace, solo, member⟩ := leads.bind rest
  exact ⟨_, _, trace, .enter .nothing solo, member⟩

end

end Sidecar

end MoonlightAddon
