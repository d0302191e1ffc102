import MoonlightAddon.Core.LaunchQuery
import MoonlightAddon.Reaches
import MoonlightAddon.Worker.Footprint

/-!
# Numbers on their way to the C core

The size, rate and coordinates of the host's messages are unsigned and reach
the C core through casts to signed types of the same width.  They keep their
value exactly in the lower half of the range.
-/

namespace MoonlightAddon

namespace Worker

open Effect NvHttp Program Session

/-- The C core is told the numbers of the document. -/
structure Configured (doc : Proto.ConnectDoc) (config : StreamConfiguration) :
    Prop where
  width : config.width.toInt = doc.width.toNat
  height : config.height.toInt = doc.height.toNat
  fps : config.fps.toInt = doc.fps.toNat
  bitrate : config.bitrate.toInt = doc.bitrateKbps.toNat

/-- The C core is told the coordinates of the event, within the size of the
document. -/
structure Positioned (doc : Proto.ConnectDoc) (x y : UInt16)
    (toldX toldY referenceWidth referenceHeight : Int16) : Prop where
  x : toldX.toInt = x.toNat
  y : toldY.toInt = y.toNat
  width : referenceWidth.toInt = doc.width.toNat
  height : referenceHeight.toInt = doc.height.toNat

/-- A pointer event of the session a document was connected with. -/
def connectAndPoint (session : UInt32) (doc : Proto.ConnectDoc)
    (x y : UInt16) (buttons : UInt8) : Rust Unit := do
  let engine ← connectWithDoc session (Main.toCoreDoc doc)
  sendInput engine (Main.toCoreInput (.pointer x y buttons))

/-- No cast between the wire and the C core changes a number: in every run of
the document's thread, and for every pointer event within its size. -/
structure Unchanged (doc : Proto.ConnectDoc) : Prop where
  configuration : ∀ libraries session trace finish server config reply,
    Program.Run (Main.bodies libraries)
      (worker libraries session (Main.toCoreDoc doc)) trace finish →
    ⟨.beginStart server config, reply⟩ ∈ trace → Configured doc config
  pointer : ∀ session x y buttons bodies trace finish engine toldX toldY
      referenceWidth referenceHeight reply, x ≤ doc.width → y ≤ doc.height →
    Program.Run bodies (connectAndPoint session doc x y buttons) trace finish →
    ⟨.liSend engine (.mousePosition toldX toldY referenceWidth
      referenceHeight), reply⟩ ∈ trace →
    Positioned doc x y toldX toldY referenceWidth referenceHeight

section Configurations

variable {libraries : Libraries} {session : UInt32}
  {doc : MoonlightConnectDoc}

/-- The C core is only started with the numbers of the document. -/
def StartsWith (doc : MoonlightConnectDoc) : Command → Prop
  | .beginStart _ config => '\x00' ∉ doc.host ∧ ∃ info launched,
      config = Stream.streamConfiguration (streamOptions doc info launched)
  | _ => True

def isFrameLoop : LoopName → Prop
  | .frameLoop _ _ => True
  | _ => False

/-- The effect starts the C core with no other numbers. -/
def Starts {α : Type} (doc : MoonlightConnectDoc) (effect : Rust α) : Prop :=
  Bounded (StartsWith doc) isFrameLoop effect

theorem starts_lift {α : Type} (outcome : Outcome α) :
    Starts doc (lift outcome) :=
  (confined_lift outcome).bounded

theorem starts_send (message : Proto.AddonMsg) : Starts doc (send message) :=
  Confined.bounded (confined_send (by trivial))

theorem starts_issue {command : Command}
    (quiet : StartsWith doc command) : Starts doc (issue command) :=
  Confined.bounded (confined_perform quiet fun _ => trivial)

theorem starts_stopStream : Starts doc (Stream.stopStream .worker) := by
  apply Confined.bounded
  apply confined_stopStream <;> trivial

theorem starts_frameLoopTurn {other : UInt32}
    {otherDoc : MoonlightConnectDoc} :
    Starts doc (frameLoopBody other otherDoc) := by
  have again : Starts doc (frameLoop other otherDoc) := bounded_loop trivial
  refine bounded_bind (starts_issue trivial) ?_
  intro stop
  cases stop with
  | true => exact starts_lift (.ok ())
  | false =>
      refine bounded_bind (starts_issue trivial) ?_
      intro terminated
      cases terminated with
      | true =>
          apply bounded_bind starts_stopStream
          intro _
          exact starts_lift (.err _)
      | false =>
          refine bounded_bind (starts_issue trivial) ?_
          intro received
          cases received with
          | unit unit =>
              apply bounded_bind (Confined.bounded
                (confined_frameSink (fun _ => trivial) _))
              intro _
              exact again
          | timeout => exact again
          | disconnected => exact starts_lift (.ok ())

theorem starts_releaseHost {identity : MoonlightIdentity} :
    Starts doc (releaseHost libraries doc identity) :=
  Confined.bounded (confined_releaseHost trivial fun _ => trivial)

theorem starts_streamSession {identity : MoonlightIdentity}
    {info : ServerInfo} {launched : LaunchSession} :
    Starts doc
      (streamSession libraries session doc identity info launched) := by
  have begins : '\x00' ∉ doc.host → ∀ server, StartsWith doc
      (.beginStart server
        (Stream.streamConfiguration (streamOptions doc info launched))) :=
    fun free _ => ⟨free, info, launched, rfl⟩
  apply bounded_bind (Confined.bounded (confined_attempt
    (confined_startStream trivial trivial begins trivial trivial)))
  intro result
  cases result with
  | error error =>
      apply bounded_bind starts_releaseHost
      intro _
      exact starts_lift (.err error)
  | ok started =>
      apply bounded_bind (starts_send _)
      intro _
      apply bounded_bind (starts_send _)
      intro _
      apply bounded_bind (bounded_loop trivial)
      intro _
      apply bounded_bind starts_stopStream
      intro _
      exact starts_releaseHost

theorem starts_launchSession {identity : MoonlightIdentity}
    {info : ServerInfo} :
    Starts doc (launchSession libraries session doc identity info) := by
  refine bounded_bind (starts_issue trivial) ?_
  intro stop
  cases stop with
  | true => exact starts_lift (.ok ())
  | false =>
      apply bounded_bind (Confined.bounded
        (confined_appList trivial fun _ => trivial))
      intro apps
      apply bounded_bind (starts_lift _)
      intro app
      apply bounded_bind (starts_send _)
      intro _
      apply bounded_bind (Confined.bounded
        (confined_launch (fun _ => trivial) fun _ _ _ => trivial))
      intro launched
      exact starts_streamSession

theorem starts_runMoonlight :
    Starts doc (runMoonlight libraries session doc) := by
  apply bounded_bind (Confined.bounded
    (confined_settleIdentity trivial fun _ _ _ => trivial))
  intro identity
  apply bounded_bind (Confined.bounded
    (confined_performResult trivial fun _ _ _ => trivial))
  intro runtime
  apply bounded_bind (starts_send _)
  intro _
  apply bounded_bind (Confined.bounded (confined_learnServerInfo trivial
    (fun _ => trivial) fun _ => trivial))
  intro info
  apply Typestate.follows_if
  · intro unpaired
    apply bounded_bind (Confined.bounded (confined_pairWithHost
      (fun _ => trivial) (fun _ => trivial) fun _ => trivial))
    intro _
    exact starts_launchSession
  · intro alreadyPaired
    exact starts_launchSession

theorem starts_worker :
    Bounded (StartsWith doc) isFrameLoop
      (worker libraries session doc) := by
  apply Typestate.Follows.bind
  apply Typestate.Follows.mono starts_runMoonlight
  intro outcome state _
  apply Typestate.Follows.bind
  apply Typestate.Follows.mono (starts_send _)
  intro sent state _
  trivial

/-- Every start of the C core in a run of the thread. -/
theorem started_of_run {trace : List (Event sidecar)}
    {finish : Program sidecar Unit} {server : ServerInformation}
    {config : StreamConfiguration} {reply : Unit}
    (run : Program.Run (Main.bodies libraries) (worker libraries session doc)
      trace finish)
    (member : (⟨.beginStart server config, reply⟩ : Event sidecar) ∈ trace) :
    '\x00' ∉ doc.host ∧ ∃ info launched,
      config = Stream.streamConfiguration (streamOptions doc info launched) := by
  apply starts_worker.allowed_of_run _ run _ member
  intro loop entered
  cases loop with
  | frameLoop other otherDoc => exact starts_frameLoopTurn
  | readControl => exact absurd entered id
  | readerLoop => exact absurd entered id

end Configurations

section Replies

variable {bodies : (loop : LoopName) → Program sidecar loop.Result}
  {α : Type}

theorem returns_issue (command : Command) (reply : command.Reply) :
    Returns bodies (issue command) reply :=
  @returns_perform sidecar bodies command reply

theorem returns_issueResult (command : Command) (reply : command.Reply)
    {result : command.Reply → Except Text α} {value : α}
    (returned : result reply = .ok value) :
    Returns bodies (issueResult command result) value :=
  @returns_performResult sidecar α bodies command result reply value returned

theorem reaches_issue (command : Command) (reply : command.Reply)
    {next : command.Reply → Rust α} :
    Reaches bodies (issue command >>= next : Rust α) ⟨command, reply⟩ :=
  @reaches_act sidecar (Outcome α) bodies command _ reply

end Replies

section Pointers

variable {session : UInt32} {doc : Proto.ConnectDoc} {x y : UInt16}
  {buttons : UInt8}

/-- The position told to the C core is the casts of the numbers given. -/
def Points (doc : Proto.ConnectDoc) (x y : UInt16) : Command → Prop
  | .liSend _ (.mousePosition toldX toldY referenceWidth referenceHeight) =>
      toldX = x.toInt16 ∧ toldY = y.toInt16 ∧
        referenceWidth = doc.width.toInt16 ∧
        referenceHeight = doc.height.toInt16
  | _ => True

theorem confined_sendButtons {engine : Engine} {previous : UInt8} :
    ∀ pairs, Confined (Points doc x y)
      (sendButtons engine previous buttons pairs) fun _ => True
  | [] => confined_pure trivial
  | (mask, button) :: rest => by
      apply Typestate.follows_if
      · intro changed
        refine confined_bind (confined_perform trivial fun _ => trivial) ?_
        intro _ _
        exact confined_sendButtons rest
      · intro same
        exact confined_sendButtons rest

theorem confined_connectAndPoint :
    Confined (Points doc x y) (connectAndPoint session doc x y buttons)
      fun _ => True := by
  have connected : Confined (Points doc x y)
      (connectWithDoc session (Main.toCoreDoc doc))
      fun value => value.refWidth = doc.width ∧
        value.refHeight = doc.height := by
    refine confined_bind (confined_perform trivial fun _ => trivial) ?_
    intro spawned _
    exact confined_pure ⟨rfl, rfl⟩
  apply confined_bind connected
  intro engine size
  have points : Points doc x y (.liSend engine.engine (.mousePosition x.toInt16
      y.toInt16 engine.refWidth.toInt16 engine.refHeight.toInt16)) :=
    ⟨rfl, rfl, congrArg _ size.1, congrArg _ size.2⟩
  apply confined_bind (confined_perform points fun _ => trivial)
  intro _ _
  refine confined_bind (confined_perform trivial fun _ => trivial) ?_
  intro previous _
  exact confined_sendButtons pointerButtons

/-- A pointer event is told to the C core. -/
theorem reaches_position (doc : Proto.ConnectDoc) (x y : UInt16) :
    Reaches repeatLoop (connectAndPoint 1 doc x y 0)
      ⟨.liSend 0 (.mousePosition x.toInt16 y.toInt16 doc.width.toInt16
        doc.height.toInt16), ()⟩ := by
  have connects : Returns repeatLoop
      (connectWithDoc 1 (Main.toCoreDoc doc)) ⟨0, doc.width, doc.height⟩ := by
    apply returns_bind (returns_issue (.spawn _ _) (0, true))
    exact returns_pure _
  apply connects.reaches
  exact reaches_issue (.liSend _ _) ()

end Pointers

section Streaming

variable {bodies : (loop : LoopName) → Program sidecar loop.Result}
  {session : UInt32} {doc : MoonlightConnectDoc}
  {identity : MoonlightIdentity} {host : Text} {port : UInt16}

/-- A host the client is paired with. -/
def pairedBody : Text :=
  lit "<root status_code=\"200\"><PairStatus>1</PairStatus></root>"

/-- A host with one application. -/
def desktopBody : Text :=
  lit "<root status_code=\"200\"><App><AppTitle>Desktop</AppTitle><ID>1</ID></App></root>"

theorem returns_send (message : Proto.AddonMsg) :
    Returns bodies (send message) () := by
  apply returns_bind (returns_issue (.control message) (.ok ()))
  exact returns_pure ()

theorem returns_newUuid :
    Returns bodies newUuid (formatUuid (drawnOf 0).1) := by
  have draws : Returns bodies (drawOrZero 16) (drawnOf 0).1 := by
    apply returns_bind (returns_issue (.randBytes 16) (.ok (drawnOf 0)))
    exact returns_pure _
  apply returns_bind draws
  exact returns_pure _

theorem returns_httpGet {label : Text} {request : HttpRequest} (body : Text) :
    Returns bodies (httpGet label request) body :=
  returns_issueResult (.request request) (.body body) rfl

theorem returns_settleIdentity :
    ∃ identity, Returns bodies (settleIdentity session doc) identity := by
  unfold settleIdentity
  cases restoreIdentity doc with
  | some identity => exact ⟨identity, returns_pure identity⟩
  | none =>
      refine ⟨⟨[], [], []⟩, ?_⟩
      apply returns_bind
        (returns_issueResult .generateIdentity (.ok ⟨[], [], []⟩) rfl)
      apply returns_bind (returns_send _)
      exact returns_pure _

/-- What `pairedBody` says. -/
def pairedInfo (port : UInt16) : ServerInfo where
  hostname := []
  appVersion := []
  gfeVersion := []
  pairStatus := 1
  currentGame := 0
  state := []
  httpsPort := UInt16.ofNat port.toNat
  serverCodecModeSupport := 0

theorem readServerInfo_pairedBody :
    readServerInfo pairedBody port = .ok (pairedInfo port) := by
  rfl

theorem returns_learnServerInfo :
    Returns bodies (learnServerInfo default doc identity)
      (pairedInfo doc.httpsPort) := by
  have asks : Returns bodies
      (serverInfoHttps default identity doc.host doc.httpsPort)
      (pairedInfo doc.httpsPort) := by
    apply returns_bind returns_newUuid
    apply returns_bind (returns_done rfl)
    apply returns_bind (returns_httpGet pairedBody)
    have accepted : checkStatus (lit "serverinfo(https)") pairedBody =
        .ok () := by decide +kernel
    apply returns_bind (returns_done accepted)
    exact returns_done readServerInfo_pairedBody
  apply returns_bind (returns_attempt asks)
  exact returns_pure _

theorem returns_appList :
    Returns bodies (appList default identity host port)
      [⟨1, lit "Desktop"⟩] := by
  apply returns_bind returns_newUuid
  apply returns_bind (returns_done rfl)
  apply returns_bind (returns_httpGet desktopBody)
  have accepted : checkStatus (lit "applist") desktopBody = .ok () := by
    decide +kernel
  apply returns_bind (returns_done accepted)
  apply returns_done
  decide +kernel

theorem returns_launch {appId width height fps : UInt32} :
    Returns bodies
      (launch default identity host port appId width height fps)
      ⟨drawnOf 0, 1⟩ := by
  obtain ⟨trace, run, _⟩ := @run_launch identity host port appId width height
    fps bodies (drawnOf 0)
  exact ⟨trace, run⟩

theorem reaches_streamSession (free : '\x00' ∉ doc.host) :
    ∃ server, Reaches bodies
      (streamSession default session doc identity (pairedInfo doc.httpsPort)
        ⟨drawnOf 0, 1⟩)
      ⟨.beginStart server (Stream.streamConfiguration (streamOptions doc
        (pairedInfo doc.httpsPort) ⟨drawnOf 0, 1⟩)), ()⟩ := by
  have starts : Reaches bodies
      (Stream.startStream (streamOptions doc (pairedInfo doc.httpsPort)
        ⟨drawnOf 0, 1⟩))
      ⟨.beginStart ⟨doc.host, [], [], 0⟩ (Stream.streamConfiguration
        (streamOptions doc (pairedInfo doc.httpsPort) ⟨drawnOf 0, 1⟩)), ()⟩ := by
    apply (returns_issue .storeSink ()).reaches
    apply (returns_issue (.storeTerminated false) ()).reaches
    apply (returns_done (if_neg free)).reaches
    apply (returns_done (if_neg List.not_mem_nil)).reaches
    apply (returns_done (if_neg List.not_mem_nil)).reaches
    exact reaches_issue (.beginStart _ _) ()
  exact ⟨_, (starts.bind _).bind _⟩

theorem reaches_launchSession (free : '\x00' ∉ doc.host) :
    ∃ server, Reaches bodies
      (launchSession default session doc identity (pairedInfo doc.httpsPort))
      ⟨.beginStart server (Stream.streamConfiguration (streamOptions doc
        (pairedInfo doc.httpsPort) ⟨drawnOf 0, 1⟩)), ()⟩ := by
  obtain ⟨server, reaches⟩ := @reaches_streamSession bodies session doc identity
    free
  refine ⟨server, ?_⟩
  apply (returns_issue .loadStop false).reaches
  apply returns_appList.reaches
  have chosen : chooseApp [⟨1, lit "Desktop"⟩] = .ok ⟨1, lit "Desktop"⟩ := by
    decide
  apply (returns_done chosen).reaches
  apply (returns_send _).reaches
  exact returns_launch.reaches reaches

/-- The thread of any document whose host can be handed to C gets as far as
starting the C core. -/
theorem reaches_worker (free : '\x00' ∉ doc.host) :
    ∃ server, Reaches (Main.bodies default) (worker default session doc)
      ⟨.beginStart server (Stream.streamConfiguration (streamOptions doc
        (pairedInfo doc.httpsPort) ⟨drawnOf 0, 1⟩)), ()⟩ := by
  obtain ⟨identity, settles⟩ := @returns_settleIdentity (Main.bodies default)
    session doc
  obtain ⟨server, reaches⟩ := @reaches_launchSession (Main.bodies default)
    session doc identity free
  refine ⟨server, ?_⟩
  apply Reaches.bind
  apply settles.reaches
  apply (returns_issueResult .buildRuntime (.ok ()) rfl).reaches
  apply (returns_send _).reaches
  exact returns_learnServerInfo.reaches reaches

end Streaming

section Documents

variable {doc : Proto.ConnectDoc}

theorem configured_iff {info : ServerInfo} {launched : LaunchSession} :
    Configured doc (Stream.streamConfiguration
      (streamOptions (Main.toCoreDoc doc) info launched)) ↔
        doc.bitrateKbps.toNat < 2 ^ 31 := by
  constructor
  · intro configured
    exact (toInt_toInt32_iff doc.bitrateKbps).mp configured.bitrate
  · intro small
    exact {
      width := toInt_toInt32 doc.width
      height := toInt_toInt32 doc.height
      fps := toInt_toInt32 doc.fps
      bitrate := (toInt_toInt32_iff doc.bitrateKbps).mpr small }

theorem positioned_of_points {x y : UInt16} (inWidth : x ≤ doc.width)
    (inHeight : y ≤ doc.height) (width : doc.width.toNat < 2 ^ 15)
    (height : doc.height.toNat < 2 ^ 15) :
    Positioned doc x y x.toInt16 y.toInt16 doc.width.toInt16
      doc.height.toInt16 where
  x := (toInt_toInt16_iff x).mpr (Nat.lt_of_le_of_lt inWidth width)
  y := (toInt_toInt16_iff y).mpr (Nat.lt_of_le_of_lt inHeight height)
  width := (toInt_toInt16_iff doc.width).mpr width
  height := (toInt_toInt16_iff doc.height).mpr height

/-- The casts keep every number exactly when the size is below 32768 and the
bitrate below 2147483648, which does not matter if the host has a NUL in it
and is never handed to the C core. -/
theorem numbers_unchanged (doc : Proto.ConnectDoc) :
    Unchanged doc ↔
      doc.width.toNat < 2 ^ 15 ∧ doc.height.toNat < 2 ^ 15 ∧
        (doc.bitrateKbps.toNat < 2 ^ 31 ∨ '\x00' ∈ doc.host) := by
  constructor
  · intro unchanged
    obtain ⟨trace, finish, run, member⟩ := reaches_position doc 0 0
    have positioned := unchanged.pointer _ _ _ _ _ _ _ _ _ _ _ _ _
      (Nat.zero_le _) (Nat.zero_le _) run member
    refine ⟨(toInt_toInt16_iff doc.width).mp positioned.width,
      (toInt_toInt16_iff doc.height).mp positioned.height, ?_⟩
    by_cases torn : '\x00' ∈ doc.host
    · exact .inr torn
    · obtain ⟨server, trace, finish, run, member⟩ :=
        @reaches_worker 1 (Main.toCoreDoc doc) torn
      exact .inl (configured_iff.mp
        (unchanged.configuration _ _ _ _ _ _ _ run member))
  · rintro ⟨width, height, bitrate⟩
    constructor
    · intro libraries session trace finish server config reply run member
      obtain ⟨free, info, launched, rfl⟩ := started_of_run run member
      exact configured_iff.mpr (bitrate.resolve_right free)
    · intro session x y buttons bodies trace finish engine toldX toldY
        referenceWidth referenceHeight reply inWidth inHeight run member
      obtain ⟨rfl, rfl, rfl, rfl⟩ :=
        confined_connectAndPoint.allowed_of_run run _ member
      exact positioned_of_points inWidth inHeight width height

/-- A surface 40000 pixels wide has a negative reference width. -/
theorem numbers_unchanged_wide : ¬ ∀ doc, Unchanged doc := by
  intro claimed
  have unchanged := claimed {
    host := lit "10.0.0.2"
    httpPort := 47989
    httpsPort := 47984
    width := 40000
    height := 1080
    fps := 60
    bitrateKbps := 20000
    useHevc := false
    clientUniqueId := []
    clientCertPem := []
    clientKeyPem := [] }
  obtain ⟨trace, finish, run, member⟩ := reaches_position _ 40000 0
  have positioned := unchanged.pointer _ _ _ _ _ _ _ _ _ _ _ _ _
    (by decide) (by decide) run member
  exact absurd positioned.width (by decide)

end Documents

end Worker

end MoonlightAddon
