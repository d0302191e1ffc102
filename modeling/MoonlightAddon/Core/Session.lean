import MoonlightAddon.Core.Pairing
import MoonlightAddon.Core.Stream

/-!
# The engine thread

`session.rs`: the flow of one session from identity to frame loop, the thread
around it, and the methods the reader calls on a session.  The callbacks and
the frame sink are those `main.rs` binds for the session.
-/

namespace MoonlightAddon

namespace Session

open NvHttp

section Callbacks

variable (session : UInt32)

/-- `send`: a failed write is only logged. -/
def send (message : Proto.AddonMsg) : Rust Unit := do
  let _ ← issue (.control message)
  return ()

def onServiceMessage (line : Text) : Rust Unit :=
  send (.event session (.serviceMessage line))

def onReady : Rust Unit :=
  send (.sessionReady session 0 0)

def sessionEnded : Text := lit "session ended"

/-- The reason "session ended" is the clean close and is not reported. -/
def onClosed (reason : Text) : Rust Unit :=
  send (.sessionClosed session
    (if reason ≠ sessionEnded then some reason else none))

def onPairPrompt (pin url : Text) : Rust Unit :=
  send (.event session (.pairPrompt pin url))

def onPairFinished (error : Option Text) : Rust Unit :=
  send (.event session (.pairFinished error))

def onIdentityLearned (uniqueId certPem keyPem : Text) : Rust Unit :=
  send (.event session (.identity uniqueId certPem keyPem))

/-- `frame_sink`: stop at the first frame that cannot be written. -/
def frameSink : List FrameUpdate → Rust Unit
  | [] => return ()
  | update :: rest => do
      match ← issue (.frame session update) with
      | .ok () => frameSink rest
      | .error _ => return ()

end Callbacks

def restoreIdentity (doc : MoonlightConnectDoc) : Option MoonlightIdentity :=
  if doc.clientUniqueId = [] ∨ doc.clientCertPem = [] ∨
      doc.clientKeyPem = [] then
    none
  else
    some {
      uniqueId := doc.clientUniqueId
      certPem := Text.asBytes doc.clientCertPem
      keyPem := Text.asBytes doc.clientKeyPem }

/-- `{:04}` of a number below 10000. -/
def fourDigits (value : Nat) : Text :=
  let digits := decimal value
  List.replicate (4 - digits.length) '0' ++ digits

def randomPin : Rust Text := do
  let bytes ← drawOrZero 2
  let value := (bytes.getD 0 0).toNat * 256 + (bytes.getD 1 0).toNat
  return fourDigits (value % 10000)

def sunshineWebUiPort : Nat := 47990

/-- The identity of the connect doc, or a fresh one reported to the host. -/
def settleIdentity (session : UInt32) (doc : MoonlightConnectDoc) :
    Rust MoonlightIdentity := do
  match restoreIdentity doc with
  | some identity => return identity
  | none =>
      let identity ← issueResult .generateIdentity id
      onIdentityLearned session identity.uniqueId
        (Text.fromUtf8Lossy identity.certPem)
        (Text.fromUtf8Lossy identity.keyPem)
      return identity

/-- HTTPS first, plain HTTP when that fails. -/
def learnServerInfo (libraries : Libraries) (doc : MoonlightConnectDoc)
    (identity : MoonlightIdentity) : Rust ServerInfo := do
  match ← Effect.attempt
      (serverInfoHttps libraries identity doc.host doc.httpsPort) with
  | .ok info => return info
  | .error _ => serverInfo libraries doc.host doc.httpPort identity.uniqueId

/-- The pairing block of `run_moonlight`. -/
def pairWithHost (libraries : Libraries) (session : UInt32)
    (doc : MoonlightConnectDoc) (identity : MoonlightIdentity) :
    Rust Unit := do
  let pin ← randomPin
  let url := lit "https://" ++ doc.host ++ lit ":" ++ decimal sunshineWebUiPort
  onServiceMessage session
    (lit "Pairing — open " ++ url ++ lit " and enter PIN " ++ pin)
  onPairPrompt session pin url
  let salt ← randomSalt
  let key := deriveAesKey libraries.openSsl salt pin
  let client ← lift
    (PairingClient.new libraries identity doc.host doc.httpPort)
  match ← Effect.attempt (client.pair libraries.openSsl salt key) with
  | .ok () =>
      onPairFinished session none
      onServiceMessage session (lit "Paired")
  | .error error =>
      onPairFinished session (some error)
      Effect.throw error

def eqIgnoreAsciiCase (first second : Text) : Bool :=
  first.map Char.toLower == second.map Char.toLower

/-- "Desktop", or the first app. -/
def chooseApp (apps : List HostApp) : Outcome HostApp :=
  Outcome.okOr (lit "host exposes no launchable apps")
    ((apps.find? fun app => eqIgnoreAsciiCase app.title (lit "Desktop")).or
      apps.head?)

def streamOptions (doc : MoonlightConnectDoc) (info : ServerInfo)
    (launched : LaunchSession) : Stream.StreamOptions where
  host := doc.host
  appVersion := info.appVersion
  gfeVersion := info.gfeVersion
  codecModeSupport := info.serverCodecModeSupport.toInt32
  width := doc.width.toUInt32.toInt32
  height := doc.height.toUInt32.toInt32
  fps := doc.fps.toUInt32.toInt32
  bitrateKbps := doc.bitrateKbps.toInt32
  useHevc := doc.useHevc
  aesKey := launched.aesKey
  aesIv := launched.aesIv

/-- `release_host`: a failed `/cancel` is only logged. -/
def releaseHost (libraries : Libraries) (doc : MoonlightConnectDoc)
    (identity : MoonlightIdentity) : Rust Unit := do
  let _ ← Effect.attempt (cancel libraries identity doc.host doc.httpsPort)
  return ()

/-- The frame update a received unit becomes. -/
def frameUpdate (doc : MoonlightConnectDoc) (unit : VideoUnit) :
    FrameUpdate where
  codec := match unit.codec with
    | .h264 => .h264
    | .hevc => .hevc
  frameId := 0
  width := doc.width
  height := doc.height
  x := 0
  y := 0
  w := doc.width
  h := doc.height
  key := unit.keyFrame
  sx := 0
  sy := 0
  data := unit.data

/-- The frame loop, entered or continued. -/
def frameLoop (session : UInt32) (doc : MoonlightConnectDoc) : Rust Unit :=
  @Program.repeatLoop sidecar (.frameLoop session doc)

def hostTerminated : Text := lit "host terminated the session"

/-- One turn of the frame loop; `return ()` is the `break`. -/
def frameLoopBody (session : UInt32) (doc : MoonlightConnectDoc) :
    Rust Unit := do
  if ← issue .loadStop then
    return ()
  else if ← Stream.isTerminated then
    Stream.stopStream .worker
    Effect.throw hostTerminated
  else
    match ← issue .receive with
    | .unit unit =>
        frameSink session [frameUpdate doc unit]
        frameLoop session doc
    | .timeout => frameLoop session doc
    | .disconnected => return ()

/-- `run_moonlight` from a successful launch on. -/
def streamSession (libraries : Libraries) (session : UInt32)
    (doc : MoonlightConnectDoc) (identity : MoonlightIdentity)
    (info : ServerInfo) (launched : LaunchSession) : Rust Unit := do
  match ← Effect.attempt
      (Stream.startStream (streamOptions doc info launched)) with
  | .error error =>
      releaseHost libraries doc identity
      Effect.throw error
  | .ok () =>
      onReady session
      onServiceMessage session (lit "Connected")
      frameLoop session doc
      Stream.stopStream .worker
      releaseHost libraries doc identity

/-- `run_moonlight` from the stop check after pairing on. -/
def launchSession (libraries : Libraries) (session : UInt32)
    (doc : MoonlightConnectDoc) (identity : MoonlightIdentity)
    (info : ServerInfo) : Rust Unit := do
  if ← issue .loadStop then
    return ()
  else
    let apps ← appList libraries identity doc.host doc.httpsPort
    let app ← lift (chooseApp apps)
    onServiceMessage session (lit "Launching " ++ app.title ++ lit " …")
    let launched ← launch libraries identity doc.host doc.httpsPort app.id
      doc.width.toUInt32 doc.height.toUInt32 doc.fps.toUInt32
    streamSession libraries session doc identity info launched

/-- `run_moonlight` once the identity is settled. -/
def withIdentity (libraries : Libraries) (session : UInt32)
    (doc : MoonlightConnectDoc) (identity : MoonlightIdentity) : Rust Unit := do
  issueResult .buildRuntime fun reply =>
    reply.mapError fun error => lit "tokio runtime: " ++ error
  onServiceMessage session (lit "Connecting to " ++ doc.host ++ lit " …")
  let info ← learnServerInfo libraries doc identity
  if info.pairStatus = 0 then
    pairWithHost libraries session doc identity
    launchSession libraries session doc identity info
  else
    launchSession libraries session doc identity info

def runMoonlight (libraries : Libraries) (session : UInt32)
    (doc : MoonlightConnectDoc) : Rust Unit := do
  let identity ← settleIdentity session doc
  withIdentity libraries session doc identity

/-- The reason the thread reports for each way `run_moonlight` ends. -/
def closeReason : Outcome Unit → Text
  | .ok () => sessionEnded
  | .err error => error
  | .panicked message => lit "internal error: " ++ message

/-- What the thread does once `run_moonlight` is over. -/
def reportClosed (session : UInt32) (outcome : Outcome Unit) :
    Program sidecar Unit :=
  Program.bind (onClosed session (closeReason outcome)) fun _ => .ret ()

/-- The thread `connect_with_doc` spawns. -/
def worker (libraries : Libraries) (session : UInt32)
    (doc : MoonlightConnectDoc) : Program sidecar Unit :=
  (Effect.catchUnwind (runMoonlight libraries session doc)).bind
    (reportClosed session)

/-- `connect_with_doc`: the session exists whether or not the thread did
spawn. -/
def connectWithDoc (session : UInt32) (doc : MoonlightConnectDoc) :
    Rust MoonlightSession := do
  let (engine, _) ← issue (.spawn session doc)
  return { engine, refWidth := doc.width, refHeight := doc.height }

/-- `close`: stop the stream, then ask the thread to exit. -/
def close (session : MoonlightSession) : Rust Unit := do
  Stream.stopStream (.closing session.engine)
  issue (.storeStop session.engine)

/-- `Drop`. -/
def drop (session : MoonlightSession) : Rust Unit :=
  close session

def buttonActionPress : Int8 := 7
def buttonActionRelease : Int8 := 8
def keyActionDown : Int8 := 3
def keyActionUp : Int8 := 4

/-- Mask and C core button, in the order of the source's loop. -/
def pointerButtons : List (UInt8 × Int32) := [(1, 1), (2, 2), (4, 3)]

def sendButtons (engine : Engine) (previous buttons : UInt8) :
    List (UInt8 × Int32) → Rust Unit
  | [] => return ()
  | (mask, button) :: rest => do
      let was := previous &&& mask ≠ 0
      let now := buttons &&& mask ≠ 0
      if now ≠ was then
        let action := if now then buttonActionPress else buttonActionRelease
        issue (.liSend engine (.mouseButton action button))
        sendButtons engine previous buttons rest
      else
        sendButtons engine previous buttons rest

/-- `(-dy).clamp(-32767.0, 32767.0) as c_short`. -/
def scrollAmount (dy : Float32) : Int16 :=
  let amount := -dy
  let lower : Float32 := -32767.0
  let upper : Float32 := 32767.0
  let clamped := if amount < lower then lower else amount
  (if clamped > upper then upper else clamped).toInt16

/-- The named codes of `vk_from_code`. -/
def namedKeys : List (Text × UInt16) :=
  [("Enter", 0x0D), ("NumpadEnter", 0x0D), ("Space", 0x20),
    ("Backspace", 0x08), ("Tab", 0x09), ("Escape", 0x1B),
    ("ArrowLeft", 0x25), ("ArrowUp", 0x26), ("ArrowRight", 0x27),
    ("ArrowDown", 0x28), ("Delete", 0x2E), ("Insert", 0x2D), ("Home", 0x24),
    ("End", 0x23), ("PageUp", 0x21), ("PageDown", 0x22), ("CapsLock", 0x14),
    ("ShiftLeft", 0x10), ("ShiftRight", 0x10), ("ControlLeft", 0x11),
    ("ControlRight", 0x11), ("AltLeft", 0x12), ("AltRight", 0x12),
    ("MetaLeft", 0x5B), ("MetaRight", 0x5B), ("Minus", 0xBD),
    ("Equal", 0xBB), ("BracketLeft", 0xDB), ("BracketRight", 0xDD),
    ("Backslash", 0xDC), ("Semicolon", 0xBA), ("Quote", 0xDE),
    ("Backquote", 0xC0), ("Comma", 0xBC), ("Period", 0xBE), ("Slash", 0xBF),
    ("F1", 0x70), ("F2", 0x71), ("F3", 0x72), ("F4", 0x73), ("F5", 0x74),
    ("F6", 0x75), ("F7", 0x76), ("F8", 0x77), ("F9", 0x78), ("F10", 0x79),
    ("F11", 0x7A), ("F12", 0x7B)].map fun (name, code) => (lit name, code)

/-- `code.strip_prefix(name)` followed by exactly one accepted character. -/
def singleAfter (name : Text) (accepted : Char → Bool) (code : Text) :
    Option UInt16 :=
  if name <+: code then
    match code.drop name.length with
    | [char] => if accepted char then some (UInt16.ofNat char.toNat) else none
    | _ => none
  else
    none

def vkFromCode (code : Text) : Option Int16 :=
  let vk :=
    (singleAfter (lit "Key") (fun char => 'A' ≤ char ∧ char ≤ 'Z') code).or
      ((singleAfter (lit "Digit") (fun char => '0' ≤ char ∧ char ≤ '9') code).or
        (namedKeys.lookup code))
  vk.map UInt16.toInt16

def sendInput (session : MoonlightSession) : RemoteInput → Rust Unit
  | .pointer x y buttons => do
      issue (.liSend session.engine (.mousePosition x.toInt16 y.toInt16
        session.refWidth.toInt16 session.refHeight.toInt16))
      let previous ← issue (.swapButtons session.engine buttons)
      sendButtons session.engine previous buttons pointerButtons
  | .wheel _ _ _ dy =>
      let amount := scrollAmount dy
      if amount ≠ 0 then
        issue (.liSend session.engine (.highResScroll amount))
      else
        return ()
  | .key down code _ _ =>
      match vkFromCode code with
      | some vk =>
          let action := if down then keyActionDown else keyActionUp
          issue (.liSend session.engine (.keyboard vk action 0))
      | none => return ()
  | .clipboardText _ => return ()

end Session

end MoonlightAddon
