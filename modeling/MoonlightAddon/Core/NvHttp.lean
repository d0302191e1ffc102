import MoonlightAddon.Core.Libraries
import MoonlightAddon.Core.Wire

/-!
# NVHTTP

`nvhttp.rs`: server information, application list, launch and cancel, and the
PIN pairing handshake.
-/

namespace MoonlightAddon

/-- A pure fallible step inside an effect. -/
def lift {α : Type} (outcome : Outcome α) : Rust α :=
  Effect.done outcome

theorem lift_bind {α β : Type} (outcome : Outcome α) (rest : α → Outcome β) :
    (lift outcome >>= fun value => lift (rest value)) =
      lift (outcome >>= rest) := by
  cases outcome <;> rfl

namespace NvHttp

structure ServerInfo where
  hostname : Text
  appVersion : Text
  gfeVersion : Text
  pairStatus : UInt8
  currentGame : UInt32
  state : Text
  httpsPort : UInt16
  serverCodecModeSupport : UInt32
deriving DecidableEq

structure HostApp where
  id : UInt32
  title : Text
deriving DecidableEq

structure LaunchSession where
  aesKey : Drawn 16
  aesKeyId : Int32
deriving DecidableEq

def LaunchSession.aesIv (session : LaunchSession) : Drawn 16 :=
  ⟨BigEndian.i32 session.aesKeyId ++ List.replicate 12 0, by simp⟩

def decimal (value : Nat) : Text := Nat.toDigits 10 value

def decimalInt (value : Int) : Text :=
  if value < 0 then '-' :: decimal value.natAbs else decimal value.natAbs

/-- A drawn buffer, left zeroed when the draw fails (`let _ = rand_bytes`). -/
def drawOrZero (count : Nat) : Rust Bytes := do
  match ← issue (.randBytes count) with
  | .ok bytes => return bytes.1
  | .error _ => return List.replicate count 0

def hexByteLower (byte : UInt8) : Text :=
  (hexByteUpper byte).map Char.toLower

/-- The version and variant bits, then the five dash-separated groups. -/
def formatUuid (bytes : Bytes) : Text :=
  let bytes := bytes.modify 6 fun byte => (byte &&& 0x0f) ||| 0x40
  let bytes := bytes.modify 8 fun byte => (byte &&& 0x3f) ||| 0x80
  let hex := bytes.flatMap hexByteLower
  hex.take 8 ++ lit "-" ++ (hex.drop 8).take 4 ++ lit "-" ++
    (hex.drop 12).take 4 ++ lit "-" ++ (hex.drop 16).take 4 ++ lit "-" ++
    (hex.drop 20).take 12

def newUuid : Rust Text := do
  let bytes ← drawOrZero 16
  return formatUuid bytes

def rand16 : Rust (Drawn 16) :=
  issueResult (.randBytes 16) fun reply =>
    reply.mapError fun error => lit "rand: " ++ error

def randomSalt : Rust Bytes := drawOrZero 16

/-- Send the request and read its text. -/
def httpGet (label : Text) (request : HttpRequest) : Rust Text :=
  issueResult (.request request) fun
    | .sendFailed error => .error (label ++ lit " request failed: " ++ error)
    | .readFailed error => .error (label ++ lit " read failed: " ++ error)
    | .body text => .ok text

def statusOk : Text := lit "status_code=\"200\""

/-- `if !body.contains("status_code=\"200\"") { return Err(..) }`. -/
def checkStatus (label body : Text) : Outcome Unit :=
  if Text.contains body statusOk then .ok ()
  else .err (label ++ lit " non-200: " ++ body)

/-- A client without an identity; it panics where it cannot be built. -/
def plainClient (libraries : Libraries) : Outcome Unit :=
  match libraries.newClient with
  | .ok () => .ok ()
  | .error message => .panicked message

/-- `https_client`: the pinned client identity, then the client. -/
def httpsClient (libraries : Libraries) (identity : MoonlightIdentity) :
    Outcome Unit :=
  let bundle := identity.certPem ++ [10] ++ identity.keyPem
  do
    Outcome.ofExcept ((libraries.tlsIdentity bundle).mapError
      fun error => lit "client identity: " ++ error)
    Outcome.ofExcept ((libraries.tlsClient bundle).mapError
      fun error => lit "https client build: " ++ error)

def tagText (body tag : Text) : Outcome Text := do
  let value ← xmlTag body tag
  return value.getD []

def tagNumber (body tag : Text) (bound fallback : Nat) : Outcome Nat := do
  let value ← xmlTag body tag
  return (value.bind (parseUnsigned bound)).getD fallback

/-- The body of both `server_info` functions. -/
def readServerInfo (body : Text) (fallbackPort : UInt16) : Outcome ServerInfo := do
  let hostname ← tagText body (lit "hostname")
  let appVersion ← tagText body (lit "appversion")
  let gfeVersion ← tagText body (lit "GfeVersion")
  let pairStatus ← tagNumber body (lit "PairStatus") (2 ^ 8) 0
  let currentGame ← tagNumber body (lit "currentgame") (2 ^ 32) 0
  let state ← tagText body (lit "state")
  let httpsPort ← tagNumber body (lit "HttpsPort") (2 ^ 16) fallbackPort.toNat
  let codecs ← tagNumber body (lit "ServerCodecModeSupport") (2 ^ 32) 0
  return {
    hostname, appVersion, gfeVersion, state
    pairStatus := UInt8.ofNat pairStatus
    currentGame := UInt32.ofNat currentGame
    httpsPort := UInt16.ofNat httpsPort
    serverCodecModeSupport := UInt32.ofNat codecs }

def serverInfo (libraries : Libraries) (host : Text) (httpPort : UInt16)
    (uniqueId : Text) : Rust ServerInfo := do
  let uuid ← newUuid
  lift (plainClient libraries)
  let body ← httpGet (lit "serverinfo") (.serverInfo host httpPort uniqueId uuid)
  lift (checkStatus (lit "serverinfo") body)
  lift (readServerInfo body 47984)

def serverInfoHttps (libraries : Libraries) (identity : MoonlightIdentity)
    (host : Text) (httpsPort : UInt16) : Rust ServerInfo := do
  let uuid ← newUuid
  lift (httpsClient libraries identity)
  let body ← httpGet (lit "serverinfo(https)")
    (.serverInfoHttps host httpsPort identity.uniqueId uuid)
  lift (checkStatus (lit "serverinfo(https)") body)
  lift (readServerInfo body httpsPort)

/-- `str::split`; every piece but the last ends before a separator. -/
def splitOn (separator : Text) : (fuel : Nat) → Text → List Text
  | 0, text => [text]
  | fuel + 1, text =>
      match Text.splitFirst separator text with
      | none => [text]
      | some (before, after) => before :: splitOn separator fuel after

/-- One `<App>` chunk; `none` where the closure's `?` drops it. -/
def readApp (chunk : Text) : Outcome (Option HostApp) := do
  match ← xmlTag chunk (lit "AppTitle") with
  | none => return none
  | some title =>
      let id ← xmlTag chunk (lit "ID")
      return (id.bind fun id => parseUnsigned (2 ^ 32) (Text.trim id)).map
        fun id => { id := UInt32.ofNat id, title }

def readApps : List Text → Outcome (List HostApp)
  | [] => .ok []
  | chunk :: chunks => do
      let app ← readApp chunk
      let apps ← readApps chunks
      return app.toList ++ apps

def appList (libraries : Libraries) (identity : MoonlightIdentity)
    (host : Text) (httpsPort : UInt16) : Rust (List HostApp) := do
  let uuid ← newUuid
  lift (httpsClient libraries identity)
  let body ← httpGet (lit "applist")
    (.appList host httpsPort identity.uniqueId uuid)
  lift (checkStatus (lit "applist") body)
  lift (readApps ((splitOn (lit "<App>") body.length body).drop 1))

/-- `xml_tag(..).map(|s| s.trim() != "0").unwrap_or(false)`. -/
def tagNonZero (body tag : Text) : Outcome Bool := do
  let value ← xmlTag body tag
  return (value.map fun text => Text.trim text != lit "0").getD false

/-- What `launch` requires of the response body. -/
def checkLaunch (body : Text) : Outcome Unit := do
  checkStatus (lit "launch") body
  let started ← tagNonZero body (lit "gamesession")
  let resumed ← tagNonZero body (lit "resume")
  if started || resumed then .ok ()
  else .err (lit "launch did not start a session: " ++ body)

/-- `(i32::from_be_bytes(idb) & 0x7fff_ffff).max(1)`. -/
def rikeyIdOf (bytes : Bytes) : Int32 :=
  let masked := BigEndian.toI32 bytes &&& 0x7fffffff
  if masked < 1 then 1 else masked

def launch (libraries : Libraries) (identity : MoonlightIdentity)
    (host : Text) (httpsPort : UInt16) (appId width height fps : UInt32) :
    Rust LaunchSession := do
  let aesKey ← rand16
  let idBytes ← issueResult (.randBytes 4) id
  let aesKeyId := rikeyIdOf idBytes.1
  let uuid ← newUuid
  lift (httpsClient libraries identity)
  let body ← httpGet (lit "launch") (.launch host httpsPort identity.uniqueId
    uuid appId width height fps (toHex aesKey.1) aesKeyId)
  lift (checkLaunch body)
  return { aesKey, aesKeyId }

def cancel (libraries : Libraries) (identity : MoonlightIdentity)
    (host : Text) (httpsPort : UInt16) : Rust Unit := do
  let uuid ← newUuid
  lift (httpsClient libraries identity)
  let body ← httpGet (lit "cancel")
    (.cancel host httpsPort identity.uniqueId uuid)
  lift (checkStatus (lit "cancel") body)

end NvHttp

end MoonlightAddon
