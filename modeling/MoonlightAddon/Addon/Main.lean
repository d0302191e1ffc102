import MoonlightAddon.Core.Session

/-!
# The reader loop

`main.rs`: the handshake with the host, the loop over its messages, and what
happens to the sessions when the loop ends.
-/

namespace MoonlightAddon

namespace Main

open Session

def toCoreDoc (doc : Proto.ConnectDoc) : MoonlightConnectDoc where
  host := doc.host
  httpPort := doc.httpPort
  httpsPort := doc.httpsPort
  width := doc.width
  height := doc.height
  fps := doc.fps
  bitrateKbps := doc.bitrateKbps
  useHevc := doc.useHevc
  clientUniqueId := doc.clientUniqueId
  clientCertPem := doc.clientCertPem
  clientKeyPem := doc.clientKeyPem

def toCoreInput : Proto.InputMsg → RemoteInput
  | .pointer x y buttons => .pointer x y buttons
  | .wheel x y dx dy => .wheel x y dx dy
  | .key down code ch mods => .key down code (ch.bind List.head?)
      { ctrl := mods.ctrl, alt := mods.alt, shift := mods.shift
        metaKey := mods.metaKey }
  | .clipboard text => .clipboardText text

def readControl : Rust (Option Proto.HostMsg) :=
  @Program.repeatLoop sidecar .readControl

/-- One turn of `read_control`: messages of other kinds are skipped. -/
def readControlBody (libraries : Libraries) : Rust (Option Proto.HostMsg) := do
  match ← issueResult .readMessage id with
  | none => return none
  | some (kind, payload) =>
      if kind ≠ Proto.kindControl then
        readControl
      else
        match libraries.fromSlice payload with
        | .ok message => return some message
        | .error error =>
            Effect.throw (lit "undecodable control message: " ++ error)

def readerLoop : Rust Unit :=
  @Program.repeatLoop sidecar .readerLoop

/-- A session leaving the map: closed explicitly, then dropped. -/
def closeAndDrop (session : MoonlightSession) : Rust Unit := do
  close session
  drop session

/-- The arms of the `match` in `run`; `false` is the `break`. -/
def handle : Proto.HostMsg → Rust Bool
  | .hello _ _ => return true
  | .connect session doc => do
      let engine ← connectWithDoc session (toCoreDoc doc)
      match ← issue (.mapInsert session engine) with
      | some replaced =>
          drop replaced
          return true
      | none => return true
  | .input session input => do
      match ← issue (.mapGet session) with
      | some engine =>
          sendInput engine (toCoreInput input)
          return true
      | none => return true
  | .resize _ _ _ | .frameAck _ _ => return true
  | .close session => do
      match ← issue (.mapRemove session) with
      | some engine =>
          closeAndDrop engine
          return true
      | none => return true
  | .shutdown => return false

/-- `while let Some(msg) = read_control(..)? { match msg { .. } }`. -/
def readerLoopBody : Rust Unit := do
  match ← readControl with
  | none => return ()
  | some message =>
      if ← handle message then
        readerLoop
      else
        return ()

def forEach (action : MoonlightSession → Rust Unit) :
    List MoonlightSession → Rust Unit
  | [] => return ()
  | session :: rest => do
      action session
      forEach action rest

def abiMismatch (abi : UInt32) : Text :=
  lit "ABI mismatch: host speaks " ++ NvHttp.decimal abi.toNat ++
    lit ", this addon speaks " ++ NvHttp.decimal Proto.abi.toNat ++
    lit ". The host is expected to refuse to load us before we get here."

/-- `run` while the session map is alive. -/
def runSessions (libraries : Libraries) : Rust Unit := do
  match ← readControl with
  | none => return ()
  | some (.hello abi _) =>
      if abi ≠ Proto.abi then
        Effect.throw (abiMismatch abi)
      else
        send (.ready libraries.packageVersion [lit "moonlight"])
        readerLoop
        forEach closeAndDrop (← issue .mapDrain)
  | some other =>
      Effect.throw (lit "expected hello, got " ++ libraries.debugHostMsg other)

/-- `run`: on every way out the map goes out of scope and drops what is left
in it. -/
def run (libraries : Libraries) : Rust Unit := do
  let result ← Effect.attempt (runSessions libraries)
  forEach drop (← issue .mapDrain)
  lift (Outcome.ofExcept result)

/-- `main`: the exit code ends the process and every other thread. -/
def main (libraries : Libraries) : Program sidecar Unit :=
  Program.bind (run libraries) fun
    | .ok () => .act (.exit 0) fun _ => .ret ()
    | .err _ => .act (.exit 1) fun _ => .ret ()
    | .panicked _ => .act (.exit 101) fun _ => .ret ()

/-- The loop bodies of every thread. -/
def bodies (libraries : Libraries) :
    (loop : LoopName) → Program sidecar loop.Result
  | .frameLoop session doc => frameLoopBody session doc
  | .readControl => readControlBody libraries
  | .readerLoop => readerLoopBody

end Main

end MoonlightAddon
