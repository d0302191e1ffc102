import MoonlightAddon.Addon.Main
import MoonlightAddon.Interleaving
import Mathlib.Data.List.AList

/-!
# The sidecar process

The machine that runs `main` and the engine threads over the state they share:
the globals of `stream.rs`, the channels of the sessions, the stop flags, the
session map, and the one connection of the C core.  The C core itself is not
part of the repository; the environment decides when it calls back.
-/

namespace MoonlightAddon

namespace Sidecar

/-- The C core's single connection: none, one whose `LiStartConnection` has
not returned yet, or one that was established; with the engine it belongs to. -/
inductive Connection where
  | idle
  | starting (engine : Engine)
  | established (engine : Engine)
deriving DecidableEq

def Connection.owner : Connection → Option Engine
  | .idle => none
  | .starting engine => some engine
  | .established engine => some engine

/-- What the process shares between its threads. -/
structure Shared where
  /-- `VIDEO_SINK`: the engine whose channel the installed sender feeds. -/
  videoSink : Option Engine
  /-- `NEGOTIATED_FORMAT` and `TERMINATED`. -/
  negotiatedFormat : Int32
  terminated : Bool
  connection : Connection
  /-- The units waiting in each engine's channel. -/
  channel : Engine → List VideoUnit
  stopFlag : Engine → Bool
  lastButtons : Engine → UInt8
  engines : Nat
  sessions : AList fun _ : UInt32 => MoonlightSession
  exited : Option Nat

def Shared.initial : Shared where
  videoSink := none
  negotiatedFormat := 0
  terminated := false
  connection := .idle
  channel := fun _ => []
  stopFlag := fun _ => false
  lastButtons := fun _ => 0
  engines := 0
  sessions := ∅
  exited := none

inductive Thread where
  | reader
  | worker (engine : Engine)
deriving DecidableEq

/-- The parts of a reply the environment chooses. -/
inductive Answer where
  | nothing
  | identity (result : Except Text MoonlightIdentity)
  | bytes (result : Except Text Bytes)
  | http (reply : HttpReply)
  | result (result : Except Text Unit)
  | code (code : Int32)
  | message (result : Except Text (Option (UInt8 × Bytes)))
  | spawned (started : Bool)
  | order (sessions : List MoonlightSession)

def sessionsOf (shared : Shared) : List MoonlightSession :=
  shared.sessions.entries.map fun entry => entry.2

def received (shared : Shared) (engine : Engine) : Received :=
  match shared.channel engine with
  | unit :: _ => .unit unit
  | [] => if shared.videoSink = some engine then .timeout else .disconnected

/-- The reply of a command; `none` when it is not possible. -/
def replyOf (thread : Thread) (shared : Shared) :
    (command : Command) → Answer → Option command.Reply
  | .generateIdentity, .identity result => some result
  | .buildRuntime, .result result => some result
  | .randBytes _, .bytes (.error error) => some (.error error)
  | .randBytes count, .bytes (.ok bytes) =>
      if filled : bytes.length = count then some (.ok ⟨bytes, filled⟩) else none
  | .request _, .http reply => some reply
  | .control _, .result result => some result
  | .frame _ _, .result result => some result
  | .loadStop, .nothing =>
      match thread with
      | .worker engine => some (shared.stopFlag engine)
      | .reader => none
  | .loadTerminated, .nothing => some shared.terminated
  | .finishStart, .code code => some code
  | .receive, .nothing =>
      match thread with
      | .worker engine => some (received shared engine)
      | .reader => none
  | .readMessage, .message result => some result
  | .spawn _ _, .spawned started => some (shared.engines, started)
  | .mapInsert session _, .nothing => some (shared.sessions.lookup session)
  | .mapRemove session, .nothing => some (shared.sessions.lookup session)
  | .mapGet session, .nothing => some (shared.sessions.lookup session)
  | .mapDrain, .order sessions =>
      if sessions.Perm (sessionsOf shared) then some sessions else none
  | .swapButtons engine _, .nothing => some (shared.lastButtons engine)
  | .storeStop _, .nothing => some ()
  | .storeSink, .nothing => some ()
  | .clearSink _, .nothing => some ()
  | .storeTerminated _, .nothing => some ()
  | .beginStart _ _, .nothing => some ()
  | .beginStop _, .nothing => some ()
  | .finishStop _, .nothing => some ()
  | .liSend _ _, .nothing => some ()
  | .exit _, .nothing => some ()
  | _, _ => none

/-- `LiStopConnection` ends an established connection; one still in its
handshake is left to the return code of `LiStartConnection`. -/
def stopped : Connection → Connection
  | .established _ => .idle
  | other => other

def effectOf (thread : Thread) (event : Event sidecar) (shared : Shared) :
    Shared :=
  match event, thread with
  | ⟨.storeStop engine, _⟩, _ =>
      { shared with stopFlag := Function.update shared.stopFlag engine true }
  | ⟨.storeSink, _⟩, .worker engine =>
      { shared with videoSink := some engine }
  | ⟨.clearSink _, _⟩, _ => { shared with videoSink := none }
  | ⟨.storeTerminated value, _⟩, _ => { shared with terminated := value }
  | ⟨.beginStart _ _, _⟩, .worker engine =>
      { shared with connection := .starting engine }
  | ⟨.finishStart, code⟩, .worker engine =>
      { shared with connection :=
          if code = (0 : Int32) then .established engine else .idle }
  | ⟨.finishStop _, _⟩, _ =>
      { shared with connection := stopped shared.connection }
  | ⟨.receive, _⟩, .worker engine =>
      let rest := (shared.channel engine).tail
      { shared with channel := Function.update shared.channel engine rest }
  | ⟨.spawn _ _, _⟩, _ => { shared with engines := shared.engines + 1 }
  | ⟨.mapInsert session value, _⟩, _ =>
      { shared with sessions := shared.sessions.insert session value }
  | ⟨.mapRemove session, _⟩, _ =>
      { shared with sessions := shared.sessions.erase session }
  | ⟨.mapDrain, _⟩, _ => { shared with sessions := ∅ }
  | ⟨.swapButtons engine buttons, _⟩, _ =>
      { shared with
        lastButtons := Function.update shared.lastButtons engine buttons }
  | ⟨.exit code, _⟩, _ => { shared with exited := some code }
  | _, _ => shared

/-- The C core calling back into `stream.rs`. -/
inductive Callback where
  | setup (videoFormat : Int32)
  | submit (unit : Stream.DecodeUnit)
  | terminated

/-- What the trace keeps of a callback: the connection it came from, and for a
decode unit the format in force. -/
inductive Seen where
  | setup (connection : Connection) (videoFormat : Int32)
  | submit (connection : Connection) (format : Int32) (unit : Stream.DecodeUnit)
  | terminated (connection : Connection)

/-- `dr_setup`, `dr_submit` and `cl_connection_terminated`. -/
def callBack : Callback → Shared → Seen × Shared
  | .setup videoFormat, shared =>
      (.setup shared.connection videoFormat,
        { shared with negotiatedFormat := videoFormat })
  | .submit unit, shared =>
      (.submit shared.connection shared.negotiatedFormat unit,
        match shared.videoSink with
        | some engine =>
            let queued := shared.channel engine ++
              [Stream.drSubmit shared.negotiatedFormat unit]
            { shared with
              channel := Function.update shared.channel engine queued }
        | none => shared)
  | .terminated, shared =>
      (.terminated shared.connection, { shared with terminated := true })

end Sidecar

open Sidecar in
/-- The sidecar process.  Once the process has exited nothing moves. -/
abbrev process (libraries : Libraries) : Machine sidecar where
  Thread := Thread
  Shared := Shared
  Answer := Answer
  Outside := Callback
  Seen := Seen
  decEqThread := inferInstance
  bodies := Main.bodies libraries
  reply thread shared command answer :=
    if shared.exited = none then replyOf thread shared command answer else none
  effect := effectOf
  fork event _ :=
    match event with
    | ⟨.spawn session doc, (engine, true)⟩ =>
        some (.worker engine, Session.worker libraries session doc)
    | _ => none
  outside callback shared :=
    if shared.exited = none then some (callBack callback shared) else none

/-- The process as it starts: only `main` runs. -/
def process.start (libraries : Libraries) : (process libraries).Config where
  shared := Sidecar.Shared.initial
  pool
    | .reader => Main.main libraries
    | .worker _ => .ret ()

end MoonlightAddon
