import MoonlightAddon.Core.HexPanic
import MoonlightAddon.Addon.Main

/-!
# The life of an engine thread

The phases an engine thread goes through and the commands each phase allows.
`Phase.Next` is the abstract engine: it keeps the order of what reaches the
host, the stream globals, the C core and the GameStream host, and forgets the
texts and the parsing in between.
-/

namespace MoonlightAddon

open Session

/-- Why a thread leaves its frame loop. -/
inductive LoopExit where
  | stopped
  | disconnected
  | hostEnded
deriving DecidableEq

inductive Phase where
  /-- No thread was started for this engine. -/
  | absent
  /-- Before the identity is settled. -/
  | fresh
  /-- A generated identity that the host has to be told. -/
  | minted (identity : MoonlightIdentity)
  | introduced
  /-- The runtime exists; "Connecting" is due. -/
  | opening
  /-- Asking for the server information, or about to pair. -/
  | probing
  /-- The pairing message is written; the prompt is due. -/
  | inviting
  /-- The prompt is up. -/
  | pairing
  /-- A response made the handshake panic with the prompt up. -/
  | wrecked
  /-- The prompt is taken down, after success or failure. -/
  | paired
  | unpaired
  /-- "Paired" is written; the stop check is due. -/
  | settled
  /-- The stop flag was read false: application list and launch. -/
  | cleared
  /-- The stop flag was read true instead. -/
  | stoppedEarly
  /-- The host accepted the launch; `start_stream` is due. -/
  | launched
  | sinkInstalled
  | armed
  /-- Inside `LiStartConnection`. -/
  | starting
  | refused (error : Text)
  /-- `start_stream` failed; the host is to be released. -/
  | startFailed (error : Text)
  /-- `start_stream` succeeded; "ready" and "Connected" are due. -/
  | connected
  | announced
  /-- The three checks of the frame loop, in order. -/
  | polling
  | polled
  | listening
  | delivering (unit : VideoUnit)
  /-- The three steps of `stop_stream` after the loop. -/
  | stopping (exit : LoopExit)
  | stoppingCore (exit : LoopExit)
  | uninstalling (exit : LoopExit)
  /-- The stream is stopped; the host is to be released. -/
  | releasing (exit : LoopExit)
  /-- Only the closing message is left. -/
  | closing (error : Option Text)
  | closed
deriving DecidableEq

/-- A launch response the code accepts. -/
def launchAccepted : HttpReply → Bool
  | .body text =>
      match NvHttp.checkLaunch text with
      | .ok () => true
      | _ => false
  | _ => false

/-- What `on_closed` reports for a reason. -/
def reported (reason : Text) : Option Text :=
  if reason ≠ sessionEnded then some reason else none

namespace Phase

/-- The errors of `start_stream`, which are fixed texts. -/
def StartError (error : Text) : Prop :=
  error ≠ sessionEnded ∧ error ≠ hostTerminated

instance (error : Text) : Decidable (StartError error) :=
  inferInstanceAs (Decidable (_ ∧ _))

/-- The closing messages a phase may end with. -/
def MayClose : Phase → Option Text → Prop
  | .fresh, _ | .introduced, _ | .probing, _ | .unpaired, _ | .cleared, _ =>
      True
  -- Without a client for the handshake the thread panics before it begins.
  | .pairing, error | .wrecked, error =>
      ∃ message, error = some (closeReason (.panicked message))
  | .stoppedEarly, error => error = none
  | .closing due, error => error = due
  | _, _ => False

/-- Random draws, and the requests whose replies only matter to the engine. -/
def Quiet : Phase → Command → Bool
  | .probing, .randBytes _ | .pairing, .randBytes _ | .cleared, .randBytes _
  | .startFailed _, .randBytes _ | .releasing _, .randBytes _
  | .probing, .request (.serverInfo ..)
  | .probing, .request (.serverInfoHttps ..)
  | .cleared, .request (.appList ..) => true
  | _, _ => false

section

variable (session : UInt32) (doc : MoonlightConnectDoc)

/-- The events of an engine thread. -/
inductive Next : Phase → Event sidecar → Phase → Prop where
  | generated {identity} :
      Next .fresh ⟨.generateIdentity, .ok identity⟩ (.minted identity)
  | ungenerated {error} : Next .fresh ⟨.generateIdentity, .error error⟩ .fresh
  | introduce {identity reply} :
      Next (.minted identity)
        ⟨.control (.event session (.identity identity.uniqueId
          (Text.fromUtf8Lossy identity.certPem)
          (Text.fromUtf8Lossy identity.keyPem))), reply⟩ .introduced
  | runtime {before} (settled : before = .fresh ∨ before = .introduced) :
      Next before ⟨.buildRuntime, .ok ()⟩ .opening
  | noRuntime {before error} (settled : before = .fresh ∨ before = .introduced) :
      Next before ⟨.buildRuntime, .error error⟩ before
  | connecting {line reply} :
      Next .opening ⟨.control (.event session (.serviceMessage line)), reply⟩
        .probing
  | quiet {phase command reply} (quiet : Quiet phase command = true) :
      Next phase ⟨command, reply⟩ phase
  | invite {line reply} :
      Next .probing ⟨.control (.event session (.serviceMessage line)), reply⟩
        .inviting
  | prompt {pin url reply} :
      Next .inviting ⟨.control (.event session (.pairPrompt pin url)), reply⟩
        .pairing
  | handshake {host port query reply}
      (sound : NvHttp.wrecks (.pair host port query) reply = false) :
      Next .pairing ⟨.request (.pair host port query), reply⟩ .pairing
  | wreck {host port query reply}
      (wrecks : NvHttp.wrecks (.pair host port query) reply = true) :
      Next .pairing ⟨.request (.pair host port query), reply⟩ .wrecked
  | finishPaired {reply} :
      Next .pairing ⟨.control (.event session (.pairFinished none)), reply⟩
        .paired
  | finishUnpaired {error reply} :
      Next .pairing
        ⟨.control (.event session (.pairFinished (some error))), reply⟩
        .unpaired
  | pairedMessage {line reply} :
      Next .paired ⟨.control (.event session (.serviceMessage line)), reply⟩
        .settled
  | proceed {before} (due : before = .probing ∨ before = .settled) :
      Next before ⟨.loadStop, false⟩ .cleared
  | stopEarly {before} (due : before = .probing ∨ before = .settled) :
      Next before ⟨.loadStop, true⟩ .stoppedEarly
  | launching {line reply} :
      Next .cleared ⟨.control (.event session (.serviceMessage line)), reply⟩
        .cleared
  | launch {host port uniqueId uuid appId width height fps rikey rikeyId reply}
      (accepted : launchAccepted reply = true) :
      Next .cleared
        ⟨.request (.launch host port uniqueId uuid appId width height fps rikey
          rikeyId), reply⟩ .launched
  | launchFailed {host port uniqueId uuid appId width height fps rikey rikeyId
        reply}
      (rejected : launchAccepted reply = false) :
      Next .cleared
        ⟨.request (.launch host port uniqueId uuid appId width height fps rikey
          rikeyId), reply⟩ .cleared
  | install {reply} : Next .launched ⟨.storeSink, reply⟩ .sinkInstalled
  | arm {reply} :
      Next .sinkInstalled ⟨.storeTerminated false, reply⟩ .armed
  | badString {error count reply} (known : StartError error) :
      Next .armed ⟨.randBytes count, reply⟩ (.startFailed error)
  | beginStart {server config reply} :
      Next .armed ⟨.beginStart server config, reply⟩ .starting
  | started : Next .starting ⟨.finishStart, (0 : Int32)⟩ .connected
  | refuse {error : Text} {reply : Int32} (failure : reply ≠ 0)
      (known : StartError error) :
      Next .starting ⟨.finishStart, reply⟩ (.refused error)
  | uninstallRefused {error reply} :
      Next (.refused error) ⟨.clearSink .worker, reply⟩ (.startFailed error)
  | ready {reply} :
      Next .connected ⟨.control (.sessionReady session 0 0), reply⟩ .announced
  | connectedMessage {line reply} :
      Next .announced ⟨.control (.event session (.serviceMessage line)), reply⟩
        .polling
  | poll : Next .polling ⟨.loadStop, false⟩ .polled
  | stop : Next .polling ⟨.loadStop, true⟩ (.stopping .stopped)
  | alive : Next .polled ⟨.loadTerminated, false⟩ .listening
  | terminated : Next .polled ⟨.loadTerminated, true⟩ (.stopping .hostEnded)
  | receive {unit} :
      Next .listening ⟨.receive, .unit unit⟩ (.delivering unit)
  | timeout : Next .listening ⟨.receive, .timeout⟩ .polling
  | disconnected :
      Next .listening ⟨.receive, .disconnected⟩ (.stopping .disconnected)
  | deliver {unit reply} :
      Next (.delivering unit) ⟨.frame session (frameUpdate doc unit), reply⟩
        .polling
  | beginStop {exit reply} :
      Next (.stopping exit) ⟨.beginStop .worker, reply⟩ (.stoppingCore exit)
  | finishStop {exit reply} :
      Next (.stoppingCore exit) ⟨.finishStop .worker, reply⟩
        (.uninstalling exit)
  | uninstall {exit reply} (kept : exit ≠ .hostEnded) :
      Next (.uninstalling exit) ⟨.clearSink .worker, reply⟩ (.releasing exit)
  | uninstallEnded {reply} :
      Next (.uninstalling .hostEnded) ⟨.clearSink .worker, reply⟩
        (.closing (some hostTerminated))
  | release {exit host port uniqueId uuid reply} :
      Next (.releasing exit) ⟨.request (.cancel host port uniqueId uuid), reply⟩
        (.closing none)
  | releaseFailed {error host port uniqueId uuid reply} :
      Next (.startFailed error)
        ⟨.request (.cancel host port uniqueId uuid), reply⟩
        (.closing (some error))
  | close {phase error reply} (may : MayClose phase error) :
      Next phase ⟨.control (.sessionClosed session error), reply⟩ .closed

/-- The commands that leave some phase where it is. -/
inductive Routine : Command → Prop where
  | draw {count} : Routine (.randBytes count)
  | serverInfo {host port uniqueId uuid} :
      Routine (.request (.serverInfo host port uniqueId uuid))
  | serverInfoHttps {host port uniqueId uuid} :
      Routine (.request (.serverInfoHttps host port uniqueId uuid))
  | appList {host port uniqueId uuid} :
      Routine (.request (.appList host port uniqueId uuid))

theorem routine_of_quiet {phase : Phase} {command : Command}
    (quiet : Quiet phase command = true) : Routine command := by
  cases command with
  | randBytes count => exact .draw
  | request request =>
      cases request with
      | serverInfo => exact .serverInfo
      | serverInfoHttps => exact .serverInfoHttps
      | appList => exact .appList
      | _ => cases phase <;> cases quiet
  | _ => cases phase <;> cases quiet

variable {session doc} in
theorem Next.present {before after : Phase} {event : Event sidecar}
    (next : Next session doc before event after) : after ≠ .absent := by
  cases next with
  | quiet quiet =>
      rintro rfl
      simp [Quiet] at quiet
  | noRuntime settled => obtain rfl | rfl := settled <;> simp
  | _ => simp

end

end Phase

/-- Where an engine's thread stands, with what it was started for. -/
structure Worker where
  session : UInt32
  doc : MoonlightConnectDoc
  phase : Phase
deriving DecidableEq

namespace Worker

def born (session : UInt32) (doc : MoonlightConnectDoc) : Worker :=
  ⟨session, doc, .fresh⟩

def unborn : Worker := ⟨0, default, .absent⟩

inductive Next : Worker → Event sidecar → Worker → Prop where
  | mk {session : UInt32} {doc : MoonlightConnectDoc} {before after : Phase}
      {event : Event sidecar} :
      Phase.Next session doc before event after →
      Next ⟨session, doc, before⟩ event ⟨session, doc, after⟩

/-- How a frame loop may end. -/
def LoopEnds : Outcome Unit → Phase → Prop
  | .ok (), phase =>
      phase = .stopping .stopped ∨ phase = .stopping .disconnected
  | .err error, phase =>
      error = hostTerminated ∧ phase = .closing (some hostTerminated)
  | .panicked _, _ => False

def final (worker : Worker) : Prop :=
  worker.phase = .absent ∨ worker.phase = .closed

end Worker

/-- The discipline of the engine threads. -/
def engineThread : Typestate sidecar where
  State := Worker
  Next := Worker.Next
  Pre
    | .frameLoop session doc, worker => worker = ⟨session, doc, .polling⟩
    | _, _ => False
  Post
    | .frameLoop session doc, _, outcome, worker =>
        ∃ phase, worker = ⟨session, doc, phase⟩ ∧
          Worker.LoopEnds outcome phase
    | .readControl, _, _, _ => False
    | .readerLoop, _, _, _ => False

end MoonlightAddon
