import MoonlightAddon.Addon.Main

/-!
# The life of the reader thread

The phases `main` goes through and the commands each phase allows.  Taking an
engine down is a fixed list of commands, so a phase that takes engines down
carries the commands still due.
-/

namespace MoonlightAddon

open Session

/-- The commands of one `close`. -/
def closeSteps (engine : Engine) : List Command :=
  [.beginStop (.closing engine), .finishStop (.closing engine),
    .clearSink (.closing engine), .storeStop engine]

/-- An explicit close and the one of the drop. -/
def closeAndDropSteps (session : MoonlightSession) : List Command :=
  closeSteps session.engine ++ closeSteps session.engine

/-- Inputs that reach no call of the C core. -/
def silent : RemoteInput → Bool
  | .pointer _ _ _ => false
  | .wheel _ _ _ dy => scrollAmount dy == 0
  | .key _ code _ _ => (vkFromCode code).isNone
  | .clipboardText _ => true

namespace Main

inductive Phase where
  /-- Before the host's first control message. -/
  | opening
  /-- The hello was accepted; `Ready` is due. -/
  | greeting
  /-- In the message loop, with the commands still due for the last message. -/
  | serving (due : List Command)
  | connecting (session : UInt32) (doc : MoonlightConnectDoc)
  /-- The engine exists; it is to be put into the map. -/
  | inserting (session : UInt32) (value : MoonlightSession)
  | looking (session : UInt32) (input : RemoteInput)
  /-- Handling an input of this engine. -/
  | sending (engine : Engine)
  | removing (session : UInt32)
  /-- The loop is over; the map is to be drained. -/
  | ended
  /-- Taking down what was drained. -/
  | emptying (due : List Command)
  /-- `run` is over with this exit code; the map is dropped. -/
  | dropping (code : Nat)
  | leaving (due : List Command) (code : Nat)
  | exited (code : Nat)

namespace Phase

/-- Between two messages of the loop. -/
def atRest : Phase → Bool
  | .serving [] | .sending _ => true
  | _ => false

/-- Waiting for a control message. -/
def listens : Phase → Bool
  | .opening => true
  | phase => phase.atRest

/-- The host closed the pipe. -/
def onEnd : Phase → Phase
  | .opening => .dropping 0
  | _ => .ended

/-- The first control message. -/
def opened : Proto.HostMsg → Phase
  | .hello abi _ => if abi ≠ Proto.abi then .dropping 1 else .greeting
  | _ => .dropping 1

/-- A message of the loop. -/
def handling : Proto.HostMsg → Phase
  | .hello _ _ | .resize _ _ _ | .frameAck _ _ => .serving []
  | .connect session doc => .connecting session (toCoreDoc doc)
  | .input session input => .looking session (toCoreInput input)
  | .close session => .removing session
  | .shutdown => .ended

def onMessage : Phase → Proto.HostMsg → Phase
  | .opening => opened
  | _ => handling

/-- Where a `read_message` takes a listening phase. -/
def heard (libraries : Libraries) (phase : Phase) :
    Except Text (Option (UInt8 × Bytes)) → Phase
  | .error _ => .dropping 1
  | .ok none => phase.onEnd
  | .ok (some (kind, payload)) =>
      if kind ≠ Proto.kindControl then
        phase
      else
        match libraries.fromSlice payload with
        | .ok message => phase.onMessage message
        | .error _ => .dropping 1

/-- Where a lookup takes an input. -/
def found (input : RemoteInput) : Option MoonlightSession → Phase
  | some value =>
      if silent input then .serving [] else .sending value.engine
  | none => .serving []

/-- What is due for an engine that left the map. -/
def dueFor (steps : MoonlightSession → List Command)
    (removed : Option MoonlightSession) : List Command :=
  removed.elim [] steps

inductive Next (libraries : Libraries) :
    Phase → Event sidecar → Phase → Prop where
  | read {before reply} (listening : before.listens = true) :
      Next libraries before ⟨.readMessage, reply⟩ (before.heard libraries reply)
  | greet {reply} :
      Next libraries .greeting
        ⟨.control (.ready libraries.packageVersion [lit "moonlight"]), reply⟩
        (.serving [])
  | spawn {session doc engine started} :
      Next libraries (.connecting session doc)
        ⟨.spawn session doc, (engine, started)⟩
        (.inserting session ⟨engine, doc.width, doc.height⟩)
  | insert {session value replaced} :
      Next libraries (.inserting session value)
        ⟨.mapInsert session value, replaced⟩
        (.serving (dueFor (fun old => closeSteps old.engine) replaced))
  | look {session input reply} :
      Next libraries (.looking session input) ⟨.mapGet session, reply⟩
        (found input reply)
  | send {engine call reply} :
      Next libraries (.sending engine) ⟨.liSend engine call, reply⟩
        (.sending engine)
  | swap {engine buttons reply} :
      Next libraries (.sending engine) ⟨.swapButtons engine buttons, reply⟩
        (.sending engine)
  | remove {session removed} :
      Next libraries (.removing session) ⟨.mapRemove session, removed⟩
        (.serving (dueFor closeAndDropSteps removed))
  | serve {command due reply} :
      Next libraries (.serving (command :: due)) ⟨command, reply⟩ (.serving due)
  | drain {sessions} :
      Next libraries .ended ⟨.mapDrain, sessions⟩
        (.emptying (sessions.flatMap closeAndDropSteps))
  | empty {command due reply} :
      Next libraries (.emptying (command :: due)) ⟨command, reply⟩
        (.emptying due)
  | dropRest {sessions} :
      Next libraries (.emptying []) ⟨.mapDrain, sessions⟩
        (.leaving (sessions.flatMap fun old => closeSteps old.engine) 0)
  | drop {code sessions} :
      Next libraries (.dropping code) ⟨.mapDrain, sessions⟩
        (.leaving (sessions.flatMap fun old => closeSteps old.engine) code)
  | leave {command due code reply} :
      Next libraries (.leaving (command :: due) code) ⟨command, reply⟩
        (.leaving due code)
  | exit {code reply} :
      Next libraries (.leaving [] code) ⟨.exit code, reply⟩ (.exited code)

end Phase

/-- What `read_control` leaves behind. -/
def Read (before : Phase) : Outcome (Option Proto.HostMsg) → Phase → Prop
  | .ok none, after => after = before.onEnd
  | .ok (some message), after => after = before.onMessage message
  | .err _, after => after = .dropping 1
  | .panicked _, _ => False

/-- How the message loop may end. -/
def LoopEnds : Outcome Unit → Phase → Prop
  | .ok (), after => after = .ended
  | .err _, after => after = .dropping 1
  | .panicked _, _ => False

def final (phase : Phase) : Prop :=
  ∃ code, phase = .exited code

end Main

/-- The discipline of the reader thread. -/
def mainThread (libraries : Libraries) : Typestate sidecar where
  State := Main.Phase
  Next := Main.Phase.Next libraries
  Pre
    | .readControl, phase => phase.listens = true
    | .readerLoop, phase => phase.atRest = true
    | .frameLoop _ _, _ => False
  Post
    | .readControl, before, outcome, after => Main.Read before outcome after
    | .readerLoop, _, outcome, after => Main.LoopEnds outcome after
    | .frameLoop _ _, _, _, _ => False

end MoonlightAddon
