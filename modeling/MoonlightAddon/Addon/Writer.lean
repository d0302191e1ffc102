import MoonlightAddon.Addon.Framing
import MoonlightAddon.Core.Libraries
import MoonlightAddon.Interleaving

/-!
# The serialised writer

`Writer` of `proto.rs`: threads that write framed messages through one mutex,
over an underlying writer that may accept any part of what it is given.
-/

namespace MoonlightAddon

namespace Writer

inductive Command where
  | lock
  | write (buffer : Bytes)
  | flush
  | unlock
deriving DecidableEq

/-- `lock` says whether the mutex is poisoned; `write` how much was taken. -/
abbrev Command.Reply : Command → Type
  | .lock => Bool
  | .write _ => Except IoError Nat
  | .flush => Except IoError Unit
  | .unlock => Unit

/-- The only loop is that of `write_all`. -/
abbrev calls : Signature where
  Command := Command
  Reply := Command.Reply
  Loop := Bytes
  Result := fun _ => Except IoError Unit

/-- `io::Result<()>` in a function that uses the writer. -/
abbrev Written := Program calls (Except IoError Unit)

/-- `first?; second`. -/
def andThen (first second : Written) : Written :=
  Program.bind first fun
    | .ok () => second
    | .error error => .ret (.error error)

def writeAllEof : IoError :=
  ⟨.writeZero, lit "failed to write whole buffer"⟩

def writeAll (buffer : Bytes) : Written :=
  @Program.repeatLoop calls buffer

/-- One turn of `Write::write_all`. -/
def writeAllBody (buffer : Bytes) : Written :=
  if buffer = [] then
    .ret (.ok ())
  else
    @Program.act calls _ (.write buffer) fun
      | .ok 0 => .ret (.error writeAllEof)
      | .ok count => writeAll (buffer.drop count)
      | .error error =>
          if error.kind = .interrupted then writeAll buffer
          else .ret (.error error)

def flush : Written :=
  @Program.perform calls .flush

/-- `(len as u32).checked_add(1).filter(|n| *n <= MAX_FRAME_BYTES)`. -/
def outboundLength (payload : Bytes) : Option UInt32 :=
  let length := UInt32.ofNat payload.length
  if length.toNat + 1 < 2 ^ 32 ∧ length + 1 ≤ Proto.maxFrameBytes then
    some (length + 1)
  else
    none

def tooLarge : IoError := ⟨.invalidData, lit "outbound message too large"⟩

def poisoned : IoError := ⟨.other, lit "writer mutex poisoned"⟩

/-- `raw`.  The guard is dropped on every way out. -/
def raw (kind : UInt8) (payload : Bytes) : Written :=
  match outboundLength payload with
  | none => .ret (.error tooLarge)
  | some length =>
      @Program.act calls _ .lock fun
        | true => .ret (.error poisoned)
        | false =>
            Program.bind
              (andThen (writeAll (LittleEndian.u32 length))
                (andThen (writeAll [kind])
                  (andThen (writeAll payload) flush)))
              fun result => @Program.act calls _ .unlock fun () => .ret result

/-- A call a thread makes. -/
inductive Call where
  | control (message : Proto.AddonMsg)
  | frame (session : UInt32) (update : FrameUpdate)
deriving DecidableEq

section

variable (libraries : Libraries)

/-- The kind and payload a call hands to `raw`. -/
def Call.message : Call → Except Text Message
  | .control message =>
      (libraries.toVec message).map fun json => (Proto.kindControl, json)
  | .frame session update =>
      .ok (Proto.kindFrame, Proto.framePayload session update)

/-- `control` and `frame`. -/
def Call.run (call : Call) : Written :=
  match call.message libraries with
  | .ok (kind, payload) => raw kind payload
  | .error error => .ret (.error ⟨.invalidData, error⟩)

/-- A thread that makes its calls one after the other, whatever they return. -/
def thread : List Call → Program calls Unit
  | [] => .ret ()
  | call :: rest => Program.bind (call.run libraries) fun _ => thread rest

end

/-- What the threads share: who holds the lock, and the bytes written. -/
structure Shared (ι : Type) where
  holder : Option ι
  written : Bytes

/-- The part of a reply the underlying writer chooses. -/
inductive Answer where
  | nothing
  | wrote (result : Except IoError Nat)
  | flushed (result : Except IoError Unit)

section

variable {ι : Type}

/-- `write` never claims more than it was given. -/
def replyOf (shared : Shared ι) : (command : Command) → Answer →
    Option command.Reply
  | .lock, .nothing => if shared.holder = none then some false else none
  | .write buffer, .wrote (.ok count) =>
      if count ≤ buffer.length then some (.ok count) else none
  | .write _, .wrote (.error error) => some (.error error)
  | .flush, .flushed result => some result
  | .unlock, .nothing => some ()
  | _, _ => none

def effectOf (thread : ι) (event : Event calls) (shared : Shared ι) :
    Shared ι :=
  match event with
  | ⟨.lock, _⟩ => { shared with holder := some thread }
  | ⟨.write buffer, .ok count⟩ =>
      { shared with written := shared.written ++ buffer.take count }
  | ⟨.unlock, _⟩ => { shared with holder := none }
  | _ => shared

variable (ι) in
/-- Threads that share one `Writer`. -/
def machine [DecidableEq ι] : Machine calls where
  Thread := ι
  Shared := Shared ι
  Answer := Answer
  Outside := Empty
  Seen := Empty
  decEqThread := inferInstance
  bodies := writeAllBody
  reply _ := replyOf
  effect := effectOf
  fork _ _ := none
  outside _ _ := none

/-- Every thread is about to make its calls. -/
def start [DecidableEq ι] (libraries : Libraries) (callsOf : ι → List Call) :
    (machine ι).Config where
  shared := ⟨none, []⟩
  pool runner := thread libraries (callsOf runner)

end

end Writer

end MoonlightAddon
