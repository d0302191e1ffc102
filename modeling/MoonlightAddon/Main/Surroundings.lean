import MoonlightAddon.Addon.Framing
import MoonlightAddon.Addon.Main
import MoonlightAddon.Core.Inputs
import MoonlightAddon.Total
import Mathlib.Data.List.AList

/-!
# The reader among its surroundings

What `main.rs` runs against: the bytes on stdin, the session map and the masks
of pressed buttons, which only this thread touches, and the numbering of the
engines.  The surroundings also keep what an observer of the engines sees.
-/

namespace MoonlightAddon

open Session

namespace Main

/-- The sessions, by their ids. -/
abbrev Sessions := AList fun _ : UInt32 => MoonlightSession

/-- What changed the session map. -/
inductive Change where
  | inserted (session : UInt32) (value : MoonlightSession)
  | removed (session : UInt32)

/-- The map after these changes, the latest of which comes first. -/
def sessionsAfter : List Change → Sessions
  | [] => ∅
  | .inserted session value :: earlier =>
      (sessionsAfter earlier).insert session value
  | .removed session :: earlier => (sessionsAfter earlier).erase session

def Sessions.values (sessions : Sessions) : List MoonlightSession :=
  sessions.entries.map fun entry => entry.2

/-- The order in which `drain` and `drop` go through a `HashMap`.  It may be
any, and may depend on everything that was done to the map. -/
structure DrainOrder where
  order : List Change → List MoonlightSession
  complete : ∀ changes, (order changes).Perm (sessionsAfter changes).values

/-- `last_buttons` of every engine. -/
abbrev Masks := Engine → UInt8

def mask (masks : Masks) : Event sidecar → Masks
  | ⟨.swapButtons engine buttons, _⟩ => Function.update masks engine buttons
  | _ => masks

/-- What the reader does to the host and to the engines. -/
inductive Deed where
  | connected (engine : Engine) (session : UInt32) (doc : MoonlightConnectDoc)
  | issued (command : Command)

/-- Every command is a deed but for reading and for what concerns the map. -/
def deedOf : Event sidecar → Option Deed
  | ⟨.readMessage, _⟩ | ⟨.mapInsert _ _, _⟩ | ⟨.mapRemove _, _⟩
  | ⟨.mapGet _, _⟩ | ⟨.mapDrain, _⟩ => none
  | ⟨.spawn session doc, (engine, _)⟩ => some (.connected engine session doc)
  | ⟨command, _⟩ => some (.issued command)

/-- What the reader has done so far. -/
structure Desk where
  changes : List Change
  engines : Nat
  masks : Masks
  deeds : List Deed

namespace Desk

def initial : Desk where
  changes := []
  engines := 0
  masks := fun _ => 0
  deeds := []

def sessions (desk : Desk) : Sessions :=
  sessionsAfter desk.changes

def did (desk : Desk) (deeds : List Deed) : Desk :=
  { desk with deeds := desk.deeds ++ deeds }

@[simp] theorem did_nil (desk : Desk) : desk.did [] = desk := by
  simp [did]

@[simp] theorem did_did (desk : Desk) (first second : List Deed) :
    (desk.did first).did second = desk.did (first ++ second) := by
  simp [did]

end Desk

structure Surroundings where
  stdin : Reader
  desk : Desk
  /-- The desk as it was at each `read_message`. -/
  turns : List Desk

namespace Surroundings

def initial (stdin : Reader) : Surroundings where
  stdin := stdin
  desk := .initial
  turns := []

def did (state : Surroundings) (deeds : List Deed) : Surroundings :=
  { state with desk := state.desk.did deeds }

@[simp] theorem did_nil (state : Surroundings) : state.did [] = state := by
  simp [did]

@[simp] theorem did_did (state : Surroundings) (first second : List Deed) :
    (state.did first).did second = state.did (first ++ second) := by
  simp [did]

/-- After one `read_message`. -/
def turned (state : Surroundings) (stdin : Reader) : Surroundings where
  stdin := stdin
  desk := state.desk
  turns := state.turns ++ [state.desk]

/-- `read_message`, its error as `read_control` passes it on. -/
def readReply (state : Surroundings) : Except Text (Option Message) :=
  (Proto.readMessage state.stdin).1.mapError fun error => error.message

/-- The replies the surroundings decide; every other one is possible. -/
def Answers (drain : DrainOrder) (state : Surroundings) :
    Event sidecar → Prop
  | ⟨.readMessage, reply⟩ => reply = state.readReply
  | ⟨.spawn _ _, (engine, _)⟩ => engine = state.desk.engines
  | ⟨.mapInsert session _, reply⟩ =>
      reply = state.desk.sessions.lookup session
  | ⟨.mapRemove session, reply⟩ => reply = state.desk.sessions.lookup session
  | ⟨.mapGet session, reply⟩ => reply = state.desk.sessions.lookup session
  | ⟨.mapDrain, reply⟩ => reply = drain.order state.desk.changes
  | ⟨.swapButtons engine _, reply⟩ => reply = state.desk.masks engine
  | _ => True

def after (state : Surroundings) : Event sidecar → Surroundings
  | ⟨.readMessage, _⟩ => state.turned (Proto.readMessage state.stdin).2
  | ⟨.spawn session doc, (engine, _)⟩ =>
      let desk := state.desk.did [.connected engine session doc]
      { state with desk := { desk with engines := desk.engines + 1 } }
  | ⟨.mapInsert session value, _⟩ =>
      { state with desk :=
          { state.desk with
            changes := .inserted session value :: state.desk.changes } }
  | ⟨.mapRemove session, reply⟩ =>
      match reply with
      | some _ =>
          { state with desk :=
              { state.desk with
                changes := .removed session :: state.desk.changes } }
      | none => state
  | ⟨.mapGet _, _⟩ => state
  | ⟨.mapDrain, _⟩ => { state with desk := { state.desk with changes := [] } }
  | ⟨command, reply⟩ =>
      let desk := state.desk.did [.issued command]
      { state with desk :=
          { desk with masks := mask desk.masks ⟨command, reply⟩ } }

/-- One answer to each command. -/
def answer (drain : DrainOrder) (state : Surroundings) :
    (command : Command) → command.Reply
  | .readMessage => state.readReply
  | .spawn _ _ => (state.desk.engines, true)
  | .mapInsert session _ | .mapRemove session | .mapGet session =>
      state.desk.sessions.lookup session
  | .mapDrain => drain.order state.desk.changes
  | .swapButtons engine _ => state.desk.masks engine
  | command => command.quietReply

theorem answers_answer (drain : DrainOrder) (state : Surroundings)
    (command : Command) :
    Answers drain state ⟨command, answer drain state command⟩ := by
  cases command with
  | readMessage | spawn | mapInsert | mapRemove | mapGet | mapDrain
  | swapButtons => rfl
  | _ => trivial

end Surroundings

end Main

/-- The surroundings as a typestate: the answers each state gives. -/
abbrev surroundings (drain : Main.DrainOrder) : Typestate sidecar where
  State := Main.Surroundings
  Next state event after :=
    state.Answers drain event ∧ after = state.after event
  Pre _ _ := True
  Post _ _ _ _ := True

end MoonlightAddon
