import MoonlightAddon.Main.Discipline
import MoonlightAddon.Main.Surroundings
import Mathlib.Data.List.Induction

/-!
# How the reader leaves

Which of the host's messages end the reader, with which exit code, and the
commands it still issues then.
-/

namespace MoonlightAddon

open Session

namespace Main

/-- Why the reader stopped listening. -/
inductive Ending where
  /-- `Shutdown` or the end of the input, after the hello. -/
  | served
  /-- Without a hello, or for an error. -/
  | quit (code : Nat)
deriving DecidableEq

def Ending.code : Ending → Nat
  | .served => 0
  | .quit code => code

/-- What the reader waits for. -/
inductive Attention where
  | hello
  | messages
  | ended (ending : Ending)
deriving DecidableEq

namespace Attention

def take : Attention → Proto.HostMsg → Attention
  | .hello, .hello abi _ => if abi ≠ Proto.abi then .ended (.quit 1) else .messages
  | .hello, _ => .ended (.quit 1)
  | .messages, .shutdown => .ended .served
  | attention, _ => attention

def hear (libraries : Libraries) :
    Attention → Except Text (Option (UInt8 × Bytes)) → Attention
  | .ended ending, _ => .ended ending
  | _, .error _ => .ended (.quit 1)
  | .hello, .ok none => .ended (.quit 0)
  | .messages, .ok none => .ended .served
  | attention, .ok (some (kind, payload)) =>
      if kind ≠ Proto.kindControl then
        attention
      else
        match libraries.fromSlice payload with
        | .ok message => attention.take message
        | .error _ => .ended (.quit 1)

def attend (libraries : Libraries) (attention : Attention) :
    Event sidecar → Attention
  | ⟨.readMessage, reply⟩ => attention.hear libraries reply
  | _ => attention

end Attention

/-- Nothing has ended the reader yet. -/
def Attention.Listens (attention : Attention) : Prop :=
  ∀ ending, attention ≠ .ended ending

/-- What the reader waits for after these events. -/
def attention (libraries : Libraries) (events : List (Event sidecar)) :
    Attention :=
  events.foldl (Attention.attend libraries) .hello

def remap (sessions : Sessions) : Event sidecar → Sessions
  | ⟨.mapInsert session value, _⟩ => sessions.insert session value
  | ⟨.mapRemove session, _⟩ => sessions.erase session
  | ⟨.mapDrain, _⟩ => ∅
  | _ => sessions

/-- The session map after these events. -/
def held (events : List (Event sidecar)) : Sessions :=
  events.foldl remap ∅

/-- The commands of a reader that stopped listening while these sessions were
in the map. -/
def farewell (sessions : List MoonlightSession) : Ending → List Command
  | .served =>
      .mapDrain ::
        (sessions.flatMap closeAndDropSteps ++ [.mapDrain, .exit 0])
  | .quit code =>
      .mapDrain ::
        (sessions.flatMap (fun old => closeSteps old.engine) ++ [.exit code])

theorem attention_snoc {libraries : Libraries} (events : List (Event sidecar))
    (event : Event sidecar) :
    attention libraries (events ++ [event]) =
      (attention libraries events).attend libraries event := by
  simp [attention]

theorem held_snoc (events : List (Event sidecar)) (event : Event sidecar) :
    held (events ++ [event]) = remap (held events) event := by
  simp [held]

@[simp] theorem attend_ended (libraries : Libraries) (ending : Ending)
    (event : Event sidecar) :
    (Attention.ended ending).attend libraries event = .ended ending := by
  obtain ⟨command, reply⟩ := event
  cases command with
  | readMessage => rfl
  | _ => rfl

/-- What ends the reader ends it for good. -/
theorem attention_ended {libraries : Libraries} {past : List (Event sidecar)}
    {ending : Ending} (ended : attention libraries past = .ended ending)
    (rest : List (Event sidecar)) :
    attention libraries (past ++ rest) = .ended ending := by
  induction rest using List.reverseRecOn with
  | nil => rwa [List.append_nil]
  | append_singleton rest event induction =>
      rw [← List.append_assoc, attention_snoc, induction, attend_ended]

/-- The exit codes of a reader that stopped listening. -/
def Attention.Clean : Attention → Prop
  | .ended ending => ending.code = 0 ∨ ending.code = 1
  | _ => True

theorem clean_take (attention : Attention) (message : Proto.HostMsg)
    (clean : attention.Clean) : (attention.take message).Clean := by
  cases attention with
  | hello =>
      cases message with
      | hello abi version =>
          simp only [Attention.take]
          split
          · exact .inr rfl
          · trivial
      | _ => exact .inr rfl
  | messages =>
      cases message with
      | shutdown => exact .inl rfl
      | _ => trivial
  | ended ending => exact clean

theorem clean_hear {libraries : Libraries} (attention : Attention)
    (reply : Except Text (Option (UInt8 × Bytes)))
    (clean : attention.Clean) : (attention.hear libraries reply).Clean := by
  have heard : ∀ attention : Attention, attention.Clean → ∀ kind payload,
      (if kind ≠ Proto.kindControl then
        attention
      else
        match libraries.fromSlice payload with
        | .ok message => attention.take message
        | .error _ => .ended (.quit 1)).Clean := by
    intro attention clean kind payload
    split
    · exact clean
    · split
      · exact clean_take attention _ clean
      · exact .inr rfl
  match attention, reply with
  | .ended ending, _ => exact clean
  | .hello, .error _ | .messages, .error _ => exact .inr rfl
  | .hello, .ok none | .messages, .ok none => exact .inl rfl
  | .hello, .ok (some (kind, payload)) => exact heard .hello clean kind payload
  | .messages, .ok (some (kind, payload)) =>
      exact heard .messages clean kind payload

/-- The reader exits with 0 or 1 only. -/
theorem clean_attention (libraries : Libraries)
    (events : List (Event sidecar)) : (attention libraries events).Clean := by
  induction events using List.reverseRecOn with
  | nil => trivial
  | append_singleton events event induction =>
      rw [attention_snoc]
      obtain ⟨command, reply⟩ := event
      cases command with
      | readMessage => exact clean_hear _ reply induction
      | _ => exact induction

/-- In the message loop, from the hello on. -/
def Phase.serves : Phase → Bool
  | .greeting | .serving _ | .connecting _ _ | .inserting _ _ | .looking _ _
  | .sending _ | .removing _ => true
  | _ => false

/-- A reader that stopped listening with this map, has issued these commands
since, and leaves this map now. -/
inductive Departs (before : Sessions) :
    Ending → List Command → Sessions → Phase → Prop where
  | ended : Departs before .served [] before .ended
  | dropping {code} : Departs before (.quit code) [] before (.dropping code)
  | emptying {sessions : List MoonlightSession} {done due}
      (all : sessions.Perm before.values)
      (split : done ++ due = .mapDrain :: sessions.flatMap closeAndDropSteps) :
      Departs before .served done ∅ (.emptying due)
  | dropped {sessions : List MoonlightSession}
      (all : sessions.Perm before.values) :
      Departs before .served
        (.mapDrain :: (sessions.flatMap closeAndDropSteps ++ [.mapDrain])) ∅
        (.leaving [] 0)
  | leaving {sessions : List MoonlightSession} {code done due}
      (all : sessions.Perm before.values)
      (split : done ++ due = .mapDrain ::
        sessions.flatMap fun old => closeSteps old.engine) :
      Departs before (.quit code) done ∅ (.leaving due code)
  | exited {ending} {sessions : List MoonlightSession}
      (all : sessions.Perm before.values) :
      Departs before ending (farewell sessions ending) ∅ (.exited ending.code)

/-- Where the reader stands, by what it has heard and done. -/
inductive Place (libraries : Libraries) (events : List (Event sidecar)) :
    Phase → Prop where
  | hello (waits : attention libraries events = .hello) :
      Place libraries events .opening
  | messages {phase} (waits : attention libraries events = .messages)
      (serves : phase.serves = true) : Place libraries events phase
  | departed {ending past reply rest phase}
      (split : events = past ++ ⟨.readMessage, reply⟩ :: rest)
      (listened : (attention libraries past).Listens)
      (ends : attention libraries (past ++ [⟨.readMessage, reply⟩]) =
        .ended ending)
      (departs : Departs (held past) ending (rest.map Event.command)
        (held events) phase) : Place libraries events phase

section Hearing

variable {libraries : Libraries} {before : Phase}

/-- Where a reader stands that was last told this. -/
inductive Told : Attention → Phase → Prop where
  | hello : Told .hello .opening
  | messages {phase} (serves : phase.serves = true) : Told .messages phase
  | served : Told (.ended .served) .ended
  | quit {code} : Told (.ended (.quit code)) (.dropping code)

theorem told_opened (message : Proto.HostMsg) :
    Told (Attention.hello.take message) (Phase.opened message) := by
  cases message with
  | hello abi version =>
      simp only [Attention.take, Phase.opened]
      split
      · exact .quit
      · exact .messages rfl
  | _ => exact .quit

theorem told_handling (message : Proto.HostMsg) :
    Told (Attention.messages.take message) (Phase.handling message) := by
  cases message with
  | shutdown => exact .served
  | _ => exact .messages rfl

theorem told_opening (reply : Except Text (Option (UInt8 × Bytes))) :
    Told (Attention.hello.hear libraries reply)
      (Phase.opening.heard libraries reply) := by
  match reply with
  | .error error => exact .quit
  | .ok none => exact .quit
  | .ok (some (kind, payload)) =>
      simp only [Attention.hear, Phase.heard]
      split
      · exact .hello
      · cases libraries.fromSlice payload with
        | ok message => exact told_opened message
        | error error => exact .quit

theorem told_resting (resting : before.atRest = true)
    (reply : Except Text (Option (UInt8 × Bytes))) :
    Told (Attention.messages.hear libraries reply)
      (before.heard libraries reply) := by
  have serves : before.serves = true := by
    cases before with
    | serving | sending => rfl
    | _ => cases resting
  match reply with
  | .error error => exact .quit
  | .ok none =>
      rw [show before.heard libraries (.ok none) = .ended from
        onEnd_of_atRest resting]
      exact .served
  | .ok (some (kind, payload)) =>
      simp only [Attention.hear, Phase.heard, onMessage_of_atRest resting]
      split
      · exact .messages serves
      · cases libraries.fromSlice payload with
        | ok message => exact told_handling message
        | error error => exact .quit

/-- Right after a read nothing else was done. -/
theorem place_of_told {past : List (Event sidecar)}
    {reply : Except Text (Option (UInt8 × Bytes))} {phase : Phase}
    (listened : (attention libraries past).Listens)
    (told : Told (attention libraries (past ++ [⟨.readMessage, reply⟩]))
      phase) : Place libraries (past ++ [⟨.readMessage, reply⟩]) phase := by
  have still : held (past ++ [⟨.readMessage, reply⟩]) = held past :=
    held_snoc ..
  have split : past ++ [⟨.readMessage, reply⟩] =
    past ++ (⟨.readMessage, reply⟩ : Event sidecar) :: [] := rfl
  generalize heard : attention libraries (past ++ [⟨.readMessage, reply⟩]) =
    reached at told
  cases told with
  | hello => exact .hello heard
  | messages serves => exact .messages heard serves
  | served => exact .departed split listened heard (still ▸ .ended)
  | quit => exact .departed split listened heard (still ▸ .dropping)

end Hearing

end Main

end MoonlightAddon
