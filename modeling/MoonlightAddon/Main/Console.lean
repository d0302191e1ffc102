import MoonlightAddon.Main.Operator

/-!
# What the host's inputs amount to

The calls of the C core and the masks that the inputs among the reader's
messages ask for.  A reader to which the map and the masks answer has made
those calls, but for the ones it still owes.
-/

namespace MoonlightAddon

open Session

/-- The call of the C core for an input. -/
def sentBy : Event sidecar → Option (Engine × LiSend)
  | ⟨.liSend engine call, _⟩ => some (engine, call)
  | _ => none

/-- The calls among these events, in order. -/
def callsOf (events : List (Event sidecar)) : List (Engine × LiSend) :=
  events.filterMap sentBy

namespace Main

/-- The masks after these events. -/
def masksAfter (events : List (Event sidecar)) : Masks :=
  events.foldl mask fun _ => 0

/-- What the host's inputs amount to: the calls they are to become, and the
masks when these are made. -/
structure Console where
  attention : Attention
  sessions : Sessions
  masks : Masks
  calls : List (Engine × LiSend)

namespace Console

def initial : Console := ⟨.hello, ∅, fun _ => 0, []⟩

/-- An input for the engine of a session. -/
def play (console : Console) (input : RemoteInput)
    (value : MoonlightSession) : Console :=
  let last := console.masks value.engine
  { console with
    masks := Function.update console.masks value.engine (maskAfter last input)
    calls := console.calls ++ callsOf (inputEvents value last input) }

/-- An input for a session that is not in the map is dropped. -/
def hear (console : Console) : Option (UInt32 × RemoteInput) → Console
  | none => console
  | some (session, input) =>
      (console.sessions.lookup session).elim console (console.play input)

def attend (libraries : Libraries) (console : Console) :
    Event sidecar → Console
  | ⟨.readMessage, reply⟩ =>
      { console.hear (console.attention.input libraries reply) with
        attention := console.attention.hear libraries reply }
  | event => { console with sessions := remap console.sessions event }

/-- What the inputs among these events amount to. -/
def after (libraries : Libraries) (events : List (Event sidecar)) : Console :=
  events.foldl (attend libraries) initial

end Console

section Accounts

variable {libraries : Libraries} {events : List (Event sidecar)}

@[simp] theorem callsOf_append (first second : List (Event sidecar)) :
    callsOf (first ++ second) = callsOf first ++ callsOf second :=
  List.filterMap_append

theorem masksAfter_snoc (event : Event sidecar) :
    masksAfter (events ++ [event]) = mask (masksAfter events) event := by
  simp [masksAfter]

theorem after_snoc (event : Event sidecar) :
    Console.after libraries (events ++ [event]) =
      (Console.after libraries events).attend libraries event := by
  simp [Console.after]

/-- The masks and the calls that these commands lead to. -/
def plan (masks : Masks) : List Command → Masks × List (Engine × LiSend)
  | [] => (masks, [])
  | .liSend engine call :: rest =>
      ((plan masks rest).1, (engine, call) :: (plan masks rest).2)
  | .swapButtons engine buttons :: rest =>
      let later := plan (Function.update masks engine buttons) rest
      (later.1, callsOf (buttonEvents engine (masks engine) buttons
        pointerButtons) ++ later.2)
  | _ :: rest => plan masks rest

theorem plan_buttonCommands (masks : Masks) (engine : Engine)
    (previous buttons : UInt8) (entries : List (UInt8 × Int32)) :
    plan masks (buttonCommands engine previous buttons entries) =
      (masks, callsOf (buttonEvents engine previous buttons entries)) := by
  induction entries with
  | nil => rfl
  | cons entry rest induction =>
      obtain ⟨bit, button⟩ := entry
      by_cases changed : (buttons &&& bit ≠ 0) ≠ (previous &&& bit ≠ 0)
      · simp only [buttonCommands, buttonEvents, List.flatMap_cons,
          if_pos changed, List.map_append, List.map_cons, List.map_nil]
          at induction ⊢
        simp only [List.cons_append, List.nil_append, plan, induction]
        rfl
      · simp only [buttonCommands, buttonEvents, List.flatMap_cons,
          if_neg changed, List.nil_append] at induction ⊢
        exact induction

/-- The commands of an input lead to what the console makes of it. -/
theorem plan_inputCommands (masks : Masks) (input : RemoteInput)
    (value : MoonlightSession) :
    plan masks (inputCommands input value) =
      (Function.update masks value.engine
          (maskAfter (masks value.engine) input),
        callsOf (inputEvents value (masks value.engine) input)) := by
  cases input with
  | pointer x y buttons =>
      simp only [inputCommands, inputEvents, plan, callsOf_append,
        List.append_nil, maskAfter]
      rfl
  | wheel x y dx dy =>
      by_cases moved : scrollAmount dy ≠ 0
      · simp only [inputCommands, inputEvents, if_pos moved, plan, maskAfter,
          Function.update_eq_self]
        rfl
      · simp only [inputCommands, inputEvents, if_neg moved, plan, maskAfter,
          Function.update_eq_self]
        rfl
  | key down code char mods =>
      cases known : vkFromCode code with
      | none =>
          simp only [inputCommands, inputEvents, known, plan, maskAfter,
            Function.update_eq_self]
          rfl
      | some vk =>
          simp only [inputCommands, inputEvents, known, plan, maskAfter,
            Function.update_eq_self]
          rfl
  | clipboardText text =>
      simp only [inputCommands, inputEvents, plan, maskAfter,
        Function.update_eq_self]
      rfl

/-- The commands that are owed, with this map. -/
def Owed.pending (sessions : Sessions) : Owed → List Command
  | .finding session input =>
      (sessions.lookup session).elim [] (inputCommands input)
  | .due commands => commands

/-- The map and the masks are the reader's own. -/
def Answered (past : List (Event sidecar)) : Event sidecar → Prop
  | ⟨.mapGet session, found⟩ => found = (held past).lookup session
  | ⟨.swapButtons engine _, previous⟩ => previous = masksAfter past engine
  | _ => True

def Faithful (events : List (Event sidecar)) : Prop :=
  ∀ past event rest, events = past ++ event :: rest → Answered past event

theorem Faithful.of_append {rest : List (Event sidecar)}
    (faithful : Faithful (events ++ rest)) : Faithful events := by
  intro past event later split
  exact faithful past event (later ++ rest) (by rw [split]; simp)

/-- The calls made and the ones still owed are those of the console. -/
structure Accounted (libraries : Libraries) (events : List (Event sidecar))
    (operator : Operator) : Prop where
  attention : (Console.after libraries events).attention = operator.attention
  sessions : (Console.after libraries events).sessions = held events
  planned : ∃ later,
    plan (masksAfter events) (operator.owed.pending (held events)) =
        ((Console.after libraries events).masks, later) ∧
      (Console.after libraries events).calls = callsOf events ++ later

theorem accounted_initial : Accounted libraries [] ⟨.hello, .nothing⟩ where
  attention := rfl
  sessions := rfl
  planned := ⟨[], rfl, rfl⟩

/-- What is neither read nor called leaves the console but for the map. -/
theorem apart_event {event : Event sidecar} (apart : Apart event.command)
    (console : Console) (masks : Masks) :
    console.attend libraries event =
        { console with sessions := remap console.sessions event } ∧
      mask masks event = masks ∧ callsOf [event] = [] := by
  obtain ⟨command, reply⟩ := event
  cases command with
  | readMessage | mapGet | liSend | swapButtons => exact absurd apart id
  | _ => exact ⟨rfl, rfl, rfl⟩

theorem sessions_hear (console : Console)
    (input : Option (UInt32 × RemoteInput)) :
    (console.hear input).sessions = console.sessions := by
  obtain _ | ⟨session, input⟩ := input
  · rfl
  · simp only [Console.hear]
    cases console.sessions.lookup session with
    | none => rfl
    | some value => rfl

/-- What an input adds to the console is what is owed for it. -/
theorem plan_hearing (console : Console)
    (input : Option (UInt32 × RemoteInput)) :
    ∃ later, plan console.masks
        ((Owed.hearing input).pending console.sessions) =
          ((console.hear input).masks, later) ∧
      (console.hear input).calls = console.calls ++ later := by
  obtain _ | ⟨session, input⟩ := input
  · exact ⟨[], rfl, (List.append_nil _).symm⟩
  · simp only [Owed.hearing, Owed.pending, Console.hear]
    cases console.sessions.lookup session with
    | none => exact ⟨[], rfl, (List.append_nil _).symm⟩
    | some value => exact ⟨_, plan_inputCommands .., rfl⟩

theorem Accounted.step {before after : Operator} {event : Event sidecar}
    (accounted : Accounted libraries events before)
    (answered : Answered events event)
    (next : Operator.Next libraries before event after) :
    Accounted libraries (events ++ [event]) after := by
  obtain ⟨attention, sessions, later, planned, calls⟩ := accounted
  cases next with
  | @read listening reply =>
      obtain ⟨same, rfl⟩ := Prod.mk.inj planned
      rw [List.append_nil] at calls
      obtain rfl : _ = listening := attention
      obtain ⟨due, planned, added⟩ := plan_hearing
        (Console.after libraries events)
        ((Console.after libraries events).attention.input libraries reply)
      constructor
      · rw [after_snoc]
        rfl
      · rw [after_snoc, held_snoc]
        exact (sessions_hear _ _).trans sessions
      · refine ⟨due, ?_, ?_⟩
        · rw [after_snoc, masksAfter_snoc, held_snoc]
          rw [sessions, ← same] at planned
          exact planned
        · rw [after_snoc, callsOf_append, ← calls]
          exact added.trans (congrArg (· ++ due) (List.append_nil _).symm)
  | @find listening session input found =>
      obtain rfl : found = _ := answered
      constructor
      · rw [after_snoc]
        exact attention
      · rw [after_snoc, held_snoc]
        exact sessions
      · refine ⟨later, ?_, ?_⟩
        · rw [after_snoc, masksAfter_snoc]
          exact planned
        · rw [after_snoc, callsOf_append]
          exact calls.trans (congrArg (· ++ later) (List.append_nil _).symm)
  | @send listening engine call reply due =>
      obtain ⟨same, rfl⟩ := Prod.mk.inj planned
      constructor
      · rw [after_snoc]
        exact attention
      · rw [after_snoc, held_snoc]
        exact sessions
      · refine ⟨(plan (masksAfter events) due).2, ?_, ?_⟩
        · rw [after_snoc, masksAfter_snoc]
          exact Prod.ext same rfl
        · rw [after_snoc, callsOf_append, List.append_assoc]
          exact calls
  | @swap listening engine buttons previous =>
      obtain rfl : previous = _ := answered
      obtain ⟨same, rfl⟩ := Prod.mk.inj planned
      constructor
      · rw [after_snoc]
        exact attention
      · rw [after_snoc, held_snoc]
        exact sessions
      · rw [show (plan _ []).2 = [] from rfl, List.append_nil] at calls
        refine ⟨_, (plan_buttonCommands ..).trans (Prod.ext ?_ rfl), ?_⟩
        · rw [after_snoc, masksAfter_snoc]
          exact same
        · rw [after_snoc, callsOf_append]
          exact calls.trans (congrArg (· ++ _) (List.append_nil _).symm)
  | @other listening _ apart =>
      obtain ⟨goes, still, silent⟩ := @apart_event libraries _ apart
        (Console.after libraries events) (masksAfter events)
      obtain ⟨same, rfl⟩ := Prod.mk.inj planned
      constructor
      · rw [after_snoc, goes]
        exact attention
      · rw [after_snoc, goes, held_snoc, ← sessions]
      · refine ⟨[], ?_, ?_⟩
        · rw [after_snoc, masksAfter_snoc, goes, still]
          exact Prod.ext same rfl
        · rw [after_snoc, goes, callsOf_append, silent, List.append_nil]
          exact calls

/-- A reader to which the map and the masks answer makes the calls that its
inputs amount to. -/
theorem accounted_of_path {after : Operator}
    (path : (operator libraries).Path (⟨.hello, .nothing⟩ : Operator) events
      after) (faithful : Faithful events) :
    Accounted libraries events after := by
  revert faithful
  apply path.invariant fun past (state : Operator) =>
    Faithful past → Accounted libraries past state
  · exact fun _ => accounted_initial
  · intro past before last after accounted next faithful
    exact (accounted faithful.of_append).step (faithful past last [] rfl) next

end Accounts

end Main

end MoonlightAddon
