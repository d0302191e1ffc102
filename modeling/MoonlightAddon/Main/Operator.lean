import MoonlightAddon.Core.Inputs
import MoonlightAddon.Main.Farewell
import MoonlightAddon.Worker.Footprint

/-!
# The reader at the C core

Before the next message is read, an input becomes its calls of the C core if
its session is in the map, and nothing else makes the reader call it.
-/

namespace MoonlightAddon

open Session

namespace Main

/-- The input that a control message brings. -/
def Attention.inputIn (attention : Attention) :
    Proto.HostMsg → Option (UInt32 × RemoteInput)
  | .input session input =>
      if attention = .messages then some (session, toCoreInput input) else none
  | _ => none

def Attention.input (libraries : Libraries) (attention : Attention) :
    Except Text (Option (UInt8 × Bytes)) → Option (UInt32 × RemoteInput)
  | .ok (some (kind, payload)) =>
      if kind ≠ Proto.kindControl then
        none
      else
        match libraries.fromSlice payload with
        | .ok message => attention.inputIn message
        | .error _ => none
  | _ => none

/-- The commands of an input, up to the answer to the swap of the mask. -/
def inputCommands (input : RemoteInput) (value : MoonlightSession) :
    List Command :=
  match input with
  | .pointer x y buttons =>
      [.liSend value.engine (.mousePosition x.toInt16 y.toInt16
          value.refWidth.toInt16 value.refHeight.toInt16),
        .swapButtons value.engine buttons]
  | .wheel _ _ _ dy =>
      if scrollAmount dy ≠ 0 then
        [.liSend value.engine (.highResScroll (scrollAmount dy))]
      else
        []
  | .key down code _ _ =>
      match vkFromCode code with
      | some vk =>
          [.liSend value.engine (.keyboard vk
            (if down then keyActionDown else keyActionUp) 0)]
      | none => []
  | .clipboardText _ => []

def buttonCommands (engine : Engine) (previous buttons : UInt8)
    (entries : List (UInt8 × Int32)) : List Command :=
  (buttonEvents engine previous buttons entries).map Event.command

inductive Owed where
  | finding (session : UInt32) (input : RemoteInput)
  | due (commands : List Command)

def Owed.nothing : Owed := .due []

def Owed.hearing : Option (UInt32 × RemoteInput) → Owed
  | none => .nothing
  | some (session, input) => .finding session input

structure Operator where
  attention : Attention
  owed : Owed

/-- Commands that have nothing to do with inputs. -/
def Apart : Command → Prop
  | .readMessage | .mapGet _ | .liSend _ _ | .swapButtons _ _ => False
  | _ => True

inductive Operator.Next (libraries : Libraries) :
    Operator → Event sidecar → Operator → Prop where
  | read {attention reply} :
      Next libraries ⟨attention, .nothing⟩ ⟨.readMessage, reply⟩
        ⟨attention.hear libraries reply,
          .hearing (attention.input libraries reply)⟩
  | find {attention session input found} :
      Next libraries ⟨attention, .finding session input⟩
        ⟨.mapGet session, found⟩
        ⟨attention, .due (found.elim [] (inputCommands input))⟩
  | send {attention engine call reply due} :
      Next libraries ⟨attention, .due (.liSend engine call :: due)⟩
        ⟨.liSend engine call, reply⟩ ⟨attention, .due due⟩
  | swap {attention engine buttons previous} :
      Next libraries ⟨attention, .due [.swapButtons engine buttons]⟩
        ⟨.swapButtons engine buttons, previous⟩
        ⟨attention,
          .due (buttonCommands engine previous buttons pointerButtons)⟩
  | other {attention} {event : Event sidecar} (apart : Apart event.command) :
      Next libraries ⟨attention, .nothing⟩ event ⟨attention, .nothing⟩

/-- Where `read_control` leaves the reader. -/
def Heard (attention : Attention) :
    Outcome (Option Proto.HostMsg) → Operator → Prop
  | .ok (some message), after =>
      after = ⟨attention.take message, .hearing (attention.inputIn message)⟩
  | _, after => after.owed = .nothing

/-- The discipline of a reader that makes the calls of the inputs. -/
def operator (libraries : Libraries) : Typestate sidecar where
  State := Operator
  Next := Operator.Next libraries
  Pre
    | .readControl, before => before.owed = .nothing
    | .readerLoop, before => before = ⟨.messages, .nothing⟩
    | .frameLoop _ _, _ => False
  Post
    | .readControl, before, outcome, after => Heard before.attention outcome after
    | .readerLoop, _, _, after => after.owed = .nothing
    | .frameLoop _ _, _, _, _ => False

section Functions

open Effect

variable {libraries : Libraries} {attention : Attention} {α : Type}

/-- The reader owes nothing. -/
def Idle (attention : Attention) (operator : Operator) : Prop :=
  operator = ⟨attention, .nothing⟩

abbrev Operates (libraries : Libraries) (effect : Rust α)
    (post : Outcome α → Operator → Prop) (before : Operator) : Prop :=
  (operator libraries).Follows effect post before

theorem operates_issue {command : Command} {before : Operator}
    {post : Outcome command.Reply → Operator → Prop}
    (allowed : ∀ reply, ∃ after,
      Operator.Next libraries before ⟨command, reply⟩ after ∧
        post (.ok reply) after) :
    Operates libraries (issue command) post before :=
  Typestate.follows_perform allowed

theorem operates_apart {effect : Rust α} {yields : α → Prop}
    (confined : Confined Apart effect yields) :
    Operates libraries effect (fun _ => Idle attention)
      ⟨attention, .nothing⟩ := by
  have follows := @Confined.follows _ _ _ _ (operator libraries) _ confined
    (Idle attention)
    (by
      rintro _ command reply rfl apart
      exact ⟨_, .other apart, rfl⟩)
    ⟨attention, .nothing⟩ rfl
  exact follows.mono fun _ _ held => held.1

theorem operates_bind_apart {β : Type} {effect : Rust α} {rest : α → Rust β}
    {post : Outcome β → Operator → Prop} {yields : α → Prop}
    (confined : Confined Apart effect yields)
    (later : ∀ value, Operates libraries (rest value) post ⟨attention, .nothing⟩)
    (fails : ∀ error, post (.err error) ⟨attention, .nothing⟩)
    (panics : ∀ message, post (.panicked message) ⟨attention, .nothing⟩) :
    Operates libraries (effect >>= rest : Rust β) post
      ⟨attention, .nothing⟩ := by
  apply Typestate.follows_bind
  apply (operates_apart confined).mono
  rintro outcome _ rfl
  cases outcome with
  | ok value => exact later value
  | err error => exact fails error
  | panicked message => exact panics message

/-! ### Taking engines down -/

theorem apart_close (session : MoonlightSession) :
    Confined Apart (close session) fun _ => True := by
  apply confined_bind (Worker.confined_stopStream trivial trivial trivial)
  intro _ _
  exact confined_perform trivial fun _ => trivial

theorem apart_closeAndDrop (session : MoonlightSession) :
    Confined Apart (closeAndDrop session) fun _ => True := by
  apply confined_bind (apart_close session)
  intro _ _
  exact apart_close session

theorem apart_forEach {action : MoonlightSession → Rust Unit}
    (apart : ∀ session, Confined Apart (action session) fun _ => True) :
    ∀ sessions, Confined Apart (forEach action sessions) fun _ => True
  | [] => confined_pure trivial
  | session :: rest => by
      apply confined_bind (apart session)
      intro _ _
      exact apart_forEach apart rest

theorem apart_connectWithDoc (session : UInt32) (doc : MoonlightConnectDoc) :
    Confined Apart (connectWithDoc session doc) fun _ => True := by
  apply confined_bind (confined_perform trivial fun _ => trivial)
  rintro ⟨engine, started⟩ _
  exact confined_pure trivial

/-! ### Inputs -/

theorem operates_sendButtons {engine : Engine} {previous buttons : UInt8}
    (entries : List (UInt8 × Int32)) :
    Operates libraries (sendButtons engine previous buttons entries)
      (fun _ => Idle attention)
      ⟨attention, .due (buttonCommands engine previous buttons entries)⟩ := by
  induction entries with
  | nil => rfl
  | cons entry rest induction =>
      obtain ⟨mask, button⟩ := entry
      by_cases changed : (buttons &&& mask ≠ 0) ≠ (previous &&& mask ≠ 0)
      · simp only [sendButtons, if_pos changed, buttonCommands, buttonEvents,
          List.flatMap_cons, List.map_append, List.map_cons, List.map_nil]
        apply Typestate.follows_bind
        apply operates_issue
        intro reply
        exact ⟨_, .send, induction⟩
      · simp only [sendButtons, if_neg changed, buttonCommands, buttonEvents,
          List.flatMap_cons, List.nil_append]
        exact induction

theorem operates_sendInput (input : RemoteInput) (value : MoonlightSession) :
    Operates libraries (sendInput value input) (fun _ => Idle attention)
      ⟨attention, .due (inputCommands input value)⟩ := by
  cases input with
  | pointer x y buttons =>
      apply Typestate.follows_bind
      apply operates_issue
      intro moved
      refine ⟨_, .send, ?_⟩
      apply Typestate.follows_then
      apply Typestate.follows_bind
      apply operates_issue
      intro previous
      exact ⟨_, .swap, operates_sendButtons pointerButtons⟩
  | wheel x y dx dy =>
      by_cases moved : scrollAmount dy ≠ 0
      · simp only [sendInput, inputCommands, if_pos moved]
        apply operates_issue
        intro reply
        exact ⟨_, .send, rfl⟩
      · simp only [sendInput, inputCommands, if_neg moved]
        rfl
  | key down code char mods =>
      cases known : vkFromCode code with
      | none =>
          simp only [sendInput, inputCommands, known]
          rfl
      | some vk =>
          simp only [sendInput, inputCommands, known]
          apply operates_issue
          intro reply
          exact ⟨_, .send, rfl⟩
  | clipboardText text => rfl

/-! ### Messages -/

/-- The message loop goes on, or is left with nothing owed. -/
def Handled : Outcome Bool → Operator → Prop
  | .ok true, after => Idle .messages after
  | _, after => after.owed = .nothing

theorem operates_handle (message : Proto.HostMsg) :
    Operates libraries (handle message) Handled
      ⟨Attention.messages.take message,
        .hearing (Attention.messages.inputIn message)⟩ := by
  have goesOn : Handled (.ok true) ⟨.messages, .nothing⟩ := rfl
  cases message with
  | hello | resize | frameAck => exact goesOn
  | shutdown => exact (rfl : Owed.nothing = Owed.nothing)
  | connect session doc =>
      refine operates_bind_apart (apart_connectWithDoc session _) ?_
        (fun _ => rfl) fun _ => rfl
      intro value
      refine operates_bind_apart (confined_perform trivial fun _ => trivial) ?_
        (fun _ => rfl) fun _ => rfl
      intro replaced
      cases replaced with
      | none => exact goesOn
      | some old =>
          exact operates_bind_apart (apart_close old) (fun _ => goesOn)
            (fun _ => rfl) fun _ => rfl
  | input session input =>
      apply Typestate.follows_bind
      apply operates_issue
      intro found
      refine ⟨_, .find, ?_⟩
      cases found with
      | none => exact goesOn
      | some value =>
          apply Typestate.follows_then
          apply Typestate.follows_bind
          apply (operates_sendInput _ value).mono
          rintro outcome _ rfl
          cases outcome with
          | ok sent => exact goesOn
          | err error => rfl
          | panicked message => rfl
  | close session =>
      refine operates_bind_apart (confined_perform trivial fun _ => trivial) ?_
        (fun _ => rfl) fun _ => rfl
      intro removed
      cases removed with
      | none => exact goesOn
      | some old =>
          exact operates_bind_apart (apart_closeAndDrop old) (fun _ => goesOn)
            (fun _ => rfl) fun _ => rfl

/-! ### The reader's loops -/

theorem heard_control {kind : UInt8} {payload : Bytes}
    {message : Proto.HostMsg} (control : ¬kind ≠ Proto.kindControl)
    (decoded : libraries.fromSlice payload = .ok message) :
    attention.hear libraries (.ok (some (kind, payload))) =
        attention.take message ∧
      attention.input libraries (.ok (some (kind, payload))) =
        attention.inputIn message := by
  constructor
  · cases attention with
    | ended => rfl
    | _ => simp only [Attention.hear, if_neg control, decoded]
  · simp only [Attention.input, if_neg control, decoded]

theorem heard_other {kind : UInt8} {payload : Bytes}
    (other : kind ≠ Proto.kindControl) :
    attention.hear libraries (.ok (some (kind, payload))) = attention ∧
      attention.input libraries (.ok (some (kind, payload))) = none := by
  constructor
  · cases attention with
    | ended => rfl
    | _ => exact if_pos other
  · exact if_pos other

theorem operates_readControlBody :
    Operates libraries (readControlBody libraries) (Heard attention)
      ⟨attention, .nothing⟩ := by
  apply Typestate.follows_bind
  apply Typestate.follows_performResult
  intro reply
  refine ⟨_, .read, ?_⟩
  match reply with
  | .error error => rfl
  | .ok none => rfl
  | .ok (some (kind, payload)) =>
      apply Typestate.follows_then
      apply Typestate.follows_if
      · intro control
        obtain ⟨same, silent⟩ := @heard_other libraries attention _ payload control
        rw [same, silent]
        exact ⟨rfl, fun _ _ heard => heard⟩
      · intro control
        cases decoded : libraries.fromSlice payload with
        | ok message =>
            obtain ⟨same, input⟩ :=
              @heard_control libraries attention _ _ _ control decoded
            rw [same, input]
            rfl
        | error error =>
            have silent : attention.input libraries
                (.ok (some (kind, payload))) = none := by
              simp only [Attention.input, if_neg control, decoded]
            rw [silent]
            rfl

theorem operates_readerLoopBody :
    Operates libraries readerLoopBody (fun _ after => after.owed = .nothing)
      ⟨.messages, .nothing⟩ := by
  apply Typestate.follows_bind
  refine ⟨rfl, ?_⟩
  intro outcome after heard
  match outcome with
  | .ok none => exact heard
  | .err error => exact heard
  | .panicked message => exact heard
  | .ok (some message) =>
      obtain rfl := heard
      apply Typestate.follows_then
      apply Typestate.follows_bind
      apply (operates_handle message).mono
      intro outcome after handled
      match outcome with
      | .ok true => exact ⟨handled, fun _ _ idle => idle⟩
      | .ok false => exact handled
      | .err error => exact handled
      | .panicked message => exact handled

theorem operator_sound : (operator libraries).Sound (bodies libraries) := by
  rintro (⟨session, doc⟩ | _ | _) before pre
  · exact pre.elim
  · obtain ⟨attention, owed⟩ := before
    obtain rfl : owed = .nothing := pre
    exact operates_readControlBody
  · obtain rfl := pre
    exact operates_readerLoopBody

theorem idle_of_owed {before : Operator} (nothing : before.owed = .nothing) :
    before = ⟨before.attention, .nothing⟩ := by
  rw [← nothing]

theorem operates_runSessions :
    Operates libraries (runSessions libraries)
      (fun _ after => after.owed = .nothing) ⟨.hello, .nothing⟩ := by
  apply Typestate.follows_bind
  refine ⟨rfl, ?_⟩
  intro outcome after heard
  match outcome with
  | .err error => exact heard
  | .panicked message => exact heard
  | .ok none => exact heard
  | .ok (some (.hello abi version)) =>
      obtain rfl := heard
      apply Typestate.follows_then
      apply Typestate.follows_if
      · intro mismatch
        rfl
      · intro agreed
        have greeted : Attention.hello.take (.hello abi version) = .messages :=
          if_neg agreed
        rw [greeted]
        refine operates_bind_apart (Worker.confined_send trivial) ?_
          (fun _ => rfl) fun _ => rfl
        intro _
        apply Typestate.follows_bind
        refine ⟨rfl, ?_⟩
        intro outcome after left
        cases outcome with
        | err error => exact left
        | panicked message => exact left
        | ok value =>
            rw [idle_of_owed left]
            refine operates_bind_apart
              (confined_perform trivial fun _ => trivial) ?_
              (fun _ => rfl) fun _ => rfl
            intro sessions
            apply (operates_apart (apart_forEach apart_closeAndDrop sessions)).mono
            rintro outcome _ rfl
            rfl
  | .ok (some (.connect _ _)) | .ok (some (.input _ _))
  | .ok (some (.resize _ _ _)) | .ok (some (.frameAck _ _))
  | .ok (some (.close _)) | .ok (some .shutdown) =>
      obtain rfl := heard
      rfl

theorem operates_main :
    (operator libraries).Follows (main libraries) (fun _ _ => True)
      (⟨.hello, .nothing⟩ : Operator) := by
  apply Typestate.Follows.bind
  have ends : Operates libraries (run libraries)
      (fun _ after => after.owed = .nothing) ⟨.hello, .nothing⟩ := by
    apply Typestate.follows_bind
    apply Typestate.follows_attempt
    apply operates_runSessions.mono
    intro outcome after left
    rw [idle_of_owed left]
    have drops : ∀ result : Except Text Unit, Operates libraries
        (do
          forEach drop (← issue .mapDrain)
          lift (Outcome.ofExcept result) : Rust Unit)
        (fun _ after => after.owed = .nothing) ⟨after.attention, .nothing⟩ := by
      intro result
      refine operates_bind_apart (confined_perform trivial fun _ => trivial) ?_
        (fun _ => rfl) fun _ => rfl
      intro sessions
      refine operates_bind_apart (apart_forEach apart_close sessions) ?_
        (fun _ => rfl) fun _ => rfl
      intro _
      rfl
    cases outcome with
    | ok value => exact drops (.ok value)
    | err error => exact drops (.error error)
    | panicked message => rfl
  apply ends.mono
  intro outcome after left
  rw [idle_of_owed left]
  cases outcome with
  | ok value => exact fun _ => ⟨_, .other trivial, trivial⟩
  | err error => exact fun _ => ⟨_, .other trivial, trivial⟩
  | panicked message => exact fun _ => ⟨_, .other trivial, trivial⟩

end Functions

end Main

end MoonlightAddon
