import MoonlightAddon.Core.Session
import MoonlightAddon.Responder

/-!
# A session's inputs

The inputs the reader hands to one session, one after the other, with
`last_buttons` as the atomic byte it is: `swap` gives the previous mask.
-/

namespace MoonlightAddon

namespace Session

def sendInputs (session : MoonlightSession) : List RemoteInput → Rust Unit
  | [] => return ()
  | input :: rest => do
      sendInput session input
      sendInputs session rest

/-- `last_buttons`. -/
def lastButtons : Responder sidecar UInt8
  | last, .swapButtons _ buttons => (last, buttons)
  | last, command => (command.quietReply, last)

/-- From the mask `last`, the session handles the inputs by these commands and
ends with the mask `after`. -/
def Handles (session : MoonlightSession) (last : UInt8)
    (inputs : List RemoteInput) (commands : List (Event sidecar))
    (after : UInt8) : Prop :=
  Program.serve lastButtons (fun _ _ => none) (sendInputs session inputs) last =
    some (.ok (), commands, after)

/-- The mask after an input. -/
def maskAfter (last : UInt8) : RemoteInput → UInt8
  | .pointer _ _ buttons => buttons
  | _ => last

def buttonEvents (engine : Engine) (previous buttons : UInt8)
    (entries : List (UInt8 × Int32)) : List (Event sidecar) :=
  entries.flatMap fun (mask, button) =>
    let was := previous &&& mask ≠ 0
    let now := buttons &&& mask ≠ 0
    if now ≠ was then
      [⟨.liSend engine (.mouseButton
        (if now then buttonActionPress else buttonActionRelease) button), ()⟩]
    else
      []

/-- The commands an input becomes. -/
def inputEvents (session : MoonlightSession) (last : UInt8) :
    RemoteInput → List (Event sidecar)
  | .pointer x y buttons =>
      [⟨.liSend session.engine (.mousePosition x.toInt16 y.toInt16
          session.refWidth.toInt16 session.refHeight.toInt16), ()⟩,
        ⟨.swapButtons session.engine buttons, last⟩] ++
        buttonEvents session.engine last buttons pointerButtons
  | .wheel _ _ _ dy =>
      if scrollAmount dy ≠ 0 then
        [⟨.liSend session.engine (.highResScroll (scrollAmount dy)), ()⟩]
      else
        []
  | .key down code _ _ =>
      match vkFromCode code with
      | some vk =>
          [⟨.liSend session.engine (.keyboard vk
            (if down then keyActionDown else keyActionUp) 0), ()⟩]
      | none => []
  | .clipboardText _ => []

section Events

variable {session : MoonlightSession} {last : UInt8}

theorem mem_buttonEvents {engine : Engine} {previous buttons : UInt8}
    {entries : List (UInt8 × Int32)} {event : Event sidecar}
    (member : event ∈ buttonEvents engine previous buttons entries) :
    ∃ call, event = ⟨.liSend engine call, ()⟩ := by
  obtain ⟨⟨bit, button⟩, _, member⟩ := List.mem_flatMap.mp member
  simp only at member
  split at member
  · exact ⟨_, List.mem_singleton.mp member⟩
  · cases member

/-- An input reaches the C core and the mask, and nothing else. -/
theorem mem_inputEvents {input : RemoteInput} {event : Event sidecar}
    (member : event ∈ inputEvents session last input) :
    (∃ call, event = ⟨.liSend session.engine call, ()⟩) ∨
      ∃ buttons, event = ⟨.swapButtons session.engine buttons, last⟩ := by
  cases input with
  | pointer x y buttons =>
      rcases List.mem_append.mp member with first | pressed
      · simp only [List.mem_cons, List.not_mem_nil, or_false] at first
        rcases first with rfl | rfl
        · exact .inl ⟨_, rfl⟩
        · exact .inr ⟨buttons, rfl⟩
      · exact .inl (mem_buttonEvents pressed)
  | wheel x y dx dy =>
      simp only [inputEvents] at member
      split at member
      · exact .inl ⟨_, List.mem_singleton.mp member⟩
      · cases member
  | key down code ch mods =>
      simp only [inputEvents] at member
      split at member
      · exact .inl ⟨_, List.mem_singleton.mp member⟩
      · cases member
  | clipboardText text => cases member

end Events

section

variable {session : MoonlightSession} {last : UInt8}
  {loops : (loop : LoopName) → UInt8 →
    Program.Served sidecar UInt8 loop.Result}

/-- Two steps of one session, one after the other. -/
theorem serve_sequence {first second : Rust Unit} {middle after : UInt8}
    {begun ended : List (Event sidecar)}
    (begins : Program.serve lastButtons loops first last =
      some (.ok (), begun, middle))
    (ends : Program.serve lastButtons loops second middle =
      some (.ok (), ended, after)) :
    Program.serve lastButtons loops (first >>= fun _ => second : Rust Unit)
      last = some (.ok (), begun ++ ended, after) :=
  Program.serve_bind begins ends

theorem serve_sendButtons (previous buttons : UInt8)
    (entries : List (UInt8 × Int32)) :
    Program.serve lastButtons loops
        (sendButtons session.engine previous buttons entries) last =
      some (.ok (), buttonEvents session.engine previous buttons entries,
        last) := by
  induction entries with
  | nil => rfl
  | cons entry rest induction =>
      obtain ⟨mask, button⟩ := entry
      by_cases changed : (buttons &&& mask ≠ 0) ≠ (previous &&& mask ≠ 0)
      · simp only [sendButtons, if_pos changed, buttonEvents,
          List.flatMap_cons]
        exact serve_sequence rfl induction
      · simp only [sendButtons, if_neg changed, buttonEvents,
          List.flatMap_cons, List.nil_append]
        exact induction

theorem serve_sendInput (input : RemoteInput) :
    Program.serve lastButtons loops (sendInput session input) last =
      some (.ok (), inputEvents session last input, maskAfter last input) := by
  cases input with
  | pointer x y buttons =>
      have moved : Program.serve lastButtons loops
          (issue (.liSend session.engine (.mousePosition x.toInt16 y.toInt16
            session.refWidth.toInt16 session.refHeight.toInt16))) last =
          some (.ok (), [⟨.liSend session.engine (.mousePosition x.toInt16
            y.toInt16 session.refWidth.toInt16 session.refHeight.toInt16),
            ()⟩], last) := rfl
      have pressed : Program.serve lastButtons loops
          (issue (.swapButtons session.engine buttons) >>= fun previous =>
            sendButtons session.engine previous buttons pointerButtons :
            Rust Unit) last =
          some (.ok (), [⟨.swapButtons session.engine buttons, last⟩] ++
            buttonEvents session.engine last buttons pointerButtons,
            buttons) :=
        Program.serve_bind rfl (serve_sendButtons last buttons pointerButtons)
      have whole := serve_sequence moved pressed
      exact whole
  | wheel x y dx dy =>
      by_cases moved : scrollAmount dy ≠ 0
      · simp only [sendInput, inputEvents, if_pos moved]
        rfl
      · simp only [sendInput, inputEvents, if_neg moved]
        rfl
  | key down code ch mods =>
      cases known : vkFromCode code with
      | none =>
          simp only [sendInput, inputEvents, known]
          rfl
      | some vk =>
          simp only [sendInput, inputEvents, known]
          rfl
  | clipboardText text => rfl

/-- The commands of the inputs, one input after the other. -/
def inputsEvents (session : MoonlightSession) (last : UInt8) :
    List RemoteInput → List (Event sidecar)
  | [] => []
  | input :: rest =>
      inputEvents session last input ++
        inputsEvents session (maskAfter last input) rest

theorem serve_sendInputs (inputs : List RemoteInput) :
    Program.serve lastButtons loops (sendInputs session inputs) last =
      some (.ok (), inputsEvents session last inputs,
        inputs.foldl maskAfter last) := by
  induction inputs generalizing last with
  | nil => rfl
  | cons input rest induction =>
      exact serve_sequence (serve_sendInput input) induction

/-- Inputs are handled in one way. -/
theorem handles_iff {inputs : List RemoteInput}
    {commands : List (Event sidecar)} {after : UInt8} :
    Handles session last inputs commands after ↔
      inputsEvents session last inputs = commands ∧
        inputs.foldl maskAfter last = after := by
  simp only [Handles, serve_sendInputs, Option.some.injEq, Prod.mk.injEq,
    true_and]

end

end Session

end MoonlightAddon
