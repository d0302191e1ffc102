import MoonlightAddon.Core.Inputs
import MoonlightAddon.Switches
import Mathlib.Data.List.Induction

/-!
# Keys

The virtual keys a host has down, against the physical keys that are held.
Several physical keys share a virtual key.
-/

namespace MoonlightAddon

namespace Session

open Switches

/-- The keyboard calls among the commands: down and up as on and off. -/
def keyCommands (commands : List (Event sidecar)) : List (Int16 × Bool) :=
  commands.filterMap fun
    | ⟨.liSend _ (.keyboard vk action _), _⟩ =>
        some (vk, decide (action = keyActionDown))
    | _ => none

/-- The presses and releases of physical keys among the inputs. -/
def codeCommands (inputs : List RemoteInput) : List (Text × Bool) :=
  inputs.filterMap fun
    | .key down code _ _ => some (code, down)
    | _ => none

def holds (inputs : List RemoteInput) (code : Text) : Bool :=
  isOn (codeCommands inputs) code

/-- After every input of a live connection, the virtual keys that are down on
the host are those of the physical keys that are held. -/
def TracksKeys (session : MoonlightSession) (inputs : List RemoteInput) :
    Prop :=
  ∀ sofar later, inputs = sofar ++ later →
    ∀ last commands final, Handles session last sofar commands final →
      ∀ vk, isOn (keyCommands commands) vk = true ↔
        ∃ code, holds sofar code = true ∧ vkFromCode code = some vk

/-- Every physical key is pressed and released in turn, a press first. -/
def PressedInTurn (inputs : List RemoteInput) : Prop :=
  ∀ code, Alternates true (commandsFor code (codeCommands inputs))

/-- A key is released while another one with its virtual key is held. -/
def ReleasesShared (inputs : List RemoteInput) : Prop :=
  ∃ sofar code ch mods later vk other,
    inputs = sofar ++ .key false code ch mods :: later ∧
      vkFromCode code = some vk ∧ vkFromCode other = some vk ∧
      other ≠ code ∧ holds sofar other = true

theorem codeCommands_append (first second : List RemoteInput) :
    codeCommands (first ++ second) =
      codeCommands first ++ codeCommands second :=
  List.filterMap_append

theorem keyCommands_append (first second : List (Event sidecar)) :
    keyCommands (first ++ second) =
      keyCommands first ++ keyCommands second :=
  List.filterMap_append

theorem keyCommands_buttonEvents (engine : Engine) (previous buttons : UInt8)
    (entries : List (UInt8 × Int32)) :
    keyCommands (buttonEvents engine previous buttons entries) = [] := by
  induction entries with
  | nil => rfl
  | cons entry rest induction =>
      obtain ⟨mask, button⟩ := entry
      rw [buttonEvents, List.flatMap_cons, keyCommands_append]
      apply List.append_eq_nil_iff.mpr ⟨_, induction⟩
      by_cases changed : (buttons &&& mask ≠ 0) ≠ (previous &&& mask ≠ 0)
      · simp only [if_pos changed]
        rfl
      · simp only [if_neg changed]
        rfl

/-- What reaches the host is what was said, in virtual keys. -/
theorem keyCommands_inputEvents (session : MoonlightSession) (last : UInt8)
    (input : RemoteInput) :
    keyCommands (inputEvents session last input) =
      Switches.translate vkFromCode (codeCommands [input]) := by
  cases input with
  | pointer x y buttons =>
      rw [inputEvents, keyCommands_append, keyCommands_buttonEvents]
      rfl
  | wheel x y dx dy =>
      by_cases moved : scrollAmount dy ≠ 0 <;>
        simp [inputEvents, moved, keyCommands, codeCommands, Switches.translate]
  | key down code ch mods =>
      cases known : vkFromCode code <;> cases down <;>
        simp [inputEvents, known, keyCommands, codeCommands, Switches.translate,
          keyActionDown, keyActionUp]
  | clipboardText text => rfl

theorem keyCommands_inputsEvents (session : MoonlightSession)
    (inputs : List RemoteInput) (last : UInt8) :
    keyCommands (inputsEvents session last inputs) =
      Switches.translate vkFromCode (codeCommands inputs) := by
  induction inputs generalizing last with
  | nil => rfl
  | cons input rest induction =>
      have split := codeCommands_append [input] rest
      rw [List.singleton_append] at split
      rw [inputsEvents, keyCommands_append, keyCommands_inputEvents, induction,
        split, Switches.translate_append]

theorem tracksKeys_iff {session : MoonlightSession}
    {inputs : List RemoteInput} :
    TracksKeys session inputs ↔
      ∀ sofar later, inputs = sofar ++ later →
        Faithful vkFromCode (codeCommands sofar) := by
  constructor
  · intro tracks sofar later split name
    rw [← keyCommands_inputsEvents session sofar 0]
    exact tracks sofar later split 0 _ _ (handles_iff.mpr ⟨rfl, rfl⟩) name
  · intro faithful sofar later split last commands final handles vk
    obtain ⟨rfl, rfl⟩ := handles_iff.mp handles
    rw [keyCommands_inputsEvents]
    exact faithful sofar later split vk

/-- One more input keeps the keys right unless it releases a shared one. -/
theorem faithful_snoc {sofar : List RemoteInput} {input : RemoteInput}
    (faithful : Faithful vkFromCode (codeCommands sofar))
    (alone : ∀ code ch mods, input = .key false code ch mods →
      ∀ vk other, vkFromCode code = some vk → vkFromCode other = some vk →
        holds sofar other = true → other = code) :
    Faithful vkFromCode (codeCommands (sofar ++ [input])) := by
  rw [codeCommands_append]
  cases input with
  | key down code ch mods =>
      cases down with
      | true => exact faithful.on code
      | false => exact faithful.off (alone code ch mods rfl)
  | pointer | wheel | clipboardText =>
      simpa [codeCommands] using faithful

theorem tracksKeys_of_unshared {session : MoonlightSession}
    {inputs : List RemoteInput} (unshared : ¬ ReleasesShared inputs) :
    TracksKeys session inputs := by
  rw [tracksKeys_iff]
  intro sofar
  induction sofar using List.reverseRecOn with
  | nil => exact fun _ _ => faithful_nil
  | append_singleton sofar input induction =>
      rintro later rfl
      apply faithful_snoc (induction (input :: later) (by simp))
      rintro code ch mods rfl vk other known shared held
      by_contra distinct
      exact unshared ⟨sofar, code, ch, mods, later, vk, other, by simp, known,
        shared, distinct, held⟩

theorem not_tracksKeys {session : MoonlightSession}
    {inputs : List RemoteInput} (releases : ReleasesShared inputs) :
    ¬ TracksKeys session inputs := by
  rintro tracks
  obtain ⟨sofar, code, ch, mods, later, vk, other, rfl, known, shared, distinct,
    held⟩ := releases
  have faithful := tracksKeys_iff.mp tracks
    (sofar ++ [.key false code ch mods]) later (by simp)
  rw [codeCommands_append] at faithful
  exact not_faithful_off known shared distinct held faithful

/-- The host's keys are right exactly when no key is released while another
one with its virtual key is held. -/
theorem key_state_tracking (session : MoonlightSession)
    (inputs : List RemoteInput) :
    TracksKeys session inputs ↔ ¬ ReleasesShared inputs := by
  constructor
  · intro tracks releases
    exact not_tracksKeys releases tracks
  · exact tracksKeys_of_unshared

def shiftKey (down : Bool) (code : Text) : RemoteInput :=
  .key down code none ⟨false, false, true, false⟩

/-- Both Shift keys are pressed and one of them is released. -/
def bothShifts : List RemoteInput :=
  [shiftKey true (lit "ShiftLeft"), shiftKey true (lit "ShiftRight"),
    shiftKey false (lit "ShiftLeft")]

theorem pressedInTurn_bothShifts : PressedInTurn bothShifts := by
  intro code
  have distinct : lit "ShiftLeft" ≠ lit "ShiftRight" := by decide
  by_cases left : lit "ShiftLeft" = code
  · subst left
    simp [bothShifts, shiftKey, codeCommands, commandsFor, Ne.symm distinct,
      Alternates]
  · by_cases right : lit "ShiftRight" = code <;>
      simp [bothShifts, shiftKey, codeCommands, commandsFor, left, right,
        Alternates]

theorem key_state_tracking_shifts :
    PressedInTurn bothShifts ∧ ¬ TracksKeys ⟨0, 1920, 1080⟩ bothShifts := by
  refine ⟨pressedInTurn_bothShifts, not_tracksKeys ?_⟩
  exact ⟨[shiftKey true (lit "ShiftLeft"), shiftKey true (lit "ShiftRight")],
    lit "ShiftLeft", none, ⟨false, false, true, false⟩, [], 0x10,
    lit "ShiftRight", rfl, by decide, by decide, by decide, by decide⟩

end Session

end MoonlightAddon
