import MoonlightAddon.Core.Inputs
import MoonlightAddon.Switches

/-!
# Pointer buttons

The buttons a host sees pressed, against the masks the session was sent.  The
session compares each mask with the one before it, also while the connection
is not live and the C core drops the calls.
-/

namespace MoonlightAddon

namespace Session

open Switches

/-- The button calls among the commands: press and release as on and off. -/
def buttonCommands (commands : List (Event sidecar)) : List (Int32 × Bool) :=
  commands.filterMap fun
    | ⟨.liSend _ (.mouseButton action button), _⟩ =>
        some (button, decide (action = buttonActionPress))
    | _ => none

/-- Whether a mask asks for the button of this bit. -/
def asks (buttons mask : UInt8) : Bool :=
  decide (buttons &&& mask ≠ 0)

/-- The connection goes live between the inputs of `past` and those of `live`.
At every moment after that the accepted button calls alternate, starting with
a press, and after a pointer event the pressed buttons are those it asks for. -/
def TracksButtons (session : MoonlightSession)
    (past live : List RemoteInput) : Prop :=
  ∀ dropped middle, Handles session 0 past dropped middle →
    ∀ sofar later, live = sofar ++ later →
      ∀ accepted final, Handles session middle sofar accepted final →
        (∀ button, Alternates true
          (commandsFor button (buttonCommands accepted))) ∧
        ∀ earlier x y buttons, sofar = earlier ++ [.pointer x y buttons] →
          ∀ button, isOn (buttonCommands accepted) button = true ↔
            ∃ mask, (mask, button) ∈ pointerButtons ∧
              asks buttons mask = true

theorem buttonCommands_append (first second : List (Event sidecar)) :
    buttonCommands (first ++ second) =
      buttonCommands first ++ buttonCommands second :=
  List.filterMap_append

/-- The command that brings a switch from `was` to `now`, if one is needed. -/
def change (was now : Bool) : List Bool :=
  if now = was then [] else [now]

/-- The changes from one mask to the next. -/
def changes (previous buttons : UInt8) (entries : List (UInt8 × Int32)) :
    List (Int32 × Bool) :=
  entries.flatMap fun (mask, button) =>
    (change (asks previous mask) (asks buttons mask)).map fun on => (button, on)

theorem changes_self (mask : UInt8) (entries : List (UInt8 × Int32)) :
    changes mask mask entries = [] := by
  simp [changes, change]

theorem buttonCommands_buttonEvents (engine : Engine)
    (previous buttons : UInt8) (entries : List (UInt8 × Int32)) :
    buttonCommands (buttonEvents engine previous buttons entries) =
      changes previous buttons entries := by
  induction entries with
  | nil => rfl
  | cons entry rest induction =>
      obtain ⟨mask, button⟩ := entry
      rw [buttonEvents, List.flatMap_cons, buttonCommands_append, changes,
        List.flatMap_cons]
      congr 1
      by_cases now : buttons &&& mask = 0 <;>
        by_cases was : previous &&& mask = 0 <;>
        simp [now, was, asks, change, buttonCommands, buttonActionPress,
          buttonActionRelease]

theorem buttonCommands_inputEvents (session : MoonlightSession) (last : UInt8)
    (input : RemoteInput) :
    buttonCommands (inputEvents session last input) =
      changes last (maskAfter last input) pointerButtons := by
  cases input with
  | pointer x y buttons =>
      rw [inputEvents, buttonCommands_append, buttonCommands_buttonEvents]
      rfl
  | wheel x y dx dy =>
      simp only [maskAfter, changes_self]
      by_cases moved : scrollAmount dy ≠ 0 <;>
        simp [inputEvents, moved, buttonCommands]
  | key down code ch mods =>
      simp only [maskAfter, changes_self]
      cases known : vkFromCode code <;>
        simp [inputEvents, known, buttonCommands]
  | clipboardText text =>
      simp only [maskAfter, changes_self]
      rfl

theorem commandsFor_change (button other : Int32) (was now : Bool) :
    commandsFor button ((change was now).map fun on => (other, on)) =
      if other = button then change was now else [] := by
  by_cases same : other = button <;> by_cases kept : now = was <;>
    simp [commandsFor, change, same, kept]

theorem moves_change (was now : Bool) : Moves was (change was now) now := by
  cases was <;> cases now <;> simp [change, Moves]

/-- The next mask moves each button from where the last one had it. -/
theorem moves_changes {mask : UInt8} {button : Int32}
    (listed : (mask, button) ∈ pointerButtons) (previous buttons : UInt8) :
    Moves (asks previous mask)
      (commandsFor button (changes previous buttons pointerButtons))
      (asks buttons mask) := by
  have own : commandsFor button (changes previous buttons pointerButtons) =
      change (asks previous mask) (asks buttons mask) := by
    simp only [pointerButtons, List.mem_cons, Prod.mk.injEq, List.not_mem_nil,
      or_false] at listed
    obtain ⟨rfl, rfl⟩ | ⟨rfl, rfl⟩ | ⟨rfl, rfl⟩ := listed <;>
      simp [changes, pointerButtons, commandsFor_append, commandsFor_change]
  rw [own]
  exact moves_change _ _

theorem commandsFor_unlisted {button : Int32}
    (unlisted : ∀ mask, (mask, button) ∉ pointerButtons)
    (previous buttons : UInt8) :
    commandsFor button (changes previous buttons pointerButtons) = [] := by
  simp only [pointerButtons, List.mem_cons, Prod.mk.injEq, List.not_mem_nil,
    or_false, not_or, not_and] at unlisted
  obtain ⟨left, _, _⟩ := unlisted 1
  obtain ⟨_, middle, _⟩ := unlisted 2
  obtain ⟨_, _, right⟩ := unlisted 4
  simp [changes, pointerButtons, commandsFor_append, commandsFor_change,
    Ne.symm (left rfl), Ne.symm (middle rfl), Ne.symm (right rfl)]

/-- From the mask before the inputs to the mask after them, each button moves
in single steps. -/
theorem moves_inputsEvents {mask : UInt8} {button : Int32}
    (listed : (mask, button) ∈ pointerButtons) (session : MoonlightSession)
    (inputs : List RemoteInput) (last : UInt8) :
    Moves (asks last mask)
      (commandsFor button
        (buttonCommands (inputsEvents session last inputs)))
      (asks (inputs.foldl maskAfter last) mask) := by
  induction inputs generalizing last with
  | nil => rfl
  | cons input rest induction =>
      rw [inputsEvents, buttonCommands_append, commandsFor_append,
        buttonCommands_inputEvents]
      exact (moves_changes listed last _).append (induction _)

theorem commandsFor_unlisted_inputs {button : Int32}
    (unlisted : ∀ mask, (mask, button) ∉ pointerButtons)
    (session : MoonlightSession) (inputs : List RemoteInput) (last : UInt8) :
    commandsFor button
      (buttonCommands (inputsEvents session last inputs)) = [] := by
  induction inputs generalizing last with
  | nil => rfl
  | cons input rest induction =>
      rw [inputsEvents, buttonCommands_append, commandsFor_append,
        buttonCommands_inputEvents, commandsFor_unlisted unlisted, induction]
      rfl

theorem buttonCommands_of_no_pointer {inputs : List RemoteInput}
    (none : ∀ x y buttons, .pointer x y buttons ∉ inputs)
    (session : MoonlightSession) (last : UInt8) :
    buttonCommands (inputsEvents session last inputs) = [] := by
  induction inputs generalizing last with
  | nil => rfl
  | cons input rest induction =>
      have same : maskAfter last input = last := by
        cases input with
        | pointer x y buttons =>
            exact absurd List.mem_cons_self (none x y buttons)
        | _ => rfl
      rw [inputsEvents, buttonCommands_append, buttonCommands_inputEvents, same,
        changes_self, List.nil_append]
      apply induction
      intro x y buttons member
      exact none x y buttons (List.mem_cons_of_mem _ member)

theorem mask_unique {mask other : UInt8} {button : Int32}
    (first : (mask, button) ∈ pointerButtons)
    (second : (other, button) ∈ pointerButtons) : mask = other := by
  simp only [pointerButtons, List.mem_cons, Prod.mk.injEq, List.not_mem_nil,
    or_false] at first second
  obtain ⟨rfl, rfl⟩ | ⟨rfl, rfl⟩ | ⟨rfl, rfl⟩ := first <;> simp_all

theorem and_or_distrib_left (first second third : UInt8) :
    first &&& (second ||| third) = (first &&& second) ||| (first &&& third) := by
  apply UInt8.toBitVec_inj.mp
  exact BitVec.and_or_distrib_left

/-- The three buttons are the low bits of a mask. -/
theorem low_bits_zero_iff (buttons : UInt8) :
    buttons &&& 7 = 0 ↔
      ∀ mask button, (mask, button) ∈ pointerButtons →
        asks buttons mask = false := by
  constructor
  · intro zero mask button listed
    have low : 7 &&& mask = mask := by
      simp only [pointerButtons, List.mem_cons, Prod.mk.injEq,
        List.not_mem_nil, or_false] at listed
      obtain ⟨rfl, _⟩ | ⟨rfl, _⟩ | ⟨rfl, _⟩ := listed <;> rfl
    rw [asks, ← low, ← UInt8.and_assoc, zero]
    simp
  · intro silent
    have left := silent 1 1 (by simp [pointerButtons])
    have middle := silent 2 2 (by simp [pointerButtons])
    have right := silent 4 3 (by simp [pointerButtons])
    simp only [asks, decide_eq_false_iff_not, not_not] at left middle right
    rw [show (7 : UInt8) = 1 ||| 2 ||| 4 from rfl, and_or_distrib_left,
      and_or_distrib_left, left, middle, right]
    rfl

/-- The listed masks that name a button are one. -/
theorem exists_asks_iff {mask : UInt8} {button : Int32}
    (listed : (mask, button) ∈ pointerButtons) (buttons : UInt8) :
    (∃ other, (other, button) ∈ pointerButtons ∧ asks buttons other = true) ↔
      asks buttons mask = true := by
  constructor
  · rintro ⟨other, second, on⟩
    rwa [mask_unique listed second]
  · intro on
    exact ⟨mask, listed, on⟩

theorem tracksButtons_of_released {session : MoonlightSession}
    {past live : List RemoteInput}
    (released : past.foldl maskAfter 0 &&& 7 = 0) :
    TracksButtons session past live := by
  intro dropped middle before sofar later _ accepted final handled
  obtain ⟨_, rfl⟩ := handles_iff.mp before
  obtain ⟨rfl, rfl⟩ := handles_iff.mp handled
  have up := (low_bits_zero_iff _).mp released
  constructor
  · intro button
    by_cases listed : ∃ mask, (mask, button) ∈ pointerButtons
    · obtain ⟨mask, listed⟩ := listed
      have moves := moves_inputsEvents listed session sofar
        (past.foldl maskAfter 0)
      rw [up mask button listed] at moves
      exact moves.alternates
    · rw [commandsFor_unlisted_inputs (not_exists.mp listed)]
      trivial
  · rintro earlier x y buttons rfl button
    by_cases listed : ∃ mask, (mask, button) ∈ pointerButtons
    · obtain ⟨mask, listed⟩ := listed
      have moves := moves_inputsEvents listed session
        (earlier ++ [.pointer x y buttons]) (past.foldl maskAfter 0)
      rw [up mask button listed, List.foldl_append] at moves
      rw [exists_asks_iff listed, isOn, moves.last]
      rfl
    · rw [isOn, commandsFor_unlisted_inputs (not_exists.mp listed)]
      simp [not_exists.mp listed]

theorem tracksButtons_of_silent {session : MoonlightSession}
    {past live : List RemoteInput}
    (silent : ∀ x y buttons, .pointer x y buttons ∉ live) :
    TracksButtons session past live := by
  rintro dropped middle _ sofar later rfl accepted final handled
  obtain ⟨rfl, rfl⟩ := handles_iff.mp handled
  have none : ∀ x y buttons, .pointer x y buttons ∉ sofar := by
    intro x y buttons member
    exact silent x y buttons (List.mem_append_left _ member)
  constructor
  · intro button
    rw [buttonCommands_of_no_pointer none]
    trivial
  · rintro earlier x y buttons rfl
    exact absurd (by simp) (none x y buttons)

/-- A button that was down at that moment is told wrong by the next pointer
event. -/
theorem not_tracksButtons {session : MoonlightSession}
    {past earlier later : List RemoteInput} {x y : UInt16} {buttons : UInt8}
    (held : past.foldl maskAfter 0 &&& 7 ≠ 0) :
    ¬ TracksButtons session past
      (earlier ++ .pointer x y buttons :: later) := by
  intro tracks
  rw [Ne, low_bits_zero_iff] at held
  push Not at held
  obtain ⟨mask, button, listed, down⟩ := held
  obtain ⟨alternates, agrees⟩ := tracks _ _ (handles_iff.mpr ⟨rfl, rfl⟩)
    (earlier ++ [.pointer x y buttons]) later (by simp) _ _
    (handles_iff.mpr ⟨rfl, rfl⟩)
  have moves := moves_inputsEvents listed session
    (earlier ++ [.pointer x y buttons]) (past.foldl maskAfter 0)
  rw [eq_true_of_ne_false down, List.foldl_append] at moves
  apply moves.mistaken (alternates button)
  apply Bool.eq_iff_iff.mpr
  exact (agrees earlier x y buttons rfl button).trans
    (exists_asks_iff listed buttons)

/-- The host's buttons are right exactly when no button was down at the moment
the connection went live, or no pointer event follows. -/
theorem pointer_button_tracking (session : MoonlightSession)
    (past live : List RemoteInput) :
    TracksButtons session past live ↔
      (∀ x y buttons, .pointer x y buttons ∉ live) ∨
        past.foldl maskAfter 0 &&& 7 = 0 := by
  constructor
  · intro tracks
    by_contra neither
    push Not at neither
    obtain ⟨⟨x, y, buttons, member⟩, held⟩ := neither
    obtain ⟨earlier, later, rfl⟩ := List.append_of_mem member
    exact not_tracksButtons held tracks
  · rintro (silent | released)
    · exact tracksButtons_of_silent silent
    · exact tracksButtons_of_released released

/-- A button pressed before the connection is live, and released after. -/
theorem pointer_button_tracking_early :
    ¬ TracksButtons ⟨0, 1920, 1080⟩ [.pointer 10 10 1] [.pointer 10 10 0] := by
  apply @not_tracksButtons _ _ []
  decide

end Session

end MoonlightAddon
