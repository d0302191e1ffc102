import Mathlib.Data.List.Basic

/-!
# Switches

A stream of commands that turn named switches on and off, as the side that
obeys it sees them.  Every switch is off at first.
-/

namespace MoonlightAddon

namespace Switches

/-- The commands change a switch from `before` to `after`, one change each. -/
def Moves : Bool → List Bool → Bool → Prop
  | before, [], after => before = after
  | before, command :: rest, after => command = !before ∧ Moves command rest after

/-- Each command changes what the one before it set; the first sets `next`. -/
def Alternates : Bool → List Bool → Prop
  | _, [] => True
  | next, command :: rest => command = next ∧ Alternates (!next) rest

theorem Moves.append {before middle after : Bool} {first second : List Bool}
    (begins : Moves before first middle) (ends : Moves middle second after) :
    Moves before (first ++ second) after := by
  induction first generalizing before with
  | nil =>
      obtain rfl : before = middle := begins
      exact ends
  | cons command rest induction => exact ⟨begins.1, induction begins.2⟩

theorem Moves.alternates {before after : Bool} {commands : List Bool}
    (moves : Moves before commands after) : Alternates (!before) commands := by
  induction commands generalizing before with
  | nil => trivial
  | cons command rest induction =>
      obtain ⟨rfl, moves⟩ := moves
      exact ⟨rfl, induction moves⟩

theorem Moves.last {before after : Bool} {commands : List Bool}
    (moves : Moves before commands after) :
    commands.getLast?.getD before = after := by
  induction commands generalizing before with
  | nil => exact moves
  | cons command rest induction =>
      rw [List.getLast?_cons, Option.getD_some]
      exact induction moves.2

/-- A switch that is on while its obeyer has it off shows: the next command is
not a press, or there is none. -/
theorem Moves.mistaken {after : Bool} {commands : List Bool}
    (moves : Moves true commands after) (alternates : Alternates true commands)
    (agrees : commands.getLast?.getD false = after) : False := by
  cases commands with
  | nil =>
      obtain rfl : true = after := moves
      cases agrees
  | cons command rest =>
      obtain ⟨off, _⟩ := moves
      obtain ⟨on, _⟩ := alternates
      cases off.symm.trans on

variable {κ : Type} [DecidableEq κ]

/-- The commands for one switch, in order. -/
def commandsFor (switch : κ) (commands : List (κ × Bool)) : List Bool :=
  commands.filterMap fun command =>
    if command.1 = switch then some command.2 else none

/-- Whether a switch is on after the commands. -/
def isOn (commands : List (κ × Bool)) (switch : κ) : Bool :=
  (commandsFor switch commands).getLast?.getD false

theorem commandsFor_append (switch : κ) (first second : List (κ × Bool)) :
    commandsFor switch (first ++ second) =
      commandsFor switch first ++ commandsFor switch second :=
  List.filterMap_append

@[simp] theorem isOn_nil (switch : κ) :
    isOn ([] : List (κ × Bool)) switch = false := rfl

@[simp] theorem isOn_snoc (commands : List (κ × Bool)) (switch other : κ)
    (on : Bool) :
    isOn (commands ++ [(switch, on)]) other =
      if switch = other then on else isOn commands other := by
  by_cases same : switch = other <;> simp [isOn, commandsFor, same]

section Renaming

variable {ι : Type} [DecidableEq ι] (rename : κ → Option ι)

/-- The commands as they reach switches that may each stand for several. -/
def translate (commands : List (κ × Bool)) : List (ι × Bool) :=
  commands.filterMap fun (switch, on) => (rename switch).map fun name =>
    (name, on)

/-- A name is on exactly when one of its switches is. -/
def Faithful (commands : List (κ × Bool)) : Prop :=
  ∀ name, isOn (translate rename commands) name = true ↔
    ∃ switch, isOn commands switch = true ∧ rename switch = some name

variable {rename}

omit [DecidableEq κ] [DecidableEq ι] in
theorem translate_append (first second : List (κ × Bool)) :
    translate rename (first ++ second) =
      translate rename first ++ translate rename second :=
  List.filterMap_append

omit [DecidableEq κ] in
theorem isOn_translate_snoc (commands : List (κ × Bool)) (switch : κ)
    (on : Bool) (name : ι) :
    isOn (translate rename (commands ++ [(switch, on)])) name =
      if rename switch = some name then on
      else isOn (translate rename commands) name := by
  cases named : rename switch with
  | none =>
      have silent : translate rename [(switch, on)] = [] := by
        simp [translate, named]
      rw [translate_append, silent, List.append_nil, if_neg nofun]
  | some own =>
      have told : translate rename [(switch, on)] = [(own, on)] := by
        simp [translate, named]
      rw [translate_append, told, isOn_snoc]
      simp only [Option.some.injEq]

theorem faithful_nil : Faithful rename [] := by
  intro name
  simp [translate]

theorem Faithful.on {commands : List (κ × Bool)}
    (faithful : Faithful rename commands) (switch : κ) :
    Faithful rename (commands ++ [(switch, true)]) := by
  intro name
  simp only [isOn_translate_snoc, isOn_snoc]
  by_cases named : rename switch = some name
  · rw [if_pos named]
    exact iff_of_true rfl ⟨switch, if_pos rfl, named⟩
  · rw [if_neg named, faithful name]
    constructor
    · rintro ⟨other, on, known⟩
      refine ⟨other, ?_, known⟩
      rw [on, ite_self]
    · rintro ⟨other, on, known⟩
      refine ⟨other, ?_, known⟩
      rwa [if_neg (by rintro rfl; exact named known)] at on

/-- Switching off keeps the names right if no other switch of the name is
on. -/
theorem Faithful.off {commands : List (κ × Bool)}
    (faithful : Faithful rename commands) {switch : κ}
    (alone : ∀ name other, rename switch = some name →
      rename other = some name → isOn commands other = true →
        other = switch) :
    Faithful rename (commands ++ [(switch, false)]) := by
  intro name
  simp only [isOn_translate_snoc, isOn_snoc]
  by_cases named : rename switch = some name
  · rw [if_pos named]
    apply iff_of_false Bool.false_ne_true
    rintro ⟨other, on, known⟩
    by_cases same : switch = other
    · rw [if_pos same] at on
      cases on
    · rw [if_neg same] at on
      exact same (alone name other named known on).symm
  · rw [if_neg named, faithful name]
    constructor
    · rintro ⟨other, on, known⟩
      refine ⟨other, ?_, known⟩
      rwa [if_neg (by rintro rfl; exact named known)]
    · rintro ⟨other, on, known⟩
      refine ⟨other, ?_, known⟩
      rwa [if_neg (by rintro rfl; exact named known)] at on

theorem not_faithful_off {commands : List (κ × Bool)} {switch other : κ}
    {name : ι} (named : rename switch = some name)
    (shared : rename other = some name) (distinct : other ≠ switch)
    (on : isOn commands other = true) :
    ¬ Faithful rename (commands ++ [(switch, false)]) := by
  intro faithful
  have held : isOn (commands ++ [(switch, false)]) other = true := by
    rwa [isOn_snoc, if_neg distinct.symm]
  have down := (faithful name).mpr ⟨other, held, shared⟩
  rw [isOn_translate_snoc, if_pos named] at down
  cases down

end Renaming

end Switches

end MoonlightAddon
