import Mathlib.Data.List.Basic
import Mathlib.Logic.Function.Basic

/-!
# Observers

An observer reads a stream entry by entry and refuses what it did not expect;
the streams it reads to the end are the runs of a specification.  An observer
of one conversation gives one of many conversations that share a stream.
-/

namespace MoonlightAddon

structure Observer (α : Type) where
  State : Type
  /-- `none` refuses the entry. -/
  step : State → α → Option State

namespace Observer

variable {α κ : Type}

def watch (observer : Observer α) :
    observer.State → List α → Option observer.State
  | state, [] => some state
  | state, entry :: rest =>
      match observer.step state entry with
      | none => none
      | some next => observer.watch next rest

variable {observer : Observer α} {state middle final : observer.State}
  {first second : List α}

theorem watch_cons {entry : α}
    (stepped : observer.step state entry = some middle) (rest : List α) :
    observer.watch state (entry :: rest) = observer.watch middle rest := by
  simp only [watch, stepped]

/-- An observer that read a stream read its first entry. -/
theorem step_of_watch {entry : α} {rest : List α}
    (watched : observer.watch state (entry :: rest) = some final) :
    ∃ middle, observer.step state entry = some middle ∧
      observer.watch middle rest = some final := by
  cases stepped : observer.step state entry with
  | none => simp [watch, stepped] at watched
  | some middle =>
      rw [watch_cons stepped] at watched
      exact ⟨middle, rfl, watched⟩

theorem watch_append (begins : observer.watch state first = some middle)
    (ends : observer.watch middle second = some final) :
    observer.watch state (first ++ second) = some final := by
  induction first generalizing state with
  | nil =>
      obtain rfl := Option.some.inj begins
      exact ends
  | cons entry rest induction =>
      obtain ⟨next, stepped, begins⟩ := step_of_watch begins
      rw [List.cons_append, watch_cons stepped]
      exact induction begins

theorem watch_snoc {entry : α}
    (begins : observer.watch state first = some middle)
    (stepped : observer.step middle entry = some final) :
    observer.watch state (first ++ [entry]) = some final := by
  apply watch_append begins
  rw [watch_cons stepped]
  rfl

section Each

variable [DecidableEq κ] (observer : Observer α)

/-- One observer for each key; an entry goes to the one it is addressed to. -/
def each : Observer (κ × α) where
  State := κ → observer.State
  step states entry :=
    (observer.step (states entry.1) entry.2).map
      (Function.update states entry.1)

/-- The entries addressed to one key. -/
def addressed (key : κ) (entries : List (κ × α)) : List α :=
  entries.filterMap fun entry =>
    if entry.1 = key then some entry.2 else none

theorem addressed_cons_self (key : κ) (entry : α) (rest : List (κ × α)) :
    addressed key ((key, entry) :: rest) = entry :: addressed key rest := by
  simp [addressed]

theorem addressed_cons_ne {key other : κ} (distinct : other ≠ key) (entry : α)
    (rest : List (κ × α)) :
    addressed key ((other, entry) :: rest) = addressed key rest := by
  simp [addressed, distinct]

variable {observer} {states after : κ → observer.State}

/-- What many read together, each reads by itself. -/
theorem watch_addressed {entries : List (κ × α)}
    (watched : observer.each.watch states entries = some after) (key : κ) :
    observer.watch (states key) (addressed key entries) =
      some (after key) := by
  induction entries generalizing states with
  | nil =>
      obtain rfl := Option.some.inj watched
      rfl
  | cons entry rest induction =>
      obtain ⟨addressee, entry⟩ := entry
      obtain ⟨middle, stepped, watched⟩ := step_of_watch watched
      have later := induction watched
      obtain ⟨next, own, rfl⟩ := Option.map_eq_some_iff.mp stepped
      by_cases same : addressee = key
      · subst same
        rw [addressed_cons_self, watch_cons own]
        simpa using later
      · rw [addressed_cons_ne same]
        simpa [Function.update_of_ne (Ne.symm same)] using later

end Each

end Observer

end MoonlightAddon
