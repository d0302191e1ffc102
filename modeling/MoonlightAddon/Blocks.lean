import Mathlib.Algebra.Order.Group.Nat
import Mathlib.Data.List.Basic

/-!
# Cutting a stream into blocks

The whole blocks of a list, and counted loops with their invariant rule.
-/

namespace MoonlightAddon

section Blocks

variable {α : Type}

/-- The whole blocks of `size` elements at the front of the stream. -/
def blocks (size : Nat) (stream : List α) : List (List α) :=
  (List.range (stream.length / size)).map fun index =>
    (stream.drop (size * index)).take size

theorem blocks_of_lt {size : Nat} {stream : List α}
    (short : stream.length < size) : blocks size stream = [] := by
  rw [blocks, Nat.div_eq_of_lt short]
  rfl

theorem blocks_append {size : Nat} (positive : 0 < size)
    {block : List α} (whole : block.length = size) (rest : List α) :
    blocks size (block ++ rest) = block :: blocks size rest := by
  have count : (block ++ rest).length / size = rest.length / size + 1 := by
    rw [List.length_append, whole, Nat.add_div_left _ positive]
  rw [blocks, count, List.range_succ_eq_map, List.map_cons, List.map_map]
  congr 1
  · rw [Nat.mul_zero, List.drop_zero, List.take_left' whole]
  · apply List.map_congr_left
    intro index _
    have skip : size * (index + 1) = block.length + size * index := by
      rw [whole, Nat.mul_succ, Nat.add_comm]
    rw [Function.comp_apply, skip, List.drop_length_add_append]

/-- A stream that is made of blocks is cut into these. -/
theorem blocks_flatten {size : Nat} (positive : 0 < size)
    {pieces : List (List α)} (whole : ∀ piece ∈ pieces, piece.length = size)
    {rest : List α} (short : rest.length < size) :
    blocks size (pieces.flatten ++ rest) = pieces := by
  induction pieces with
  | nil => exact blocks_of_lt short
  | cons piece pieces induction =>
      have later : ∀ piece ∈ pieces, piece.length = size :=
        fun _ member => whole _ (List.mem_cons_of_mem _ member)
      rw [List.flatten_cons, List.append_assoc,
        blocks_append positive (whole _ List.mem_cons_self),
        induction later]

theorem length_flatten {size : Nat} {pieces : List (List α)}
    (whole : ∀ piece ∈ pieces, piece.length = size) :
    pieces.flatten.length = size * pieces.length := by
  induction pieces with
  | nil => rfl
  | cons piece pieces induction =>
      rw [List.flatten_cons, List.length_append, whole _ List.mem_cons_self,
        induction fun _ member => whole _ (List.mem_cons_of_mem _ member),
        List.length_cons, Nat.mul_succ, Nat.add_comm]

end Blocks

section Loops

variable {σ : Type}

/-- `for index in start..stop { .. }`: the body gets its index in range. -/
def forRange (start : Nat) : (stop : Nat) →
    ((index : Nat) → start ≤ index → index < stop → σ → σ) → σ → σ
  | 0, _, state => state
  | stop + 1, body, state =>
      if below : start ≤ stop then
        body stop below (Nat.lt_succ_self stop)
          (forRange start stop
            (fun index lower upper =>
              body index lower (Nat.lt_succ_of_lt upper)) state)
      else
        state

/-- What the body keeps from one index to the next holds after the loop. -/
theorem forRange_invariant {start stop : Nat}
    {body : (index : Nat) → start ≤ index → index < stop → σ → σ}
    {initial : σ} (holds : Nat → σ → Prop) (ordered : start ≤ stop)
    (first : holds start initial)
    (step : ∀ index lower upper state, holds index state →
      holds (index + 1) (body index lower upper state)) :
    holds stop (forRange start stop body initial) := by
  induction stop with
  | zero =>
      obtain rfl := Nat.le_zero.mp ordered
      exact first
  | succ stop induction =>
      by_cases below : start ≤ stop
      · rw [forRange, dif_pos below]
        apply step
        apply induction below
        intro index lower upper state
        exact step index lower (Nat.lt_succ_of_lt upper) state
      · have same : start = stop + 1 :=
          Nat.le_antisymm ordered (Nat.lt_of_not_le below)
        rw [forRange, dif_neg below, ← same]
        exact first

end Loops

end MoonlightAddon
