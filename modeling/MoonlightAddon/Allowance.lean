import MoonlightAddon.Effect

/-!
# Programs with an allowance

A short program performs at most so many commands on every path, whatever the
replies are.  A longer one may run on an allowance: each command takes one from
it, certain events fill it up again, and a loop is entered only with enough
left.  Between two events that fill it up such a program does no more than a
full allowance permits.
-/

namespace MoonlightAddon

namespace Program

variable {S : Signature} {α β : Type}

/-- Without loops, and with at most this many commands on every path. -/
def Short : Program S α → Nat → Prop
  | .ret _, _ => True
  | .act _ _, 0 => False
  | .act _ next, count + 1 => ∀ reply, (next reply).Short count
  | .enter _ _, _ => False

variable {program : Program S α} {count more : Nat}

theorem Short.mono (short : program.Short count) (le : count ≤ more) :
    program.Short more := by
  induction program generalizing count more with
  | ret value => trivial
  | act command next induction =>
      cases count with
      | zero => exact absurd short id
      | succ count =>
          obtain ⟨more, rfl⟩ := Nat.exists_eq_add_of_lt le
          intro reply
          exact induction reply (short reply) (by omega)
  | enter loop next induction => exact absurd short id

theorem Short.bind {rest : α → Program S β} (short : program.Short count)
    (later : ∀ value, (rest value).Short more) :
    (program.bind rest).Short (count + more) := by
  induction program generalizing count with
  | ret value => exact (later value).mono (Nat.le_add_left _ _)
  | act command next induction =>
      cases count with
      | zero => exact absurd short id
      | succ count =>
          rw [Nat.add_right_comm]
          intro reply
          exact induction reply (short reply)
  | enter loop next induction => exact absurd short id

end Program

namespace Effect

variable {S : Signature} {α β : Type} {count spent : Nat}

def Brief (effect : Effect S α) (count : Nat) : Prop :=
  Program.Short effect count

theorem brief_done (outcome : Outcome α) :
    Brief (done outcome : Effect S α) count :=
  trivial

theorem brief_pure (value : α) : Brief (pure value : Effect S α) count :=
  trivial

theorem brief_perform (command : S.Command) :
    Brief (perform command : Effect S (S.Reply command)) 1 :=
  fun _ => trivial

theorem brief_performResult (command : S.Command)
    (result : S.Reply command → Except Text α) :
    Brief (performResult command result) 1 :=
  fun _ => trivial

theorem brief_bind {effect : Effect S α} {rest : α → Effect S β}
    (brief : Brief effect spent) (within : spent ≤ count)
    (later : ∀ value, Brief (rest value) (count - spent)) :
    Brief (effect >>= rest) count := by
  have bound : Brief (effect >>= rest) (spent + (count - spent)) := by
    apply Program.Short.bind brief
    intro outcome
    cases outcome with
    | ok value => exact later value
    | err error => trivial
    | panicked message => trivial
  rwa [Nat.add_sub_cancel' within] at bound

/-- `match` on the result of an effect. -/
theorem brief_attempt {effect : Effect S α} (brief : Brief effect count) :
    Brief (attempt effect) count := by
  have bound : Brief (attempt effect) (count + 0) := by
    apply Program.Short.bind brief
    intro outcome
    cases outcome <;> trivial
  exact bound

end Effect

namespace Typestate

variable {S : Signature} {α β : Type}

/-- What a loop needs when it is entered, and leaves when it returns. -/
structure Terms where
  need : Nat
  leave : Nat

/-- The typestate is what is left of the allowance. -/
def rationing (renews : Event S → Prop) (full : Nat)
    (terms : S.Loop → Option Terms) : Typestate S where
  State := Nat
  Next before event after :=
    after + 1 ≤ before ∨ renews event ∧ after ≤ full
  Pre loop left := ∃ term, terms loop = some term ∧ term.need ≤ left
  Post loop _ _ left := ∀ term, terms loop = some term → term.leave ≤ left

variable {renews : Event S → Prop} {full : Nat}
  {terms : S.Loop → Option Terms}

/-- A short program leaves the rest of the allowance. -/
theorem follows_short (left : Nat) {program : Program S α} {count : Nat}
    (short : program.Short count)
    {post : α → (rationing renews full terms).State → Prop}
    (later : ∀ value after, left ≤ after → post value after)
    {before : Nat} (enough : count + left ≤ before) :
    (rationing renews full terms).Follows program post before := by
  induction program generalizing count before with
  | ret value => exact later value before (by omega)
  | act command next induction =>
      cases count with
      | zero => exact absurd short id
      | succ count =>
          intro reply
          refine ⟨before - 1, .inl ?_, induction reply (short reply) ?_⟩
          · show before - 1 + 1 ≤ before
            omega
          · omega
  | enter loop next induction => exact absurd short id

/-- A brief effect before others. -/
theorem follows_brief_bind (left : Nat) {effect : Effect S α}
    {rest : α → Effect S β} {count : Nat} (brief : Effect.Brief effect count)
    {post : Outcome β → (rationing renews full terms).State → Prop}
    (later : ∀ value after, left ≤ after →
      (rationing renews full terms).Follows (rest value) post after)
    (error : ∀ error after, left ≤ after → post (.err error) after)
    (panic : ∀ message after, left ≤ after → post (.panicked message) after)
    {before : Nat} (enough : count + left ≤ before) :
    (rationing renews full terms).Follows (effect >>= rest : Effect S β) post
      before := by
  apply follows_bind
  apply follows_short left brief _ enough
  intro outcome after remains
  cases outcome with
  | ok value => exact later value after remains
  | err message => exact error message after remains
  | panicked message => exact panic message after remains

/-- No more is left than a full allowance, or than there was. -/
theorem le_of_rationed {before after : Nat} {trace : List (Event S)}
    (path : (rationing renews full terms).Path before trace after)
    (within : before ≤ full) : after ≤ full := by
  apply path.invariant (fun _ (left : Nat) => left ≤ full) within
  rintro past left event next held (taken | ⟨_, refilled⟩)
  · exact (Nat.le_of_succ_le taken).trans held
  · exact refilled

/-- As long as nothing fills the allowance up, it pays for every command. -/
theorem length_of_rationed {before after : Nat} {trace : List (Event S)}
    (path : (rationing renews full terms).Path before trace after)
    (spends : ∀ event ∈ trace, ¬ renews event) :
    trace.length + after ≤ before := by
  suffices paid : (∀ event ∈ trace, ¬ renews event) →
      trace.length + after ≤ before from paid spends
  clear spends
  apply path.invariant (fun (trace : List (Event S)) (left : Nat) =>
    (∀ event ∈ trace, ¬ renews event) → trace.length + left ≤ before)
  · intro _
    exact (Nat.zero_add _).le
  · intro past (left : Nat) event (next : Nat) held allowed spends
    have earlier : past.length + left ≤ before := held fun other member =>
      spends other (List.mem_append_left _ member)
    rcases allowed with taken | ⟨renewed, _⟩
    · have taken : next + 1 ≤ left := taken
      rw [List.length_append, List.length_singleton]
      omega
    · exact absurd renewed
        (spends event (List.mem_append_right _ List.mem_cons_self))

/-- After any past, a future that does not fill the allowance up is short. -/
theorem length_of_unrenewed {before after : Nat}
    {past future : List (Event S)}
    (path : (rationing renews full terms).Path before (past ++ future) after)
    (within : before ≤ full) (spends : ∀ event ∈ future, ¬ renews event) :
    future.length ≤ full := by
  obtain ⟨middle, first, second⟩ := path.of_append
  have bound := length_of_rationed second spends
  exact (Nat.le_of_add_right_le bound).trans (le_of_rationed first within)

end Typestate

end MoonlightAddon
