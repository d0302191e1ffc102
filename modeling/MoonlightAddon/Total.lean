import MoonlightAddon.Effect

/-!
# Programs that end

Total correctness.  A typestate is read here as an environment: the events it
allows in a state are the answers the program may get there.  `Ends` holds of
a program that never lacks an answer, never runs forever and returns only what
the postcondition admits, whichever answers it gets.
-/

namespace MoonlightAddon

namespace Typestate

variable {S : Signature} {α β : Type} {T : Typestate S}
  {bodies : (loop : S.Loop) → Program S (S.Result loop)}

/-- The derivation is the tree of all runs, so it bounds each of them. -/
inductive Ends (T : Typestate S)
    (bodies : (loop : S.Loop) → Program S (S.Result loop))
    (post : α → T.State → Prop) : Program S α → T.State → Prop where
  | ret {value : α} {state : T.State} :
      post value state → Ends T bodies post (.ret value) state
  | act {command : S.Command} {next : S.Reply command → Program S α}
      {state : T.State} :
      (∃ reply after, T.Next state ⟨command, reply⟩ after) →
      (∀ reply after, T.Next state ⟨command, reply⟩ after →
        Ends T bodies post (next reply) after) →
      Ends T bodies post (.act command next) state
  | enter {loop : S.Loop} {next : S.Result loop → Program S α}
      {state : T.State} :
      Ends T bodies post ((bodies loop).bind next) state →
      Ends T bodies post (.enter loop next) state

theorem Ends.mono {program : Program S α} {post weaker : α → T.State → Prop}
    {state : T.State} (ends : T.Ends bodies post program state)
    (weaken : ∀ value after, post value after → weaker value after) :
    T.Ends bodies weaker program state := by
  induction ends with
  | ret holds => exact .ret (weaken _ _ holds)
  | act answered _ induction => exact .act answered induction
  | enter _ induction => exact .enter induction

theorem Ends.bind {program : Program S α} {rest : α → Program S β}
    {post : β → T.State → Prop} {state : T.State}
    (ends : T.Ends bodies
      (fun value after => T.Ends bodies post (rest value) after)
      program state) :
    T.Ends bodies post (program.bind rest) state := by
  induction ends with
  | ret holds => exact holds
  | act answered _ induction => exact .act answered induction
  | enter _ induction =>
      apply Ends.enter
      rwa [Program.bind_assoc] at induction

theorem ends_if {condition : Prop} [Decidable condition]
    {first second : Program S α} {post : α → T.State → Prop} {state : T.State}
    (positive : condition → T.Ends bodies post first state)
    (negative : ¬ condition → T.Ends bodies post second state) :
    T.Ends bodies post (if condition then first else second) state := by
  by_cases holds : condition
  · rw [if_pos holds]
    exact positive holds
  · rw [if_neg holds]
    exact negative holds

theorem ends_repeatLoop {loop : S.Loop} {post : S.Result loop → T.State → Prop}
    {state : T.State} (ends : T.Ends bodies post (bodies loop) state) :
    T.Ends bodies post (Program.repeatLoop loop) state := by
  apply Ends.enter
  apply Ends.bind
  apply ends.mono
  intro result after holds
  exact .ret holds

section Running

theorem Ends.step {start finish : Program S α} {event : Option (Event S)}
    {post : α → T.State → Prop} {state after : T.State}
    (ends : T.Ends bodies post start state)
    (step : Program.Step bodies start event finish)
    (path : T.Path state event.toList after) :
    T.Ends bodies post finish after := by
  cases step with
  | act reply =>
      cases ends with
      | act answered later =>
          cases path with
          | step allowed rest =>
              obtain rfl := rest.eq_of_nil
              exact later _ _ allowed
  | unfold =>
      cases ends with
      | enter unfolded =>
          obtain rfl := path.eq_of_nil
          exact unfolded

/-- Wherever a run has got to, the program still ends from there. -/
theorem Ends.run {start finish : Program S α} {trace : List (Event S)}
    {post : α → T.State → Prop} {state after : T.State}
    (ends : T.Ends bodies post start state)
    (run : Program.Run bodies start trace finish)
    (path : T.Path state trace after) :
    T.Ends bodies post finish after := by
  induction run generalizing state with
  | refl program =>
      obtain rfl := path.eq_of_nil
      exact ends
  | step first rest induction =>
      obtain ⟨middle, before, later⟩ := path.of_append
      exact induction (ends.step first before) later

theorem Ends.returned {start : Program S α} {value : α}
    {trace : List (Event S)} {post : α → T.State → Prop}
    {state final : T.State} (ends : T.Ends bodies post start state)
    (run : Program.Run bodies start trace (.ret value))
    (path : T.Path state trace final) : post value final := by
  cases ends.run run path with
  | ret holds => exact holds

theorem Ends.exists_run {program : Program S α} {post : α → T.State → Prop}
    {state : T.State} (ends : T.Ends bodies post program state) :
    ∃ trace value final, Program.Run bodies program trace (.ret value) ∧
      T.Path state trace final := by
  induction ends with
  | ret holds => exact ⟨[], _, _, .refl _, .refl _⟩
  | act answered _ induction =>
      obtain ⟨reply, after, allowed⟩ := answered
      obtain ⟨trace, value, final, run, path⟩ :=
        induction reply after allowed
      exact ⟨_, value, final, .step (.act reply) run, .step allowed path⟩
  | enter _ induction =>
      obtain ⟨trace, value, final, run, path⟩ := induction
      exact ⟨_, value, final, .step .unfold run, path⟩

end Running

section Effects

/-- The postcondition a sequence asks of its first part. -/
def EndsThen (T : Typestate S)
    (bodies : (loop : S.Loop) → Program S (S.Result loop))
    (rest : α → Effect S β) (post : Outcome β → T.State → Prop) :
    Outcome α → T.State → Prop
  | .ok value, state => T.Ends bodies post (rest value) state
  | .err error, state => post (.err error) state
  | .panicked message, state => post (.panicked message) state

theorem ends_then {value : α} {rest : α → Effect S β}
    {post : Outcome β → T.State → Prop} {state : T.State}
    (ends : T.Ends bodies post (rest value) state) :
    T.EndsThen bodies rest post (.ok value) state :=
  ends

theorem ends_bind {effect : Effect S α} {rest : α → Effect S β}
    {post : Outcome β → T.State → Prop} {state : T.State}
    (ends : T.Ends bodies (T.EndsThen bodies rest post) effect state) :
    T.Ends bodies post (effect >>= rest : Effect S β) state := by
  apply Ends.bind
  apply ends.mono
  intro outcome after holds
  cases outcome with
  | ok value => exact holds
  | err error => exact .ret holds
  | panicked message => exact .ret holds

theorem ends_pure {value : α} {post : Outcome α → T.State → Prop}
    {state : T.State} (holds : post (.ok value) state) :
    T.Ends bodies post (pure value : Effect S α) state :=
  .ret holds

theorem ends_perform {command : S.Command}
    {post : Outcome (S.Reply command) → T.State → Prop} {state : T.State}
    (answered : ∃ reply after, T.Next state ⟨command, reply⟩ after)
    (holds : ∀ reply after, T.Next state ⟨command, reply⟩ after →
      post (.ok reply) after) :
    T.Ends bodies post (Effect.perform command) state :=
  .act answered fun reply after allowed => .ret (holds reply after allowed)

theorem ends_performResult {command : S.Command}
    {result : S.Reply command → Except Text α}
    {post : Outcome α → T.State → Prop} {state : T.State}
    (answered : ∃ reply after, T.Next state ⟨command, reply⟩ after)
    (holds : ∀ reply after, T.Next state ⟨command, reply⟩ after →
      post (Outcome.ofExcept (result reply)) after) :
    T.Ends bodies post (Effect.performResult command result) state :=
  .act answered fun reply after allowed => .ret (holds reply after allowed)

theorem ends_attempt {effect : Effect S α}
    {post : Outcome (Except Text α) → T.State → Prop} {state : T.State}
    (ends : T.Ends bodies (T.Caught post) effect state) :
    T.Ends bodies post (Effect.attempt effect) state := by
  apply Ends.bind
  apply ends.mono
  intro outcome after holds
  cases outcome with
  | ok value => exact .ret holds
  | err error => exact .ret holds
  | panicked message => exact .ret holds

end Effects

end Typestate

end MoonlightAddon
