import MoonlightAddon.Effect

/-!
# Programs against a deterministic environment

A responder answers every command from a state of its own.  `serve` runs a
program against one, with the loops as a parameter; `serveLoops` unfolds each
loop a bounded number of times.  What is served is a run of the program.
-/

namespace MoonlightAddon

/-- An environment that answers every command. -/
abbrev Responder (S : Signature) (σ : Type) :=
  σ → (command : S.Command) → S.Reply command × σ

namespace Program

variable {S : Signature} {σ α β : Type}

/-- What a served program returns, with its trace and the responder's state. -/
abbrev Served (S : Signature) (σ α : Type) :=
  Option (α × List (Event S) × σ)

/-- Run the program to its end; `none` when a loop does not return. -/
def serve (respond : Responder S σ)
    (loops : (loop : S.Loop) → σ → Served S σ (S.Result loop)) :
    Program S α → σ → Served S σ α
  | .ret value, state => some (value, [], state)
  | .act command next, state =>
      let (reply, after) := respond state command
      match serve respond loops (next reply) after with
      | none => none
      | some (value, trace, final) =>
          some (value, ⟨command, reply⟩ :: trace, final)
  | .enter loop next, state =>
      match loops loop state with
      | none => none
      | some (result, first, after) =>
          match serve respond loops (next result) after with
          | none => none
          | some (value, trace, final) => some (value, first ++ trace, final)

/-- Serve the loops with at most `count` nested unfoldings. -/
def serveLoops (respond : Responder S σ)
    (bodies : (loop : S.Loop) → Program S (S.Result loop)) :
    (count : Nat) → (loop : S.Loop) → σ → Served S σ (S.Result loop)
  | 0, _, _ => none
  | count + 1, loop, state =>
      serve respond (serveLoops respond bodies count) (bodies loop) state

section

variable {respond : Responder S σ}
  {loops : (loop : S.Loop) → σ → Served S σ (S.Result loop)}

theorem serve_bind {program : Program S α} {rest : α → Program S β}
    {state middle final : σ} {value : α} {result : β}
    {first second : List (Event S)}
    (start : serve respond loops program state = some (value, first, middle))
    (finish : serve respond loops (rest value) middle =
      some (result, second, final)) :
    serve respond loops (program.bind rest) state =
      some (result, first ++ second, final) := by
  induction program generalizing state first with
  | ret returned =>
      simp only [serve, Option.some.injEq, Prod.mk.injEq] at start
      obtain ⟨rfl, rfl, rfl⟩ := start
      exact finish
  | act command next induction =>
      rw [serve] at start
      cases served : serve respond loops (next (respond state command).1)
          (respond state command).2 with
      | none => simp [served] at start
      | some answer =>
          obtain ⟨returned, trace, after⟩ := answer
          simp only [served, Option.some.injEq, Prod.mk.injEq] at start
          obtain ⟨rfl, rfl, rfl⟩ := start
          simp only [act_bind, serve, induction _ served, List.cons_append]
  | enter loop next induction =>
      rw [serve] at start
      cases returned : loops loop state with
      | none => simp [returned] at start
      | some answer =>
          obtain ⟨looped, before, after⟩ := answer
          cases served : serve respond loops (next looped) after with
          | none => simp [returned, served] at start
          | some answer =>
              obtain ⟨last, trace, ended⟩ := answer
              simp only [returned, served, Option.some.injEq,
                Prod.mk.injEq] at start
              obtain ⟨rfl, rfl, rfl⟩ := start
              simp only [enter_bind, serve, returned, induction _ served,
                List.append_assoc]

/-- The program returns `value` and leaves the responder in `final`. -/
def Serves (respond : Responder S σ)
    (loops : (loop : S.Loop) → σ → Served S σ (S.Result loop))
    (program : Program S α) (state : σ) (value : α) (final : σ) : Prop :=
  ∃ trace, serve respond loops program state = some (value, trace, final)

theorem Serves.ret {value : α} {state : σ} :
    Serves respond loops (.ret value) state value state :=
  ⟨[], rfl⟩

theorem Serves.bind {program : Program S α} {rest : α → Program S β}
    {state middle final : σ} {value : α} {result : β}
    (start : Serves respond loops program state value middle)
    (finish : Serves respond loops (rest value) middle result final) :
    Serves respond loops (program.bind rest) state result final := by
  obtain ⟨first, start⟩ := start
  obtain ⟨second, finish⟩ := finish
  exact ⟨first ++ second, serve_bind start finish⟩

theorem Serves.sequence {effect : Effect S α} {rest : α → Effect S β}
    {state middle final : σ} {value : α} {result : Outcome β}
    (start : Serves respond loops effect state (.ok value) middle)
    (finish : Serves respond loops (rest value) middle result final) :
    Serves respond loops (effect >>= rest : Effect S β) state result final :=
  Serves.bind start finish

theorem Serves.perform {command : S.Command} {state : σ} :
    Serves respond loops (Effect.perform command) state
      (.ok (respond state command).1) (respond state command).2 :=
  ⟨[⟨command, (respond state command).1⟩], rfl⟩

theorem Serves.performResult {command : S.Command}
    {result : S.Reply command → Except Text α} {state : σ} :
    Serves respond loops (Effect.performResult command result) state
      (Outcome.ofExcept (result (respond state command).1))
      (respond state command).2 :=
  ⟨[⟨command, (respond state command).1⟩], rfl⟩

end

section

variable {bodies : (loop : S.Loop) → Program S (S.Result loop)}

theorem Run.append {start middle finish : Program S α}
    {first second : List (Event S)}
    (before : Run bodies start first middle)
    (after : Run bodies middle second finish) :
    Run bodies start (first ++ second) finish := by
  induction before with
  | refl program => exact after
  | step stepped rest induction =>
      rw [List.append_assoc]
      exact .step stepped (induction after)

theorem Step.bind {program after : Program S α} {event : Option (Event S)}
    (rest : α → Program S β) (stepped : Step bodies program event after) :
    Step bodies (program.bind rest) event (after.bind rest) := by
  cases stepped with
  | act reply => exact .act reply
  | unfold =>
      rw [bind_assoc]
      exact .unfold

theorem Run.bind {program after : Program S α} {trace : List (Event S)}
    (rest : α → Program S β) (run : Run bodies program trace after) :
    Run bodies (program.bind rest) trace (after.bind rest) := by
  induction run with
  | refl program => exact .refl _
  | step stepped run induction => exact .step (stepped.bind rest) induction

/-- Serving a program whose loops are served truthfully is running it. -/
theorem run_of_serve {respond : Responder S σ}
    {loops : (loop : S.Loop) → σ → Served S σ (S.Result loop)}
    (truthful : ∀ loop state result trace after,
      loops loop state = some (result, trace, after) →
        Run bodies (bodies loop) trace (.ret result))
    {program : Program S α} {state final : σ} {value : α}
    {trace : List (Event S)}
    (served : serve respond loops program state = some (value, trace, final)) :
    Run bodies program trace (.ret value) := by
  induction program generalizing state trace with
  | ret returned =>
      simp only [serve, Option.some.injEq, Prod.mk.injEq] at served
      obtain ⟨rfl, rfl, rfl⟩ := served
      exact .refl _
  | act command next induction =>
      rw [serve] at served
      cases tail : serve respond loops (next (respond state command).1)
          (respond state command).2 with
      | none => simp [tail] at served
      | some answer =>
          obtain ⟨returned, later, after⟩ := answer
          simp only [tail, Option.some.injEq, Prod.mk.injEq] at served
          obtain ⟨rfl, rfl, rfl⟩ := served
          exact .step (.act _) (induction _ tail)
  | enter loop next induction =>
      rw [serve] at served
      cases returned : loops loop state with
      | none => simp [returned] at served
      | some answer =>
          obtain ⟨looped, before, after⟩ := answer
          cases tail : serve respond loops (next looped) after with
          | none => simp [returned, tail] at served
          | some answer =>
              obtain ⟨last, later, ended⟩ := answer
              simp only [returned, tail, Option.some.injEq,
                Prod.mk.injEq] at served
              obtain ⟨rfl, rfl, rfl⟩ := served
              have body := (truthful loop state looped before after
                returned).bind next
              exact .step .unfold (body.append (induction _ tail))

theorem run_of_serveLoops {respond : Responder S σ} {count : Nat}
    {loop : S.Loop} {state final : σ} {result : S.Result loop}
    {trace : List (Event S)}
    (served : serveLoops respond bodies count loop state =
      some (result, trace, final)) :
    Run bodies (bodies loop) trace (.ret result) := by
  induction count generalizing loop state trace final with
  | zero => simp [serveLoops] at served
  | succ count induction =>
      rw [serveLoops] at served
      apply run_of_serve _ served
      intro loop state result trace after inner
      exact induction inner

/-- A check on what a served program returns and on its trace is a fact about
some run. -/
theorem exists_run_of_serve {respond : Responder S σ} {count : Nat}
    {program : Program S α} {state : σ}
    (check : α → List (Event S) → Bool)
    (passes : (serve respond (serveLoops respond bodies count) program
      state).any (fun answer => check answer.1 answer.2.1) = true) :
    ∃ value trace, Run bodies program trace (.ret value) ∧
      check value trace = true := by
  cases served : serve respond (serveLoops respond bodies count) program
      state with
  | none => simp [served] at passes
  | some answer =>
      obtain ⟨value, trace, final⟩ := answer
      refine ⟨value, trace, run_of_serve ?_ served,
        by simpa [served] using passes⟩
      intro loop state result trace after returned
      exact run_of_serveLoops returned

end

end Program

end MoonlightAddon
