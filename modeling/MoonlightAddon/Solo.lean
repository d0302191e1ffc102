import MoonlightAddon.Effect
import MoonlightAddon.Interleaving

/-!
# One thread alone

What a thread of a machine can get done while the others rest and the
environment answers it: its program and the shared state advance together, a
reply at a time.
-/

namespace MoonlightAddon

namespace Machine

variable {S : Signature} {M : Machine S} {thread : M.Thread} {α β : Type}

/-- A course of one thread alone. -/
inductive Solo (thread : M.Thread) :
    Program S α → M.Shared → List (Event S) → Program S α → M.Shared → Prop where
  | refl (program : Program S α) (shared : M.Shared) :
      Solo thread program shared [] program shared
  | act {command : S.Command} {next : S.Reply command → Program S α}
      {finish : Program S α} {shared after : M.Shared} {answer : M.Answer}
      {reply : S.Reply command} {trace : List (Event S)}
      (replied : M.reply thread shared command answer = some reply)
      (unforked : M.fork ⟨command, reply⟩ shared = none)
      (rest : Solo thread (next reply) (M.effect thread ⟨command, reply⟩ shared)
        trace finish after) :
      Solo thread (.act command next) shared (⟨command, reply⟩ :: trace) finish
        after
  | enter {loop : S.Loop} {next : S.Result loop → Program S α}
      {finish : Program S α} {shared after : M.Shared} {trace : List (Event S)}
      (answer : M.Answer)
      (rest : Solo thread ((M.bodies loop).bind next) shared trace finish
        after) :
      Solo thread (.enter loop next) shared trace finish after

section Courses

variable {program middle finish : Program S α} {before between after : M.Shared}
  {first second trace : List (Event S)}

theorem Solo.append (one : Solo thread program before first middle between)
    (two : Solo thread middle between second finish after) :
    Solo thread program before (first ++ second) finish after := by
  induction one with
  | refl => exact two
  | act replied unforked rest induction =>
      exact .act replied unforked (induction two)
  | enter answer rest induction => exact .enter answer (induction two)

theorem Solo.bind (solo : Solo thread program before trace finish after)
    (rest : α → Program S β) :
    Solo thread (program.bind rest) before trace (finish.bind rest) after := by
  induction solo with
  | refl => exact .refl _ _
  | act replied unforked later induction =>
      exact .act replied unforked induction
  | enter answer later induction =>
      apply Solo.enter answer
      rw [← Program.bind_assoc]
      exact induction

end Courses

/-- The machine follows a course of one of its threads. -/
theorem exists_run_of_solo {start config : M.Config} {past : M.Trace}
    {trace : List (Event S)} {finish : Program S Unit} {after : M.Shared}
    (run : Run start past config)
    (solo : Solo thread (config.pool thread) config.shared trace finish after) :
    ∃ more last, Run start (past ++ more) last ∧ eventsOf thread more = trace ∧
      last.pool thread = finish ∧ last.shared = after := by
  generalize begins : config.pool thread = program at solo
  generalize shares : config.shared = shared at solo
  induction solo generalizing past config with
  | refl => exact ⟨[], config, by simpa using run, rfl, begins, shares⟩
  | @act command next finish shared after answer reply trace replied unforked
      rest induction =>
      subst shares
      have stepped : step (.run thread answer) config =
          some (some (.ran thread ⟨command, reply⟩),
            { shared := M.effect thread ⟨command, reply⟩ config.shared
              pool := Function.update config.pool thread (next reply) }) := by
        simp only [step, begins, replied, spawned, unforked]
      obtain ⟨more, last, later, events, reached, shares⟩ :=
        induction (run.snoc stepped) (Function.update_self ..) rfl
      refine ⟨.ran thread ⟨command, reply⟩ :: more, last, ?_, ?_, reached, shares⟩
      · simpa using later
      · rw [← List.singleton_append, eventsOf_append, eventsOf_ran_self, events]
        rfl
  | @enter loop next finish shared after trace answer rest induction =>
      subst shares
      have stepped : step (.run thread answer) config =
          some (none, { config with
            pool := Function.update config.pool thread
              ((M.bodies loop).bind next) }) := by
        simp only [step, begins]
      have moved := run.snoc stepped
      rw [Option.toList_none, List.append_nil] at moved
      exact induction moved (Function.update_self ..) rfl

/-! ### Effects -/

/-- The effect can return the value, alone, between these shared states. -/
def Obtains (thread : M.Thread) (effect : Effect S α) (before : M.Shared)
    (value : α) (after : M.Shared) : Prop :=
  ∃ trace, Solo thread effect before trace (.ret (.ok value)) after

/-- The program can get past the event, alone, to what is left of it. -/
def Leads (thread : M.Thread) (program : Program S α) (before : M.Shared)
    (event : Event S) (finish : Program S α) (after : M.Shared) : Prop :=
  ∃ trace, Solo thread program before trace finish after ∧ event ∈ trace

section Rules

variable {effect : Effect S α} {value : α} {before between after : M.Shared}

theorem obtains_done {outcome : Outcome α} (returned : outcome = .ok value)
    (shared : M.Shared) :
    Obtains thread (Effect.done outcome : Effect S α) shared value shared := by
  subst returned
  exact ⟨[], .refl _ _⟩

theorem obtains_performResult {command : S.Command}
    {result : S.Reply command → Except Text α} (answer : M.Answer)
    {reply : S.Reply command}
    (replied : M.reply thread before command answer = some reply)
    (unforked : M.fork ⟨command, reply⟩ before = none)
    (returned : result reply = .ok value) :
    Obtains thread (Effect.performResult command result) before value
      (M.effect thread ⟨command, reply⟩ before) := by
  have solo : Solo thread (Effect.performResult command result) before
      [⟨command, reply⟩] (.ret (Outcome.ofExcept (result reply)))
      (M.effect thread ⟨command, reply⟩ before) :=
    .act replied unforked (.refl _ _)
  rw [returned] at solo
  exact ⟨_, solo⟩

theorem obtains_perform {command : S.Command} (answer : M.Answer)
    {reply : S.Reply command}
    (replied : M.reply thread before command answer = some reply)
    (unforked : M.fork ⟨command, reply⟩ before = none) :
    Obtains thread (Effect.perform command) before reply
      (M.effect thread ⟨command, reply⟩ before) :=
  ⟨_, .act replied unforked (.refl _ _)⟩

theorem obtains_bind {rest : α → Effect S β} {result : β}
    (first : Obtains thread effect before value between)
    (later : Obtains thread (rest value) between result after) :
    Obtains thread (effect >>= rest : Effect S β) before result after := by
  obtain ⟨one, first⟩ := first
  obtain ⟨two, later⟩ := later
  exact ⟨one ++ two, (first.bind _).append later⟩

theorem obtains_attempt (obtains : Obtains thread effect before value after) :
    Obtains thread (Effect.attempt effect) before (.ok value) after := by
  obtain ⟨trace, solo⟩ := obtains
  exact ⟨trace, solo.bind _⟩

theorem Leads.bind {program finish : Program S α} {event : Event S}
    (leads : Leads thread program before event finish after)
    (rest : α → Program S β) :
    Leads thread (program.bind rest) before event (finish.bind rest) after := by
  obtain ⟨trace, solo, member⟩ := leads
  exact ⟨trace, solo.bind rest, member⟩

/-- The event comes up in what follows. -/
theorem Obtains.leads {rest : α → Effect S β} {event : Event S}
    {finish : Program S (Outcome β)}
    (first : Obtains thread effect before value between)
    (later : Leads thread (rest value) between event finish after) :
    Leads thread (effect >>= rest : Effect S β) before event finish after := by
  obtain ⟨one, first⟩ := first
  obtain ⟨two, later, member⟩ := later
  exact ⟨one ++ two, (first.bind _).append later,
    List.mem_append_right one member⟩

theorem leads_act {command : S.Command}
    {next : S.Reply command → Program S α} (answer : M.Answer)
    {reply : S.Reply command}
    (replied : M.reply thread before command answer = some reply)
    (unforked : M.fork ⟨command, reply⟩ before = none) :
    Leads thread (.act command next) before ⟨command, reply⟩ (next reply)
      (M.effect thread ⟨command, reply⟩ before) :=
  ⟨_, .act replied unforked (.refl _ _), List.mem_cons_self⟩

/-- The event has come up, and the effect goes on. -/
theorem Leads.then {program : Effect S β} {rest : α → Effect S β}
    {event : Event S}
    (leads : Leads thread program before event (effect >>= rest : Effect S β)
      between)
    (obtains : Obtains thread effect between value after) :
    Leads thread program before event (rest value) after := by
  obtain ⟨one, solo, member⟩ := leads
  obtain ⟨two, later⟩ := obtains
  exact ⟨one ++ two, solo.append (later.bind _), List.mem_append_left two member⟩

end Rules

end Machine

end MoonlightAddon
