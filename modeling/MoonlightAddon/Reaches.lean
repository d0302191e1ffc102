import MoonlightAddon.Responder

/-!
# Events a program can get to

A program reaches an event if some environment answers it so that the event
comes up in its run; an effect can return a value if one lets it.  Both are
built along the program, a reply at a time.
-/

namespace MoonlightAddon

namespace Program

variable {S : Signature} {α β : Type}
  {bodies : (loop : S.Loop) → Program S (S.Result loop)}

/-- Some run of the program gets to the event. -/
def Reaches (bodies : (loop : S.Loop) → Program S (S.Result loop))
    (program : Program S α) (event : Event S) : Prop :=
  ∃ trace finish, Run bodies program trace finish ∧ event ∈ trace

/-- Some run of the effect returns the value. -/
def Returns (bodies : (loop : S.Loop) → Program S (S.Result loop))
    (effect : Effect S α) (value : α) : Prop :=
  ∃ trace, Run bodies effect trace (.ret (.ok value))

theorem Run.perform {command : S.Command} {next : S.Reply command → Program S α}
    (reply : S.Reply command) :
    Run bodies (.act command next) [⟨command, reply⟩] (next reply) :=
  .step (.act reply) (.refl _)

theorem returns_pure (value : α) :
    Returns bodies (pure value : Effect S α) value :=
  ⟨[], .refl _⟩

theorem returns_done {outcome : Outcome α} {value : α}
    (returned : outcome = .ok value) :
    Returns bodies (Effect.done outcome) value := by
  subst returned
  exact ⟨[], .refl _⟩

theorem returns_perform {command : S.Command} (reply : S.Reply command) :
    Returns bodies (Effect.perform command) reply :=
  ⟨_, Run.perform reply⟩

theorem returns_performResult {command : S.Command}
    {result : S.Reply command → Except Text α} (reply : S.Reply command)
    {value : α} (returned : result reply = .ok value) :
    Returns bodies (Effect.performResult command result) value := by
  have run := @Run.perform S (Outcome α) bodies command
    (fun reply => .ret (Outcome.ofExcept (result reply))) reply
  rw [returned] at run
  exact ⟨_, run⟩

theorem returns_bind {effect : Effect S α} {rest : α → Effect S β} {value : α}
    {result : β} (first : Returns bodies effect value)
    (later : Returns bodies (rest value) result) :
    Returns bodies (effect >>= rest : Effect S β) result := by
  obtain ⟨before, first⟩ := first
  obtain ⟨after, later⟩ := later
  exact ⟨before ++ after, (first.bind _).append later⟩

theorem returns_attempt {effect : Effect S α} {value : α}
    (returns : Returns bodies effect value) :
    Returns bodies (Effect.attempt effect) (.ok value) := by
  obtain ⟨trace, run⟩ := returns
  exact ⟨trace, run.bind _⟩

theorem reaches_act {command : S.Command}
    {next : S.Reply command → Program S α} (reply : S.Reply command) :
    Reaches bodies (.act command next) ⟨command, reply⟩ :=
  ⟨_, _, Run.perform reply, List.mem_cons_self⟩

theorem Reaches.bind {program : Program S α} {event : Event S}
    (reaches : Reaches bodies program event) (rest : α → Program S β) :
    Reaches bodies (program.bind rest) event := by
  obtain ⟨trace, finish, run, member⟩ := reaches
  exact ⟨trace, finish.bind rest, run.bind rest, member⟩

/-- The event comes up in what follows. -/
theorem Returns.reaches {effect : Effect S α} {rest : α → Effect S β}
    {value : α} {event : Event S} (returns : Returns bodies effect value)
    (later : Reaches bodies (rest value) event) :
    Reaches bodies (effect >>= rest : Effect S β) event := by
  obtain ⟨before, first⟩ := returns
  obtain ⟨after, finish, run, member⟩ := later
  exact ⟨before ++ after, finish, (first.bind _).append run,
    List.mem_append_right before member⟩

end Program

end MoonlightAddon
