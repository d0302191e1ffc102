/-!
# Effectful programs

A program is a tree of commands: each node performs one command of a
signature and continues with the reply.  Unbounded loops are named calls,
unfolded by the semantics, so the tree itself stays inductive.  `Follows`
is a typestate logic over such programs: every command a program issues must
be allowed in the current typestate, whatever the replies are.
-/

namespace MoonlightAddon

/-- The commands of an effectful program with the type of each reply, and the
named loops it may enter with the type of each result. -/
structure Signature where
  Command : Type
  Reply : Command → Type
  Loop : Type
  Result : Loop → Type

inductive Program (S : Signature) (α : Type) : Type where
  | ret (value : α)
  | act (command : S.Command) (next : S.Reply command → Program S α)
  | enter (loop : S.Loop) (next : S.Result loop → Program S α)

/-- One executed command together with its reply. -/
structure Event (S : Signature) where
  command : S.Command
  reply : S.Reply command

namespace Program

variable {S : Signature} {α β γ : Type}

def bind : Program S α → (α → Program S β) → Program S β
  | .ret value, rest => rest value
  | .act command next, rest => .act command fun reply => (next reply).bind rest
  | .enter loop next, rest => .enter loop fun result => (next result).bind rest

def perform (command : S.Command) : Program S (S.Reply command) :=
  .act command .ret

def repeatLoop (loop : S.Loop) : Program S (S.Result loop) :=
  .enter loop .ret

@[simp] theorem ret_bind (value : α) (rest : α → Program S β) :
    (Program.ret value).bind rest = rest value := rfl

@[simp] theorem act_bind (command : S.Command)
    (next : S.Reply command → Program S α) (rest : α → Program S β) :
    (Program.act command next).bind rest =
      .act command fun reply => (next reply).bind rest := rfl

@[simp] theorem enter_bind (loop : S.Loop)
    (next : S.Result loop → Program S α) (rest : α → Program S β) :
    (Program.enter loop next).bind rest =
      .enter loop fun result => (next result).bind rest := rfl

theorem bind_assoc (program : Program S α)
    (first : α → Program S β) (second : β → Program S γ) :
    (program.bind first).bind second =
      program.bind fun value => (first value).bind second := by
  induction program with
  | ret value => rfl
  | act command next induction => simp [induction]
  | enter loop next induction => simp [induction]

/-- One small step.  Performing a command accepts every reply; entering a
loop unfolds its body silently. -/
inductive Step (bodies : (loop : S.Loop) → Program S (S.Result loop)) :
    Program S α → Option (Event S) → Program S α → Prop where
  | act {command : S.Command} {next : S.Reply command → Program S α}
      (reply : S.Reply command) :
      Step bodies (.act command next) (some ⟨command, reply⟩) (next reply)
  | unfold {loop : S.Loop} {next : S.Result loop → Program S α} :
      Step bodies (.enter loop next) none ((bodies loop).bind next)

/-- A finite run of one program with the trace of its commands. -/
inductive Run (bodies : (loop : S.Loop) → Program S (S.Result loop)) :
    Program S α → List (Event S) → Program S α → Prop where
  | refl (program : Program S α) : Run bodies program [] program
  | step {start middle finish : Program S α} {event : Option (Event S)}
      {trace : List (Event S)} :
      Step bodies start event middle →
      Run bodies middle trace finish →
      Run bodies start (event.toList ++ trace) finish

section Inversion

variable {bodies : (loop : S.Loop) → Program S (S.Result loop)}
  {trace : List (Event S)} {finish : Program S α}

theorem Run.act_cases {command : S.Command}
    {next : S.Reply command → Program S α}
    (run : Run bodies (.act command next) trace finish) :
    trace = [] ∨ ∃ reply rest, trace = ⟨command, reply⟩ :: rest ∧
      Run bodies (next reply) rest finish := by
  cases run with
  | refl => exact .inl rfl
  | step stepped rest =>
      cases stepped with
      | act reply => exact .inr ⟨reply, _, rfl, rest⟩

/-- A run of a sequence is still inside its first part, or has left it for the
second. -/
theorem Run.bind_cases {program : Program S β} {rest : β → Program S α}
    (run : Run bodies (program.bind rest) trace finish) :
    (∃ inside, Run bodies program trace inside ∧ finish = inside.bind rest) ∨
    ∃ first second value, trace = first ++ second ∧
      Run bodies program first (.ret value) ∧
      Run bodies (rest value) second finish := by
  generalize whole : program.bind rest = start at run
  induction run generalizing program with
  | refl start => exact .inl ⟨program, .refl program, whole.symm⟩
  | @step start middle finish event trace stepped run induction =>
      subst whole
      cases program with
      | ret value =>
          exact .inr ⟨[], _, value, rfl, .refl _, .step stepped run⟩
      | act command next =>
          cases stepped with
          | act reply =>
              obtain ⟨inside, within, rfl⟩ |
                ⟨first, second, value, rfl, within, later⟩ := induction rfl
              · exact .inl ⟨inside, .step (.act reply) within, rfl⟩
              · exact .inr ⟨_, second, value, rfl,
                  .step (.act reply) within, later⟩
      | enter loop next =>
          cases stepped with
          | unfold =>
              rw [← bind_assoc] at induction
              obtain ⟨inside, within, rfl⟩ |
                ⟨first, second, value, rfl, within, later⟩ := induction rfl
              · exact .inl ⟨inside, .step .unfold within, rfl⟩
              · exact .inr ⟨_, second, value, rfl,
                  .step .unfold within, later⟩

end Inversion

end Program

/-- A typestate discipline: which events are allowed in which state, and what
each loop may assume on entry and must establish when it returns. -/
structure Typestate (S : Signature) where
  State : Type
  Next : State → Event S → State → Prop
  Pre : S.Loop → State → Prop
  Post : (loop : S.Loop) → State → S.Result loop → State → Prop

namespace Typestate

variable {S : Signature} {α β : Type} (T : Typestate S)

/-- Every command of the program is allowed from `state` on, for all replies,
and every value it returns satisfies `post` in the state then reached. -/
def Follows : Program S α → (α → T.State → Prop) → T.State → Prop
  | .ret value, post, state => post value state
  | .act command next, post, state =>
      ∀ reply, ∃ after,
        T.Next state ⟨command, reply⟩ after ∧ Follows (next reply) post after
  | .enter loop next, post, state =>
      T.Pre loop state ∧
        ∀ result after, T.Post loop state result after →
          Follows (next result) post after

/-- The typestates along a trace. -/
inductive Path : T.State → List (Event S) → T.State → Prop where
  | refl (state : T.State) : Path state [] state
  | step {start middle finish : T.State} {event : Event S}
      {trace : List (Event S)} :
      T.Next start event middle →
      Path middle trace finish →
      Path start (event :: trace) finish

variable {T}

theorem Follows.mono {program : Program S α}
    {post weaker : α → T.State → Prop} {state : T.State}
    (follows : T.Follows program post state)
    (weaken : ∀ value after, post value after → weaker value after) :
    T.Follows program weaker state := by
  induction program generalizing state with
  | ret value => exact weaken value state follows
  | act command next induction =>
      intro reply
      obtain ⟨after, allowed, rest⟩ := follows reply
      exact ⟨after, allowed, induction reply rest⟩
  | enter loop next induction =>
      refine ⟨follows.1, ?_⟩
      intro result after returned
      exact induction result (follows.2 result after returned)

theorem Follows.bind {program : Program S α} {rest : α → Program S β}
    {post : β → T.State → Prop} {state : T.State}
    (follows : T.Follows program
      (fun value after => T.Follows (rest value) post after) state) :
    T.Follows (program.bind rest) post state := by
  induction program generalizing state with
  | ret value => exact follows
  | act command next induction =>
      intro reply
      obtain ⟨after, allowed, remaining⟩ := follows reply
      exact ⟨after, allowed, induction reply remaining⟩
  | enter loop next induction =>
      refine ⟨follows.1, ?_⟩
      intro result after returned
      exact induction result (follows.2 result after returned)

theorem follows_if {condition : Prop} [Decidable condition]
    {first second : Program S α} {post : α → T.State → Prop}
    {state : T.State}
    (positive : condition → T.Follows first post state)
    (negative : ¬ condition → T.Follows second post state) :
    T.Follows (if condition then first else second) post state := by
  by_cases holds : condition
  · rw [if_pos holds]
    exact positive holds
  · rw [if_neg holds]
    exact negative holds

/-- Every loop body meets the contract the discipline states for it. -/
def Sound (T : Typestate S)
    (bodies : (loop : S.Loop) → Program S (S.Result loop)) : Prop :=
  ∀ loop state, T.Pre loop state →
    T.Follows (bodies loop) (T.Post loop state) state

theorem Path.eq_of_nil {start finish : T.State}
    (path : T.Path start [] finish) : start = finish := by
  cases path
  rfl

theorem Path.append {start middle finish : T.State}
    {first second : List (Event S)}
    (before : T.Path start first middle) (after : T.Path middle second finish) :
    T.Path start (first ++ second) finish := by
  induction before with
  | refl state => exact after
  | step allowed tail induction => exact .step allowed (induction after)

theorem Path.snoc {start middle finish : T.State} {trace : List (Event S)}
    {event : Event S} (before : T.Path start trace middle)
    (allowed : T.Next middle event finish) :
    T.Path start (trace ++ [event]) finish :=
  before.append (.step allowed (.refl finish))

theorem Path.of_append {start finish : T.State}
    {first second : List (Event S)}
    (path : T.Path start (first ++ second) finish) :
    ∃ middle, T.Path start first middle ∧ T.Path middle second finish := by
  induction first generalizing start with
  | nil => exact ⟨start, .refl start, path⟩
  | cons event tail induction =>
      cases path with
      | step allowed rest =>
          obtain ⟨middle, before, after⟩ := induction rest
          exact ⟨middle, .step allowed before, after⟩

/-- The path around one event of its trace. -/
theorem Path.split {start finish : T.State}
    {trace past future : List (Event S)} {event : Event S}
    (path : T.Path start trace finish)
    (equality : trace = past ++ event :: future) :
    ∃ before after, T.Path start past before ∧ T.Next before event after ∧
      T.Path after future finish := by
  rw [equality] at path
  obtain ⟨middle, first, rest⟩ := path.of_append
  cases rest with
  | step allowed rest => exact ⟨middle, _, first, allowed, rest⟩

theorem Path.of_snoc {start finish : T.State}
    {trace : List (Event S)} {event : Event S}
    (path : T.Path start (trace ++ [event]) finish) :
    ∃ middle, T.Path start trace middle ∧ T.Next middle event finish := by
  obtain ⟨middle, after, before, allowed, rest⟩ := path.split rfl
  obtain rfl := rest.eq_of_nil
  exact ⟨middle, before, allowed⟩

/-- Induction along a path: what every event preserves holds at the end. -/
theorem Path.invariant
    {start finish : T.State} {trace : List (Event S)}
    (path : T.Path start trace finish)
    (holds : List (Event S) → T.State → Prop)
    (initial : holds [] start)
    (preserved : ∀ past state event after,
      holds past state → T.Next state event after →
        holds (past ++ [event]) after) :
    holds trace finish := by
  suffices general : ∀ past, holds past start → holds (past ++ trace) finish by
    simpa using general [] initial
  clear initial
  induction path with
  | refl state => intro past held; simpa using held
  | @step start middle finish event trace allowed rest induction =>
      intro past held
      have advanced := preserved past start event middle held allowed
      simpa using induction (past ++ [event]) advanced

/-- In a state that keeps its history, a path appends its trace. -/
theorem Path.history {start finish : T.State} {trace : List (Event S)}
    (path : T.Path start trace finish) (history : T.State → List (Event S))
    (grows : ∀ state event after, T.Next state event after →
      history after = history state ++ [event]) :
    history finish = history start ++ trace := by
  apply path.invariant
    (fun trace state => history state = history start ++ trace)
    (List.append_nil _).symm
  intro past state event after same next
  rw [grows state event after next, same, List.append_assoc]

theorem follows_step
    {bodies : (loop : S.Loop) → Program S (S.Result loop)}
    (sound : T.Sound bodies) {start finish : Program S α}
    {event : Option (Event S)} {post : α → T.State → Prop}
    {state : T.State}
    (step : Program.Step bodies start event finish)
    (follows : T.Follows start post state) :
    ∃ after, T.Path state event.toList after ∧
      T.Follows finish post after := by
  cases step with
  | act reply =>
      obtain ⟨after, allowed, rest⟩ := follows reply
      exact ⟨after, .step allowed (.refl after), rest⟩
  | @unfold loop next =>
      refine ⟨state, .refl state, ?_⟩
      apply Follows.bind
      exact (sound loop state follows.1).mono follows.2

/-- Adequacy: the trace of a run of a program that follows the discipline is a
path of typestates, and what remains of the program follows it from there. -/
theorem follows_run
    {bodies : (loop : S.Loop) → Program S (S.Result loop)}
    (sound : T.Sound bodies) {start finish : Program S α}
    {trace : List (Event S)} {post : α → T.State → Prop}
    {state : T.State}
    (run : Program.Run bodies start trace finish)
    (follows : T.Follows start post state) :
    ∃ after, T.Path state trace after ∧ T.Follows finish post after := by
  induction run generalizing state with
  | refl program => exact ⟨state, .refl state, follows⟩
  | step first rest induction =>
      obtain ⟨middle, before, remaining⟩ := follows_step sound first follows
      obtain ⟨after, later, final⟩ := induction remaining
      exact ⟨after, before.append later, final⟩

end Typestate

end MoonlightAddon
