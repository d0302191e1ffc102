import MoonlightAddon.Program
import Mathlib.Logic.Function.Basic

/-!
# Interleavings of programs over shared state

A machine runs a pool of programs over one shared state, one command at a
time in any order.  The environment chooses which thread moves and answers
the commands the shared state does not determine; it may also act on the
shared state itself.  The trace of a run records who did what.

The main rule, `Machine.Run.invariant`, replaces programs by typestates: when
every thread follows a discipline of its own, an invariant over trace, shared
state and typestates only has to survive the events these disciplines allow.
-/

namespace MoonlightAddon

structure Machine (S : Signature) where
  Thread : Type
  Shared : Type
  /-- What the environment contributes to the reply of a command. -/
  Answer : Type
  /-- What the environment may do by itself, and what the trace shows of it. -/
  Outside : Type
  Seen : Type
  decEqThread : DecidableEq Thread
  bodies : (loop : S.Loop) → Program S (S.Result loop)
  /-- `none` when the command is not possible now: the thread waits. -/
  reply : Thread → Shared → (command : S.Command) → Answer →
    Option (S.Reply command)
  effect : Thread → Event S → Shared → Shared
  fork : Event S → Shared → Option (Thread × Program S Unit)
  outside : Outside → Shared → Option (Seen × Shared)

namespace Machine

variable {S : Signature} (M : Machine S)

instance : DecidableEq M.Thread := M.decEqThread

structure Config where
  shared : M.Shared
  pool : M.Thread → Program S Unit

inductive Move where
  | run (thread : M.Thread) (answer : M.Answer)
  | outside (action : M.Outside)

inductive Happening where
  | ran (thread : M.Thread) (event : Event S)
  | outside (seen : M.Seen)

abbrev Trace := List M.Happening

variable {M}

/-- Install the program a command started, if it started one. -/
def spawned (event : Event S) (shared : M.Shared)
    (pool : M.Thread → Program S Unit) : M.Thread → Program S Unit :=
  match M.fork event shared with
  | some (child, program) => Function.update pool child program
  | none => pool

def step : M.Move → M.Config → Option (Option M.Happening × M.Config)
  | .run thread answer, config =>
      match config.pool thread with
      | .ret _ => none
      | .enter loop next =>
          some (none, { config with
            pool := Function.update config.pool thread
              ((M.bodies loop).bind next) })
      | .act command next =>
          match M.reply thread config.shared command answer with
          | none => none
          | some reply =>
              some (some (.ran thread ⟨command, reply⟩),
                { shared := M.effect thread ⟨command, reply⟩ config.shared
                  pool := spawned ⟨command, reply⟩ config.shared
                    (Function.update config.pool thread (next reply)) })
  | .outside action, config =>
      match M.outside action config.shared with
      | none => none
      | some (seen, shared) =>
          some (some (.outside seen), { config with shared := shared })

/-- Execute a schedule, collecting the trace. -/
def play : List M.Move → M.Config → Option (M.Trace × M.Config)
  | [], config => some ([], config)
  | move :: moves, config =>
      match step move config with
      | none => none
      | some (happening, after) =>
          match play moves after with
          | none => none
          | some (trace, final) => some (happening.toList ++ trace, final)

/-- The finite runs from `start`, extended at the end. -/
inductive Run (start : M.Config) : M.Trace → M.Config → Prop where
  | refl : Run start [] start
  | snoc {trace : M.Trace} {config after : M.Config} {move : M.Move}
      {happening : Option M.Happening} :
      Run start trace config →
      step move config = some (happening, after) →
      Run start (trace ++ happening.toList) after

theorem Run.of_play {start config final : M.Config} {past trace : M.Trace}
    {moves : List M.Move} (run : Run start past config)
    (played : play moves config = some (trace, final)) :
    Run start (past ++ trace) final := by
  induction moves generalizing past config trace with
  | nil =>
      simp only [play, Option.some.injEq, Prod.mk.injEq] at played
      obtain ⟨rfl, rfl⟩ := played
      simpa using run
  | cons move moves induction =>
      rw [play] at played
      cases stepped : step move config with
      | none => simp [stepped] at played
      | some result =>
          obtain ⟨happening, after⟩ := result
          cases rest : play moves after with
          | none => simp [stepped, rest] at played
          | some tail =>
              obtain ⟨later, last⟩ := tail
              simp only [stepped, rest, Option.some.injEq,
                Prod.mk.injEq] at played
              obtain ⟨rfl, rfl⟩ := played
              simpa using induction (run.snoc stepped) rest

/-- A check on where a schedule leads is a fact about some run. -/
theorem exists_run_of_play {start : M.Config} {moves : List M.Move}
    (check : M.Trace → M.Config → Bool)
    (passes : (play moves start).any (fun result => check result.1 result.2) =
      true) :
    ∃ trace config, Run start trace config ∧ check trace config = true := by
  cases played : play moves start with
  | none => simp [played] at passes
  | some result =>
      obtain ⟨trace, config⟩ := result
      refine ⟨trace, config, ?_, by simpa [played] using passes⟩
      simpa using Run.refl.of_play played

/-- A check on one more step after a schedule is a fact about some step of
some run. -/
theorem exists_step_of_play {start : M.Config} {moves : List M.Move}
    (move : M.Move)
    (check : M.Trace → M.Config → M.Happening → M.Config → Bool)
    (passes : (play moves start).any (fun (past, config) =>
      (step move config).any fun (happening, after) =>
        happening.any fun happening => check past config happening after) =
      true) :
    ∃ past config happening after, Run start past config ∧
      step move config = some (some happening, after) ∧
      check past config happening after = true := by
  cases played : play moves start with
  | none => simp [played] at passes
  | some result =>
      obtain ⟨past, config⟩ := result
      cases stepped : step move config with
      | none => simp [played, stepped] at passes
      | some result =>
          obtain ⟨_ | happening, after⟩ := result
          · simp [played, stepped] at passes
          · refine ⟨past, config, happening, after, ?_, stepped,
              by simpa [played, stepped] using passes⟩
            simpa using Run.refl.of_play played

/-- A check on two schedules played one after the other is a fact about some
run, cut where the second one begins. -/
theorem exists_split_of_play (start : M.Config) (first second : List M.Move)
    (check : M.Trace → M.Trace → M.Config → Bool)
    (passes : (play first start).any (fun (past, config) =>
      (play second config).any fun (future, final) =>
        check past future final) = true) :
    ∃ past future final, Run start (past ++ future) final ∧
      check past future final = true := by
  cases played : play first start with
  | none => simp [played] at passes
  | some result =>
      obtain ⟨past, config⟩ := result
      cases later : play second config with
      | none => simp [played, later] at passes
      | some result =>
          obtain ⟨future, final⟩ := result
          refine ⟨past, future, final, ?_, by simpa [played, later] using passes⟩
          have run := Run.refl.of_play played
          simpa using run.of_play later

/-- Everything one step can do. -/
inductive StepCase (config : M.Config) :
    Option M.Happening → M.Config → Prop where
  | unfold {thread : M.Thread} {loop : S.Loop}
      {next : S.Result loop → Program S Unit}
      (at_loop : config.pool thread = .enter loop next) :
      StepCase config none { config with
        pool := Function.update config.pool thread ((M.bodies loop).bind next) }
  | ran {thread : M.Thread} {command : S.Command}
      {next : S.Reply command → Program S Unit}
      {reply : S.Reply command}
      (at_command : config.pool thread = .act command next)
      (possible : ∃ answer,
        M.reply thread config.shared command answer = some reply) :
      StepCase config (some (.ran thread ⟨command, reply⟩))
        { shared := M.effect thread ⟨command, reply⟩ config.shared
          pool := spawned ⟨command, reply⟩ config.shared
            (Function.update config.pool thread (next reply)) }
  | outside {action : M.Outside} {seen : M.Seen} {shared : M.Shared}
      (acted : M.outside action config.shared = some (seen, shared)) :
      StepCase config (some (.outside seen)) { config with shared := shared }

theorem step_cases {move : M.Move} {config after : M.Config}
    {happening : Option M.Happening}
    (stepped : step move config = some (happening, after)) :
    StepCase config happening after := by
  cases move with
  | run thread answer =>
      simp only [step] at stepped
      cases program : config.pool thread with
      | ret value => simp [program] at stepped
      | enter loop next =>
          simp only [program, Option.some.injEq, Prod.mk.injEq] at stepped
          obtain ⟨rfl, rfl⟩ := stepped
          exact .unfold program
      | act command next =>
          simp only [program] at stepped
          cases replied : M.reply thread config.shared command answer with
          | none => simp [replied] at stepped
          | some reply =>
              simp only [replied, Option.some.injEq, Prod.mk.injEq] at stepped
              obtain ⟨rfl, rfl⟩ := stepped
              exact .ran program ⟨answer, replied⟩
  | outside action =>
      simp only [step] at stepped
      cases acted : M.outside action config.shared with
      | none => simp [acted] at stepped
      | some result =>
          obtain ⟨seen, shared⟩ := result
          simp only [acted, Option.some.injEq, Prod.mk.injEq] at stepped
          obtain ⟨rfl, rfl⟩ := stepped
          exact .outside acted

/-- The events of one thread, in order. -/
def eventsOf (thread : M.Thread) (trace : M.Trace) : List (Event S) :=
  trace.filterMap fun
    | .ran runner event => if runner = thread then some event else none
    | .outside _ => none

@[simp] theorem eventsOf_nil (thread : M.Thread) :
    eventsOf thread ([] : M.Trace) = [] := rfl

@[simp] theorem eventsOf_append (thread : M.Thread) (first second : M.Trace) :
    eventsOf thread (first ++ second) =
      eventsOf thread first ++ eventsOf thread second := by
  simp [eventsOf]

@[simp] theorem eventsOf_ran_self (thread : M.Thread) (event : Event S) :
    eventsOf thread [.ran thread event] = [event] := by
  simp [eventsOf]

theorem eventsOf_ran_ne {thread runner : M.Thread} (different : runner ≠ thread)
    (event : Event S) : eventsOf thread [.ran runner event] = [] := by
  simp [eventsOf, different]

@[simp] theorem eventsOf_outside (thread : M.Thread) (seen : M.Seen) :
    eventsOf thread [.outside seen] = [] := rfl

/-- An event of a thread happened in the trace. -/
theorem mem_of_mem_eventsOf {thread : M.Thread} {trace : M.Trace}
    {event : Event S} (member : event ∈ eventsOf thread trace) :
    .ran thread event ∈ trace := by
  obtain ⟨happening, entry, same⟩ := List.mem_filterMap.mp member
  cases happening with
  | outside seen => cases same
  | ran runner other =>
      simp only at same
      split at same
      · rename_i own
        obtain rfl := Option.some.inj same
        exact own ▸ entry
      · cases same

/-- The thread has nothing left to do. -/
def isDone : Program S Unit → Bool
  | .ret () => true
  | _ => false

theorem eq_ret_of_isDone {program : Program S Unit}
    (done : isDone program = true) : program = .ret () := by
  cases program with
  | ret value => rfl
  | act command next => cases done
  | enter loop next => cases done

/-- Every entry of the trace obeys `rule`, given the entries before it. -/
def Obeys (rule : M.Trace → M.Happening → Prop) (trace : M.Trace) : Prop :=
  ∀ past next future, trace = past ++ next :: future → rule past next

theorem Obeys.of_append {rule : M.Trace → M.Happening → Prop}
    {first second : M.Trace} (obeys : Obeys rule (first ++ second)) :
    Obeys rule first := by
  intro past next future equality
  apply obeys past next (future ++ second)
  simp [equality]

theorem Obeys.of_forall {rule : M.Trace → M.Happening → Prop} {trace : M.Trace}
    (each : ∀ past, ∀ next ∈ trace, rule past next) : Obeys rule trace := by
  rintro past next future rfl
  exact each past next (by simp)

/-- Every entry of the trace passes the check, given the entries before it. -/
def checkAll (check : M.Trace → M.Happening → Bool) (past : M.Trace) :
    M.Trace → Bool
  | [] => true
  | next :: future => check past next && checkAll check (past ++ [next]) future

theorem obeys_of_checkAll {check : M.Trace → M.Happening → Bool}
    {trace : M.Trace} (passes : checkAll check [] trace = true) :
    Obeys (fun past next => check past next = true) trace := by
  suffices general : ∀ before, checkAll check before trace = true →
      ∀ past next future, trace = past ++ next :: future →
        check (before ++ past) next = true by
    intro past next future split
    exact general [] passes past next future split
  clear passes
  induction trace with
  | nil => simp
  | cons entry rest induction =>
      intro before passes past next future split
      rw [checkAll, Bool.and_eq_true] at passes
      cases past with
      | nil =>
          obtain ⟨rfl, rfl⟩ := List.cons.inj split
          simpa using passes.1
      | cons first past =>
          obtain ⟨rfl, rfl⟩ := List.cons.inj split
          simpa using induction _ passes.2 past next future rfl

/-- A split of a longer trace is at its end, or a split of what came before. -/
theorem split_snoc {α : Type*} {trace earlier later : List α} {first last : α}
    (split : trace ++ [last] = earlier ++ first :: later) :
    (later = [] ∧ earlier = trace ∧ first = last) ∨
      ∃ rest, later = rest ++ [last] ∧ trace = earlier ++ first :: rest := by
  rcases List.eq_nil_or_concat later with rfl | ⟨rest, final, rfl⟩
  · obtain ⟨rfl, same⟩ := List.append_inj' split rfl
    exact .inl ⟨rfl, rfl, (List.head_eq_of_cons_eq same).symm⟩
  · rw [List.concat_eq_append, ← List.cons_append, ← List.append_assoc] at split
    obtain ⟨same, ends⟩ := List.append_inj' split rfl
    obtain rfl := List.head_eq_of_cons_eq ends
    exact .inr ⟨rest, List.concat_eq_append, same⟩

theorem Obeys.snoc {rule : M.Trace → M.Happening → Prop}
    {trace : M.Trace} {last : M.Happening} (obeys : Obeys rule trace)
    (next : rule trace last) : Obeys rule (trace ++ [last]) := by
  intro past entry future split
  rcases split_snoc split with ⟨_, rfl, rfl⟩ | ⟨rest, _, before⟩
  · exact next
  · exact obeys past entry rest before

theorem Obeys.of_mem {rule : M.Trace → M.Happening → Prop}
    {trace : M.Trace} {next : M.Happening} (obeys : Obeys rule trace)
    (member : next ∈ trace) : ∃ past, rule past next := by
  obtain ⟨past, future, split⟩ := List.append_of_mem member
  exact ⟨past, obeys past next future split⟩

theorem Obeys.last {rule : M.Trace → M.Happening → Prop}
    {past : M.Trace} {next : M.Happening}
    (obeys : Obeys rule (past ++ [next])) : rule past next :=
  obeys past next [] rfl

section Typed

variable (T : M.Thread → Typestate S)
  (birth : Event S → M.Shared → (child : M.Thread) → (T child).State)
  (final : (thread : M.Thread) → (T thread).State → Prop)

/-- The typestates after an event, including that of a started program. -/
def assign (event : Event S) (shared : M.Shared)
    (states : (thread : M.Thread) → (T thread).State) :
    (thread : M.Thread) → (T thread).State :=
  match M.fork event shared with
  | some (child, _) => Function.update states child (birth event shared child)
  | none => states

/-- What remains of every thread follows its discipline from its typestate. -/
def Typed (states : (thread : M.Thread) → (T thread).State)
    (config : M.Config) : Prop :=
  ∀ thread, (T thread).Follows (config.pool thread)
    (fun _ => final thread) (states thread)

/-- Every program a command may start follows its discipline from birth. -/
def BornTyped : Prop :=
  ∀ event (shared : M.Shared) child program,
    M.fork event shared = some (child, program) →
      (T child).Follows program (fun _ => final child)
        (birth event shared child)

variable {T birth final}

theorem Typed.ran {states : (thread : M.Thread) → (T thread).State}
    {config : M.Config}
    (typed : Typed T final states config) (born : BornTyped T birth final)
    {thread : M.Thread} {command : S.Command}
    {next : S.Reply command → Program S Unit}
    (at_command : config.pool thread = .act command next)
    (reply : S.Reply command) :
    ∃ after, (T thread).Next (states thread) ⟨command, reply⟩ after ∧
      Typed T final
        (assign T birth ⟨command, reply⟩ config.shared
          (Function.update states thread after))
        { shared := M.effect thread ⟨command, reply⟩ config.shared
          pool := spawned ⟨command, reply⟩ config.shared
            (Function.update config.pool thread (next reply)) } := by
  have follows := typed thread
  rw [at_command] at follows
  obtain ⟨after, allowed, rest⟩ := follows reply
  refine ⟨after, allowed, ?_⟩
  have updated : ∀ other,
      (T other).Follows
        (Function.update config.pool thread (next reply) other)
        (fun _ => final other) (Function.update states thread after other) := by
    intro other
    by_cases same : other = thread
    · subst same
      simpa using rest
    · simpa [Function.update_of_ne same] using typed other
  intro other
  simp only [assign, spawned]
  cases forked : M.fork ⟨command, reply⟩ config.shared with
  | none => exact updated other
  | some result =>
      obtain ⟨child, program⟩ := result
      by_cases same : other = child
      · subst same
        simpa using born _ _ _ _ forked
      · simpa [Function.update_of_ne same] using updated other

theorem Typed.unfold {states : (thread : M.Thread) → (T thread).State}
    {config : M.Config}
    (typed : Typed T final states config)
    (sound : ∀ thread, (T thread).Sound M.bodies)
    {thread : M.Thread} {loop : S.Loop}
    {next : S.Result loop → Program S Unit}
    (at_loop : config.pool thread = .enter loop next) :
    Typed T final states { config with
      pool := Function.update config.pool thread
        ((M.bodies loop).bind next) } := by
  intro other
  by_cases same : other = thread
  · subst same
    have follows := typed other
    rw [at_loop] at follows
    simp only [Function.update_self]
    exact ((sound other loop _ follows.1).mono follows.2).bind
  · simpa [Function.update_of_ne same] using typed other

/-- The invariant rule: an invariant over trace, shared state and typestates
that every allowed event and every outside action preserves holds after every
run that obeys `rule`. -/
theorem Run.invariant {start config : M.Config} {trace : M.Trace}
    (run : Run start trace config)
    (sound : ∀ thread, (T thread).Sound M.bodies)
    (born : BornTyped T birth final)
    (rule : M.Trace → M.Happening → Prop) (obeys : Obeys rule trace)
    (holds : M.Trace → M.Shared →
      ((thread : M.Thread) → (T thread).State) → Prop)
    {states : (thread : M.Thread) → (T thread).State}
    (typed : Typed T final states start)
    (initial : holds [] start.shared states)
    (ran : ∀ past shared states thread event after,
      holds past shared states →
      rule past (.ran thread event) →
      (T thread).Next (states thread) event after →
      (∃ answer, M.reply thread shared event.command answer =
        some event.reply) →
      holds (past ++ [.ran thread event]) (M.effect thread event shared)
        (assign T birth event shared (Function.update states thread after)))
    (acted : ∀ past shared states action seen next,
      holds past shared states →
      rule past (.outside seen) →
      M.outside action shared = some (seen, next) →
      holds (past ++ [.outside seen]) next states) :
    ∃ states, holds trace config.shared states ∧
      Typed T final states config := by
  induction run with
  | refl => exact ⟨states, initial, typed⟩
  | @snoc past config after move happening run stepped induction =>
      obtain ⟨states, held, typed⟩ := induction obeys.of_append
      cases step_cases stepped with
      | unfold at_loop =>
          refine ⟨states, ?_, typed.unfold sound at_loop⟩
          simpa using held
      | @ran thread command next reply at_command possible =>
          obtain ⟨after, allowed, typedAfter⟩ :=
            typed.ran born at_command reply
          exact ⟨_, ran past _ states thread ⟨command, reply⟩ after held
            obeys.last allowed possible, typedAfter⟩
      | @outside action seen shared acts =>
          exact ⟨states, acted past _ states action seen shared held
            obeys.last acts, typed⟩

end Typed

end Machine

end MoonlightAddon
