import MoonlightAddon.Effect

/-!
# Confined programs

The typestate without a memory: it only says which commands a program may
perform.  A confined effect performs no others, whatever the replies are, and
what it returns has a property that the effects after it may rely on.  A
bounded one may also enter loops, if their bodies are bounded.
-/

namespace MoonlightAddon

variable {S : Signature} {α β : Type}

namespace Typestate

def confining (allowed : S.Command → Prop) : Typestate S where
  State := Unit
  Next _ event _ := allowed event.command
  Pre _ _ := False
  Post _ _ _ _ := False

theorem confining_sound (allowed : S.Command → Prop)
    (bodies : (loop : S.Loop) → Program S (S.Result loop)) :
    (confining allowed).Sound bodies :=
  fun _ _ impossible => absurd impossible id

theorem allowed_of_path {allowed : S.Command → Prop}
    {start finish : (confining allowed).State} {trace : List (Event S)}
    (path : (confining allowed).Path start trace finish) :
    ∀ event ∈ trace, allowed event.command := by
  induction path with
  | refl state => simp
  | step next rest induction => exact List.forall_mem_cons.mpr ⟨next, induction⟩

/-- The same with loops. -/
def bounding (allowed : S.Command → Prop) (enters : S.Loop → Prop) :
    Typestate S where
  State := Unit
  Next _ event _ := allowed event.command
  Pre loop _ := enters loop
  Post _ _ _ _ := True

theorem allowed_of_bounded {allowed : S.Command → Prop}
    {enters : S.Loop → Prop} {start finish : (bounding allowed enters).State}
    {trace : List (Event S)}
    (path : (bounding allowed enters).Path start trace finish) :
    ∀ event ∈ trace, allowed event.command := by
  induction path with
  | refl state => simp
  | step next rest induction => exact List.forall_mem_cons.mpr ⟨next, induction⟩

end Typestate

namespace Effect

def Confined (allowed : S.Command → Prop) (effect : Effect S α)
    (yields : α → Prop) : Prop :=
  (Typestate.confining allowed).Follows effect
    (fun outcome _ => ∀ value, outcome = .ok value → yields value) ()

variable {allowed : S.Command → Prop} {yields : α → Prop} {after : β → Prop}

theorem confined_done {outcome : Outcome α}
    (holds : ∀ value, outcome = .ok value → yields value) :
    Confined allowed (done outcome) yields :=
  holds

theorem confined_pure {value : α} (holds : yields value) :
    Confined allowed (pure value) yields := by
  rintro _ ⟨⟩
  exact holds

theorem confined_bind {effect : Effect S α} {rest : α → Effect S β}
    (first : Confined allowed effect yields)
    (later : ∀ value, yields value → Confined allowed (rest value) after) :
    Confined allowed (effect >>= rest) after := by
  apply Typestate.follows_bind
  apply Typestate.Follows.mono first
  intro outcome state holds
  cases outcome with
  | ok value => exact later value (holds value rfl)
  | err error => exact nofun
  | panicked message => exact nofun

theorem confined_perform {command : S.Command} (permitted : allowed command)
    {yields : S.Reply command → Prop} (holds : ∀ reply, yields reply) :
    Confined allowed (perform command) yields := by
  apply Typestate.follows_perform
  intro reply
  refine ⟨(), permitted, ?_⟩
  rintro _ ⟨⟩
  exact holds reply

theorem confined_performResult {command : S.Command}
    {result : S.Reply command → Except Text α} (permitted : allowed command)
    (holds : ∀ reply value, result reply = .ok value → yields value) :
    Confined allowed (performResult command result) yields := by
  apply Typestate.follows_performResult
  intro reply
  refine ⟨(), permitted, ?_⟩
  intro value returned
  cases given : result reply with
  | ok other =>
      rw [given] at returned
      cases returned
      exact holds reply _ given
  | error error =>
      rw [given] at returned
      cases returned

/-- `match` on the result of an effect. -/
theorem confined_attempt {effect : Effect S α}
    (confined : Confined allowed effect yields) :
    Confined allowed (attempt effect)
      fun result => ∀ value, result = .ok value → yields value := by
  apply Typestate.follows_attempt
  apply Typestate.Follows.mono confined
  intro outcome state holds
  cases outcome with
  | ok value =>
      rintro _ ⟨⟩ _ ⟨⟩
      exact holds value rfl
  | err error => rintro _ ⟨⟩ _ ⟨⟩
  | panicked message => exact nofun

/-- A confined effect follows any discipline that lets the allowed commands
pass in the states of an invariant. -/
theorem Confined.follows {T : Typestate S} {effect : Effect S α}
    (confined : Confined allowed effect yields) (holds : T.State → Prop)
    (passes : ∀ state command reply, holds state → allowed command →
      ∃ after, T.Next state ⟨command, reply⟩ after ∧ holds after)
    {state : T.State} (held : holds state) :
    T.Follows effect
      (fun outcome after => holds after ∧
        ∀ value, outcome = .ok value → yields value) state := by
  unfold Confined at confined
  induction effect generalizing state with
  | ret outcome => exact ⟨held, confined⟩
  | act command next induction =>
      intro reply
      obtain ⟨_, permitted, rest⟩ := confined reply
      obtain ⟨after, allowed, kept⟩ := passes state command reply held permitted
      exact ⟨after, allowed, induction reply rest kept⟩
  | enter loop next induction => exact absurd confined.1 id

/-- A confined effect that follows one discipline follows every other that
simulates it on the allowed commands. -/
theorem Confined.simulate {T U : Typestate S} {effect : Effect S α}
    {post : Outcome α → T.State → Prop} {state : T.State} {image : U.State}
    (confined : Confined allowed effect yields)
    (follows : T.Follows effect post state)
    (related : T.State → U.State → Prop)
    (simulates : ∀ before command reply after image, related before image →
      allowed command → T.Next before ⟨command, reply⟩ after →
        ∃ next, U.Next image ⟨command, reply⟩ next ∧ related after next)
    (start : related state image) :
    U.Follows effect
      (fun outcome next => ∃ after, related after next ∧ post outcome after)
      image := by
  unfold Confined at confined
  induction effect generalizing state image with
  | ret outcome => exact ⟨state, start, follows⟩
  | act command next induction =>
      intro reply
      obtain ⟨_, permitted, bounded⟩ := confined reply
      obtain ⟨after, moves, rest⟩ := follows reply
      obtain ⟨moved, matched, kept⟩ :=
        simulates state command reply after image start permitted moves
      exact ⟨moved, matched, induction reply bounded rest kept⟩
  | enter loop next induction => exact absurd confined.1 id

/-- Every run of a confined effect, finished or not. -/
theorem Confined.allowed_of_run {effect : Effect S α}
    {bodies : (loop : S.Loop) → Program S (S.Result loop)}
    {trace : List (Event S)} {finish : Program S (Outcome α)}
    (confined : Confined allowed effect yields)
    (run : Program.Run bodies effect trace finish) :
    ∀ event ∈ trace, allowed event.command := by
  obtain ⟨state, path, _⟩ := Typestate.follows_run
    (Typestate.confining_sound allowed bodies) run confined
  exact Typestate.allowed_of_path path

/-- The program performs only these commands and enters only these loops. -/
def Bounded (allowed : S.Command → Prop) (enters : S.Loop → Prop)
    (program : Program S α) : Prop :=
  (Typestate.bounding allowed enters).Follows program (fun _ _ => True) ()

variable {enters : S.Loop → Prop}

theorem Confined.bounded {effect : Effect S α}
    (confined : Confined allowed effect yields) :
    Bounded allowed enters effect := by
  apply Typestate.Follows.mono
  · apply confined.follows (fun _ => True) _ trivial
    intro state command reply _ permitted
    exact ⟨(), permitted, trivial⟩
  · intro outcome state _
    trivial

theorem bounded_bind {effect : Effect S α} {rest : α → Effect S β}
    (first : Bounded allowed enters effect)
    (later : ∀ value, Bounded allowed enters (rest value)) :
    Bounded allowed enters (effect >>= rest : Effect S β) := by
  apply Typestate.follows_bind
  apply Typestate.Follows.mono first
  intro outcome state _
  cases outcome with
  | ok value => exact later value
  | err error => trivial
  | panicked message => trivial

theorem bounded_loop {loop : S.Loop} (entered : enters loop) :
    Bounded allowed enters (Program.repeatLoop loop) :=
  ⟨entered, fun _ _ _ => trivial⟩

/-- A bounded program follows any discipline that lets the allowed commands
pass and the loops be entered in the states of an invariant. -/
theorem Bounded.follows {T : Typestate S} {program : Program S α}
    (bounded : Bounded allowed enters program) (holds : T.State → Prop)
    (passes : ∀ state command reply, holds state → allowed command →
      ∃ after, T.Next state ⟨command, reply⟩ after ∧ holds after)
    (admits : ∀ loop state, holds state → enters loop → T.Pre loop state ∧
      ∀ result after, T.Post loop state result after → holds after)
    {state : T.State} (held : holds state) :
    T.Follows program (fun _ after => holds after) state := by
  unfold Bounded at bounded
  induction program generalizing state with
  | ret value => exact held
  | act command next induction =>
      intro reply
      obtain ⟨_, permitted, rest⟩ := bounded reply
      obtain ⟨after, allowed, kept⟩ := passes state command reply held permitted
      exact ⟨after, allowed, induction reply rest kept⟩
  | enter loop next induction =>
      obtain ⟨admitted, kept⟩ := admits loop state held bounded.1
      refine ⟨admitted, ?_⟩
      intro result after returned
      exact induction result (bounded.2 result () trivial)
        (kept result after returned)

theorem Bounded.mono {wider : S.Command → Prop} {reaches : S.Loop → Prop}
    {program : Program S α} (bounded : Bounded allowed enters program)
    (more : ∀ command, allowed command → wider command)
    (further : ∀ loop, enters loop → reaches loop) :
    Bounded wider reaches program := by
  refine @Bounded.follows _ _ _ _ (Typestate.bounding wider reaches) _ bounded
    (fun _ => True) ?_ ?_ () trivial
  · intro _ command _ _ permitted
    exact ⟨(), more command permitted, trivial⟩
  · intro loop _ _ entered
    exact ⟨further loop entered, fun _ _ _ => trivial⟩

/-- Every run of a bounded program whose loops are bounded. -/
theorem Bounded.allowed_of_run {program finish : Program S α}
    {bodies : (loop : S.Loop) → Program S (S.Result loop)}
    {trace : List (Event S)} (bounded : Bounded allowed enters program)
    (loops : ∀ loop, enters loop → Bounded allowed enters (bodies loop))
    (run : Program.Run bodies program trace finish) :
    ∀ event ∈ trace, allowed event.command := by
  have sound : (Typestate.bounding allowed enters).Sound bodies :=
    fun loop _ entered => loops loop entered
  obtain ⟨state, path, _⟩ := Typestate.follows_run sound run bounded
  exact Typestate.allowed_of_bounded path

end Effect

end MoonlightAddon
