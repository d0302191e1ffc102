import MoonlightAddon.Effect

/-!
# Recorded programs

The typestate that keeps the whole trace.  A program without loops that
follows it into `post` returns only with values and traces that satisfy
`post`.
-/

namespace MoonlightAddon

namespace Typestate

variable {S : Signature} {α : Type}

def recorder (S : Signature) : Typestate S where
  State := List (Event S)
  Next past event after := after = past ++ [event]
  Pre _ _ := False
  Post _ _ _ _ := False

theorem recorder_sound
    (bodies : (loop : S.Loop) → Program S (S.Result loop)) :
    (recorder S).Sound bodies :=
  fun _ _ impossible => absurd impossible id

theorem path_recorder {past trace after : List (Event S)}
    (path : (recorder S).Path past trace after) : after = past ++ trace :=
  path.history id fun _ _ _ next => next

theorem recorded_of_run
    {bodies : (loop : S.Loop) → Program S (S.Result loop)}
    {program : Program S α} {trace : List (Event S)} {value : α}
    {post : α → List (Event S) → Prop}
    (run : Program.Run bodies program trace (.ret value))
    (follows : (recorder S).Follows program post ([] : List (Event S))) :
    post value trace := by
  obtain ⟨after, path, holds⟩ := follows_run (recorder_sound bodies) run follows
  obtain rfl : after = trace := path_recorder path
  exact holds

variable {past : List (Event S)}

theorem records_perform {command : S.Command}
    {post : Outcome (S.Reply command) → List (Event S) → Prop}
    (holds : ∀ reply, post (.ok reply) (past ++ [⟨command, reply⟩])) :
    (recorder S).Follows (Effect.perform command) post past :=
  follows_perform fun reply => ⟨_, rfl, holds reply⟩

theorem records_performResult {command : S.Command}
    {result : S.Reply command → Except Text α}
    {post : Outcome α → List (Event S) → Prop}
    (holds : ∀ reply,
      post (Outcome.ofExcept (result reply)) (past ++ [⟨command, reply⟩])) :
    (recorder S).Follows (Effect.performResult command result) post past :=
  follows_performResult fun reply => ⟨_, rfl, holds reply⟩

end Typestate

end MoonlightAddon
