import MoonlightAddon.Program
import MoonlightAddon.Text

/-!
# Fallible effects

Rust functions that return `Result<_, String>` and may unwind: an effect is a
program whose value is `ok`, `err` or `panicked`.  Binding stops at the first
error or panic, `attempt` is a `match` on a `Result` (panics still unwind), and
`catchUnwind` is `std::panic::catch_unwind`.
-/

namespace MoonlightAddon

inductive Outcome (α : Type) : Type where
  | ok (value : α)
  | err (error : Text)
  | panicked (message : Text)
deriving DecidableEq, Repr

namespace Outcome

def bind {α β : Type} : Outcome α → (α → Outcome β) → Outcome β
  | .ok value, rest => rest value
  | .err error, _ => .err error
  | .panicked message, _ => .panicked message

instance : Monad Outcome where
  pure := .ok
  bind := bind

def ofExcept {α : Type} : Except Text α → Outcome α
  | .ok value => .ok value
  | .error error => .err error

/-- `Option::ok_or`. -/
def okOr {α : Type} (error : Text) : Option α → Outcome α
  | some value => .ok value
  | none => .err error

def isPanic {α : Type} : Outcome α → Bool
  | .panicked _ => true
  | _ => false

@[simp] theorem isPanic_ok {α : Type} (value : α) :
    (Outcome.ok value).isPanic = false := rfl

@[simp] theorem isPanic_err {α : Type} (error : Text) :
    (Outcome.err error : Outcome α).isPanic = false := rfl

@[simp] theorem isPanic_panicked {α : Type} (message : Text) :
    (Outcome.panicked message : Outcome α).isPanic = true := rfl

@[simp] theorem ok_bind {α β : Type} (value : α) (rest : α → Outcome β) :
    (Outcome.ok value >>= rest) = rest value := rfl

@[simp] theorem err_bind {α β : Type} (error : Text) (rest : α → Outcome β) :
    (Outcome.err error >>= rest) = .err error := rfl

@[simp] theorem panicked_bind {α β : Type} (message : Text)
    (rest : α → Outcome β) :
    (Outcome.panicked message >>= rest) = .panicked message := rfl

@[simp] theorem pure_eq {α : Type} (value : α) :
    (pure value : Outcome α) = .ok value := rfl

theorem isPanic_bind {α β : Type} {outcome : Outcome α}
    {rest : α → Outcome β} (first : outcome.isPanic = false)
    (later : ∀ value, (rest value).isPanic = false) :
    (outcome >>= rest).isPanic = false := by
  cases outcome with
  | ok value => exact later value
  | err error => rfl
  | panicked message => exact first

@[simp] theorem ofExcept_isPanic {α : Type} (result : Except Text α) :
    (ofExcept result).isPanic = false := by
  cases result <;> rfl

@[simp] theorem okOr_isPanic {α : Type} (error : Text) (value : Option α) :
    (okOr error value).isPanic = false := by
  cases value <;> rfl

theorem bind_eq_ok {α β : Type} {outcome : Outcome α}
    {rest : α → Outcome β} {value : β}
    (bound : (outcome >>= rest) = .ok value) :
    ∃ first, outcome = .ok first ∧ rest first = .ok value := by
  cases outcome with
  | ok first => exact ⟨first, rfl, bound⟩
  | err error => cases bound
  | panicked message => cases bound

theorem ofExcept_eq_ok {α : Type} {result : Except Text α} {value : α}
    (succeeded : ofExcept result = .ok value) : result = .ok value := by
  cases result with
  | ok first =>
      obtain rfl : first = value := Outcome.ok.inj succeeded
      rfl
  | error error => cases succeeded

theorem mapError_eq_ok {α : Type} {result : Except Text α}
    {describe : Text → Text} {value : α}
    (succeeded : ofExcept (result.mapError describe) = .ok value) :
    result = .ok value := by
  cases result with
  | ok first => exact ofExcept_eq_ok succeeded
  | error error => cases succeeded

theorem okOr_eq_ok {α : Type} {error : Text} {option : Option α} {value : α}
    (succeeded : okOr error option = .ok value) : option = some value := by
  cases option with
  | some first =>
      obtain rfl : first = value := Outcome.ok.inj succeeded
      rfl
  | none => cases succeeded

end Outcome

def Effect (S : Signature) (α : Type) : Type :=
  Program S (Outcome α)

namespace Effect

variable {S : Signature} {α β : Type}

def bind (effect : Effect S α) (rest : α → Effect S β) : Effect S β :=
  Program.bind effect fun
    | .ok value => rest value
    | .err error => .ret (.err error)
    | .panicked message => .ret (.panicked message)

def done (outcome : Outcome α) : Effect S α :=
  .ret outcome

instance : Monad (Effect S) where
  pure value := done (.ok value)
  bind := bind

def perform (command : S.Command) : Effect S (S.Reply command) :=
  Program.bind (Program.perform command) fun reply => .ret (.ok reply)

/-- A command whose reply is itself a `Result`, propagated by `?`. -/
def performResult {α : Type} (command : S.Command)
    (result : S.Reply command → Except Text α) : Effect S α :=
  Program.bind (Program.perform command) fun reply =>
    .ret (Outcome.ofExcept (result reply))

def throw (error : Text) : Effect S α :=
  done (.err error)

/-- A `match` on a `Result`: the error becomes a value, a panic unwinds. -/
def attempt (effect : Effect S α) : Effect S (Except Text α) :=
  Program.bind effect fun
    | .ok value => .ret (.ok (.ok value))
    | .err error => .ret (.ok (.error error))
    | .panicked message => .ret (.panicked message)

def catchUnwind (effect : Effect S α) : Program S (Outcome α) :=
  effect

end Effect

namespace Typestate

variable {S : Signature} {α β : Type} {T : Typestate S}

theorem follows_done {outcome : Outcome α}
    {post : Outcome α → T.State → Prop} {state : T.State}
    (holds : post outcome state) :
    T.Follows (Effect.done outcome : Effect S α) post state :=
  holds

theorem follows_pure {value : α}
    {post : Outcome α → T.State → Prop} {state : T.State}
    (holds : post (.ok value) state) :
    T.Follows (pure value : Effect S α) post state :=
  holds

/-- The postcondition a sequence asks of its first part. -/
def Then (T : Typestate S) (rest : α → Effect S β)
    (post : Outcome β → T.State → Prop) : Outcome α → T.State → Prop
  | .ok value, state => T.Follows (rest value) post state
  | .err error, state => post (.err error) state
  | .panicked message, state => post (.panicked message) state

theorem follows_then {value : α} {rest : α → Effect S β}
    {post : Outcome β → T.State → Prop} {state : T.State}
    (follows : T.Follows (rest value) post state) :
    T.Then rest post (.ok value) state :=
  follows

theorem follows_bind {effect : Effect S α} {rest : α → Effect S β}
    {post : Outcome β → T.State → Prop} {state : T.State}
    (follows : T.Follows effect (T.Then rest post) state) :
    T.Follows (effect >>= rest : Effect S β) post state := by
  apply Follows.bind
  apply follows.mono
  intro outcome after holds
  cases outcome with
  | ok value => exact holds
  | err error => exact holds
  | panicked message => exact holds

theorem follows_perform {command : S.Command}
    {post : Outcome (S.Reply command) → T.State → Prop} {state : T.State}
    (allowed : ∀ reply, ∃ after,
      T.Next state ⟨command, reply⟩ after ∧ post (.ok reply) after) :
    T.Follows (Effect.perform command) post state :=
  allowed

theorem follows_performResult {command : S.Command}
    {result : S.Reply command → Except Text α}
    {post : Outcome α → T.State → Prop} {state : T.State}
    (allowed : ∀ reply, ∃ after,
      T.Next state ⟨command, reply⟩ after ∧
        post (Outcome.ofExcept (result reply)) after) :
    T.Follows (Effect.performResult command result) post state :=
  allowed

/-- The postcondition a `match` asks of the effect it inspects. -/
def Caught (T : Typestate S)
    (post : Outcome (Except Text α) → T.State → Prop) :
    Outcome α → T.State → Prop
  | .ok value, state => post (.ok (.ok value)) state
  | .err error, state => post (.ok (.error error)) state
  | .panicked message, state => post (.panicked message) state

theorem follows_attempt {effect : Effect S α}
    {post : Outcome (Except Text α) → T.State → Prop} {state : T.State}
    (follows : T.Follows effect (T.Caught post) state) :
    T.Follows (Effect.attempt effect) post state := by
  apply Follows.bind
  apply follows.mono
  intro outcome after holds
  cases outcome with
  | ok value => exact holds
  | err error => exact holds
  | panicked message => exact holds

end Typestate

end MoonlightAddon
