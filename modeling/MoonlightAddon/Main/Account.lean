import MoonlightAddon.Main.Surroundings
import Mathlib.Data.List.Induction

/-!
# What a list of messages amounts to

The purpose of `run`, message by message: what each adds to the map, to the
masks and to the deeds.  An account is carried from one to the next, and when
the messages end the engines still in the map are taken down.
-/

namespace MoonlightAddon

open Session

namespace Main

namespace Deed

def writes : Deed → Bool
  | .issued (.control _) | .issued (.frame _ _) => true
  | _ => false

def connects : Deed → Bool
  | .connected _ _ _ => true
  | _ => false

/-- What is done to an engine that is there. -/
def Tends (deed : Deed) : Prop :=
  deed.writes = false ∧ deed.connects = false

end Deed

namespace Desk

/-- A session is closed. -/
def dropped (value : MoonlightSession) : List Deed :=
  [.issued (.beginStop (.closing value.engine)),
    .issued (.finishStop (.closing value.engine)),
    .issued (.clearSink (.closing value.engine)),
    .issued (.storeStop value.engine)]

def closedAndDropped (value : MoonlightSession) : List Deed :=
  dropped value ++ dropped value

/-- The commands of an input for this session. -/
def inputDeeds (value : MoonlightSession) (last : UInt8)
    (input : RemoteInput) : List Deed :=
  (inputEvents value last input).filterMap deedOf

/-- A session is sent an input. -/
def play (desk : Desk) (input : RemoteInput) (value : MoonlightSession) :
    Desk :=
  let last := desk.masks value.engine
  { desk with
    masks := Function.update desk.masks value.engine (maskAfter last input)
    deeds := desk.deeds ++ inputDeeds value last input }

/-- What one message of the loop does. -/
def handle (desk : Desk) : Proto.HostMsg → Desk
  | .connect session doc =>
      { desk with
        changes :=
          .inserted session ⟨desk.engines, doc.width, doc.height⟩ ::
            desk.changes
        engines := desk.engines + 1
        deeds := desk.deeds ++
          .connected desk.engines session (toCoreDoc doc) ::
            (desk.sessions.lookup session).toList.flatMap dropped }
  | .input session input =>
      (desk.sessions.lookup session).elim desk (desk.play (toCoreInput input))
  | .close session =>
      match desk.sessions.lookup session with
      | some value =>
          { desk with
            changes := .removed session :: desk.changes
            deeds := desk.deeds ++ closedAndDropped value }
      | none => desk
  | .hello _ _ | .resize _ _ _ | .frameAck _ _ | .shutdown => desk

/-- The map is emptied, with these deeds for each engine in it. -/
def cleared (drain : DrainOrder) (deeds : MoonlightSession → List Deed)
    (desk : Desk) : Desk :=
  { desk with
    changes := []
    deeds := desk.deeds ++ (drain.order desk.changes).flatMap deeds }

/-- The drain of the map closes each engine and drops it; leaving the map to go
out of scope only drops it. -/
def emptied (drain : DrainOrder) : Except Text Unit → Desk → Desk
  | .ok () => cleared drain closedAndDropped
  | .error _ => cleared drain dropped

/-- An input that leaves the mask alone. -/
theorem play_of_same {desk : Desk} {input : RemoteInput}
    {value : MoonlightSession} (same : ∀ last, maskAfter last input = last) :
    desk.play input value =
      desk.did (inputDeeds value (desk.masks value.engine) input) := by
  rw [play, same, Function.update_eq_self]
  rfl

theorem tends_dropped {value : MoonlightSession} {deed : Deed}
    (member : deed ∈ dropped value) : deed.Tends := by
  simp only [dropped, List.mem_cons, List.not_mem_nil, or_false] at member
  rcases member with rfl | rfl | rfl | rfl
  · exact ⟨rfl, rfl⟩
  · exact ⟨rfl, rfl⟩
  · exact ⟨rfl, rfl⟩
  · exact ⟨rfl, rfl⟩

theorem tends_closedAndDropped {value : MoonlightSession} {deed : Deed}
    (member : deed ∈ closedAndDropped value) : deed.Tends := by
  rcases List.mem_append.mp member with first | second
  · exact tends_dropped first
  · exact tends_dropped second

theorem tends_inputDeeds {value : MoonlightSession} {last : UInt8}
    {input : RemoteInput} {deed : Deed}
    (member : deed ∈ inputDeeds value last input) : deed.Tends := by
  obtain ⟨event, among, doing⟩ := List.mem_filterMap.mp member
  rcases mem_inputEvents among with ⟨call, rfl⟩ | ⟨buttons, rfl⟩
  · cases doing
    exact ⟨rfl, rfl⟩
  · cases doing
    exact ⟨rfl, rfl⟩

theorem storeStop_mem_dropped (value : MoonlightSession) :
    .issued (.storeStop value.engine) ∈ dropped value := by
  simp [dropped]

theorem storeStop_mem_closedAndDropped (value : MoonlightSession) :
    .issued (.storeStop value.engine) ∈ closedAndDropped value :=
  List.mem_append_left _ (storeStop_mem_dropped value)

theorem order_nil (drain : DrainOrder) : drain.order [] = [] :=
  (drain.complete []).eq_nil

theorem cleared_of_empty {drain : DrainOrder}
    {deeds : MoonlightSession → List Deed} {desk : Desk}
    (empty : desk.changes = []) : desk.cleared drain deeds = desk := by
  rw [cleared, empty, order_nil, List.flatMap_nil, List.append_nil, ← empty]

theorem emptied_of_empty {drain : DrainOrder} {desk : Desk}
    (empty : desk.changes = []) (result : Except Text Unit) :
    desk.emptied drain result = desk := by
  cases result with
  | ok value => exact cleared_of_empty empty
  | error error => exact cleared_of_empty empty

end Desk

inductive Stage where
  /-- Waiting for the hello. -/
  | opening
  | serving
  /-- Nothing more is read; `run` returns this. -/
  | finished (result : Except Text Unit)

def Stage.reads : Stage → Bool
  | .finished _ => false
  | _ => true

theorem Stage.finished_of_not_reads {stage : Stage}
    (unread : stage.reads = false) : ∃ result, stage = .finished result := by
  cases stage with
  | finished result => exact ⟨result, rfl⟩
  | _ => cases unread

structure Account where
  stage : Stage
  desk : Desk
  turns : List Desk

namespace Account

def initial : Account where
  stage := .opening
  desk := .initial
  turns := []

def ready (libraries : Libraries) : Proto.AddonMsg :=
  .ready libraries.packageVersion [lit "moonlight"]

/-- The first control message. -/
def welcome (libraries : Libraries) (account : Account) :
    Proto.HostMsg → Account
  | .hello abi _ =>
      if abi ≠ Proto.abi then
        { account with stage := .finished (.error (abiMismatch abi)) }
      else
        { account with
          stage := .serving
          desk := account.desk.did [.issued (.control (ready libraries))] }
  | other =>
      { account with
        stage := .finished
          (.error (lit "expected hello, got " ++ libraries.debugHostMsg other)) }

/-- A later one. -/
def serve (account : Account) : Proto.HostMsg → Account
  | .shutdown => { account with stage := .finished (.ok ()) }
  | message => { account with desk := account.desk.handle message }

@[simp] theorem desk_serve (account : Account) (message : Proto.HostMsg) :
    (account.serve message).desk = account.desk.handle message := by
  cases message with
  | _ => rfl

def attend (libraries : Libraries) (account : Account)
    (message : Proto.HostMsg) : Account :=
  match account.stage with
  | .opening => account.welcome libraries message
  | .serving => account.serve message
  | .finished _ => account

theorem attend_opening {libraries : Libraries} {account : Account}
    (opening : account.stage = .opening) (message : Proto.HostMsg) :
    account.attend libraries message = account.welcome libraries message := by
  rw [attend, opening]

theorem attend_serving {libraries : Libraries} {account : Account}
    (serving : account.stage = .serving) (message : Proto.HostMsg) :
    account.attend libraries message = account.serve message := by
  rw [attend, serving]

/-- What the reader makes of a message it has read. -/
def sort (libraries : Libraries) (account : Account) (message : Message) :
    Account :=
  if message.1 ≠ Proto.kindControl then
    account
  else
    match libraries.fromSlice message.2 with
    | .ok control => account.attend libraries control
    | .error error =>
        { account with
          stage := .finished
            (.error (lit "undecodable control message: " ++ error)) }

def read (account : Account) : Account :=
  { account with turns := account.turns ++ [account.desk] }

def hear (libraries : Libraries) (account : Account) (message : Message) :
    Account :=
  match account.stage with
  | .finished _ => account
  | _ => account.read.sort libraries message

def stopped : Proto.Stop → Except Text Unit
  | .closed => .ok ()
  | .failed error => .error error.message

/-- The messages are over. -/
def stop (account : Account) (stop : Proto.Stop) : Account :=
  match account.stage with
  | .finished _ => account
  | _ => { account.read with stage := .finished (stopped stop) }

/-- All the messages and how they end. -/
def reckon (libraries : Libraries) (account : Account)
    (messages : List Message) (stop : Proto.Stop) : Account :=
  (messages.foldl (hear libraries) account).stop stop

@[simp] theorem reckon_nil (libraries : Libraries) (account : Account)
    (stop : Proto.Stop) :
    account.reckon libraries [] stop = account.stop stop := rfl

@[simp] theorem reckon_cons (libraries : Libraries) (account : Account)
    (message : Message) (messages : List Message) (stop : Proto.Stop) :
    account.reckon libraries (message :: messages) stop =
      (account.hear libraries message).reckon libraries messages stop := rfl

theorem hear_reading {libraries : Libraries} {account : Account}
    (reads : account.stage.reads = true) (message : Message) :
    account.hear libraries message = account.read.sort libraries message := by
  rw [hear]
  split
  · rename_i finished
    rw [finished] at reads
    cases reads
  · rfl

/-- Everything one message can do while messages are read. -/
inductive Hearing (libraries : Libraries) (account : Account)
    (message : Message) : Account → Prop where
  | skipped (other : message.1 ≠ Proto.kindControl) :
      Hearing libraries account message account.read
  | garbled {error : Text} (control : message.1 = Proto.kindControl)
      (decoded : libraries.fromSlice message.2 = .error error) :
      Hearing libraries account message
        { account.read with
          stage := .finished
            (.error (lit "undecodable control message: " ++ error)) }
  | heard {control : Proto.HostMsg} (kind : message.1 = Proto.kindControl)
      (decoded : libraries.fromSlice message.2 = .ok control) :
      Hearing libraries account message
        (account.read.attend libraries control)

theorem hearing {libraries : Libraries} {account : Account}
    (reads : account.stage.reads = true) (message : Message) :
    Hearing libraries account message (account.hear libraries message) := by
  rw [hear_reading reads, sort]
  split
  · rename_i other
    exact .skipped other
  · rename_i control
    cases decoded : libraries.fromSlice message.2 with
    | ok heard => exact .heard (not_not.mp control) decoded
    | error error => exact .garbled (not_not.mp control) decoded

theorem stop_reading {account : Account} (reads : account.stage.reads = true)
    (stop : Proto.Stop) :
    account.stop stop =
      ⟨.finished (stopped stop), account.desk,
        account.turns ++ [account.desk]⟩ := by
  rw [Account.stop]
  split
  · rename_i finished
    rw [finished] at reads
    cases reads
  · rfl

theorem hear_finished {libraries : Libraries} {account : Account}
    {result : Except Text Unit} (finished : account.stage = .finished result)
    (message : Message) : account.hear libraries message = account := by
  rw [hear, finished]

theorem reckon_finished {libraries : Libraries} {account : Account}
    {result : Except Text Unit} (finished : account.stage = .finished result)
    (messages : List Message) (stop : Proto.Stop) :
    account.reckon libraries messages stop = account := by
  induction messages with
  | nil => rw [reckon_nil, Account.stop, finished]
  | cons message messages induction =>
      rw [reckon_cons, hear_finished finished, induction]

@[simp] theorem turns_attend (libraries : Libraries) (account : Account)
    (message : Proto.HostMsg) :
    (account.attend libraries message).turns = account.turns := by
  unfold attend
  split
  · cases message with
    | hello abi version =>
        rw [welcome]
        split <;> rfl
    | _ => rfl
  · cases message <;> rfl
  · rfl

theorem turns_sort (libraries : Libraries) (account : Account)
    (message : Message) :
    (account.sort libraries message).turns = account.turns := by
  unfold sort
  split
  · rfl
  · split
    · exact turns_attend libraries account _
    · rfl

/-- The account after these messages, from the start. -/
def after (libraries : Libraries) (messages : List Message) : Account :=
  messages.foldl (hear libraries) .initial

theorem after_append (libraries : Libraries) (messages : List Message)
    (message : Message) :
    after libraries (messages ++ [message]) =
      (after libraries messages).hear libraries message :=
  List.foldl_append ..

/-- The desk of this turn is that of the messages before it. -/
def TurnsAgree (libraries : Libraries) (messages : List Message)
    (turns : List Desk) : Prop :=
  ∀ index desk, turns[index]? = some desk →
    (after libraries (messages.take index)).stage.reads = true ∧
      (after libraries (messages.take index)).desk = desk

theorem TurnsAgree.snoc {libraries : Libraries} {messages : List Message}
    {turns : List Desk} (agree : TurnsAgree libraries messages turns)
    (length : turns.length = messages.length)
    (reads : (after libraries messages).stage.reads = true) :
    TurnsAgree libraries messages
      (turns ++ [(after libraries messages).desk]) := by
  intro index desk turn
  rcases Nat.lt_trichotomy index turns.length with before | rfl | beyond
  · rw [List.getElem?_append_left before] at turn
    exact agree index desk turn
  · rw [List.getElem?_concat_length, Option.some.injEq] at turn
    rw [length, List.take_length]
    exact ⟨reads, turn⟩
  · rw [List.getElem?_eq_none] at turn
    · cases turn
    · rw [List.length_append]
      exact beyond

theorem TurnsAgree.extend {libraries : Libraries} {messages : List Message}
    {turns : List Desk} (agree : TurnsAgree libraries messages turns)
    (fewer : turns.length ≤ messages.length + 1) (message : Message) :
    TurnsAgree libraries (messages ++ [message]) turns := by
  intro index desk turn
  obtain ⟨bound, _⟩ := List.getElem?_eq_some_iff.mp turn
  rw [List.take_append_of_le_length (by omega)]
  exact agree index desk turn

/-- While messages are read there is one turn for each. -/
structure Counts (libraries : Libraries) (messages : List Message) :
    Prop where
  agree : TurnsAgree libraries messages (after libraries messages).turns
  fewer : (after libraries messages).turns.length ≤ messages.length
  reading : (after libraries messages).stage.reads = true →
    (after libraries messages).turns.length = messages.length

theorem counts (libraries : Libraries) (messages : List Message) :
    Counts libraries messages := by
  induction messages using List.reverseRecOn with
  | nil =>
      refine ⟨?_, Nat.le_refl _, fun _ => rfl⟩
      rintro index desk ⟨⟩
  | append_singleton messages message induction =>
      obtain ⟨agree, fewer, reading⟩ := induction
      cases reads : (after libraries messages).stage.reads with
      | false =>
          have same : after libraries (messages ++ [message]) =
              after libraries messages := by
            obtain ⟨result, finished⟩ := Stage.finished_of_not_reads reads
            rw [after_append, hear_finished finished]
          refine ⟨?_, ?_, ?_⟩
          · rw [same]
            exact agree.extend (Nat.le_succ_of_le fewer) message
          · rw [same, List.length_append]
            omega
          · rw [same, reads]
            exact fun impossible => by cases impossible
      | true =>
          have turns : (after libraries (messages ++ [message])).turns =
              (after libraries messages).turns ++
                [(after libraries messages).desk] := by
            rw [after_append, hear_reading reads, turns_sort]
            rfl
          have length := reading reads
          refine ⟨?_, ?_, ?_⟩
          · rw [turns]
            apply (agree.snoc length reads).extend
            simp [length]
          · simp [turns, length]
          · simp [turns, length]

theorem turns_reckon (libraries : Libraries) (messages : List Message)
    (stop : Proto.Stop) :
    TurnsAgree libraries messages
        (initial.reckon libraries messages stop).turns ∧
      (initial.reckon libraries messages stop).turns.length ≤
        messages.length + 1 := by
  obtain ⟨agree, fewer, reading⟩ := counts libraries messages
  have reckoned : initial.reckon libraries messages stop =
      (after libraries messages).stop stop := rfl
  cases reads : (after libraries messages).stage.reads with
  | false =>
      obtain ⟨result, finished⟩ := Stage.finished_of_not_reads reads
      rw [reckoned, Account.stop, finished]
      exact ⟨agree, Nat.le_succ_of_le fewer⟩
  | true =>
      have length := reading reads
      rw [reckoned, stop_reading reads]
      refine ⟨agree.snoc length reads, ?_⟩
      rw [List.length_append, length]
      exact Nat.le_refl _

/-- `run` has returned this result. -/
structure Settles (drain : DrainOrder) (account : Account)
    (result : Except Text Unit) (final : Surroundings) : Prop where
  finished : account.stage = .finished result
  turns : final.turns = account.turns
  desk : final.desk = account.desk.emptied drain result

end Account

/-- The account in these surroundings. -/
def Surroundings.account (state : Surroundings) (stage : Stage) : Account where
  stage := stage
  desk := state.desk
  turns := state.turns

end Main

end MoonlightAddon
