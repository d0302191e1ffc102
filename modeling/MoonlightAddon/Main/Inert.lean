import MoonlightAddon.Main.Observed

/-!
# Messages that change nothing

Two streams, the second with messages put in that have no effect where they
stand, make the reader do the same things to the same engines.
-/

namespace MoonlightAddon

open Session Proto

namespace Main

variable {libraries : Libraries} {drain : DrainOrder}

/-- A control message without effect at this desk. -/
def vain (desk : Desk) : HostMsg → Prop
  | .hello _ _ | .resize _ _ _ | .frameAck _ _ => True
  | .input session _ | .close session => desk.sessions.lookup session = none
  | .connect _ _ | .shutdown => False

def Inert (libraries : Libraries) (desk : Desk) (message : Message) : Prop :=
  message.1 ≠ kindControl ∨
    ∃ control, libraries.fromSlice message.2 = .ok control ∧ vain desk control

/-- The second stream is the first with inert messages put in after the hello.
Once nothing more is read the rest may differ in any way. -/
inductive Stretched (libraries : Libraries) :
    Account → List Message → List Message → Prop where
  | done {account : Account} : Stretched libraries account [] []
  | keep {account : Account} {message : Message}
      {first second : List Message} :
      Stretched libraries (account.hear libraries message) first second →
      Stretched libraries account (message :: first) (message :: second)
  | insert {account : Account} {message : Message}
      {first second : List Message} :
      account.stage = .serving →
      Inert libraries account.desk message →
      Stretched libraries account first second →
      Stretched libraries account first (message :: second)
  | beyond {account : Account} {first second : List Message} :
      account.stage.reads = false →
      Stretched libraries account first second

namespace Account

/-- The account without its turns. -/
def bare (account : Account) : Stage × Desk :=
  (account.stage, account.desk)

variable {account other : Account}

theorem bare_attend (same : other.bare = account.bare) (control : HostMsg) :
    (other.attend libraries control).bare =
      (account.attend libraries control).bare := by
  obtain ⟨stage, desk, turns⟩ := account
  obtain ⟨_, _, later⟩ := other
  cases same
  cases stage with
  | finished result => rfl
  | serving =>
      cases control with
      | _ => rfl
  | opening =>
      cases control with
      | hello abi version =>
          simp only [attend, welcome]
          split <;> rfl
      | _ => rfl

theorem bare_hear (same : other.bare = account.bare) (message : Message) :
    (other.hear libraries message).bare =
      (account.hear libraries message).bare := by
  have stages : other.stage = account.stage := congrArg Prod.fst same
  cases reads : account.stage.reads with
  | false =>
      obtain ⟨result, finished⟩ := Stage.finished_of_not_reads reads
      rw [hear_finished finished, hear_finished (stages.trans finished), same]
  | true =>
      rw [hear_reading reads, hear_reading (stages ▸ reads), sort, sort]
      split
      · exact same
      · cases libraries.fromSlice message.2 with
        | ok control => exact @bare_attend _ account.read other.read same control
        | error error => exact congrArg (Prod.mk _) (congrArg Prod.snd same)

theorem bare_stop (same : other.bare = account.bare) (stop : Stop) :
    (other.stop stop).bare = (account.stop stop).bare := by
  obtain ⟨stage, desk, turns⟩ := account
  obtain ⟨_, _, later⟩ := other
  cases same
  cases stage with
  | _ => rfl

theorem handle_vain {desk : Desk} {control : HostMsg} (idle : vain desk control) :
    desk.handle control = desk := by
  cases control with
  | hello | resize | frameAck => rfl
  | input session input =>
      replace idle : desk.sessions.lookup session = none := idle
      simp [Desk.handle, idle]
  | close session =>
      replace idle : desk.sessions.lookup session = none := idle
      simp [Desk.handle, idle]
  | connect | shutdown => exact idle.elim

theorem serve_vain {control : HostMsg} (idle : vain account.desk control) :
    account.serve control = account := by
  have desk := handle_vain idle
  cases control with
  | shutdown => exact idle.elim
  | _ => exact congrArg (Account.mk account.stage · account.turns) desk

theorem bare_inert {message : Message} (serving : account.stage = .serving)
    (inert : Inert libraries account.desk message) :
    (account.hear libraries message).bare = account.bare := by
  have reads : account.stage.reads = true := by rw [serving]; rfl
  have turn := @hearing libraries _ reads message
  generalize account.hear libraries message = after at turn
  cases turn with
  | skipped other => rfl
  | garbled kind decoded =>
      rcases inert with other | ⟨control, heard, _⟩
      · exact absurd kind other
      · rw [decoded] at heard
        cases heard
  | @heard spoken kind decoded =>
      rcases inert with other | ⟨control, heard, idle⟩
      · exact absurd kind other
      · obtain rfl := Except.ok.inj (decoded.symm.trans heard)
        have listening : account.read.stage = .serving := serving
        have idle : vain account.read.desk spoken := idle
        rw [attend_serving listening, serve_vain idle]
        rfl

theorem reads_of_bare (same : other.bare = account.bare) :
    other.stage.reads = account.stage.reads :=
  congrArg (fun bare => bare.1.reads) same

/-- Accounts that are over stay as they are. -/
theorem foldl_hear_finished (unread : account.stage.reads = false)
    (messages : List Message) :
    messages.foldl (hear libraries) account = account := by
  obtain ⟨result, finished⟩ := Stage.finished_of_not_reads unread
  induction messages with
  | nil => rfl
  | cons message messages induction =>
      rw [List.foldl_cons, hear_finished finished, induction]

/-- Message by message the two streams keep the accounts the same. -/
theorem bare_stretched {first second : List Message}
    (stretched : Stretched libraries account first second)
    (same : other.bare = account.bare) :
    (second.foldl (hear libraries) other).bare =
      (first.foldl (hear libraries) account).bare := by
  induction stretched generalizing other with
  | done => exact same
  | keep _ induction => exact induction (bare_hear same _)
  | @insert account message first second serving inert _ induction =>
      apply induction
      rw [bare_hear same, bare_inert serving inert]
  | beyond unread =>
      rw [foldl_hear_finished unread,
        foldl_hear_finished ((reads_of_bare same).trans unread), same]

theorem bare_reckon {first second : List Message}
    (stretched : Stretched libraries .initial first second) (stop : Stop) :
    (initial.reckon libraries second stop).bare =
      (initial.reckon libraries first stop).bare :=
  bare_stop (bare_stretched stretched rfl) stop

end Account

/-- What runs on the two streams have in common. -/
structure SameConduct (libraries : Libraries) (drain : DrainOrder)
    (first second : Reader) : Prop where
  returns : ∀ stdin ∈ [first, second], ∀ trace program state,
    Executes libraries drain stdin trace program state →
      ∃ more outcome final,
        Executes libraries drain stdin (trace ++ more) (.ret outcome) final
  result : ∀ trace outcome final other outcome' final',
    Executes libraries drain first trace (.ret outcome) final →
      Executes libraries drain second other (.ret outcome') final' →
        outcome = outcome'
  /-- The engines made, closed and sent inputs, every call of the C core and
  every message to the host. -/
  operations : ∀ trace outcome final other outcome' final',
    Executes libraries drain first trace (.ret outcome) final →
      Executes libraries drain second other (.ret outcome') final' →
        trace.filterMap deedOf = other.filterMap deedOf
  /-- Before corresponding messages the map is the same, and so is everything
  done so far. -/
  points : ∀ past reply program state other reply' program' state',
    Executes libraries drain first (past ++ [⟨.readMessage, reply⟩]) program
      state →
      Executes libraries drain second (other ++ [⟨.readMessage, reply'⟩])
        program' state' →
        Stretched libraries .initial (readIn past) (readIn other) →
          state.desk = state'.desk

theorem inert_messages {libraries : Libraries} {drain : DrainOrder}
    {first second : Reader} {messages stretched : List Message}
    (one : Framed first.bytes messages)
    (other : Framed second.bytes stretched)
    (inserted : Stretched libraries .initial messages stretched) :
    SameConduct libraries drain first second := by
  have yields : Yields first messages .closed := yields_encode one.1 one.2
  have yields' : Yields second stretched .closed := yields_encode other.1 other.2
  have same := Account.bare_reckon inserted .closed
  have ends : ∀ trace outcome final other outcome' final',
      Executes libraries drain first trace (.ret outcome) final →
        Executes libraries drain second other (.ret outcome') final' →
          outcome = outcome' ∧ final.desk.deeds = final'.desk.deeds := by
    intro trace outcome final other outcome' final' executes executes'
    obtain ⟨result, rfl, settled⟩ := executes.settled yields
    obtain ⟨result', rfl, settled'⟩ := executes'.settled yields'
    have stages := congrArg Prod.fst same
    have desks : _ = Account.desk _ := congrArg Prod.snd same
    obtain rfl : result' = result := by
      apply Stage.finished.inj
      rw [← settled.finished, ← settled'.finished]
      exact stages
    refine ⟨rfl, ?_⟩
    rw [settled.desk, settled'.desk, ← desks]
    rfl
  refine ⟨?_, ?_, ?_, ?_⟩
  · intro stdin _ trace program state executes
    exact executes.returns
  · intro trace outcome final other outcome' final' executes executes'
    exact (ends trace outcome final other outcome' final' executes executes').1
  · intro trace outcome final other outcome' final' executes executes'
    obtain ⟨_, deeds⟩ := ends _ _ _ _ _ _ executes executes'
    rw [← deeds_of_path executes.path, ← deeds_of_path executes'.path, deeds]
  · intro past reply program state other reply' program' state' executes
      executes' corresponding
    obtain ⟨_, desk⟩ := executes.desk_at_read
    obtain ⟨_, desk'⟩ := executes'.desk_at_read
    rw [← desk, ← desk']
    have agree := @Account.bare_stretched _ .initial .initial _ _ corresponding rfl
    exact (congrArg Prod.snd agree).symm

namespace SampleStream

def hello : Message :=
  (kindControl, Text.asBytes (lit "\x7b\"t\":\"hello\",\"abi\":1\x7d"))

def connect : Message :=
  (kindControl, Text.asBytes (lit ("\x7b\"t\":\"connect\",\"session\":1," ++
    "\"doc\":\x7b\"host\":\"10.0.0.2\"\x7d\x7d")))

def resize : Message :=
  (kindControl, Text.asBytes (lit
    "\x7b\"t\":\"resize\",\"session\":1,\"width\":800,\"height\":600\x7d"))

def close : Message :=
  (kindControl, Text.asBytes (lit "\x7b\"t\":\"close\",\"session\":2\x7d"))

def frame : Message := (kindFrame, [0, 0])

/-- The document of `connect`: every other field has its default. -/
def doc : ConnectDoc :=
  ⟨lit "10.0.0.2", 47989, 47984, 1920, 1080, 60, 20000, false, [], [], []⟩

/-- `serde_json` on these four texts. -/
def fromSlice (payload : Bytes) : Except Text HostMsg :=
  if payload = hello.2 then .ok (.hello 1 [])
  else if payload = connect.2 then .ok (.connect 1 doc)
  else if payload = resize.2 then .ok (.resize 1 800 600)
  else if payload = close.2 then .ok (.close 2)
  else .error []

def sample : Libraries :=
  { (default : Libraries) with fromSlice := fromSlice }

def inOrder : DrainOrder where
  order changes := (sessionsAfter changes).values
  complete _ := .refl _

def greeted : Account :=
  ⟨.serving, Desk.initial.did [.issued (.control (Account.ready sample))],
    [.initial]⟩

def connected : Account :=
  ⟨.serving, greeted.desk.handle (.connect 1 doc), [.initial, greeted.desk]⟩

theorem hear_hello : Account.initial.hear sample hello = greeted := by
  have decoded : sample.fromSlice hello.2 = .ok (.hello 1 []) := by
    simp [sample, fromSlice]
  have reads : Account.initial.stage.reads = true := rfl
  rw [Account.hear_reading reads, Account.sort, decoded]
  rfl

theorem hear_connect : greeted.hear sample connect = connected := by
  have different : connect.2 ≠ hello.2 := by decide +kernel
  have decoded : sample.fromSlice connect.2 = .ok (.connect 1 doc) := by
    simp [sample, fromSlice, different]
  have reads : greeted.stage.reads = true := rfl
  rw [Account.hear_reading reads, Account.sort, decoded]
  rfl

/-- A frame, a resize of the session that is there and a close of one that is
not. -/
theorem stretched_streams :
    Stretched sample .initial [hello, connect]
      [hello, frame, connect, resize, close] := by
  apply Stretched.keep
  rw [hear_hello]
  apply Stretched.insert rfl (.inl (by decide))
  apply Stretched.keep
  rw [hear_connect]
  have resized : sample.fromSlice resize.2 = .ok (.resize 1 800 600) := by
    have hello : resize.2 ≠ hello.2 := by decide +kernel
    have connect : resize.2 ≠ connect.2 := by decide +kernel
    simp [sample, fromSlice, hello, connect]
  apply Stretched.insert rfl (.inr ⟨_, resized, trivial⟩)
  have closed : sample.fromSlice close.2 = .ok (.close 2) := by
    have hello : close.2 ≠ hello.2 := by decide +kernel
    have connect : close.2 ≠ connect.2 := by decide +kernel
    have resize : close.2 ≠ resize.2 := by decide +kernel
    simp [sample, fromSlice, hello, connect, resize]
  refine Stretched.insert rfl (.inr ⟨_, closed, ?_⟩) .done
  rfl

end SampleStream

open SampleStream in
theorem inert_messages_inserted :
    SameConduct sample inOrder ⟨encode hello ++ encode connect, []⟩
      ⟨encode hello ++ encode frame ++ encode connect ++ encode resize ++
        encode close, []⟩ :=
  inert_messages ⟨by decide +kernel, by decide +kernel⟩
    ⟨by decide +kernel, by decide +kernel⟩ stretched_streams

end Main

end MoonlightAddon
