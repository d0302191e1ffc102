import MoonlightAddon.Main.Account

/-!
# The reader carries the account

One lemma for each function of `main.rs`, now with its result: among its
surroundings `run` ends, returns what the account of the messages on stdin
says, and leaves the desk the account ends with.
-/

namespace MoonlightAddon

open Session Proto

namespace Main

variable {libraries : Libraries} {drain : DrainOrder}

theorem ends_issue (command : Command) {state : Surroundings}
    {post : Outcome command.Reply → Surroundings → Prop}
    (holds : ∀ reply, state.Answers drain ⟨command, reply⟩ →
      post (.ok reply) (state.after ⟨command, reply⟩)) :
    (surroundings drain).Ends (bodies libraries) post
      (issue command) state := by
  apply Typestate.ends_perform
  · exact ⟨_, _, state.answers_answer drain command, rfl⟩
  · rintro reply after ⟨answers, rfl⟩
    exact holds reply answers

section Engines

theorem ends_close {session : MoonlightSession} {state : Surroundings}
    {post : Outcome Unit → Surroundings → Prop}
    (holds : post (.ok ()) (state.did (Desk.dropped session))) :
    (surroundings drain).Ends (bodies libraries) post
      (close session) state := by
  apply Typestate.ends_bind
  apply Typestate.ends_bind
  apply ends_issue (.beginStop _)
  intro begun _
  apply Typestate.ends_then
  apply Typestate.ends_bind
  apply ends_issue (.finishStop _)
  intro finished _
  apply Typestate.ends_then
  apply ends_issue (.clearSink _)
  intro cleared _
  apply Typestate.ends_then
  apply ends_issue (.storeStop _)
  intro stored _
  simpa [Surroundings.did, Desk.did, Surroundings.after, mask, Desk.dropped]
    using holds

theorem ends_closeAndDrop {session : MoonlightSession} {state : Surroundings}
    {post : Outcome Unit → Surroundings → Prop}
    (holds : post (.ok ()) (state.did (Desk.closedAndDropped session))) :
    (surroundings drain).Ends (bodies libraries) post
      (closeAndDrop session) state := by
  apply Typestate.ends_bind
  apply ends_close
  apply Typestate.ends_then
  apply ends_close
  rwa [Surroundings.did_did]

theorem ends_forEach {action : MoonlightSession → Rust Unit}
    {deeds : MoonlightSession → List Deed}
    (one : ∀ session state (post : Outcome Unit → Surroundings → Prop),
      post (.ok ()) (state.did (deeds session)) →
        (surroundings drain).Ends (bodies libraries) post
          (action session) state)
    {sessions : List MoonlightSession} {state : Surroundings}
    {post : Outcome Unit → Surroundings → Prop}
    (holds : post (.ok ()) (state.did (sessions.flatMap deeds))) :
    (surroundings drain).Ends (bodies libraries) post
      (forEach action sessions) state := by
  induction sessions generalizing state with
  | nil =>
      rw [List.flatMap_nil, Surroundings.did_nil] at holds
      exact .ret holds
  | cons session rest induction =>
      rw [List.flatMap_cons, ← Surroundings.did_did] at holds
      apply Typestate.ends_bind
      apply one
      apply Typestate.ends_then
      exact induction holds

theorem ends_liSend {engine : Engine} {call : LiSend} {state : Surroundings}
    {post : Outcome Unit → Surroundings → Prop}
    (holds : post (.ok ()) (state.did [.issued (.liSend engine call)])) :
    (surroundings drain).Ends (bodies libraries) post
      (issue (.liSend engine call)) state := by
  apply ends_issue (.liSend _ _)
  intro reply _
  exact holds

theorem ends_sendButtons {engine : Engine} {previous buttons : UInt8}
    {table : List (UInt8 × Int32)} {state : Surroundings}
    {post : Outcome Unit → Surroundings → Prop}
    (holds : post (.ok ()) (state.did
      ((buttonEvents engine previous buttons table).filterMap deedOf))) :
    (surroundings drain).Ends (bodies libraries) post
      (sendButtons engine previous buttons table) state := by
  induction table generalizing state with
  | nil =>
      rw [buttonEvents, List.flatMap_nil, List.filterMap_nil,
        Surroundings.did_nil] at holds
      exact .ret holds
  | cons entry rest induction =>
      obtain ⟨bit, button⟩ := entry
      rw [buttonEvents, List.flatMap_cons, List.filterMap_append,
        ← Surroundings.did_did] at holds
      by_cases changed : (buttons &&& bit ≠ 0) ≠ (previous &&& bit ≠ 0)
      · simp only [sendButtons, if_pos changed] at holds ⊢
        apply Typestate.ends_bind
        apply ends_liSend
        exact induction holds
      · simp only [sendButtons, if_neg changed, List.filterMap_nil,
          Surroundings.did_nil] at holds ⊢
        exact induction holds

theorem ends_sendInput {session : MoonlightSession} {input : RemoteInput}
    {state : Surroundings} {post : Outcome Unit → Surroundings → Prop}
    (holds : post (.ok ()) { state with desk := state.desk.play input session }) :
    (surroundings drain).Ends (bodies libraries) post
      (sendInput session input) state := by
  cases input with
  | pointer x y buttons =>
      apply Typestate.ends_bind
      apply ends_liSend
      apply Typestate.ends_then
      apply Typestate.ends_bind
      apply ends_issue (.swapButtons _ _)
      rintro previous rfl
      apply ends_sendButtons
      simpa [Surroundings.did, Desk.did, Surroundings.after, mask, Desk.play,
        Desk.inputDeeds, inputEvents, maskAfter, deedOf] using holds
  | wheel x y dx dy =>
      rw [Desk.play_of_same fun _ => rfl] at holds
      simp only [sendInput, Desk.inputDeeds, inputEvents] at holds ⊢
      split
      · rename_i moved
        rw [if_pos moved] at holds
        exact ends_liSend holds
      · rename_i still
        rw [if_neg still, List.filterMap_nil, Desk.did_nil] at holds
        exact .ret holds
  | key down code char mods =>
      rw [Desk.play_of_same fun _ => rfl] at holds
      simp only [sendInput, Desk.inputDeeds, inputEvents] at holds ⊢
      cases known : vkFromCode code with
      | none =>
          rw [known, List.filterMap_nil, Desk.did_nil] at holds
          exact .ret holds
      | some vk =>
          rw [known] at holds
          exact ends_liSend holds
  | clipboardText text =>
      rw [Desk.play_of_same fun _ => rfl, Desk.inputDeeds, inputEvents,
        List.filterMap_nil, Desk.did_nil] at holds
      exact .ret holds

end Engines

section Messages

/-- The loop goes on after every message but `shutdown`. -/
def continues : HostMsg → Bool
  | .shutdown => false
  | _ => true

theorem ends_connect {session : UInt32} {doc : ConnectDoc}
    {state : Surroundings} {post : Outcome Bool → Surroundings → Prop}
    (holds : post (.ok true)
      { state with desk := state.desk.handle (.connect session doc) }) :
    (surroundings drain).Ends (bodies libraries) post
      (handle (.connect session doc)) state := by
  apply Typestate.ends_bind
  apply Typestate.ends_bind
  apply ends_issue (.spawn _ _)
  rintro ⟨engine, started⟩ numbered
  obtain rfl : engine = state.desk.engines := numbered
  apply Typestate.Ends.ret
  apply Typestate.ends_then
  apply Typestate.ends_bind
  apply ends_issue (.mapInsert _ _)
  intro replaced found
  replace found : replaced = state.desk.sessions.lookup session := found
  rw [Desk.handle, ← found] at holds
  cases replaced with
  | none => exact .ret holds
  | some old =>
      apply Typestate.ends_then
      apply Typestate.ends_bind
      apply ends_close
      apply Typestate.ends_then
      apply Typestate.ends_pure
      simpa [Surroundings.did, Desk.did, Surroundings.after, toCoreDoc]
        using holds

theorem ends_input {session : UInt32} {input : InputMsg}
    {state : Surroundings} {post : Outcome Bool → Surroundings → Prop}
    (holds : post (.ok true)
      { state with desk := state.desk.handle (.input session input) }) :
    (surroundings drain).Ends (bodies libraries) post
      (handle (.input session input)) state := by
  apply Typestate.ends_bind
  apply ends_issue (.mapGet _)
  intro looked found
  replace found : looked = state.desk.sessions.lookup session := found
  rw [Desk.handle, ← found] at holds
  cases looked with
  | none => exact .ret holds
  | some value =>
      apply Typestate.ends_then
      apply Typestate.ends_bind
      apply ends_sendInput
      apply Typestate.ends_then
      exact .ret holds

theorem ends_closing {session : UInt32} {state : Surroundings}
    {post : Outcome Bool → Surroundings → Prop}
    (holds : post (.ok true)
      { state with desk := state.desk.handle (.close session) }) :
    (surroundings drain).Ends (bodies libraries) post
      (handle (.close session)) state := by
  apply Typestate.ends_bind
  apply ends_issue (.mapRemove _)
  intro removed found
  replace found : removed = state.desk.sessions.lookup session := found
  rw [Desk.handle, ← found] at holds
  cases removed with
  | none => exact .ret holds
  | some value =>
      apply Typestate.ends_then
      apply Typestate.ends_bind
      apply ends_closeAndDrop
      apply Typestate.ends_then
      apply Typestate.ends_pure
      simpa [Surroundings.did, Desk.did, Surroundings.after] using holds

theorem ends_handle {message : HostMsg} {state : Surroundings}
    {post : Outcome Bool → Surroundings → Prop}
    (holds : post (.ok (continues message))
      { state with desk := state.desk.handle message }) :
    (surroundings drain).Ends (bodies libraries) post
      (handle message) state := by
  cases message with
  | hello | resize | frameAck | shutdown => exact .ret holds
  | connect session doc => exact ends_connect holds
  | input session input => exact ends_input holds
  | close session => exact ends_closing holds

end Messages

section Reading

/-- What remains to show once `read_message` has given this reply. -/
def Remains (libraries : Libraries) (drain : DrainOrder)
    (post : Outcome (Option HostMsg) → Surroundings → Prop)
    (state : Surroundings) : Except Text (Option Message) → Prop
  | .error error => post (.err error) state
  | .ok none => post (.ok none) state
  | .ok (some (kind, payload)) =>
      if kind ≠ kindControl then
        (surroundings drain).Ends (bodies libraries) post
          readControl state
      else
        match libraries.fromSlice payload with
        | .ok message => post (.ok (some message)) state
        | .error error =>
            post (.err (lit "undecodable control message: " ++ error)) state

theorem ends_readControl {state : Surroundings} {stdin : Reader}
    {result : Except IoError (Option Message)}
    (read : readMessage state.stdin = (result, stdin))
    {post : Outcome (Option HostMsg) → Surroundings → Prop}
    (remains : Remains libraries drain post (state.turned stdin)
      (result.mapError fun error => error.message)) :
    (surroundings drain).Ends (bodies libraries) post readControl
      state := by
  apply @Typestate.ends_repeatLoop sidecar _ _ .readControl
  apply Typestate.ends_bind
  apply Typestate.ends_performResult
  · exact ⟨_, _, state.answers_answer drain .readMessage, rfl⟩
  · rintro reply after ⟨rfl, rfl⟩
    have replied : state.readReply =
        result.mapError fun error => error.message := by
      rw [Surroundings.readReply, read]
    have turned : state.after ⟨.readMessage, state.readReply⟩ =
        state.turned stdin := by
      rw [Surroundings.after, read]
    rw [turned, replied]
    revert remains
    generalize result.mapError (fun error => error.message) = reply
    intro remains
    match reply with
    | .error error => exact remains
    | .ok none => exact .ret remains
    | .ok (some (kind, payload)) =>
        apply Typestate.ends_then
        simp only [Remains] at remains
        apply Typestate.ends_if
        · intro other
          rwa [if_pos other] at remains
        · intro control
          rw [if_neg control] at remains
          cases decoded : libraries.fromSlice payload with
          | ok message =>
              rw [decoded] at remains
              exact .ret remains
          | error error =>
              rw [decoded] at remains
              exact .ret remains

/-- Reading on to the next control message, or to the end. -/
theorem ends_reading {stage : Stage} (reads : stage.reads = true)
    {messages : List Message} {stop : Stop} {state : Surroundings}
    (yields : Yields state.stdin messages stop)
    {rest : Option HostMsg → Rust Unit} (ended : rest none = pure ())
    {post : Outcome Unit → Surroundings → Prop}
    (stops : ∀ result final, final.desk = state.desk →
      (state.account stage).reckon libraries messages stop =
        final.account (.finished result) →
      post (Outcome.ofExcept result) final)
    (attends : ∀ control later after, after.desk = state.desk →
      later.length < messages.length → Yields after.stdin later stop →
      (state.account stage).reckon libraries messages stop =
        ((after.account stage).attend libraries control).reckon libraries
          later stop →
      (surroundings drain).Ends (bodies libraries) post
        (rest (some control)) after) :
    (surroundings drain).Ends (bodies libraries)
      ((surroundings drain).EndsThen (bodies libraries) rest post)
      readControl state := by
  induction messages generalizing state with
  | nil =>
      have stopped := @Account.stop_reading (state.account stage) reads stop
      cases yields with
      | @closed _ stdin read =>
          apply ends_readControl read
          apply Typestate.ends_then
          rw [ended]
          exact .ret (stops (.ok ()) (state.turned stdin) rfl stopped)
      | @failed _ stdin error read =>
          apply ends_readControl read
          exact stops (.error error.message) (state.turned stdin) rfl stopped
  | cons message messages induction =>
      obtain ⟨kind, payload⟩ := message
      have heard := @Account.hear_reading libraries (state.account stage)
        reads (kind, payload)
      cases yields with
      | @message _ stdin _ _ _ read later =>
          apply ends_readControl read
          rw [Account.reckon_cons, heard, Account.sort] at stops attends
          simp only [Except.mapError, Remains]
          by_cases other : kind ≠ kindControl
          · rw [if_pos other] at stops attends ⊢
            apply induction later
            · exact stops
            · intro control rest after same fewer
              exact attends control rest after same (Nat.lt_succ_of_lt fewer)
          · rw [if_neg other] at stops attends ⊢
            cases decoded : libraries.fromSlice payload with
            | error error =>
                simp only [decoded] at stops ⊢
                exact stops (.error _) (state.turned stdin) rfl
                  (Account.reckon_finished rfl _ _)
            | ok control =>
                simp only [decoded] at attends ⊢
                exact attends control messages (state.turned stdin) rfl
                  (Nat.lt_succ_self _) later rfl

theorem serve_of_continues {account : Account} {message : HostMsg}
    (goesOn : continues message = true) :
    account.serve message =
      { account with desk := account.desk.handle message } := by
  cases message with
  | shutdown => cases goesOn
  | _ => rfl

theorem ends_readerLoop {messages : List Message} {stop : Stop}
    {state : Surroundings} (yields : Yields state.stdin messages stop)
    {post : Outcome Unit → Surroundings → Prop}
    (holds : ∀ result final,
      (state.account .serving).reckon libraries messages stop =
        final.account (.finished result) →
      post (Outcome.ofExcept result) final) :
    (surroundings drain).Ends (bodies libraries) post readerLoop
      state := by
  induction counted : messages.length using Nat.strong_induction_on
    generalizing messages state with
  | _ count induction =>
      apply @Typestate.ends_repeatLoop sidecar _ _ .readerLoop
      apply Typestate.ends_bind
      apply @ends_reading _ _ .serving rfl _ _ _ yields _ rfl
      · intro result final _
        exact holds result final
      · intro control later after _ fewer yields reckoned
        rw [reckoned] at holds
        apply Typestate.ends_bind
        apply ends_handle
        apply Typestate.ends_then
        apply Typestate.ends_if
        · intro goesOn
          apply induction later.length (counted ▸ fewer) _ _ rfl
          · exact yields
          · intro result final settled
            apply holds result final
            rw [← settled]
            exact congrArg (Account.reckon libraries · later stop)
              (serve_of_continues goesOn)
        · intro stopped
          cases control with
          | shutdown =>
              exact .ret (holds (.ok ()) _ (Account.reckon_finished rfl _ _))
          | _ => exact absurd rfl stopped

end Reading

section Leaving

/-- `runSessions` is over: dropping what is left in the map completes the
account. -/
structure Left (drain : DrainOrder) (account : Account)
    (result : Except Text Unit) (state : Surroundings) : Prop where
  finished : account.stage = .finished result
  turns : state.turns = account.turns
  desk : state.desk.cleared drain Desk.dropped =
    account.desk.emptied drain result

/-- This result, and these surroundings with it. -/
def Returns (holds : Except Text Unit → Surroundings → Prop)
    (outcome : Outcome Unit) (state : Surroundings) : Prop :=
  ∃ result, outcome = Outcome.ofExcept result ∧ holds result state

theorem left_of_empty {drain : DrainOrder} {state : Surroundings}
    (empty : state.desk.changes = []) (result : Except Text Unit) :
    Left drain (state.account (.finished result)) result state where
  finished := rfl
  turns := rfl
  desk := by
    rw [Desk.cleared_of_empty empty]
    exact (Desk.emptied_of_empty empty result).symm

theorem ends_drained {deeds : MoonlightSession → List Deed}
    {action : MoonlightSession → Rust Unit}
    (one : ∀ session state (post : Outcome Unit → Surroundings → Prop),
      post (.ok ()) (state.did (deeds session)) →
        (surroundings drain).Ends (bodies libraries) post
          (action session) state)
    {state : Surroundings} {post : Outcome Unit → Surroundings → Prop}
    (holds : post (.ok ())
      { state with desk := state.desk.cleared drain deeds }) :
    (surroundings drain).Ends (bodies libraries) post
      (issue .mapDrain >>= forEach action : Rust Unit) state := by
  apply Typestate.ends_bind
  apply ends_issue .mapDrain
  rintro reply rfl
  apply Typestate.ends_then
  apply ends_forEach one
  exact holds

theorem ends_runSessions {messages : List Message} {stop : Stop}
    {state : Surroundings} (yields : Yields state.stdin messages stop)
    (empty : state.desk.changes = []) :
    (surroundings drain).Ends (bodies libraries)
      (Returns
        (Left drain ((state.account .opening).reckon libraries messages stop)))
      (runSessions libraries) state := by
  apply Typestate.ends_bind
  apply @ends_reading _ _ .opening rfl _ _ _ yields _ rfl
  · intro result final same settled
    rw [settled]
    exact ⟨result, rfl, left_of_empty (same ▸ empty) result⟩
  · intro control later after same _ yields reckoned
    rw [reckoned]
    have fails : ∀ error, Returns
        (Left drain ((after.account (.finished (.error error))).reckon libraries
          later stop)) (.err error) after := by
      intro error
      rw [Account.reckon_finished rfl]
      exact ⟨.error error, rfl, left_of_empty (same ▸ empty) _⟩
    cases control with
    | hello abi version =>
        simp only [Account.attend, Surroundings.account, Account.welcome]
        apply Typestate.ends_if
        · intro mismatch
          rw [if_pos mismatch]
          exact .ret (fails _)
        · intro agreed
          rw [if_neg agreed]
          apply Typestate.ends_bind
          apply Typestate.ends_bind
          apply ends_issue (.control _)
          intro written _
          apply Typestate.ends_then
          apply Typestate.ends_pure
          apply Typestate.ends_then
          apply Typestate.ends_bind
          have greeted : Yields
              (after.did [.issued (.control (Account.ready libraries))]).stdin
                later stop :=
            yields
          generalize account : Account.reckon libraries _ later stop = last
          apply ends_readerLoop greeted
          intro result final settled
          obtain rfl := account.symm.trans settled
          cases result with
          | ok value =>
              apply Typestate.ends_then
              apply ends_drained fun _ _ _ => ends_closeAndDrop
              exact ⟨.ok (), rfl, rfl, rfl, Desk.cleared_of_empty rfl⟩
          | error error => exact ⟨.error error, rfl, rfl, rfl, rfl⟩
    | _ => exact .ret (fails _)

theorem ends_dropMap {account : Account} {result : Except Text Unit}
    {state : Surroundings} (left : Left drain account result state) :
    (surroundings drain).Ends (bodies libraries)
      (Returns (account.Settles drain))
      (do
        forEach drop (← issue .mapDrain)
        lift (Outcome.ofExcept result) : Rust Unit) state := by
  apply Typestate.ends_bind
  apply ends_issue .mapDrain
  rintro reply rfl
  apply Typestate.ends_then
  apply Typestate.ends_bind
  apply @ends_forEach _ _ drop Desk.dropped fun _ _ _ => ends_close
  exact .ret ⟨result, rfl, left.finished, left.turns, left.desk⟩

/-- `run` ends, whatever is on stdin, with the account of it. -/
theorem ends_run {stdin : Reader} {messages : List Message} {stop : Stop}
    (yields : Yields stdin messages stop) :
    (surroundings drain).Ends (bodies libraries)
      (Returns ((Account.initial.reckon libraries messages stop).Settles drain))
      (run libraries) (.initial stdin) := by
  apply Typestate.ends_bind
  apply Typestate.ends_attempt
  apply (@ends_runSessions _ _ _ _ (.initial stdin) yields rfl).mono
  rintro outcome after ⟨result, rfl, left⟩
  cases result with
  | ok value => exact ends_dropMap left
  | error error => exact ends_dropMap left

end Leaving

end Main

end MoonlightAddon
