import MoonlightAddon.Core.Errors
import MoonlightAddon.Worker.Footing

/-!
# Why a thread says it closed

An engine thread is followed with its own history, to see that the two reserved
reasons are only reported for what they say: a thread closes without an error
when it read its stop flag or found its channel disconnected, and for its host
when it read `TERMINATED`.  An error text of a library could still be one of
the two where the code passes it on unchanged.
-/

namespace MoonlightAddon

open NvHttp Session

/-- An error text of a library that the engine passes on unchanged. -/
def handedOn : Event sidecar → Option Text
  | ⟨.generateIdentity, .error error⟩ => some error
  | ⟨.randBytes _, .error error⟩ => some error
  | _ => none

/-- No error text the engine was given is reserved. -/
def proper (past : List (Event sidecar)) : Bool :=
  past.all fun event => (handedOn event).all fun error => !reserved error

/-- The thread ends early, or its loop, for another reason than
`TERMINATED`. -/
def excused : Event sidecar → Bool
  | ⟨.loadStop, true⟩ | ⟨.receive, .disconnected⟩ => true
  | _ => false

/-- A closing message says what happened. -/
def Warranted (past : List (Event sidecar)) : Event sidecar → Prop
  | ⟨.control (.sessionClosed _ error), _⟩ => proper past = true →
      (error = none → past.any excused = true) ∧
        (error = some hostTerminated → past.any readsTerminated = true)
  | _ => True

/-- The outcome of `run_moonlight` says what happened. -/
def Explained : Outcome Unit → List (Event sidecar) → Prop
  | .ok (), past => past.any excused = true
  | .err error, past => proper past = true → error ≠ sessionEnded ∧
      (error = hostTerminated → past.any readsTerminated = true)
  | .panicked _, _ => True

/-- The discipline of an engine thread that remembers all it did. -/
def reasons : Typestate sidecar where
  State := List (Event sidecar)
  Next past event after := Warranted past event ∧ after = past ++ [event]
  Pre
    | .frameLoop _ _, _ => True
    | _, _ => False
  Post
    | .frameLoop _ _, past, outcome, after =>
        past <+: after ∧ Explained outcome after
    | .readControl, _, _, _ => False
    | .readerLoop, _, _, _ => False

theorem proper_of_isPrefix {past after : List (Event sidecar)}
    (longer : past <+: after) (isProper : proper after = true) :
    proper past = true := by
  obtain ⟨rest, rfl⟩ := longer
  rw [proper, List.all_append, Bool.and_eq_true] at isProper
  exact isProper.1

theorem any_of_isPrefix {past after : List (Event sidecar)}
    {holds : Event sidecar → Bool} (longer : past <+: after)
    (found : past.any holds = true) : after.any holds = true := by
  obtain ⟨rest, rfl⟩ := longer
  rw [List.any_append, found, Bool.true_or]

namespace Worker

/-- The closing message, which asks for a reason. -/
def isReport : Command → Bool
  | .control (.sessionClosed _ _) => true
  | _ => false

section

variable {α β : Type} {past : List (Event sidecar)}

/-- Nothing was forgotten, and an error is not reserved if those the thread was
given are not. -/
def Discretion (past : List (Event sidecar)) (outcome : Outcome α)
    (after : List (Event sidecar)) : Prop :=
  past <+: after ∧ (proper after = true → Modest outcome)

/-- The effect reports nothing and passes on no reserved error of its own. -/
def Discreet (effect : Rust α) : Prop :=
  ∀ past, reasons.Follows effect (Discretion past) past

theorem warranted_of_unreported {event : Event sidecar}
    (unreported : isReport event.command = false) : Warranted past event := by
  obtain ⟨command, reply⟩ := event
  cases command with
  | control message =>
      cases message with
      | sessionClosed => cases unreported
      | _ => trivial
  | _ => trivial

theorem Discreet.later {effect : Rust α} {middle : List (Event sidecar)}
    (discreet : Discreet effect) (longer : past <+: middle) :
    reasons.Follows effect (Discretion past) middle := by
  apply (discreet middle).mono
  intro outcome after held
  exact ⟨longer.trans held.1, held.2⟩

theorem follows_unreported {command : Command}
    {post : Outcome command.Reply → List (Event sidecar) → Prop}
    (unreported : isReport command = false)
    (holds : ∀ reply, post (.ok reply) (past ++ [⟨command, reply⟩])) :
    reasons.Follows (issue command) post past := by
  apply Typestate.follows_perform
  intro reply
  exact ⟨_, ⟨warranted_of_unreported unreported, rfl⟩, holds reply⟩

theorem discreet_issue {command : Command}
    (unreported : isReport command = false) : Discreet (issue command) :=
  fun past => follows_unreported unreported fun reply =>
    ⟨List.prefix_append past _, fun _ => modest_ok reply⟩

theorem discreet_issueResult {command : Command}
    {result : command.Reply → Except Text α}
    (unreported : isReport command = false)
    (unlike : ∀ reply error, result reply = .error error →
      proper [⟨command, reply⟩] = true → reserved error = false) :
    Discreet (issueResult command result) := by
  intro past
  apply Typestate.follows_performResult
  intro reply
  refine ⟨_, ⟨warranted_of_unreported unreported, rfl⟩,
    List.prefix_append _ _, ?_⟩
  intro isProper
  rw [proper, List.all_append, Bool.and_eq_true] at isProper
  exact modest_ofExcept fun error failed =>
    unlike reply error failed isProper.2

/-- A call whose errors get a message of their own. -/
theorem discreet_mapError {command : Command} {label : Text}
    {result : command.Reply → Except Text α}
    (unreported : isReport command = false)
    (unlike : distinctive label = true) :
    Discreet (issueResult command fun reply =>
      (result reply).mapError fun error => label ++ error) := by
  apply discreet_issueResult unreported
  intro reply error failed _
  have modest := modest_mapError unlike (result reply)
  rw [failed] at modest
  exact modest error rfl

theorem discreet_done {outcome : Outcome α} (modest : Modest outcome) :
    Discreet (lift outcome) :=
  fun past => Typestate.follows_done ⟨List.prefix_refl past, fun _ => modest⟩

theorem discreet_pure (value : α) : Discreet (pure value) :=
  discreet_done (modest_ok value)

/-- What follows a discreet effect may rely on the longer history. -/
theorem Discreet.follows {effect : Rust α} {rest : α → Rust β}
    {post : Outcome β → List (Event sidecar) → Prop}
    (discreet : Discreet effect)
    (went : ∀ value after, past <+: after →
      reasons.Follows (rest value) post after)
    (failed : ∀ error after, past <+: after →
      (proper after = true → reserved error = false) →
      post (.err error) after)
    (panicked : ∀ message after, past <+: after →
      post (.panicked message) after) :
    reasons.Follows (effect >>= rest : Rust β) post past := by
  apply Typestate.follows_bind
  apply (discreet past).mono
  intro outcome after held
  obtain ⟨longer, modest⟩ := held
  cases outcome with
  | ok value => exact went value after longer
  | err error =>
      exact failed error after longer fun isProper => modest isProper error rfl
  | panicked message => exact panicked message after longer

/-- The same for an effect whose error is inspected. -/
theorem Discreet.attempted {effect : Rust α} {rest : Except Text α → Rust β}
    {post : Outcome β → List (Event sidecar) → Prop}
    (discreet : Discreet effect)
    (went : ∀ value after, past <+: after →
      reasons.Follows (rest (.ok value)) post after)
    (failed : ∀ error after, past <+: after →
      (proper after = true → reserved error = false) →
      reasons.Follows (rest (.error error)) post after)
    (panicked : ∀ message after, past <+: after →
      post (.panicked message) after) :
    reasons.Follows (Effect.attempt effect >>= rest : Rust β) post past := by
  apply Typestate.follows_bind
  apply Typestate.follows_attempt
  apply (discreet past).mono
  intro outcome after held
  obtain ⟨longer, modest⟩ := held
  cases outcome with
  | ok value => exact went value after longer
  | err error =>
      exact failed error after longer fun isProper => modest isProper error rfl
  | panicked message => exact panicked message after longer

theorem discreet_bind {effect : Rust α} {rest : α → Rust β}
    (first : Discreet effect) (second : ∀ value, Discreet (rest value)) :
    Discreet (effect >>= rest : Rust β) := by
  intro past
  apply first.follows
  · intro value after longer
    exact (second value).later longer
  · intro error after longer unlike
    exact ⟨longer, fun isProper => modest_err (unlike isProper)⟩
  · intro message after longer
    exact ⟨longer, fun _ => modest_panicked message⟩

theorem discreet_send {message : Proto.AddonMsg}
    (unreported : isReport (.control message) = false) :
    Discreet (send message) :=
  discreet_bind (discreet_issue unreported) fun _ => discreet_pure ()

end

section Requests

variable {libraries : Libraries} {identity : MoonlightIdentity}

theorem discreet_drawOrZero (count : Nat) : Discreet (drawOrZero count) := by
  apply discreet_bind (discreet_issue rfl)
  intro reply
  cases reply with
  | ok bytes => exact discreet_pure _
  | error error => exact discreet_pure _

theorem discreet_newUuid : Discreet newUuid :=
  discreet_bind (discreet_drawOrZero 16) fun _ => discreet_pure _

theorem discreet_rand16 : Discreet rand16 :=
  discreet_mapError rfl (by decide)

theorem discreet_httpGet {label : Text} {request : HttpRequest}
    (unlike : distinctive label = true) :
    Discreet (httpGet label request) := by
  apply discreet_issueResult rfl
  intro reply error failed _
  cases reply with
  | body text => cases failed
  | sendFailed cause | readFailed cause =>
      obtain rfl := Except.error.inj failed
      rw [List.append_assoc]
      exact reserved_append unlike _

/-- A request, the check of its status, and a reading of its body. -/
theorem discreet_checkedGet {α : Type} {label : Text} {request : HttpRequest}
    {read : Text → Outcome α} (unlike : distinctive label = true)
    (modest : ∀ body, Modest (read body)) :
    Discreet
      (httpGet label request >>= fun body => do
        lift (checkStatus label body)
        lift (read body) : Rust α) := by
  apply discreet_bind (discreet_httpGet unlike)
  intro body
  apply discreet_bind (discreet_done (modest_checkStatus unlike body))
  intro accepted
  exact discreet_done (modest body)

theorem discreet_serverInfo (host : Text) (port : UInt16) (uniqueId : Text) :
    Discreet (serverInfo libraries host port uniqueId) := by
  apply discreet_bind discreet_newUuid
  intro uuid
  apply discreet_bind (discreet_done (modest_plainClient libraries))
  intro client
  exact discreet_checkedGet (by decide) fun body => modest_readServerInfo body _

theorem discreet_serverInfoHttps (host : Text) (port : UInt16) :
    Discreet (serverInfoHttps libraries identity host port) := by
  apply discreet_bind discreet_newUuid
  intro uuid
  apply discreet_bind (discreet_done (modest_httpsClient libraries identity))
  intro client
  exact discreet_checkedGet (by decide) fun body => modest_readServerInfo body _

theorem discreet_appList (host : Text) (port : UInt16) :
    Discreet (appList libraries identity host port) := by
  apply discreet_bind discreet_newUuid
  intro uuid
  apply discreet_bind (discreet_done (modest_httpsClient libraries identity))
  intro client
  exact discreet_checkedGet (by decide) fun body => modest_readApps _

theorem discreet_launch (host : Text) (port : UInt16)
    (appId width height fps : UInt32) :
    Discreet (launch libraries identity host port appId width height fps) := by
  apply discreet_bind discreet_rand16
  intro aesKey
  apply discreet_bind
  · -- The one draw whose error is not given a message.
    apply discreet_issueResult rfl
    intro reply error failed isProper
    obtain rfl : reply = .error error := failed
    simpa [proper, handedOn] using isProper
  intro idBytes
  apply discreet_bind discreet_newUuid
  intro uuid
  apply discreet_bind (discreet_done (modest_httpsClient libraries identity))
  intro client
  apply discreet_bind (discreet_httpGet (by decide))
  intro body
  apply discreet_bind (discreet_done (modest_checkLaunch body))
  intro accepted
  exact discreet_pure _

theorem discreet_cancel (host : Text) (port : UInt16) :
    Discreet (cancel libraries identity host port) := by
  apply discreet_bind discreet_newUuid
  intro uuid
  apply discreet_bind (discreet_done (modest_httpsClient libraries identity))
  intro client
  apply discreet_bind (discreet_httpGet (by decide))
  intro body
  exact discreet_done (modest_checkStatus (by decide) body)

end Requests

section Pairing

variable {ssl : OpenSsl}

theorem discreet_pairReq (client : PairingClient)
    (params : List (Text × Text)) : Discreet (client.pairReq params) := by
  apply discreet_bind discreet_newUuid
  intro uuid
  apply discreet_bind (discreet_httpGet (by decide))
  intro body
  apply discreet_bind (discreet_done (modest_checkStatus (by decide) body))
  intro accepted
  exact discreet_pure body

theorem discreet_pair (unassuming : ssl.Unassuming) (client : PairingClient)
    (salt aesKey : Bytes) : Discreet (client.pair ssl salt aesKey) := by
  -- Phase 1.
  apply discreet_bind (discreet_pairReq client _)
  intro body
  apply discreet_bind (discreet_done (modest_readServerCert ssl body))
  intro serverCert
  -- Phase 2.
  apply discreet_bind discreet_rand16
  intro clientChallenge
  apply discreet_bind (discreet_done (modest_aesEcb ssl _ _ _))
  intro encChallenge
  apply discreet_bind (discreet_pairReq client _)
  intro body
  apply discreet_bind
    (discreet_done (modest_readChallengeResponse ssl aesKey body))
  intro challengeResp
  -- Phase 3.
  apply discreet_bind (discreet_done (modest_mapError (by decide) _))
  intro clientCert
  apply discreet_bind discreet_rand16
  intro clientSecret
  apply discreet_bind (discreet_done (modest_aesEcb ssl _ _ _))
  intro enc
  apply discreet_bind (discreet_pairReq client _)
  intro body
  apply discreet_bind (discreet_done (modest_readPairingSecret body))
  intro pairingSecret
  apply discreet_bind
    (discreet_done (modest_if (modest_err (by decide)) (modest_ok ())))
  intro matched
  apply discreet_bind
    (discreet_done (modest_checkServerSignature unassuming _ _ _))
  intro genuine
  -- Phase 4.
  apply discreet_bind
    (discreet_done (modest_clientPairingSecret unassuming _ _))
  intro secret
  apply discreet_bind (discreet_pairReq client _)
  intro body
  apply discreet_bind (discreet_done (modest_tagIs _ _ _))
  intro accepted
  cases accepted with
  | true => exact discreet_pure ()
  | false => exact discreet_done (modest_err (by decide))

end Pairing

section Stream

theorem discreet_startStream (opts : Stream.StreamOptions) :
    Discreet (Stream.startStream opts) := by
  have modest (what text : Text)
      (unlike : reserved (what ++ lit " has NUL") = false) :
      Modest (Stream.cString what text) :=
    modest_if (modest_err unlike) (modest_ok text)
  apply discreet_bind (discreet_issue rfl)
  intro stored
  apply discreet_bind (discreet_issue rfl)
  intro reset
  apply discreet_bind (discreet_done (modest _ _ (by decide)))
  intro address
  apply discreet_bind (discreet_done (modest _ _ (by decide)))
  intro appVersion
  apply discreet_bind (discreet_done (modest _ _ (by decide)))
  intro gfeVersion
  apply discreet_bind (discreet_issue rfl)
  intro begun
  apply discreet_bind (discreet_issue rfl)
  intro code past
  apply Typestate.follows_if
  · intro failure
    apply discreet_bind (discreet_issue rfl)
    intro cleared
    apply discreet_done
    apply modest_err
    rw [List.append_assoc]
    exact reserved_append (by decide) _
  · intro success
    exact discreet_pure () past

theorem discreet_stopStream : Discreet (Stream.stopStream .worker) := by
  apply discreet_bind (discreet_issue rfl)
  intro begun
  apply discreet_bind (discreet_issue rfl)
  intro finished
  exact discreet_issue rfl

end Stream

section Session

variable {session : UInt32} {doc : MoonlightConnectDoc}
  {libraries : Libraries} {identity : MoonlightIdentity}
  {past : List (Event sidecar)}

theorem discreet_settleIdentity : Discreet (settleIdentity session doc) := by
  unfold settleIdentity
  cases restoreIdentity doc with
  | some identity => exact discreet_pure identity
  | none =>
      apply discreet_bind
      · apply discreet_issueResult rfl
        intro reply error failed isProper
        obtain rfl : reply = .error error := failed
        simpa [proper, handedOn] using isProper
      intro identity
      apply discreet_bind (discreet_send rfl)
      intro sent
      exact discreet_pure identity

theorem discreet_learnServerInfo :
    Discreet (learnServerInfo libraries doc identity) := by
  intro past
  apply (discreet_serverInfoHttps doc.host doc.httpsPort).attempted
  · intro info after longer
    exact ⟨longer, fun _ => modest_ok info⟩
  · intro error after longer _
    exact (discreet_serverInfo _ _ _).later longer
  · intro message after longer
    exact ⟨longer, fun _ => modest_panicked message⟩

theorem discreet_pairWithHost
    (unassuming : libraries.openSsl.Unassuming) :
    Discreet (pairWithHost libraries session doc identity) := by
  apply discreet_bind
    (discreet_bind (discreet_drawOrZero 2) fun _ => discreet_pure _)
  intro pin
  apply discreet_bind (discreet_send rfl)
  intro told
  apply discreet_bind (discreet_send rfl)
  intro prompted
  apply discreet_bind (discreet_drawOrZero 16)
  intro salt
  have modest : Modest
      (PairingClient.new libraries identity doc.host doc.httpPort) :=
    modest_bind (modest_plainClient libraries) fun _ => modest_ok _
  apply discreet_bind (discreet_done modest)
  intro client past
  apply (discreet_pair unassuming _ _ _).attempted
  · intro paired after longer
    apply (discreet_bind (discreet_send rfl) fun _ => ?_).later longer
    exact discreet_send rfl
  · intro error after longer unlike
    apply (discreet_send rfl).follows
    · intro sent final longer'
      exact ⟨longer.trans longer', fun isProper =>
        modest_err (unlike (proper_of_isPrefix longer' isProper))⟩
    · intro cause final longer' unlike'
      exact ⟨longer.trans longer', fun isProper =>
        modest_err (unlike' isProper)⟩
    · intro message final longer'
      exact ⟨longer.trans longer', fun _ => modest_panicked message⟩
  · intro message after longer
    exact ⟨longer, fun _ => modest_panicked message⟩

theorem discreet_releaseHost :
    Discreet (releaseHost libraries doc identity) := by
  intro past
  apply (discreet_cancel doc.host doc.httpsPort).attempted
  · intro released after longer
    exact ⟨longer, fun _ => modest_ok ()⟩
  · intro error after longer _
    exact ⟨longer, fun _ => modest_ok ()⟩
  · intro message after longer
    exact ⟨longer, fun _ => modest_panicked message⟩

theorem discreet_frameSink :
    ∀ updates, Discreet (frameSink session updates)
  | [] => discreet_pure ()
  | update :: rest => by
      apply discreet_bind (discreet_issue rfl)
      intro reply
      cases reply with
      | ok written => exact discreet_frameSink rest
      | error error => exact discreet_pure ()

theorem explained_err {error : Text}
    (unlike : proper past = true → reserved error = false) :
    Explained (.err error) past := by
  intro isProper
  have differs := unlike isProper
  simp only [reserved, Bool.or_eq_false_iff, beq_eq_false_iff_ne] at differs
  exact ⟨differs.1, fun same => absurd same differs.2⟩

/-- A discreet effect is followed by something that is explained. -/
theorem Discreet.explained {α : Type} {effect : Rust α} {rest : α → Rust Unit}
    (discreet : Discreet effect)
    (went : ∀ value after, past <+: after →
      reasons.Follows (rest value) Explained after) :
    reasons.Follows (effect >>= rest : Rust Unit) Explained past := by
  apply discreet.follows went
  · intro error after _ unlike
    exact explained_err unlike
  · intro message after _
    trivial

/-- What the loop owes when it was entered with this history. -/
def LoopReason (past : List (Event sidecar)) (outcome : Outcome Unit)
    (after : List (Event sidecar)) : Prop :=
  past <+: after ∧ Explained outcome after

theorem follows_loop {middle : List (Event sidecar)}
    (longer : past <+: middle) :
    reasons.Follows (frameLoop session doc) (LoopReason past) middle := by
  constructor
  · trivial
  · intro outcome after returned
    exact ⟨longer.trans returned.1, returned.2⟩

theorem follows_frameLoopTurn :
    reasons.Follows (frameLoopBody session doc) (LoopReason past) past := by
  apply Typestate.follows_bind
  apply follows_unreported rfl
  intro stop
  apply Typestate.follows_then
  cases stop with
  | true => exact ⟨List.prefix_append past _, by simp [Explained, excused]⟩
  | false =>
      apply Typestate.follows_bind
      apply follows_unreported rfl
      intro terminated
      apply Typestate.follows_then
      have polled : past <+: past ++ [⟨.loadStop, false⟩] ++
          [⟨.loadTerminated, terminated⟩] := by
        rw [List.append_assoc]
        exact List.prefix_append past _
      cases terminated with
      | true =>
          have reads : (past ++ [(⟨.loadStop, false⟩ : Event sidecar)] ++
              [(⟨.loadTerminated, true⟩ : Event sidecar)]).any
              readsTerminated = true := by
            simp [readsTerminated]
          apply discreet_stopStream.follows
          · intro stopped after longer
            exact ⟨polled.trans longer, fun _ =>
              ⟨by decide, fun _ => any_of_isPrefix longer reads⟩⟩
          · intro error after longer unlike
            exact ⟨polled.trans longer, explained_err unlike⟩
          · intro message after longer
            exact ⟨polled.trans longer, trivial⟩
      | false =>
          apply Typestate.follows_bind
          apply follows_unreported rfl
          intro received
          apply Typestate.follows_then
          have longer := polled.trans (List.prefix_append _
            [(⟨.receive, received⟩ : Event sidecar)])
          cases received with
          | unit unit =>
              apply (discreet_frameSink _).follows
              · intro written after longer'
                exact follows_loop (longer.trans longer')
              · intro error after longer' unlike
                exact ⟨longer.trans longer', explained_err unlike⟩
              · intro message after longer'
                exact ⟨longer.trans longer', trivial⟩
          | timeout => exact follows_loop longer
          | disconnected => exact ⟨longer, by simp [Explained, excused]⟩

theorem reasons_sound (libraries : Libraries) :
    reasons.Sound (Main.bodies libraries) := by
  intro loop past pre
  cases loop with
  | frameLoop session doc => exact follows_frameLoopTurn
  | readControl => exact absurd pre id
  | readerLoop => exact absurd pre id

theorem explained_streamSession {info : ServerInfo} {launched : LaunchSession} :
    reasons.Follows
      (streamSession libraries session doc identity info launched)
      Explained past := by
  apply (discreet_startStream _).attempted
  · intro started after longer
    apply (discreet_send rfl).explained
    intro ready after _
    apply (discreet_send rfl).explained
    intro told after _
    apply Typestate.follows_bind
    apply (follows_loop (List.prefix_refl after)).mono
    intro outcome after held
    cases outcome with
    | err error => exact held.2
    | panicked message => trivial
    | ok value =>
        have quits : after.any excused = true := held.2
        apply discreet_stopStream.explained
        intro stopped after' longer
        apply (discreet_releaseHost after').mono
        intro outcome final released
        cases outcome with
        | ok value => exact any_of_isPrefix (longer.trans released.1) quits
        | err error =>
            exact explained_err fun isProper => released.2 isProper error rfl
        | panicked message => trivial
  · intro error after longer unlike
    apply discreet_releaseHost.explained
    intro released final longer'
    exact explained_err fun isProper =>
      unlike (proper_of_isPrefix longer' isProper)
  · intro message after longer
    trivial

theorem explained_launchSession {info : ServerInfo} :
    reasons.Follows (launchSession libraries session doc identity info)
      Explained past := by
  apply Typestate.follows_bind
  apply follows_unreported rfl
  intro stop
  apply Typestate.follows_then
  cases stop with
  | true =>
      apply Typestate.follows_pure
      simp [Explained, excused]
  | false =>
      apply (discreet_appList _ _).explained
      intro apps after _
      apply (discreet_done (modest_okOr (by decide) _)).explained
      intro app after _
      apply (discreet_send rfl).explained
      intro told after _
      apply (discreet_launch _ _ _ _ _ _).explained
      intro launched after _
      exact explained_streamSession

theorem explained_runMoonlight
    (unassuming : libraries.openSsl.Unassuming) :
    reasons.Follows (runMoonlight libraries session doc) Explained past := by
  apply discreet_settleIdentity.explained
  intro identity after _
  apply (discreet_mapError rfl (by decide)).explained
  intro runtime after _
  apply (discreet_send rfl).explained
  intro told after _
  apply discreet_learnServerInfo.explained
  intro info after _
  apply Typestate.follows_if
  · intro unpaired
    apply (discreet_pairWithHost unassuming).explained
    intro paired after _
    exact explained_launchSession
  · intro alreadyPaired
    exact explained_launchSession

/-- The closing message of an explained outcome. -/
theorem warranted_of_explained {outcome : Outcome Unit}
    (explained : Explained outcome past) (isProper : proper past = true) :
    (reported (closeReason outcome) = none → past.any excused = true) ∧
      (reported (closeReason outcome) = some hostTerminated →
        past.any readsTerminated = true) := by
  cases outcome with
  | ok value =>
      exact ⟨fun _ => explained, fun impossible => by cases impossible⟩
  | err error =>
      obtain ⟨differs, ends⟩ := explained isProper
      rw [reported_err differs]
      constructor
      · intro impossible
        cases impossible
      · intro same
        exact ends (Option.some.inj same)
  | panicked message =>
      rw [reported_panicked]
      constructor
      · intro impossible
        cases impossible
      · intro same
        have heads : some 'i' = some 'h' :=
          congrArg List.head? (Option.some.inj same)
        exact absurd heads (by decide)

/-- Every closing message of an engine thread is warranted. -/
theorem reasons_worker (unassuming : libraries.openSsl.Unassuming) :
    reasons.Follows (worker libraries session doc) (fun _ _ => True) past := by
  apply Typestate.Follows.bind
  apply (explained_runMoonlight unassuming).mono
  intro outcome after explained
  apply Typestate.Follows.bind
  apply Typestate.follows_bind
  apply Typestate.follows_perform
  intro reply
  exact ⟨_, ⟨warranted_of_explained explained, rfl⟩, trivial⟩

end Session

end Worker

end MoonlightAddon
