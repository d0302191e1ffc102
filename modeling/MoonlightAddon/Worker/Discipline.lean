import MoonlightAddon.Worker.Phase

/-!
# The engine thread follows its phases

One lemma for each function of the engine: which phases it takes the thread
through, whatever the replies are.  The last section puts them together for
`runMoonlight` and for the thread around it.
-/

namespace MoonlightAddon

open NvHttp Session

namespace Worker

section

variable {session : UInt32} {doc : MoonlightConnectDoc} {α : Type}

theorem follows_issue {command : Command} {phase : Phase}
    {post : Outcome command.Reply → Worker → Prop}
    (allowed : ∀ reply, ∃ after,
      Phase.Next session doc phase ⟨command, reply⟩ after ∧
        post (.ok reply) ⟨session, doc, after⟩) :
    engineThread.Follows (issue command) post ⟨session, doc, phase⟩ := by
  apply Typestate.follows_perform
  intro reply
  obtain ⟨after, next, holds⟩ := allowed reply
  exact ⟨⟨session, doc, after⟩, .mk next, holds⟩

theorem follows_issueResult {command : Command}
    {result : command.Reply → Except Text α} {phase : Phase}
    {post : Outcome α → Worker → Prop}
    (allowed : ∀ reply, ∃ after,
      Phase.Next session doc phase ⟨command, reply⟩ after ∧
        post (Outcome.ofExcept (result reply)) ⟨session, doc, after⟩) :
    engineThread.Follows (issueResult command result) post
      ⟨session, doc, phase⟩ := by
  apply Typestate.follows_performResult
  intro reply
  obtain ⟨after, next, holds⟩ := allowed reply
  exact ⟨⟨session, doc, after⟩, .mk next, holds⟩

theorem follows_lift {outcome : Outcome α}
    {post : Outcome α → Worker → Prop} {worker : Worker}
    (holds : post outcome worker) :
    engineThread.Follows (lift outcome) post worker :=
  Typestate.follows_done holds

theorem follows_drawOrZero {count : Nat} {before after : Phase}
    {post : Outcome Bytes → Worker → Prop}
    (drawn : ∀ reply,
      Phase.Next session doc before ⟨.randBytes count, reply⟩ after)
    (holds : ∀ bytes, post (.ok bytes) ⟨session, doc, after⟩) :
    engineThread.Follows (drawOrZero count) post ⟨session, doc, before⟩ := by
  apply Typestate.follows_bind
  apply follows_issue
  intro reply
  refine ⟨after, drawn reply, ?_⟩
  cases reply with
  | ok bytes => exact holds bytes.1
  | error error => exact holds (List.replicate count 0)

theorem follows_newUuid {before after : Phase}
    {post : Outcome Text → Worker → Prop}
    (drawn : ∀ reply,
      Phase.Next session doc before ⟨.randBytes 16, reply⟩ after)
    (holds : ∀ uuid, post (.ok uuid) ⟨session, doc, after⟩) :
    engineThread.Follows newUuid post ⟨session, doc, before⟩ := by
  apply Typestate.follows_bind
  apply follows_drawOrZero drawn
  intro bytes
  exact holds (formatUuid bytes)

theorem follows_rand16 {phase : Phase}
    {post : Outcome (Drawn 16) → Worker → Prop}
    (quiet : Phase.Quiet phase (.randBytes 16) = true)
    (drawn : ∀ bytes, post (.ok bytes) ⟨session, doc, phase⟩)
    (failed : ∀ error, post (.err error) ⟨session, doc, phase⟩) :
    engineThread.Follows rand16 post ⟨session, doc, phase⟩ := by
  apply follows_issueResult
  intro reply
  refine ⟨phase, .quiet quiet, ?_⟩
  cases reply with
  | ok bytes => exact drawn bytes
  | error error => exact failed _

theorem follows_send {message : Proto.AddonMsg} {before after : Phase}
    {post : Outcome Unit → Worker → Prop}
    (allowed : ∀ reply,
      Phase.Next session doc before ⟨.control message, reply⟩ after)
    (holds : post (.ok ()) ⟨session, doc, after⟩) :
    engineThread.Follows (send message) post ⟨session, doc, before⟩ := by
  apply Typestate.follows_bind
  apply follows_issue
  intro reply
  exact ⟨after, allowed reply, holds⟩

/-- A request whose reply decides the next phase. -/
theorem follows_httpGet {label : Text} {request : HttpRequest}
    {before : Phase} {next : HttpReply → Phase}
    {post : Outcome Text → Worker → Prop}
    (allowed : ∀ reply,
      Phase.Next session doc before ⟨.request request, reply⟩ (next reply))
    (failed : ∀ reply error, (∀ body, reply ≠ .body body) →
      post (.err error) ⟨session, doc, next reply⟩)
    (answered : ∀ body, post (.ok body) ⟨session, doc, next (.body body)⟩) :
    engineThread.Follows (httpGet label request) post
      ⟨session, doc, before⟩ := by
  apply follows_issueResult
  intro reply
  refine ⟨next reply, allowed reply, ?_⟩
  cases reply with
  | sendFailed error => exact failed _ _ (by simp)
  | readFailed error => exact failed _ _ (by simp)
  | body text => exact answered text

/-- A request the phase allows without moving on, and a reading of its body:
the phase is unchanged whatever comes of it. -/
theorem follows_quietGet {label : Text} {request : HttpRequest}
    {phase : Phase} {read : Text → Outcome α}
    {post : Outcome α → Worker → Prop}
    (quiet : Phase.Quiet phase (.request request) = true)
    (holds : ∀ outcome, post outcome ⟨session, doc, phase⟩) :
    engineThread.Follows
      (httpGet label request >>= fun body => do
        lift (checkStatus label body)
        lift (read body) : Rust α)
      post ⟨session, doc, phase⟩ := by
  apply Typestate.follows_bind
  apply follows_httpGet (fun reply => .quiet quiet)
  · intro reply error unread
    exact holds (.err error)
  · intro body
    apply Typestate.follows_bind
    apply follows_lift
    cases checkStatus label body with
    | ok value => exact holds (read body)
    | err error => exact holds (.err error)
    | panicked message => exact holds (.panicked message)

end

section ServerInfo

variable {session : UInt32} {doc : MoonlightConnectDoc}
  {libraries : Libraries} {identity : MoonlightIdentity}

theorem follows_serverInfo {host : Text} {port : UInt16} {uniqueId : Text}
    {post : Outcome ServerInfo → Worker → Prop}
    (holds : ∀ outcome, post outcome ⟨session, doc, .probing⟩) :
    engineThread.Follows (serverInfo libraries host port uniqueId) post
      ⟨session, doc, .probing⟩ := by
  apply Typestate.follows_bind
  apply follows_newUuid (fun reply => .quiet rfl)
  intro uuid
  apply Typestate.follows_bind
  apply follows_lift
  cases plainClient libraries with
  | ok value => exact follows_quietGet rfl holds
  | err error => exact holds (.err error)
  | panicked message => exact holds (.panicked message)

theorem follows_serverInfoHttps {host : Text} {port : UInt16}
    {post : Outcome ServerInfo → Worker → Prop}
    (holds : ∀ outcome, post outcome ⟨session, doc, .probing⟩) :
    engineThread.Follows (serverInfoHttps libraries identity host port) post
      ⟨session, doc, .probing⟩ := by
  apply Typestate.follows_bind
  apply follows_newUuid (fun reply => .quiet rfl)
  intro uuid
  apply Typestate.follows_bind
  apply follows_lift
  cases httpsClient libraries identity with
  | ok value => exact follows_quietGet rfl holds
  | err error => exact holds (.err error)
  | panicked message => exact holds (.panicked message)

theorem follows_appList {host : Text} {port : UInt16}
    {post : Outcome (List HostApp) → Worker → Prop}
    (holds : ∀ outcome, post outcome ⟨session, doc, .cleared⟩) :
    engineThread.Follows (appList libraries identity host port) post
      ⟨session, doc, .cleared⟩ := by
  apply Typestate.follows_bind
  apply follows_newUuid (fun reply => .quiet rfl)
  intro uuid
  apply Typestate.follows_bind
  apply follows_lift
  cases httpsClient libraries identity with
  | ok value => exact follows_quietGet rfl holds
  | err error => exact holds (.err error)
  | panicked message => exact holds (.panicked message)

theorem follows_learnServerInfo
    {post : Outcome ServerInfo → Worker → Prop}
    (holds : ∀ outcome, post outcome ⟨session, doc, .probing⟩) :
    engineThread.Follows (learnServerInfo libraries doc identity) post
      ⟨session, doc, .probing⟩ := by
  apply Typestate.follows_bind
  apply Typestate.follows_attempt
  apply follows_serverInfoHttps
  intro outcome
  cases outcome with
  | ok info => exact holds (.ok info)
  | err error => exact follows_serverInfo holds
  | panicked message => exact holds (.panicked message)

end ServerInfo

section Pairing

variable {session : UInt32} {doc : MoonlightConnectDoc}

/-- The phase in which a response leaves the handshake, given the field it is
about to decode. -/
def answeredPhase (field : Option Text) : Phase :=
  if field.any hexPanics then .wrecked else .pairing

theorem follows_pairReq {client : PairingClient}
    {params : List (Text × Text)} {post : Outcome Text → Worker → Prop}
    (failed : ∀ error, post (.err error) ⟨session, doc, .pairing⟩)
    (answered : ∀ uuid body, post (.ok body) ⟨session, doc,
      answeredPhase (PairingClient.decodedField (PairingClient.phaseOf
        (PairingClient.queryOf client.identity uuid params)) body)⟩) :
    engineThread.Follows (client.pairReq params) post
      ⟨session, doc, .pairing⟩ := by
  apply Typestate.follows_bind
  apply follows_newUuid (fun reply => .quiet rfl)
  intro uuid
  apply Typestate.follows_bind
  let request : HttpRequest := .pair client.host client.httpPort
    (PairingClient.queryOf client.identity uuid params)
  let next (reply : HttpReply) : Phase :=
    if wrecks request reply then .wrecked else .pairing
  have allowed (reply : HttpReply) : Phase.Next session doc .pairing
      ⟨.request request, reply⟩ (next reply) := by
    by_cases caused : wrecks request reply = true
    · rw [show next reply = .wrecked from if_pos caused]
      exact .wreck caused
    · rw [show next reply = .pairing from if_neg caused]
      exact .handshake (Bool.eq_false_iff.mpr caused)
  apply follows_httpGet allowed
  · intro reply error unread
    have harmless : ∀ request, wrecks request reply = false := by
      intro request
      cases reply with
      | body text => exact absurd rfl (unread text)
      | sendFailed error => cases request <;> rfl
      | readFailed error => cases request <;> rfl
    rw [show next reply = .pairing from if_neg (by simp [harmless])]
    exact failed error
  · intro body
    apply Typestate.follows_then
    apply Typestate.follows_bind
    apply follows_lift
    by_cases accepted : Text.contains body statusOk = true
    · have checked : checkStatus (lit "pair phase") body = .ok () :=
        if_pos accepted
      have reached : next (.body body) =
          answeredPhase (PairingClient.decodedField (PairingClient.phaseOf
            (PairingClient.queryOf client.identity uuid params)) body) := by
        simp [next, request, wrecks, accepted, answeredPhase]
      rw [checked]
      apply Typestate.follows_then
      apply Typestate.follows_pure
      exact reached ▸ answered uuid body
    · have checked : ∃ error, checkStatus (lit "pair phase") body =
          .err error := ⟨_, if_neg accepted⟩
      obtain ⟨error, checked⟩ := checked
      have harmless : ∀ request, wrecks request (.body body) = false := by
        intro request
        cases request <;> simp [wrecks, accepted]
      rw [checked, show next (.body body) = .pairing from
        if_neg (by simp [harmless])]
      exact failed error

/-- Decoding a field either goes on in the handshake or wrecks it, as the
field says. -/
theorem follows_decode {α β : Type} {outcome : Outcome α}
    {field : Option Text} {rest : α → Rust β}
    {post : Outcome β → Worker → Prop}
    (panics : outcome.isPanic = field.any hexPanics)
    (decoded : ∀ value, engineThread.Follows (rest value) post
      ⟨session, doc, .pairing⟩)
    (failed : ∀ error, post (.err error) ⟨session, doc, .pairing⟩)
    (wrecked : ∀ message, post (.panicked message) ⟨session, doc, .wrecked⟩) :
    engineThread.Follows (lift outcome >>= rest : Rust β) post
      ⟨session, doc, answeredPhase field⟩ := by
  apply Typestate.follows_bind
  apply follows_lift
  unfold answeredPhase
  rw [← panics]
  cases outcome with
  | ok value => exact decoded value
  | err error => exact failed error
  | panicked message => exact wrecked message

theorem follows_harmless {α β : Type} {outcome : Outcome α}
    {rest : α → Rust β} {post : Outcome β → Worker → Prop} {worker : Worker}
    (harmless : outcome.isPanic = false)
    (went : ∀ value, engineThread.Follows (rest value) post worker)
    (failed : ∀ error, post (.err error) worker) :
    engineThread.Follows (lift outcome >>= rest : Rust β) post worker := by
  apply Typestate.follows_bind
  apply follows_lift
  cases outcome with
  | ok value => exact went value
  | err error => exact failed error
  | panicked message => exact absurd harmless (by simp)

theorem follows_pair {ssl : OpenSsl} {client : PairingClient}
    {salt aesKey : Bytes} {post : Outcome Unit → Worker → Prop}
    (succeeded : post (.ok ()) ⟨session, doc, .pairing⟩)
    (failed : ∀ error, post (.err error) ⟨session, doc, .pairing⟩)
    (wrecked : ∀ message, post (.panicked message) ⟨session, doc, .wrecked⟩) :
    engineThread.Follows (client.pair ssl salt aesKey) post
      ⟨session, doc, .pairing⟩ := by
  -- Phase 1.
  apply Typestate.follows_bind
  apply follows_pairReq failed
  intro uuid body
  rw [PairingClient.phaseOf_serverCert]
  apply follows_decode _ _ failed wrecked
  · rw [PairingClient.readServerCert_isPanic]
    by_cases paired :
        (element body (lit "paired")).map Text.trim = some (lit "1")
    · simp [PairingClient.decodedField, paired]
    · simp [PairingClient.decodedField, paired]
  intro serverCert
  -- Phase 2.
  apply Typestate.follows_bind
  apply follows_rand16 rfl _ failed
  intro clientChallenge
  apply follows_harmless (aesEcb_isPanic _ _ _ _) _ failed
  intro encChallenge
  apply Typestate.follows_bind
  apply follows_pairReq failed
  intro uuid body
  rw [PairingClient.phaseOf_clientChallenge]
  apply follows_decode
    (PairingClient.readChallengeResponse_isPanic ssl aesKey body) _
    failed wrecked
  intro challengeResp
  -- Phase 3.
  apply follows_harmless (PairingClient.certificate_isPanic _ _) _ failed
  intro clientCert
  apply Typestate.follows_bind
  apply follows_rand16 rfl _ failed
  intro clientSecret
  apply follows_harmless (aesEcb_isPanic _ _ _ _) _ failed
  intro enc
  apply Typestate.follows_bind
  apply follows_pairReq failed
  intro uuid body
  rw [PairingClient.phaseOf_serverChallenge]
  apply follows_decode (PairingClient.readPairingSecret_isPanic body) _
    failed wrecked
  intro pairingSecret
  apply follows_harmless
    (PairingClient.checkServerResponse_isPanic _ _ _ _ _) _ failed
  intro matched
  apply follows_harmless
    (PairingClient.checkServerSignature_isPanic _ _ _ _) _ failed
  intro genuine
  -- Phase 4.
  apply follows_harmless
    (PairingClient.clientPairingSecret_isPanic _ _ _) _ failed
  intro secret
  apply Typestate.follows_bind
  apply follows_pairReq failed
  intro uuid body
  rw [PairingClient.phaseOf_clientSecret]
  apply follows_harmless _ _ failed
  · simp [tagIs]
  intro accepted
  cases accepted with
  | true => exact succeeded
  | false => exact failed _

end Pairing

section Launch

variable {session : UInt32} {doc : MoonlightConnectDoc}
  {libraries : Libraries} {identity : MoonlightIdentity}

/-- A launch that returns moved the thread on, and the client it was sent with
can be built again. -/
theorem follows_launch {host : Text} {port : UInt16}
    {appId width height fps : UInt32}
    {post : Outcome LaunchSession → Worker → Prop}
    (failed : ∀ outcome, (∀ launched, outcome ≠ .ok launched) →
      post outcome ⟨session, doc, .cleared⟩)
    (succeeded : ∀ launched, httpsClient libraries identity = .ok () →
      post (.ok launched) ⟨session, doc, .launched⟩) :
    engineThread.Follows
      (launch libraries identity host port appId width height fps) post
      ⟨session, doc, .cleared⟩ := by
  apply Typestate.follows_bind
  apply follows_rand16 rfl
  case failed =>
    intro error
    exact failed (.err error) (by simp)
  intro aesKey
  apply Typestate.follows_bind
  apply follows_issueResult
  intro reply
  refine ⟨.cleared, .quiet rfl, ?_⟩
  cases reply with
  | error error => exact failed (.err error) (by simp)
  | ok idBytes =>
      apply Typestate.follows_bind
      apply follows_newUuid (fun reply => .quiet rfl)
      intro uuid
      apply Typestate.follows_bind
      apply follows_lift
      cases client : httpsClient libraries identity with
      | err error => exact failed (.err error) (by simp)
      | panicked message => exact failed (.panicked message) (by simp)
      | ok value =>
          apply Typestate.follows_bind
          let next (reply : HttpReply) : Phase :=
            if launchAccepted reply then .launched else .cleared
          have allowed (reply : HttpReply) : Phase.Next session doc .cleared
              ⟨.request (.launch host port identity.uniqueId uuid appId width
                height fps (toHex aesKey.1) (rikeyIdOf idBytes.1)), reply⟩
              (next reply) := by
            by_cases accepted : launchAccepted reply = true
            · rw [show next reply = .launched from if_pos accepted]
              exact .launch accepted
            · rw [show next reply = .cleared from if_neg accepted]
              exact .launchFailed (Bool.eq_false_iff.mpr accepted)
          apply follows_httpGet allowed
          · intro reply error unread
            have rejected : launchAccepted reply = false := by
              cases reply with
              | sendFailed error => rfl
              | readFailed error => rfl
              | body text => exact absurd rfl (unread text)
            rw [show next reply = .cleared from if_neg (by simp [rejected])]
            exact failed (.err error) (by simp)
          · intro body
            apply Typestate.follows_bind
            apply follows_lift
            cases checked : checkLaunch body with
            | ok value =>
                rw [show next (.body body) = .launched from
                  if_pos (by simp [launchAccepted, checked])]
                exact succeeded _ client
            | err error =>
                rw [show next (.body body) = .cleared from
                  if_neg (by simp [launchAccepted, checked])]
                exact failed (.err error) (by simp)
            | panicked message =>
                rw [show next (.body body) = .cleared from
                  if_neg (by simp [launchAccepted, checked])]
                exact failed (.panicked message) (by simp)

/-- `start_stream` returned an error: a string held a NUL and the sender is
still installed, or the handshake was refused. -/
def StartFailed (error : Text) (phase : Phase) : Prop :=
  Phase.StartError error ∧ (phase = .armed ∨ phase = .startFailed error)

theorem cString_cases {what text : Text}
    (known : Phase.StartError (what ++ lit " has NUL")) :
    Stream.cString what text = .ok text ∨
      ∃ error, Stream.cString what text = .err error ∧
        Phase.StartError error := by
  by_cases nul : '\x00' ∈ text
  · exact .inr ⟨_, if_pos nul, known⟩
  · exact .inl (if_neg nul)

theorem startError_code (code : Int32) :
    Phase.StartError (lit "LiStartConnection failed (code " ++
      decimalInt code.toInt ++ lit ")") := by
  constructor
  · intro same
    have heads : some 'L' = some 's' := congrArg List.head? same
    exact absurd heads (by decide)
  · intro same
    have heads : some 'L' = some 'h' := congrArg List.head? same
    exact absurd heads (by decide)

theorem follows_startStream {opts : Stream.StreamOptions}
    {post : Outcome Unit → Worker → Prop}
    (failed : ∀ error phase, StartFailed error phase →
      post (.err error) ⟨session, doc, phase⟩)
    (succeeded : post (.ok ()) ⟨session, doc, .connected⟩) :
    engineThread.Follows (Stream.startStream opts) post
      ⟨session, doc, .launched⟩ := by
  apply Typestate.follows_bind
  apply follows_issue
  intro reply
  refine ⟨.sinkInstalled, .install, ?_⟩
  apply Typestate.follows_bind
  apply follows_issue
  intro reply
  refine ⟨.armed, .arm, ?_⟩
  apply Typestate.follows_bind
  apply follows_lift
  have knownHost : Phase.StartError (lit "host" ++ lit " has NUL") := by decide
  have knownApp : Phase.StartError (lit "appver" ++ lit " has NUL") := by
    decide
  have knownGfe : Phase.StartError (lit "gfever" ++ lit " has NUL") := by
    decide
  obtain address | ⟨error, bad, known⟩ := cString_cases knownHost
  case inr =>
    rw [bad]
    exact failed error .armed ⟨known, .inl rfl⟩
  rw [address]
  apply Typestate.follows_bind
  apply follows_lift
  obtain appVersion | ⟨error, bad, known⟩ := cString_cases knownApp
  case inr =>
    rw [bad]
    exact failed error .armed ⟨known, .inl rfl⟩
  rw [appVersion]
  apply Typestate.follows_bind
  apply follows_lift
  obtain gfeVersion | ⟨error, bad, known⟩ := cString_cases knownGfe
  case inr =>
    rw [bad]
    exact failed error .armed ⟨known, .inl rfl⟩
  rw [gfeVersion]
  apply Typestate.follows_bind
  apply follows_issue
  intro reply
  refine ⟨.starting, .beginStart, ?_⟩
  apply Typestate.follows_bind
  apply follows_issue
  intro code
  by_cases success : code = (0 : Int32)
  · subst success
    refine ⟨.connected, .started, ?_⟩
    apply Typestate.follows_if
    · intro failure
      exact absurd rfl failure
    · intro returned
      exact succeeded
  · have known := startError_code code
    refine ⟨.refused _, .refuse success known, ?_⟩
    apply Typestate.follows_if
    · intro failure
      apply Typestate.follows_bind
      apply follows_issue
      intro reply
      exact ⟨_, .uninstallRefused, failed _ _ ⟨known, .inr rfl⟩⟩
    · intro returned
      exact absurd success returned

theorem follows_stopStream {exit : LoopExit} {after : Phase}
    {post : Outcome Unit → Worker → Prop}
    (uninstalled : ∀ reply, Phase.Next session doc (.uninstalling exit)
      ⟨.clearSink .worker, reply⟩ after)
    (holds : post (.ok ()) ⟨session, doc, after⟩) :
    engineThread.Follows (Stream.stopStream .worker) post
      ⟨session, doc, .stopping exit⟩ := by
  apply Typestate.follows_bind
  apply follows_issue
  intro reply
  refine ⟨.stoppingCore exit, .beginStop, ?_⟩
  apply Typestate.follows_bind
  apply follows_issue
  intro reply
  refine ⟨.uninstalling exit, .finishStop, ?_⟩
  apply follows_issue
  intro reply
  exact ⟨after, uninstalled reply, holds⟩

/-- The release request is sent whatever becomes of it. -/
theorem follows_releaseHost {before middle after : Phase}
    {post : Outcome Unit → Worker → Prop}
    (client : httpsClient libraries identity = .ok ())
    (drawn : ∀ reply,
      Phase.Next session doc before ⟨.randBytes 16, reply⟩ middle)
    (released : ∀ host port uniqueId uuid reply,
      Phase.Next session doc middle
        ⟨.request (.cancel host port uniqueId uuid), reply⟩ after)
    (holds : post (.ok ()) ⟨session, doc, after⟩) :
    engineThread.Follows (releaseHost libraries doc identity) post
      ⟨session, doc, before⟩ := by
  apply Typestate.follows_bind
  apply Typestate.follows_attempt
  apply Typestate.follows_bind
  apply follows_newUuid drawn
  intro uuid
  apply Typestate.follows_bind
  apply follows_lift
  rw [client]
  apply Typestate.follows_bind
  apply follows_httpGet (fun reply => released _ _ _ _ reply)
  · intro reply error unread
    exact holds
  · intro body
    apply Typestate.follows_then
    apply follows_lift
    unfold checkStatus
    by_cases accepted : Text.contains body statusOk = true
    · rw [if_pos accepted]
      exact holds
    · rw [if_neg accepted]
      exact holds

end Launch

section FrameLoop

variable {session : UInt32} {doc : MoonlightConnectDoc}

theorem follows_frameSink {unit : VideoUnit}
    {post : Outcome Unit → Worker → Prop}
    (holds : post (.ok ()) ⟨session, doc, .polling⟩) :
    engineThread.Follows (frameSink session [frameUpdate doc unit]) post
      ⟨session, doc, .delivering unit⟩ := by
  apply Typestate.follows_bind
  apply follows_issue
  intro reply
  refine ⟨.polling, .deliver, ?_⟩
  cases reply with
  | ok value => exact holds
  | error error => exact holds

theorem follows_frameLoop {post : Outcome Unit → Worker → Prop}
    (ends : ∀ outcome phase, LoopEnds outcome phase →
      post outcome ⟨session, doc, phase⟩) :
    engineThread.Follows (frameLoop session doc) post
      ⟨session, doc, .polling⟩ := by
  constructor
  · rfl
  · intro outcome worker returned
    obtain ⟨phase, rfl, loopEnds⟩ := returned
    exact ends outcome phase loopEnds

theorem follows_frameLoopBody {post : Outcome Unit → Worker → Prop}
    (ends : ∀ outcome phase, LoopEnds outcome phase →
      post outcome ⟨session, doc, phase⟩) :
    engineThread.Follows (frameLoopBody session doc) post
      ⟨session, doc, .polling⟩ := by
  apply Typestate.follows_bind
  apply follows_issue
  intro stop
  cases stop with
  | true =>
      exact ⟨_, .stop, ends (.ok ()) (.stopping .stopped) (.inl rfl)⟩
  | false =>
      refine ⟨_, .poll, ?_⟩
      apply Typestate.follows_then
      apply Typestate.follows_bind
      apply follows_issue
      intro terminated
      cases terminated with
      | true =>
          refine ⟨_, .terminated, ?_⟩
          apply Typestate.follows_then
          apply Typestate.follows_bind
          apply follows_stopStream (fun reply => .uninstallEnded)
          exact ends (.err hostTerminated) (.closing (some hostTerminated))
            ⟨rfl, rfl⟩
      | false =>
          refine ⟨_, .alive, ?_⟩
          apply Typestate.follows_then
          apply Typestate.follows_bind
          apply follows_issue
          intro received
          cases received with
          | unit unit =>
              refine ⟨_, .receive, ?_⟩
              apply Typestate.follows_then
              apply Typestate.follows_bind
              apply follows_frameSink
              exact follows_frameLoop ends
          | timeout => exact ⟨_, .timeout, follows_frameLoop ends⟩
          | disconnected =>
              exact ⟨_, .disconnected,
                ends (.ok ()) (.stopping .disconnected) (.inr rfl)⟩

end FrameLoop

section Session

variable {session : UInt32} {doc : MoonlightConnectDoc}
  {libraries : Libraries} {identity : MoonlightIdentity}

/-- The phase allows exactly the closing message this outcome leads to; the
prompt is left up before the handshake for want of a client only. -/
def Ends (libraries : Libraries) (session : UInt32)
    (doc : MoonlightConnectDoc) (outcome : Outcome Unit) (worker : Worker) :
    Prop :=
  ∃ phase, worker = ⟨session, doc, phase⟩ ∧
    Phase.MayClose phase (reported (closeReason outcome)) ∧
    (phase = .pairing → (plainClient libraries).isPanic = true)

theorem reported_err {error : Text} (known : error ≠ sessionEnded) :
    reported (closeReason (.err error)) = some error :=
  if_pos known

theorem reported_panicked (message : Text) :
    reported (closeReason (.panicked message)) =
      some (closeReason (.panicked message)) := by
  apply if_pos
  intro same
  have heads : some 'i' = some 's' := congrArg List.head? same
  exact absurd heads (by decide)

theorem follows_streamSession {info : ServerInfo} {launched : LaunchSession}
    (client : httpsClient libraries identity = .ok ()) :
    engineThread.Follows
      (streamSession libraries session doc identity info launched)
      (Ends libraries session doc) ⟨session, doc, .launched⟩ := by
  apply Typestate.follows_bind
  apply Typestate.follows_attempt
  apply follows_startStream
  case failed =>
    intro error phase failed
    obtain ⟨known, stands⟩ := failed
    apply Typestate.follows_then
    apply Typestate.follows_bind
    have released : Ends libraries session doc (.err error)
        ⟨session, doc, .closing (some error)⟩ :=
      ⟨_, rfl, reported_err known.1, nofun⟩
    obtain rfl | rfl := stands
    · exact follows_releaseHost client (fun reply => .badString known)
        (fun _ _ _ _ reply => .releaseFailed) released
    · exact follows_releaseHost client (fun reply => .quiet rfl)
        (fun _ _ _ _ reply => .releaseFailed) released
  case succeeded =>
    apply Typestate.follows_then
    apply Typestate.follows_bind
    apply follows_send (fun reply => .ready)
    apply Typestate.follows_then
    apply Typestate.follows_bind
    apply follows_send (fun reply => .connectedMessage)
    apply Typestate.follows_then
    apply Typestate.follows_bind
    apply follows_frameLoop
    intro outcome phase loopEnds
    cases outcome with
    | panicked message => exact absurd loopEnds id
    | err error =>
        obtain ⟨rfl, rfl⟩ := loopEnds
        exact ⟨_, rfl, reported_err (by decide), nofun⟩
    | ok value =>
        have released : Ends libraries session doc (.ok ())
            ⟨session, doc, .closing none⟩ := ⟨_, rfl, rfl, nofun⟩
        apply Typestate.follows_then
        apply Typestate.follows_bind
        obtain rfl | rfl := loopEnds
        · apply follows_stopStream (fun reply => .uninstall (by simp))
          exact follows_releaseHost client (fun reply => .quiet rfl)
            (fun _ _ _ _ reply => .release) released
        · apply follows_stopStream (fun reply => .uninstall (by simp))
          exact follows_releaseHost client (fun reply => .quiet rfl)
            (fun _ _ _ _ reply => .release) released

theorem follows_launchSession {info : ServerInfo} {before : Phase}
    (due : before = .probing ∨ before = .settled) :
    engineThread.Follows (launchSession libraries session doc identity info)
      (Ends libraries session doc) ⟨session, doc, before⟩ := by
  have cleared : ∀ outcome,
      Ends libraries session doc outcome ⟨session, doc, .cleared⟩ :=
    fun outcome => ⟨.cleared, rfl, trivial, nofun⟩
  apply Typestate.follows_bind
  apply follows_issue
  intro stop
  cases stop with
  | true => exact ⟨_, .stopEarly due, .stoppedEarly, rfl, rfl, nofun⟩
  | false =>
      refine ⟨_, .proceed due, ?_⟩
      apply Typestate.follows_then
      apply Typestate.follows_bind
      apply follows_appList
      intro apps
      cases apps with
      | err error => exact cleared (.err error)
      | panicked message => exact cleared (.panicked message)
      | ok apps =>
          apply Typestate.follows_then
          apply Typestate.follows_bind
          apply follows_lift
          cases chooseApp apps with
          | err error => exact cleared (.err error)
          | panicked message => exact cleared (.panicked message)
          | ok app =>
              apply Typestate.follows_then
              apply Typestate.follows_bind
              apply follows_send (fun reply => .launching)
              apply Typestate.follows_then
              apply Typestate.follows_bind
              apply follows_launch
              · intro outcome failed
                cases outcome with
                | ok launched => exact absurd rfl (failed launched)
                | err error => exact cleared (.err error)
                | panicked message => exact cleared (.panicked message)
              · intro launched client
                exact follows_streamSession client

theorem follows_settleIdentity
    {post : Outcome MoonlightIdentity → Worker → Prop}
    (failed : ∀ error, post (.err error) ⟨session, doc, .fresh⟩)
    (settled : ∀ identity phase, phase = .fresh ∨ phase = .introduced →
      post (.ok identity) ⟨session, doc, phase⟩) :
    engineThread.Follows (settleIdentity session doc) post
      ⟨session, doc, .fresh⟩ := by
  unfold settleIdentity
  cases restoreIdentity doc with
  | some identity => exact settled identity .fresh (.inl rfl)
  | none =>
      apply Typestate.follows_bind
      apply follows_issueResult
      intro reply
      cases reply with
      | error error => exact ⟨_, .ungenerated, failed error⟩
      | ok identity =>
          refine ⟨_, .generated, ?_⟩
          apply Typestate.follows_then
          apply Typestate.follows_bind
          apply follows_send (fun reply => .introduce)
          exact settled identity .introduced (.inr rfl)

theorem follows_pairWithHost
    {post : Outcome Unit → Worker → Prop}
    (succeeded : post (.ok ()) ⟨session, doc, .settled⟩)
    (failed : ∀ error, post (.err error) ⟨session, doc, .unpaired⟩)
    (wrecked : ∀ message, post (.panicked message) ⟨session, doc, .wrecked⟩)
    (clientless : (plainClient libraries).isPanic = true →
      ∀ message, post (.panicked message) ⟨session, doc, .pairing⟩) :
    engineThread.Follows (pairWithHost libraries session doc identity) post
      ⟨session, doc, .probing⟩ := by
  apply Typestate.follows_bind
  apply Typestate.follows_bind
  apply follows_drawOrZero (fun reply => .quiet rfl)
  intro bytes
  apply Typestate.follows_then
  apply Typestate.follows_pure
  apply Typestate.follows_then
  apply Typestate.follows_bind
  apply follows_send (fun reply => .invite)
  apply Typestate.follows_then
  apply Typestate.follows_bind
  apply follows_send (fun reply => .prompt)
  apply Typestate.follows_then
  apply Typestate.follows_bind
  apply follows_drawOrZero (fun reply => .quiet rfl)
  intro salt
  apply Typestate.follows_then
  apply PairingClient.follows_new ?_ clientless
  apply Typestate.follows_bind
  apply Typestate.follows_attempt
  apply follows_pair
  case wrecked =>
    intro message
    exact wrecked message
  case succeeded =>
    apply Typestate.follows_then
    apply Typestate.follows_bind
    apply follows_send (fun reply => .finishPaired)
    exact follows_send (fun reply => .pairedMessage) succeeded
  case failed =>
    intro error
    apply Typestate.follows_then
    apply Typestate.follows_bind
    apply follows_send (fun reply => .finishUnpaired)
    exact failed error

theorem follows_withIdentity {phase : Phase}
    (settled : phase = .fresh ∨ phase = .introduced) :
    engineThread.Follows (withIdentity libraries session doc identity)
      (Ends libraries session doc) ⟨session, doc, phase⟩ := by
  apply Typestate.follows_bind
  apply follows_issueResult
  intro reply
  cases reply with
  | error error =>
      refine ⟨_, .noRuntime settled, phase, rfl, ?_⟩
      obtain rfl | rfl := settled <;> exact ⟨trivial, nofun⟩
  | ok value =>
      refine ⟨_, .runtime settled, ?_⟩
      apply Typestate.follows_then
      apply Typestate.follows_bind
      apply follows_send (fun reply => .connecting)
      apply Typestate.follows_then
      apply Typestate.follows_bind
      apply follows_learnServerInfo
      intro outcome
      cases outcome with
      | err error => exact ⟨.probing, rfl, trivial, nofun⟩
      | panicked message => exact ⟨.probing, rfl, trivial, nofun⟩
      | ok info =>
          apply Typestate.follows_then
          apply Typestate.follows_if
          · intro unpaired
            apply Typestate.follows_bind
            apply follows_pairWithHost
            · exact follows_launchSession (.inr rfl)
            · intro error
              exact ⟨.unpaired, rfl, trivial, nofun⟩
            · intro message
              exact ⟨.wrecked, rfl, ⟨message, reported_panicked message⟩, nofun⟩
            · intro missing message
              exact ⟨.pairing, rfl, ⟨message, reported_panicked message⟩,
                fun _ => missing⟩
          · intro alreadyPaired
            exact follows_launchSession (.inl rfl)

theorem follows_runMoonlight :
    engineThread.Follows (runMoonlight libraries session doc)
      (Ends libraries session doc) (born session doc) := by
  rw [runMoonlight]
  apply Typestate.follows_bind
  apply follows_settleIdentity
  case failed =>
    intro error
    exact ⟨.fresh, rfl, trivial, nofun⟩
  intro identity phase settled
  apply Typestate.follows_then
  exact follows_withIdentity settled

/-- The whole engine thread ends closed. -/
theorem follows_worker :
    engineThread.Follows (worker libraries session doc)
      (fun _ => Worker.final) (born session doc) := by
  apply Typestate.Follows.bind
  apply follows_runMoonlight.mono
  intro outcome after ends
  obtain ⟨phase, rfl, may, _⟩ := ends
  apply Typestate.Follows.bind
  apply follows_send (fun reply => .close may)
  exact .inr rfl

end Session

/-- The frame loop meets its contract, whichever engine enters it. -/
theorem engineThread_sound (libraries : Libraries) :
    engineThread.Sound (Main.bodies libraries) := by
  intro loop worker pre
  cases loop with
  | frameLoop session doc =>
      obtain rfl := pre
      apply follows_frameLoopBody
      intro outcome phase loopEnds
      exact ⟨phase, rfl, loopEnds⟩
  | readControl => exact absurd pre id
  | readerLoop => exact absurd pre id

section Paths

variable {session : UInt32} {doc : MoonlightConnectDoc}
  {libraries : Libraries} {trace : List (Event sidecar)}

/-- Induction along the path of one engine thread. -/
theorem path_invariant {start : Phase} {worker : Worker}
    (path : engineThread.Path ⟨session, doc, start⟩ trace worker)
    (holds : List (Event sidecar) → Phase → Prop)
    (initial : holds [] start)
    (preserved : ∀ past before event after, holds past before →
      Phase.Next session doc before event after →
        holds (past ++ [event]) after) :
    ∃ phase, worker = ⟨session, doc, phase⟩ ∧ holds trace phase := by
  apply path.invariant fun trace worker =>
    ∃ phase, worker = ⟨session, doc, phase⟩ ∧ holds trace phase
  · exact ⟨start, rfl, initial⟩
  · intro past state event after held next
    obtain ⟨before, rfl, held⟩ := held
    cases next with
    | mk next => exact ⟨_, rfl, preserved past before event _ held next⟩

theorem path_of_run {finish : Program sidecar Unit}
    (run : Program.Run (Main.bodies libraries)
      (worker libraries session doc) trace finish) :
    ∃ after, engineThread.Path (born session doc) trace after ∧
      engineThread.Follows finish (fun _ => final) after :=
  Typestate.follows_run (engineThread_sound libraries) run follows_worker

/-- A finished thread is closed. -/
theorem path_of_finished
    (run : Program.Run (Main.bodies libraries)
      (worker libraries session doc) trace (.ret ())) :
    engineThread.Path (born session doc) trace ⟨session, doc, .closed⟩ := by
  obtain ⟨after, path, final⟩ := path_of_run run
  have present := path_invariant path (fun _ phase => phase ≠ .absent)
    (by simp) (fun _ _ _ _ _ next => next.present)
  obtain ⟨phase, rfl, present⟩ := present
  obtain absent | closed := final
  · exact absurd absent present
  · obtain rfl := closed
    exact path

end Paths

end Worker

end MoonlightAddon
