import MoonlightAddon.Core.Pairing
import MoonlightAddon.Responder

/-!
# Pairing against an arbitrary host

The handshake releases the client secret only to a host that has proved, in
the exchanges before, that it knew the PIN and owns its certificate.  The
typestate of this file is the whole past of the handshake, and every request
is judged against it.
-/

namespace MoonlightAddon

namespace NvHttp

namespace PairingClient

section Reading

variable {ssl : OpenSsl} {body : Text}

/-- What phase 1 has to answer. -/
structure Certified (ssl : OpenSsl) (body : Text)
    (certificate : ssl.Certificate) : Prop where
  paired : (element body (lit "paired")).map Text.trim = some (lit "1")
  certificate : ∃ field pem, element body (lit "plaincert") = some field ∧
    fromHex field = .ok pem ∧ ssl.certificateFromPem pem = .ok certificate

/-- `challengeresponse`, decrypted under the AES key. -/
def Responded (ssl : OpenSsl) (aesKey : Bytes) (body : Text)
    (response : Bytes) : Prop :=
  48 ≤ response.length ∧ ∃ field encrypted,
    element body (lit "challengeresponse") = some field ∧
      fromHex field = .ok encrypted ∧
      aesEcb ssl .decrypt aesKey encrypted = .ok response

/-- `pairingsecret`: 16 bytes of secret and a signature of 256. -/
def Revealed (body : Text) (pairingSecret : Bytes) : Prop :=
  16 + 256 ≤ pairingSecret.length ∧ ∃ field,
    element body (lit "pairingsecret") = some field ∧
      fromHex field = .ok pairingSecret

theorem certified_of_read {certificate : ssl.Certificate}
    (read : readServerCert ssl body = .ok certificate) :
    Certified ssl body certificate := by
  unfold readServerCert tagIs at read
  simp only [xmlTag_eq, Outcome.ok_bind, Outcome.pure_eq, beq_iff_eq] at read
  by_cases paired : (element body (lit "paired")).map Text.trim = some (lit "1")
  · rw [if_pos paired] at read
    obtain ⟨field, found, read⟩ := Outcome.bind_eq_ok read
    obtain ⟨pem, decoded, read⟩ := Outcome.bind_eq_ok read
    exact ⟨paired, field, pem, Outcome.okOr_eq_ok found, decoded,
      Outcome.mapError_eq_ok read⟩
  · rw [if_neg paired] at read
    cases read

theorem responded_of_read {aesKey response : Bytes}
    (read : readChallengeResponse ssl aesKey body = .ok response) :
    Responded ssl aesKey body response := by
  unfold readChallengeResponse at read
  simp only [xmlTag_eq, Outcome.ok_bind] at read
  obtain ⟨field, found, read⟩ := Outcome.bind_eq_ok read
  obtain ⟨encrypted, decoded, read⟩ := Outcome.bind_eq_ok read
  obtain ⟨decrypted, deciphered, read⟩ := Outcome.bind_eq_ok read
  by_cases short : decrypted.length < 48
  · rw [if_pos short] at read
    cases read
  · rw [if_neg short] at read
    obtain rfl : decrypted = response := Outcome.ok.inj read
    exact ⟨Nat.le_of_not_lt short, field, encrypted,
      Outcome.okOr_eq_ok found, decoded, deciphered⟩

theorem revealed_of_read {pairingSecret : Bytes}
    (read : readPairingSecret body = .ok pairingSecret) :
    Revealed body pairingSecret := by
  unfold readPairingSecret at read
  simp only [xmlTag_eq, Outcome.ok_bind] at read
  obtain ⟨field, found, read⟩ := Outcome.bind_eq_ok read
  obtain ⟨secret, decoded, read⟩ := Outcome.bind_eq_ok read
  by_cases short : secret.length < 16 + 256
  · rw [if_pos short] at read
    cases read
  · rw [if_neg short] at read
    obtain rfl : secret = pairingSecret := Outcome.ok.inj read
    exact ⟨Nat.le_of_not_lt short, field, Outcome.okOr_eq_ok found, decoded⟩

theorem digest_of_check {clientChallenge certSignature serverSecret
      serverResponse : Bytes}
    (checked : checkServerResponse ssl clientChallenge certSignature
      serverSecret serverResponse = .ok ()) :
    sha256 ssl (clientChallenge ++ certSignature ++ serverSecret) =
      serverResponse := by
  unfold checkServerResponse at checked
  by_cases differs : sha256 ssl
      (clientChallenge ++ certSignature ++ serverSecret) ≠ serverResponse
  · rw [if_pos differs] at checked
    cases checked
  · exact not_not.mp differs

theorem signature_of_check {certificate : ssl.Certificate}
    {serverSecret serverSignature : Bytes}
    (checked : checkServerSignature ssl certificate serverSecret
      serverSignature = .ok ()) :
    ∃ publicKey, ssl.certificatePublicKey certificate = .ok publicKey ∧
      ssl.verify publicKey serverSecret serverSignature = .ok true := by
  unfold checkServerSignature at checked
  obtain ⟨publicKey, opened, checked⟩ := Outcome.bind_eq_ok checked
  obtain ⟨_, _, checked⟩ := Outcome.bind_eq_ok checked
  obtain ⟨_, _, checked⟩ := Outcome.bind_eq_ok checked
  obtain ⟨genuine, verified, checked⟩ := Outcome.bind_eq_ok checked
  cases genuine with
  | true => exact ⟨publicKey, Outcome.mapError_eq_ok opened,
      Outcome.ofExcept_eq_ok verified⟩
  | false => cases checked

end Reading

/-- The name drawn for a request; a failed draw names it by zeros. -/
def uuidOf : Except Text (Drawn 16) → Text
  | .ok bytes => formatUuid bytes.1
  | .error _ => formatUuid (List.replicate 16 0)

/-- The two events of one `pair_req`. -/
def ask (client : PairingClient) (draw : Except Text (Drawn 16))
    (params : List (Text × Text)) (reply : HttpReply) : List (Event sidecar) :=
  [⟨.randBytes 16, draw⟩,
    ⟨.request (.pair client.host client.httpPort
      (queryOf client.identity (uuidOf draw) params)), reply⟩]

/-- The first three exchanges. -/
structure Transcript where
  certDraw : Except Text (Drawn 16)
  certBody : Text
  challenge : Drawn 16
  encChallenge : Bytes
  challengeDraw : Except Text (Drawn 16)
  challengeBody : Text
  secret : Drawn 16
  encHash : Bytes
  secretDraw : Except Text (Drawn 16)
  secretBody : Text

namespace Transcript

def events (client : PairingClient) (salt : Bytes) (transcript : Transcript) :
    List (Event sidecar) :=
  client.ask transcript.certDraw (serverCertParams salt client.identity)
      (.body transcript.certBody) ++
    [⟨.randBytes 16, .ok transcript.challenge⟩] ++
    client.ask transcript.challengeDraw
      (clientChallengeParams transcript.encChallenge)
      (.body transcript.challengeBody) ++
    [⟨.randBytes 16, .ok transcript.secret⟩] ++
    client.ask transcript.secretDraw
      (serverChallengeParams transcript.encHash) (.body transcript.secretBody)

/-- The host knew the PIN and owns the certificate it presented. -/
def Proven (ssl : OpenSsl) (aesKey : Bytes) (transcript : Transcript) : Prop :=
  ∃ certificate response pairingSecret publicKey,
    Certified ssl transcript.certBody certificate ∧
      Responded ssl aesKey transcript.challengeBody response ∧
      Revealed transcript.secretBody pairingSecret ∧
      sha256 ssl (transcript.challenge.1 ++
        ssl.certificateSignature certificate ++ pairingSecret.take 16) =
          response.take 32 ∧
      ssl.certificatePublicKey certificate = .ok publicKey ∧
      ssl.verify publicKey (pairingSecret.take 16)
        ((pairingSecret.drop 16).take 256) = .ok true

end Transcript

/-- The reply to a request of the given phase passes that phase's check. -/
def Passes (ssl : OpenSsl) (aesKey : Bytes) (phase : PairPhase)
    (reply : HttpReply) : Prop :=
  ∃ body, reply = .body body ∧ Text.contains body statusOk = true ∧
    match phase with
    | .serverCert => ∃ certificate, Certified ssl body certificate
    | .clientChallenge => ∃ response, Responded ssl aesKey body response
    | .serverChallenge => ∃ pairingSecret, Revealed body pairingSecret
    | .clientSecret =>
        (element body (lit "paired")).map Text.trim = some (lit "1")

/-- No pairing request in the past failed its check. -/
def AllPassed (ssl : OpenSsl) (aesKey : Bytes) (past : List (Event sidecar)) :
    Prop :=
  ∀ host port query reply,
    ⟨.request (.pair host port query), reply⟩ ∈ past →
      Passes ssl aesKey (phaseOf query) reply

/-- What allows a pairing request: every request before it passed its check,
and the client secret is for a proven host only. -/
def Justified (ssl : OpenSsl) (client : PairingClient) (salt aesKey : Bytes)
    (past : List (Event sidecar)) (query : List (Text × Text)) : Prop :=
  AllPassed ssl aesKey past ∧
    (phaseOf query = .clientSecret → ∃ transcript draw,
      past = Transcript.events client salt transcript ++
          [⟨.randBytes 16, draw⟩] ∧
        transcript.Proven ssl aesKey)

section Judged

variable (ssl : OpenSsl) (client : PairingClient) (salt aesKey : Bytes)

/-- The handshake before its past. -/
def judged : Typestate sidecar where
  State := List (Event sidecar)
  Next past event after := after = past ++ [event] ∧
    ∀ host port query reply,
      event = ⟨.request (.pair host port query), reply⟩ →
        Justified ssl client salt aesKey past query
  Pre _ _ := False
  Post _ _ _ _ := False

theorem judged_sound
    (bodies : (loop : LoopName) → Program sidecar loop.Result) :
    (judged ssl client salt aesKey).Sound bodies :=
  fun _ _ impossible => absurd impossible id

variable {ssl client salt aesKey}

/-- A path of the judged handshake records its trace. -/
theorem path_judged {past trace after : List (Event sidecar)}
    (path : (judged ssl client salt aesKey).Path past trace after) :
    after = past ++ trace :=
  path.history id fun _ _ _ next => next.1

variable {past : List (Event sidecar)} {α β : Type}
  {params : List (Text × Text)}

theorem follows_draw {post : Outcome (Drawn 16) → List (Event sidecar) → Prop}
    (failed : ∀ error after, post (.err error) after)
    (drawn : ∀ bytes : Drawn 16,
      post (.ok bytes) (past ++ [⟨.randBytes 16, .ok bytes⟩])) :
    (judged ssl client salt aesKey).Follows rand16 post past := by
  apply Typestate.follows_performResult
  intro reply
  refine ⟨_, ⟨rfl, ?_⟩, ?_⟩
  · intro host port query reply impossible
    cases impossible
  · cases reply with
    | ok bytes => exact drawn bytes
    | error error => exact failed _ _

theorem follows_name {post : Outcome Text → List (Event sidecar) → Prop}
    (named : ∀ draw : Except Text (Drawn 16),
      post (.ok (uuidOf draw)) (past ++ [⟨.randBytes 16, draw⟩])) :
    (judged ssl client salt aesKey).Follows newUuid post past := by
  apply Typestate.follows_bind
  apply Typestate.follows_bind
  apply Typestate.follows_perform
  intro draw
  refine ⟨_, ⟨rfl, ?_⟩, ?_⟩
  · intro host port query reply impossible
    cases impossible
  · cases draw with
    | ok bytes => exact named (.ok bytes)
    | error error => exact named (.error error)

theorem follows_judged {post : Outcome Text → List (Event sidecar) → Prop}
    (justified : ∀ draw : Except Text (Drawn 16),
      Justified ssl client salt aesKey (past ++ [⟨.randBytes 16, draw⟩])
        (queryOf client.identity (uuidOf draw) params))
    (failed : ∀ error after, post (.err error) after)
    (answered : ∀ draw body, Text.contains body statusOk = true →
      post (.ok body) (past ++ client.ask draw params (.body body))) :
    (judged ssl client salt aesKey).Follows (client.pairReq params) post
      past := by
  apply Typestate.follows_bind
  apply follows_name
  intro draw
  apply Typestate.follows_then
  apply Typestate.follows_bind
  apply Typestate.follows_performResult
  intro reply
  refine ⟨_, ⟨rfl, ?_⟩, ?_⟩
  · intro host port query reply same
    cases same
    exact justified draw
  · cases reply with
    | sendFailed error => exact failed _ _
    | readFailed error => exact failed _ _
    | body body =>
        apply Typestate.follows_then
        apply Typestate.follows_bind
        apply Typestate.follows_done
        by_cases accepted : Text.contains body statusOk = true
        · have checked : checkStatus (lit "pair phase") body = .ok () :=
            if_pos accepted
          rw [checked, List.append_assoc]
          exact answered draw body accepted
        · have checked : ∃ error, checkStatus (lit "pair phase") body =
              .err error := ⟨_, if_neg accepted⟩
          obtain ⟨error, checked⟩ := checked
          rw [checked]
          exact failed _ _

theorem follows_checked {outcome : Outcome α} {rest : α → Rust β}
    {post : Outcome β → List (Event sidecar) → Prop}
    (failed : ∀ error after, post (.err error) after)
    (wrecked : ∀ message after, post (.panicked message) after)
    (went : ∀ value, outcome = .ok value →
      (judged ssl client salt aesKey).Follows (rest value) post past) :
    (judged ssl client salt aesKey).Follows (lift outcome >>= rest : Rust β)
      post past := by
  apply Typestate.follows_bind
  apply Typestate.follows_done
  cases outcome with
  | ok value => exact went value rfl
  | err error => exact failed error past
  | panicked message => exact wrecked message past

theorem AllPassed.draw (passed : AllPassed ssl aesKey past)
    (draw : Except Text (Drawn 16)) :
    AllPassed ssl aesKey (past ++ [⟨.randBytes 16, draw⟩]) := by
  intro host port query reply member
  obtain old | new := List.mem_append.mp member
  · exact passed host port query reply old
  · simp at new

theorem AllPassed.ask {draw : Except Text (Drawn 16)} {reply : HttpReply}
    (passed : AllPassed ssl aesKey past)
    (passes : ∀ uuid, Passes ssl aesKey
      (phaseOf (queryOf client.identity uuid params)) reply) :
    AllPassed ssl aesKey (past ++ client.ask draw params reply) := by
  intro host port query answer member
  obtain old | new := List.mem_append.mp member
  · exact passed host port query answer old
  · simp only [PairingClient.ask, List.mem_cons, List.not_mem_nil,
      or_false] at new
    obtain impossible | same := new
    · cases impossible
    · cases same
      exact passes _

/-- A successful handshake: all four exchanges, with a proven host that said
it is paired. -/
def Concluded (ssl : OpenSsl) (client : PairingClient) (salt aesKey : Bytes)
    (outcome : Outcome Unit) (past : List (Event sidecar)) : Prop :=
  outcome = .ok () → ∃ transcript draw secret body,
    past = Transcript.events client salt transcript ++
        client.ask draw (clientSecretParams secret) (.body body) ∧
      transcript.Proven ssl aesKey ∧
      (element body (lit "paired")).map Text.trim = some (lit "1")

theorem follows_judgedPair :
    (judged ssl client salt aesKey).Follows (client.pair ssl salt aesKey)
      (Concluded ssl client salt aesKey) [] := by
  have failed : ∀ error after,
      Concluded ssl client salt aesKey (.err error) after := by
    intro error after impossible
    cases impossible
  have wrecked : ∀ message after,
      Concluded ssl client salt aesKey (.panicked message) after := by
    intro message after impossible
    cases impossible
  have passed : AllPassed ssl aesKey [] := by
    intro host port query reply member
    cases member
  -- Phase 1.
  apply Typestate.follows_bind
  refine follows_judged ?_ failed ?_
  · intro draw
    refine ⟨passed.draw draw, ?_⟩
    intro impossible
    cases impossible
  intro certDraw certBody certOk
  apply Typestate.follows_then
  apply follows_checked failed wrecked
  intro certificate certRead
  have certified := certified_of_read certRead
  have passed : AllPassed ssl aesKey ([] ++ client.ask certDraw
      (serverCertParams salt client.identity) (.body certBody)) :=
    passed.ask fun uuid => ⟨certBody, rfl, certOk, certificate, certified⟩
  -- Phase 2.
  apply Typestate.follows_bind
  apply follows_draw failed
  intro challenge
  have passed := passed.draw (.ok challenge)
  apply Typestate.follows_then
  apply follows_checked failed wrecked
  intro encChallenge enciphered
  apply Typestate.follows_bind
  refine follows_judged ?_ failed ?_
  · intro draw
    refine ⟨passed.draw draw, ?_⟩
    intro impossible
    cases impossible
  intro challengeDraw challengeBody challengeOk
  apply Typestate.follows_then
  apply follows_checked failed wrecked
  intro response responseRead
  have responded := responded_of_read responseRead
  have passed : AllPassed ssl aesKey (_ ++ client.ask challengeDraw
      (clientChallengeParams encChallenge) (.body challengeBody)) :=
    passed.ask fun uuid =>
      ⟨challengeBody, rfl, challengeOk, response, responded⟩
  -- Phase 3.
  apply follows_checked failed wrecked
  intro clientCert opened
  apply Typestate.follows_bind
  apply follows_draw failed
  intro secret
  have passed := passed.draw (.ok secret)
  apply Typestate.follows_then
  apply follows_checked failed wrecked
  intro encHash enciphered
  apply Typestate.follows_bind
  refine follows_judged ?_ failed ?_
  · intro draw
    refine ⟨passed.draw draw, ?_⟩
    intro impossible
    cases impossible
  intro secretDraw secretBody secretOk
  apply Typestate.follows_then
  apply follows_checked failed wrecked
  intro pairingSecret secretRead
  have revealed := revealed_of_read secretRead
  have passed : AllPassed ssl aesKey (_ ++ client.ask secretDraw
      (serverChallengeParams encHash) (.body secretBody)) :=
    passed.ask fun uuid =>
      ⟨secretBody, rfl, secretOk, pairingSecret, revealed⟩
  apply follows_checked failed wrecked
  intro matched digestChecked
  apply follows_checked failed wrecked
  intro genuine signatureChecked
  obtain ⟨publicKey, published, verified⟩ :=
    signature_of_check signatureChecked
  let transcript : Transcript := {
    certDraw, certBody, challenge, encChallenge, challengeDraw, challengeBody
    secret, encHash, secretDraw, secretBody }
  have proven : transcript.Proven ssl aesKey :=
    ⟨certificate, response, pairingSecret, publicKey, certified, responded,
      revealed, digest_of_check digestChecked, published, verified⟩
  -- Phase 4.
  apply follows_checked failed wrecked
  intro proof signed
  apply Typestate.follows_bind
  refine follows_judged ?_ failed ?_
  · intro draw
    refine ⟨passed.draw draw, ?_⟩
    intro disclosing
    exact ⟨transcript, draw, rfl, proven⟩
  intro draw body accepted
  apply Typestate.follows_then
  apply follows_checked failed wrecked
  intro paired read
  cases paired with
  | false => exact failed _ _
  | true =>
      intro succeeded
      refine ⟨transcript, draw, proof, body, rfl, proven, ?_⟩
      simpa [tagIs] using read

end Judged

/-- In every run of the handshake a request is sent only after all earlier
requests passed their checks, and the one that discloses the client secret
only to a proven host; `Ok` is returned only after all four exchanges. -/
theorem pair_sound
    (bodies : (loop : LoopName) → Program sidecar loop.Result)
    (ssl : OpenSsl) (client : PairingClient) (salt aesKey : Bytes) :
    ∀ trace finish,
      Program.Run bodies (client.pair ssl salt aesKey) trace finish →
      (∀ past future host port query reply,
        trace = past ++ ⟨.request (.pair host port query), reply⟩ :: future →
          AllPassed ssl aesKey past ∧
          (phaseOf query = .clientSecret → ∃ transcript draw,
            past = Transcript.events client salt transcript ++
                [⟨.randBytes 16, draw⟩] ∧
              transcript.Proven ssl aesKey)) ∧
      (finish = .ret (.ok ()) → ∃ transcript draw secret body,
        trace = Transcript.events client salt transcript ++
            client.ask draw (clientSecretParams secret) (.body body) ∧
          transcript.Proven ssl aesKey ∧
          (element body (lit "paired")).map Text.trim = some (lit "1")) := by
  intro trace finish run
  obtain ⟨after, path, follows⟩ := Typestate.follows_run
    (judged_sound ssl client salt aesKey bodies) run follows_judgedPair
  constructor
  · intro past future host port query reply split
    obtain ⟨before, next, first, allowed, _⟩ := path.split split
    obtain rfl := path_judged first
    exact allowed.2 host port query reply rfl
  · intro returned
    subst returned
    obtain rfl := path_judged path
    exact follows rfl

/-- A host whose secrets are all zero; the OpenSSL of the default libraries
accepts them. -/
def zeroHost : Responder sidecar Unit :=
  fun _ command =>
    let zeros (tag : Text) (length : Nat) : Text :=
      openTag tag ++ List.replicate (2 * length) '0' ++ closeTag tag
    match command with
    | .request (.pair _ _ query) =>
        (.body (statusOk ++ lit "<paired>1</paired>" ++
          match phaseOf query with
          | .serverCert => zeros (lit "plaincert") 1
          | .clientChallenge => zeros (lit "challengeresponse") 48
          | .serverChallenge => zeros (lit "pairingsecret") 272
          | .clientSecret => []), ())
    | command => (command.quietReply, ())

/-- Loop bodies for programs that enter no loop. -/
def returnAtOnce : (loop : LoopName) → Program sidecar loop.Result
  | .frameLoop _ _ | .readerLoop => .ret (.ok ())
  | .readControl => .ret (.ok none)

theorem pair_sound_zeroHost :
    ∃ trace transcript draw secret body,
      Program.Run returnAtOnce (pair default ⟨⟨[], [], []⟩, [], 0⟩ [] []) trace
        (.ret (.ok ())) ∧
      trace = Transcript.events ⟨⟨[], [], []⟩, [], 0⟩ [] transcript ++
          ask ⟨⟨[], [], []⟩, [], 0⟩ draw (clientSecretParams secret)
            (.body body) ∧
        transcript.Proven default [] := by
  obtain ⟨outcome, trace, run, paired⟩ := Program.exists_run_of_serve
    (fun (outcome : Outcome Unit) _ => decide (outcome = .ok ()))
    (show (Program.serve zeroHost (Program.serveLoops zeroHost returnAtOnce 0)
      (pair default ⟨⟨[], [], []⟩, [], 0⟩ [] []) ()).any _ = true by
        decide +kernel)
  obtain rfl := of_decide_eq_true paired
  obtain ⟨transcript, draw, secret, body, whole, proven, _⟩ :=
    (pair_sound returnAtOnce default ⟨⟨[], [], []⟩, [], 0⟩ [] [] trace _
      run).2 rfl
  exact ⟨trace, transcript, draw, secret, body, run, whole, proven⟩

end PairingClient

end NvHttp

end MoonlightAddon
