import MoonlightAddon.Core.NvHttp

/-!
# The PIN pairing handshake

`PairingClient::pair` and the crypto helpers it uses.
-/

namespace MoonlightAddon

namespace MoonlightIdentity

def certificate (ssl : OpenSsl) (identity : MoonlightIdentity) :
    Outcome ssl.Certificate :=
  Outcome.ofExcept ((ssl.certificateFromPem identity.certPem).mapError
    fun error => lit "bad client cert PEM: " ++ error)

def privateKey (ssl : OpenSsl) (identity : MoonlightIdentity) :
    Outcome ssl.PrivateKey :=
  Outcome.ofExcept ((ssl.privateKeyFromPem identity.keyPem).mapError
    fun error => lit "bad client key PEM: " ++ error)

def certHex (identity : MoonlightIdentity) : Text :=
  toHex identity.certPem

end MoonlightIdentity

namespace NvHttp

def sha256 (ssl : OpenSsl) (data : Bytes) : Bytes :=
  (ssl.sha256 data).1

@[simp] theorem length_sha256 (ssl : OpenSsl) (data : Bytes) :
    (sha256 ssl data).length = 32 :=
  (ssl.sha256 data).2

/-- The first 16 bytes of `SHA-256(salt || pin)`. -/
def deriveAesKey (ssl : OpenSsl) (salt : Bytes) (pin : Text) : Bytes :=
  (sha256 ssl (salt ++ Text.asBytes pin)).take 16

/-- AES-128-ECB without padding.  The output buffer is one block longer than
the data, and what `update` and `finalize` write into it is kept. -/
def aesEcb (ssl : OpenSsl) (mode : Mode) (key data : Bytes) : Outcome Bytes := do
  Outcome.ofExcept ((ssl.cipherInit mode key).mapError
    fun error => lit "aes init: " ++ error)
  let written ← Outcome.ofExcept ((ssl.cipherUpdate mode key data).mapError
    fun error => lit "aes update: " ++ error)
  let last ← Outcome.ofExcept ((ssl.cipherFinal mode key data).mapError
    fun error => lit "aes final: " ++ error)
  return written ++ last

/-- `PairingClient`: the identity, the host and its HTTP port. -/
structure PairingClient where
  identity : MoonlightIdentity
  host : Text
  httpPort : UInt16

namespace PairingClient

/-- `PairingClient::new`: the client it keeps for its requests is built here. -/
def new (libraries : Libraries) (identity : MoonlightIdentity) (host : Text)
    (httpPort : UInt16) : Outcome PairingClient := do
  plainClient libraries
  return { identity, host, httpPort }

/-- There is a client, or there is a panic. -/
theorem new_cases (libraries : Libraries) (identity : MoonlightIdentity)
    (host : Text) (httpPort : UInt16) :
    new libraries identity host httpPort = .ok { identity, host, httpPort } ∨
      (plainClient libraries).isPanic = true ∧
        ∃ message, new libraries identity host httpPort = .panicked message := by
  unfold new plainClient
  cases libraries.newClient with
  | ok built => exact .inl rfl
  | error message => exact .inr ⟨rfl, message, rfl⟩

theorem new_panics {libraries : Libraries}
    (panics : (plainClient libraries).isPanic = true) (identity : MoonlightIdentity)
    (host : Text) (httpPort : UInt16) :
    ∃ message, new libraries identity host httpPort = .panicked message := by
  unfold new plainClient
  unfold plainClient at panics
  cases built : libraries.newClient with
  | ok value =>
      rw [built] at panics
      cases panics
  | error message => exact ⟨message, rfl⟩

/-- What comes after `new` has the client it builds. -/
theorem follows_new {T : Typestate sidecar} {α : Type} {libraries : Libraries}
    {identity : MoonlightIdentity} {host : Text} {httpPort : UInt16}
    {rest : PairingClient → Rust α} {post : Outcome α → T.State → Prop}
    {state : T.State}
    (later : T.Follows (rest { identity, host, httpPort }) post state)
    (panics : (plainClient libraries).isPanic = true →
      ∀ message, post (.panicked message) state) :
    T.Follows (lift (new libraries identity host httpPort) >>= rest : Rust α)
      post state := by
  obtain built | ⟨missing, message, panicked⟩ :=
    new_cases libraries identity host httpPort
  · rw [built]
    exact later
  · rw [panicked]
    exact panics missing message

/-- One `GET /pair?..` phase; returns the body once the status is checked. -/
def pairReq (client : PairingClient) (params : List (Text × Text)) :
    Rust Text := do
  let uuid ← newUuid
  let query := [(lit "uniqueid", client.identity.uniqueId),
    (lit "uuid", uuid)] ++ params
  let body ← httpGet (lit "pair") (.pair client.host client.httpPort query)
  lift (checkStatus (lit "pair phase") body)
  return body

/-- What phase 1 must answer, and the certificate it carries. -/
def readServerCert (ssl : OpenSsl) (body : Text) : Outcome ssl.Certificate := do
  if ← tagIs body (lit "paired") (lit "1") then
    let plaincert ← xmlTag body (lit "plaincert")
    let text ← Outcome.okOr (lit "phase 1: no plaincert") plaincert
    let pem ← fromHex text
    Outcome.ofExcept ((ssl.certificateFromPem pem).mapError
      fun error => lit "bad server cert: " ++ error)
  else
    .err (lit "phase 1: host declined pairing (paired != 1)")

/-- The decrypted challenge response of phase 2, long enough to be split. -/
def readChallengeResponse (ssl : OpenSsl) (aesKey : Bytes) (body : Text) :
    Outcome Bytes := do
  let field ← xmlTag body (lit "challengeresponse")
  let text ← Outcome.okOr (lit "phase 2: no challengeresponse") field
  let encrypted ← fromHex text
  let response ← aesEcb ssl .decrypt aesKey encrypted
  if response.length < 48 then
    .err (lit "phase 2: short challenge response")
  else
    return response

/-- The pairing secret of phase 3, long enough to be split. -/
def readPairingSecret (body : Text) : Outcome Bytes := do
  let field ← xmlTag body (lit "pairingsecret")
  let text ← Outcome.okOr (lit "phase 3: no pairingsecret") field
  let secret ← fromHex text
  if secret.length < 16 + 256 then
    .err (lit "phase 3: short pairing secret")
  else
    return secret

/-- The host must have known the PIN: its digest is the one our challenge, its
certificate signature and its secret give. -/
def checkServerResponse (ssl : OpenSsl) (clientChallenge certSignature
    serverSecret serverResponse : Bytes) : Outcome Unit :=
  if sha256 ssl (clientChallenge ++ certSignature ++ serverSecret) ≠
      serverResponse then
    .err (lit "pairing failed: wrong PIN (server response mismatch)")
  else
    .ok ()

/-- The host must own its certificate: it signed its secret. -/
def checkServerSignature (ssl : OpenSsl) (certificate : ssl.Certificate)
    (serverSecret serverSignature : Bytes) : Outcome Unit := do
  let serverPub ← Outcome.ofExcept
    ((ssl.certificatePublicKey certificate).mapError
      fun error => lit "server pubkey: " ++ error)
  Outcome.ofExcept ((ssl.verifierNew serverPub).mapError
    fun error => lit "verifier: " ++ error)
  Outcome.ofExcept (ssl.verifierUpdate serverPub serverSecret)
  let genuine ← Outcome.ofExcept
    (ssl.verify serverPub serverSecret serverSignature)
  if genuine then .ok ()
  else .err (lit "pairing failed: bad server signature")

/-- `clientSecret || sign(clientSecret)`. -/
def clientPairingSecret (ssl : OpenSsl) (identity : MoonlightIdentity)
    (clientSecret : Bytes) : Outcome Bytes := do
  let key ← identity.privateKey ssl
  Outcome.ofExcept ((ssl.signerNew key).mapError
    fun error => lit "signer: " ++ error)
  Outcome.ofExcept (ssl.signerUpdate key clientSecret)
  let signature ← Outcome.ofExcept (ssl.sign key clientSecret)
  return clientSecret ++ signature

/-- Parameters of the four requests. -/
def serverCertParams (salt : Bytes) (identity : MoonlightIdentity) :
    List (Text × Text) :=
  [(lit "devicename", lit "tempest"), (lit "updateState", lit "1"),
    (lit "phrase", lit "getservercert"), (lit "salt", toHex salt),
    (lit "clientcert", identity.certHex)]

def clientChallengeParams (encrypted : Bytes) : List (Text × Text) :=
  [(lit "clientchallenge", toHex encrypted)]

def serverChallengeParams (encrypted : Bytes) : List (Text × Text) :=
  [(lit "serverchallengeresp", toHex encrypted)]

def clientSecretParams (secret : Bytes) : List (Text × Text) :=
  [(lit "clientpairingsecret", toHex secret)]

/-- The full handshake. -/
def pair (ssl : OpenSsl) (client : PairingClient) (salt aesKey : Bytes) :
    Rust Unit := do
  -- Phase 1: getservercert; the host answers once the PIN was entered.
  let body ← client.pairReq (serverCertParams salt client.identity)
  let serverCert ← lift (readServerCert ssl body)
  let serverCertSig := ssl.certificateSignature serverCert
  -- Phase 2: clientchallenge.
  let clientChallenge ← rand16
  let encChallenge ← lift (aesEcb ssl .encrypt aesKey clientChallenge.1)
  let body ← client.pairReq (clientChallengeParams encChallenge)
  let challengeResp ← lift (readChallengeResponse ssl aesKey body)
  let serverResponse := challengeResp.take 32
  let serverChallenge := (challengeResp.drop 32).take 16
  -- Phase 3: serverchallengeresp, hashed with our own certificate signature.
  let clientCert ← lift (client.identity.certificate ssl)
  let clientCertSig := ssl.certificateSignature clientCert
  let clientSecret ← rand16
  let challengeRespHash := sha256 ssl
    (serverChallenge ++ clientCertSig ++ clientSecret.1)
  let enc ← lift (aesEcb ssl .encrypt aesKey challengeRespHash)
  let body ← client.pairReq (serverChallengeParams enc)
  let pairingSecret ← lift (readPairingSecret body)
  let serverSecret := pairingSecret.take 16
  let serverSignature := (pairingSecret.drop 16).take 256
  lift (checkServerResponse ssl clientChallenge.1 serverCertSig serverSecret
    serverResponse)
  lift (checkServerSignature ssl serverCert serverSecret serverSignature)
  -- Phase 4: clientpairingsecret.
  let secret ← lift (clientPairingSecret ssl client.identity clientSecret.1)
  let body ← client.pairReq (clientSecretParams secret)
  if ← lift (tagIs body (lit "paired") (lit "1")) then
    return ()
  else
    Effect.throw (lit "phase 4: host rejected client pairing secret")

/-- The four phases, as their parameters show them. -/
inductive PairPhase where
  | serverCert | clientChallenge | serverChallenge | clientSecret
deriving DecidableEq

def phaseOf (query : List (Text × Text)) : PairPhase :=
  if (query.lookup (lit "clientchallenge")).isSome then .clientChallenge
  else if (query.lookup (lit "serverchallengeresp")).isSome then
    .serverChallenge
  else if (query.lookup (lit "clientpairingsecret")).isSome then .clientSecret
  else .serverCert

section

variable (identity : MoonlightIdentity) (uuid : Text)

/-- The query `pair_req` sends. -/
def queryOf (params : List (Text × Text)) : List (Text × Text) :=
  [(lit "uniqueid", identity.uniqueId), (lit "uuid", uuid)] ++ params

@[simp] theorem phaseOf_serverCert (salt : Bytes) :
    phaseOf (queryOf identity uuid (serverCertParams salt identity)) =
      .serverCert := rfl

@[simp] theorem phaseOf_clientChallenge (encrypted : Bytes) :
    phaseOf (queryOf identity uuid (clientChallengeParams encrypted)) =
      .clientChallenge := rfl

@[simp] theorem phaseOf_serverChallenge (encrypted : Bytes) :
    phaseOf (queryOf identity uuid (serverChallengeParams encrypted)) =
      .serverChallenge := rfl

@[simp] theorem phaseOf_clientSecret (secret : Bytes) :
    phaseOf (queryOf identity uuid (clientSecretParams secret)) =
      .clientSecret := rfl

end

end PairingClient

end NvHttp

end MoonlightAddon
