import MoonlightAddon.Core.Session

/-!
# Errors that are not mistaken for a reason

The reason an engine thread closes with is a text.  Two texts have a meaning of
their own: "session ended", which is not reported, and "host terminated the
session".  No error the code words itself is one of them, and neither is an
error of a library that the code puts after a message of its own.
-/

namespace MoonlightAddon

open NvHttp Session

/-- The reasons that have a meaning of their own. -/
def reserved (text : Text) : Bool :=
  text == sessionEnded || text == hostTerminated

/-- A text that no reserved one begins with. -/
def distinctive (label : Text) : Bool :=
  !label.isPrefixOf sessionEnded && !label.isPrefixOf hostTerminated

theorem reserved_append {label : Text} (unlike : distinctive label = true)
    (rest : Text) : reserved (label ++ rest) = false := by
  by_contra same
  simp only [reserved, Bool.not_eq_false, Bool.or_eq_true, beq_iff_eq] at same
  simp only [distinctive, Bool.and_eq_true, Bool.not_eq_true',
    ← Bool.not_eq_true, List.isPrefixOf_iff_prefix] at unlike
  rcases same with same | same
  · exact unlike.1 ⟨rest, same⟩
  · exact unlike.2 ⟨rest, same⟩

/-- An OpenSSL whose calls without a message of their own do not fail with a
reserved text. -/
structure OpenSsl.Unassuming (ssl : OpenSsl) : Prop where
  verifierUpdate : ∀ key data error,
    ssl.verifierUpdate key data = .error error → reserved error = false
  verify : ∀ key data signature error,
    ssl.verify key data signature = .error error → reserved error = false
  signerUpdate : ∀ key data error,
    ssl.signerUpdate key data = .error error → reserved error = false
  sign : ∀ key data error,
    ssl.sign key data = .error error → reserved error = false

section Modest

variable {α β : Type}

/-- If it fails, it is not with a reserved text. -/
def Modest (outcome : Outcome α) : Prop :=
  ∀ error, outcome = .err error → reserved error = false

theorem modest_ok (value : α) : Modest (.ok value) := by
  intro error impossible
  cases impossible

theorem modest_err {error : Text} (unlike : reserved error = false) :
    Modest (.err error : Outcome α) := by
  intro other same
  cases same
  exact unlike

theorem modest_panicked (message : Text) :
    Modest (.panicked message : Outcome α) := by
  intro error impossible
  cases impossible

theorem modest_bind {outcome : Outcome α} {rest : α → Outcome β}
    (first : Modest outcome) (second : ∀ value, Modest (rest value)) :
    Modest (outcome >>= rest) := by
  cases outcome with
  | ok value => exact second value
  | err error => exact modest_err (first error rfl)
  | panicked message => exact modest_panicked message

theorem modest_ofExcept {result : Except Text α}
    (unlike : ∀ error, result = .error error → reserved error = false) :
    Modest (Outcome.ofExcept result) := by
  cases result with
  | ok value => exact modest_ok value
  | error error => exact modest_err (unlike error rfl)

/-- `map_err` with a message of its own. -/
theorem modest_mapError {label : Text} (unlike : distinctive label = true)
    (result : Except Text α) :
    Modest (Outcome.ofExcept (result.mapError fun error => label ++ error)) := by
  cases result with
  | ok value => exact modest_ok value
  | error error => exact modest_err (reserved_append unlike error)

theorem modest_okOr {error : Text} (unlike : reserved error = false)
    (value : Option α) : Modest (Outcome.okOr error value) := by
  cases value with
  | some value => exact modest_ok value
  | none => exact modest_err unlike

theorem modest_if {condition : Prop} [Decidable condition]
    {first second : Outcome α} (positive : Modest first)
    (negative : Modest second) :
    Modest (if condition then first else second) := by
  by_cases holds : condition
  · rwa [if_pos holds]
  · rwa [if_neg holds]

theorem modest_xmlTag (body tag : Text) : Modest (xmlTag body tag) := by
  rw [xmlTag_eq]
  exact modest_ok _

theorem modest_checkStatus {label : Text} (unlike : distinctive label = true)
    (body : Text) : Modest (checkStatus label body) := by
  apply modest_if (modest_ok ())
  apply modest_err
  rw [List.append_assoc]
  exact reserved_append unlike _

theorem modest_plainClient (libraries : Libraries) :
    Modest (plainClient libraries) := by
  unfold plainClient
  cases libraries.newClient with
  | ok built => exact modest_ok _
  | error message => exact modest_panicked message

theorem modest_httpsClient (libraries : Libraries)
    (identity : MoonlightIdentity) :
    Modest (httpsClient libraries identity) :=
  modest_bind (modest_mapError (by decide) _) fun _ =>
    modest_mapError (by decide) _

theorem modest_tagText (body tag : Text) : Modest (tagText body tag) :=
  modest_bind (modest_xmlTag body tag) fun _ => modest_ok _

theorem modest_tagNumber (body tag : Text) (bound fallback : Nat) :
    Modest (tagNumber body tag bound fallback) :=
  modest_bind (modest_xmlTag body tag) fun _ => modest_ok _

theorem modest_readServerInfo (body : Text) (fallbackPort : UInt16) :
    Modest (readServerInfo body fallbackPort) := by
  apply modest_bind (modest_tagText _ _)
  intro hostname
  apply modest_bind (modest_tagText _ _)
  intro appVersion
  apply modest_bind (modest_tagText _ _)
  intro gfeVersion
  apply modest_bind (modest_tagNumber _ _ _ _)
  intro pairStatus
  apply modest_bind (modest_tagNumber _ _ _ _)
  intro currentGame
  apply modest_bind (modest_tagText _ _)
  intro state
  apply modest_bind (modest_tagNumber _ _ _ _)
  intro httpsPort
  apply modest_bind (modest_tagNumber _ _ _ _)
  intro codecs
  exact modest_ok _

theorem modest_readApp (chunk : Text) : Modest (readApp chunk) := by
  apply modest_bind (modest_xmlTag _ _)
  intro title
  cases title with
  | none => exact modest_ok none
  | some title =>
      exact modest_bind (modest_xmlTag _ _) fun _ => modest_ok _

theorem modest_readApps : ∀ chunks, Modest (readApps chunks)
  | [] => modest_ok []
  | chunk :: chunks =>
      modest_bind (modest_readApp chunk) fun _ =>
        modest_bind (modest_readApps chunks) fun _ => modest_ok _

theorem modest_tagIs (body tag expected : Text) :
    Modest (tagIs body tag expected) :=
  modest_bind (modest_xmlTag body tag) fun _ => modest_ok _

theorem modest_checkLaunch (body : Text) : Modest (checkLaunch body) := by
  apply modest_bind (modest_checkStatus (by decide) body)
  intro accepted
  apply modest_bind (modest_bind (modest_xmlTag _ _) fun _ => modest_ok _)
  intro started
  apply modest_bind (modest_bind (modest_xmlTag _ _) fun _ => modest_ok _)
  intro resumed
  exact modest_if (modest_ok ()) (modest_err (reserved_append (by decide) body))

theorem modest_fromHexPairs (text : Text) :
    ∀ count start, Modest (fromHexPairs text count start)
  | 0, _ => modest_ok []
  | count + 1, start => by
      unfold fromHexPairs
      split
      · exact modest_panicked _
      · split
        · exact modest_err (reserved_append (by decide) _)
        · exact modest_bind (modest_fromHexPairs text count (start + 2))
            fun _ => modest_ok _

theorem modest_fromHex (text : Text) : Modest (fromHex text) :=
  modest_if (modest_err (by decide)) (modest_fromHexPairs _ _ _)

section Crypto

variable (ssl : OpenSsl)

theorem modest_aesEcb (mode : Mode) (key data : Bytes) :
    Modest (aesEcb ssl mode key data) := by
  apply modest_bind (modest_mapError (by decide) _)
  intro ready
  apply modest_bind (modest_mapError (by decide) _)
  intro written
  exact modest_bind (modest_mapError (by decide) _) fun _ => modest_ok _

theorem modest_readServerCert (body : Text) :
    Modest (PairingClient.readServerCert ssl body) := by
  apply modest_bind (modest_tagIs _ _ _)
  intro paired
  apply modest_if
  · apply modest_bind (modest_xmlTag _ _)
    intro plaincert
    apply modest_bind (modest_okOr (by decide) _)
    intro text
    apply modest_bind (modest_fromHex _)
    intro pem
    exact modest_mapError (by decide) _
  · exact modest_err (by decide)

theorem modest_readChallengeResponse (aesKey : Bytes) (body : Text) :
    Modest (PairingClient.readChallengeResponse ssl aesKey body) := by
  apply modest_bind (modest_xmlTag _ _)
  intro field
  apply modest_bind (modest_okOr (by decide) _)
  intro text
  apply modest_bind (modest_fromHex _)
  intro encrypted
  apply modest_bind (modest_aesEcb ssl _ _ _)
  intro response
  exact modest_if (modest_err (by decide)) (modest_ok _)

theorem modest_readPairingSecret (body : Text) :
    Modest (PairingClient.readPairingSecret body) := by
  apply modest_bind (modest_xmlTag _ _)
  intro field
  apply modest_bind (modest_okOr (by decide) _)
  intro text
  apply modest_bind (modest_fromHex _)
  intro secret
  exact modest_if (modest_err (by decide)) (modest_ok _)

variable {ssl}

theorem modest_checkServerSignature (unassuming : ssl.Unassuming)
    (certificate : ssl.Certificate) (serverSecret serverSignature : Bytes) :
    Modest (PairingClient.checkServerSignature ssl certificate serverSecret
      serverSignature) := by
  apply modest_bind (modest_mapError (by decide) _)
  intro serverPub
  apply modest_bind (modest_mapError (by decide) _)
  intro verifier
  apply modest_bind (modest_ofExcept (unassuming.verifierUpdate _ _))
  intro updated
  apply modest_bind (modest_ofExcept (unassuming.verify _ _ _))
  intro genuine
  exact modest_if (modest_ok ()) (modest_err (by decide))

theorem modest_clientPairingSecret (unassuming : ssl.Unassuming)
    (identity : MoonlightIdentity) (clientSecret : Bytes) :
    Modest (PairingClient.clientPairingSecret ssl identity clientSecret) := by
  apply modest_bind (modest_mapError (by decide) _)
  intro key
  apply modest_bind (modest_mapError (by decide) _)
  intro signer
  apply modest_bind (modest_ofExcept (unassuming.signerUpdate _ _))
  intro updated
  exact modest_bind (modest_ofExcept (unassuming.sign _ _)) fun _ => modest_ok _

end Crypto

end Modest

end MoonlightAddon
