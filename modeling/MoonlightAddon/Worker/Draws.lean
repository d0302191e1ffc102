import MoonlightAddon.Core.Identity
import MoonlightAddon.Core.Requests

/-!
# The random draws of an engine thread

What each draw of a thread is for, read off the thread's own history, and what
the thread may show, send and pass to the C core when all of it has to come
from a draw that succeeded.
-/

namespace MoonlightAddon

namespace Worker

open NvHttp PairingClient Session

inductive Purpose where
  | uuid | pin | salt | challenge | secret | streamKey | streamKeyId
deriving DecidableEq

/-- What 16 bytes drawn after the command are for. -/
def dueNext (due : Purpose) : Command → Purpose
  | .randBytes _ => .uuid
  | .control (.event _ (.pairPrompt _ _)) => .salt
  | .request (.pair _ _ query) =>
      match phaseOf query with
      | .serverCert => .challenge
      | .clientChallenge => .secret
      | _ => .uuid
  | .request (.appList ..) => .streamKey
  | _ => due

/-- Only the PIN is made of 2 bytes, and only the key id of 4. -/
def purposeOf (due : Purpose) : (count : Nat) → Purpose
  | 2 => .pin
  | 4 => .streamKeyId
  | _ => due

/-- A draw with what came of it. -/
abbrev Draw := Purpose × Except Text Bytes

def drawnBy (due : Purpose) : Event sidecar → List Draw
  | ⟨.randBytes count, .ok bytes⟩ => [(purposeOf due count, .ok bytes.1)]
  | ⟨.randBytes count, .error error⟩ => [(purposeOf due count, .error error)]
  | _ => []

/-- The draws so far, and what the next one is for. -/
structure Ledger where
  due : Purpose
  draws : List Draw

def Ledger.record (ledger : Ledger) (event : Event sidecar) : Ledger where
  due := dueNext ledger.due event.command
  draws := ledger.draws ++ drawnBy ledger.due event

def ledgerOf (past : List (Event sidecar)) : Ledger :=
  past.foldl Ledger.record ⟨.uuid, []⟩

/-- These bytes were successfully drawn for the purpose. -/
def Drew (past : List (Event sidecar)) (purpose : Purpose) (bytes : Bytes) :
    Prop :=
  (purpose, .ok bytes) ∈ (ledgerOf past).draws

/-- A draw for the purpose failed. -/
def DrawFailed (past : List (Event sidecar)) (purpose : Purpose) : Prop :=
  ∃ error, (purpose, .error error) ∈ (ledgerOf past).draws

/-- What `generate` returns when it draws no unique id. -/
def Undrawn (generated : Except Text MoonlightIdentity) : Prop :=
  ∃ ssl : CertificateSsl, (∀ id, ssl.randBytes 8 ≠ .ok id) ∧
    generated = MoonlightIdentity.generate ssl

/-- A draw failed that must not. -/
def Failing (past : List (Event sidecar)) : Prop :=
  (∃ purpose, purpose ≠ .uuid ∧ DrawFailed past purpose) ∨
    ∃ generated, ⟨.generateIdentity, generated⟩ ∈ past ∧ Undrawn generated

/-- The identity is the document's, or its unique id was drawn. -/
def Owned (doc : MoonlightConnectDoc) (past : List (Event sidecar))
    (identity : MoonlightIdentity) : Prop :=
  restoreIdentity doc = some identity ∨
    ⟨.generateIdentity, .ok identity⟩ ∈ past ∧
      ∃ (ssl : CertificateSsl) (id : Drawn 8),
        MoonlightIdentity.generate ssl = .ok identity ∧
          ssl.randBytes 8 = .ok id ∧
          identity.uniqueId = id.1.flatMap hexByteLower

/-- `random_pin` of the two bytes. -/
def pinOf (bytes : Bytes) : Text :=
  fourDigits (((bytes.getD 0 0).toNat * 256 + (bytes.getD 1 0).toNat) % 10000)

/-- The parameters of a pairing request, phase by phase, from drawn bytes. -/
inductive Carries (ssl : OpenSsl) (past : List (Event sidecar))
    (identity : MoonlightIdentity) (salt aesKey : Bytes) :
    List (Text × Text) → Prop where
  | serverCert :
      Carries ssl past identity salt aesKey (serverCertParams salt identity)
  | clientChallenge {challenge encrypted : Bytes} :
      Drew past .challenge challenge →
      aesEcb ssl .encrypt aesKey challenge = .ok encrypted →
      Carries ssl past identity salt aesKey (clientChallengeParams encrypted)
  | serverChallenge {known secret encrypted : Bytes} :
      Drew past .secret secret →
      aesEcb ssl .encrypt aesKey (sha256 ssl (known ++ secret)) =
        .ok encrypted →
      Carries ssl past identity salt aesKey (serverChallengeParams encrypted)
  | clientSecret {secret signed : Bytes} :
      Drew past .secret secret →
      clientPairingSecret ssl identity secret = .ok signed →
      Carries ssl past identity salt aesKey (clientSecretParams signed)

/-- A launched session has a drawn key and a drawn id. -/
def Keyed (past : List (Event sidecar)) (launched : LaunchSession) : Prop :=
  Drew past .streamKey launched.aesKey.1 ∧
    ∃ id, Drew past .streamKeyId id ∧ launched.aesKeyId = rikeyIdOf id

/-- What a command reveals or uses comes from draws that succeeded. -/
def Sourced (ssl : OpenSsl) (doc : MoonlightConnectDoc)
    (past : List (Event sidecar)) : Command → Prop
  | .control (.event _ (.pairPrompt pin _)) =>
      ∃ bytes, Drew past .pin bytes ∧ pin = pinOf bytes
  | .control (.event _ (.identity uniqueId certPem keyPem)) =>
      ∃ identity, Owned doc past identity ∧ uniqueId = identity.uniqueId ∧
        certPem = Text.fromUtf8Lossy identity.certPem ∧
        keyPem = Text.fromUtf8Lossy identity.keyPem
  | .request (.pair _ _ query) =>
      ∃ identity uuid salt bytes params, Owned doc past identity ∧
        Drew past .salt salt ∧ Drew past .pin bytes ∧
        query = queryOf identity uuid params ∧
        Carries ssl past identity salt (deriveAesKey ssl salt (pinOf bytes))
          params
  | .request (.launch _ _ uniqueId _ _ _ _ _ rikey rikeyId) =>
      (∃ identity, Owned doc past identity ∧ uniqueId = identity.uniqueId) ∧
        ∃ launched, Keyed past launched ∧ rikey = toHex launched.aesKey.1 ∧
          rikeyId = launched.aesKeyId
  | .request (.serverInfo _ _ uniqueId _)
  | .request (.serverInfoHttps _ _ uniqueId _)
  | .request (.appList _ _ uniqueId _) | .request (.cancel _ _ uniqueId _) =>
      ∃ identity, Owned doc past identity ∧ uniqueId = identity.uniqueId
  | .beginStart _ config =>
      ∃ info launched, Keyed past launched ∧
        config = Stream.streamConfiguration (streamOptions doc info launched)
  | _ => True

/-- A closing message with an error. -/
def closesWithError (session : UInt32) : Command → Bool
  | .control (.sessionClosed closed (some _)) => closed == session
  | _ => false

/-- What may follow a failed draw: the session ends with an error. -/
def endsWithError (session : UInt32) : Command → Bool
  | .control (.event ended (.pairFinished (some _))) => ended == session
  | command => closesWithError session command

/-- A failed draw never degrades pairing: what the thread shows, sends and uses
was drawn, and after a failed draw it only ends with an error, which a finished
thread has done. -/
structure Undegraded (ssl : OpenSsl) (session : UInt32)
    (doc : MoonlightConnectDoc) (trace : List (Event sidecar))
    (finish : Program sidecar Unit) : Prop where
  sourced : ∀ before event after, trace = before ++ event :: after →
    Sourced ssl doc before event.command
  ends : ∀ before event after, trace = before ++ event :: after →
    Failing before → endsWithError session event.command = true
  closes : finish = .ret () → Failing trace →
    ∃ event ∈ trace, closesWithError session event.command = true

/-- What OpenSSL and `generate` promise of the replies they give: a new
identity is one that `generate` makes, and an error text is not the reserved
reason of a clean close. -/
structure Documented (past : List (Event sidecar)) : Prop where
  generated : ∀ generated, ⟨.generateIdentity, generated⟩ ∈ past →
    ∃ ssl, generated = MoonlightIdentity.generate ssl
  worded : ∀ count error, ⟨.randBytes count, .error error⟩ ∈ past →
    error ≠ sessionEnded

/-- The two draws whose failure is discarded did succeed. -/
structure Regular (past : List (Event sidecar)) : Prop
    extends Documented past where
  pin : ¬ DrawFailed past .pin
  salt : ¬ DrawFailed past .salt

section

variable {past after : List (Event sidecar)} {event : Event sidecar}

@[simp] theorem ledgerOf_snoc :
    ledgerOf (past ++ [event]) = (ledgerOf past).record event := by
  simp [ledgerOf]

/-- The draws around the prompt. -/
example : ((ledgerOf [⟨.randBytes 2, .error []⟩,
    ⟨.control (.event 1 (.pairPrompt (lit "0000") [])), .ok ()⟩,
    ⟨.randBytes 16, .error []⟩, ⟨.randBytes 16, .error []⟩]).draws.map
      Prod.fst) = [.pin, .salt, .uuid] := rfl

theorem draws_foldl (ledger : Ledger) (rest : List (Event sidecar)) :
    ledger.draws <+: (rest.foldl Ledger.record ledger).draws := by
  induction rest generalizing ledger with
  | nil => exact List.prefix_refl _
  | cons event rest induction =>
      exact (List.prefix_append _ _).trans (induction (ledger.record event))

theorem draws_isPrefix (longer : past <+: after) :
    (ledgerOf past).draws <+: (ledgerOf after).draws := by
  obtain ⟨rest, rfl⟩ := longer
  rw [ledgerOf, ledgerOf, List.foldl_append]
  exact draws_foldl _ rest

theorem Drew.later {purpose : Purpose} {bytes : Bytes}
    (drew : Drew past purpose bytes) (longer : past <+: after) :
    Drew after purpose bytes :=
  (draws_isPrefix longer).subset drew

theorem DrawFailed.later {purpose : Purpose}
    (failed : DrawFailed past purpose) (longer : past <+: after) :
    DrawFailed after purpose := by
  obtain ⟨error, member⟩ := failed
  exact ⟨error, (draws_isPrefix longer).subset member⟩

theorem Owned.later {doc : MoonlightConnectDoc} {identity : MoonlightIdentity}
    (owned : Owned doc past identity) (longer : past <+: after) :
    Owned doc after identity := by
  obtain restored | ⟨member, drawn⟩ := owned
  · exact .inl restored
  · exact .inr ⟨longer.subset member, drawn⟩

theorem Keyed.later {launched : LaunchSession} (keyed : Keyed past launched)
    (longer : past <+: after) : Keyed after launched := by
  obtain ⟨key, id, drawn, named⟩ := keyed
  exact ⟨key.later longer, id, drawn.later longer, named⟩

theorem Carries.later {ssl : OpenSsl} {identity : MoonlightIdentity}
    {salt aesKey : Bytes} {params : List (Text × Text)}
    (carries : Carries ssl past identity salt aesKey params)
    (longer : past <+: after) :
    Carries ssl after identity salt aesKey params := by
  cases carries with
  | serverCert => exact .serverCert
  | clientChallenge drew encrypted =>
      exact .clientChallenge (drew.later longer) encrypted
  | serverChallenge drew encrypted =>
      exact .serverChallenge (drew.later longer) encrypted
  | clientSecret drew signed => exact .clientSecret (drew.later longer) signed

theorem Sourced.later {ssl : OpenSsl} {doc : MoonlightConnectDoc}
    {command : Command} (sourced : Sourced ssl doc past command)
    (longer : past <+: after) : Sourced ssl doc after command := by
  cases command with
  | control message =>
      cases message with
      | event session event =>
          cases event with
          | pairPrompt pin url =>
              obtain ⟨bytes, drew, made⟩ := sourced
              exact ⟨bytes, drew.later longer, made⟩
          | identity uniqueId certPem keyPem =>
              obtain ⟨identity, owned, same⟩ := sourced
              exact ⟨identity, owned.later longer, same⟩
          | _ => trivial
      | _ => trivial
  | request request =>
      cases request with
      | pair host port query =>
          obtain ⟨identity, uuid, salt, bytes, params, owned, salted, pinned,
            made, carries⟩ := sourced
          exact ⟨identity, uuid, salt, bytes, params, owned.later longer,
            salted.later longer, pinned.later longer, made,
            carries.later longer⟩
      | launch =>
          obtain ⟨⟨identity, owned, same⟩, launched, keyed, sent⟩ := sourced
          exact ⟨⟨identity, owned.later longer, same⟩, launched,
            keyed.later longer, sent⟩
      | _ =>
          obtain ⟨identity, owned, same⟩ := sourced
          exact ⟨identity, owned.later longer, same⟩
  | beginStart server config =>
      obtain ⟨info, launched, keyed, made⟩ := sourced
      exact ⟨info, launched, keyed.later longer, made⟩
  | _ => trivial

theorem Documented.earlier (documented : Documented after)
    (longer : past <+: after) : Documented past where
  generated generated member := documented.generated generated
    (longer.subset member)
  worded count error member := documented.worded count error
    (longer.subset member)

theorem Regular.earlier (regular : Regular after) (longer : past <+: after) :
    Regular past where
  toDocumented := regular.toDocumented.earlier longer
  pin failed := regular.pin (failed.later longer)
  salt failed := regular.salt (failed.later longer)

theorem not_undrawn_ok {identity : MoonlightIdentity} :
    ¬ Undrawn (.ok identity) := by
  rintro ⟨ssl, undrawn, generated⟩
  obtain ⟨_, _, id, _, _, drawn, _⟩ :=
    MoonlightIdentity.generate_ok generated.symm
  exact undrawn id drawn

end

end Worker

end MoonlightAddon
