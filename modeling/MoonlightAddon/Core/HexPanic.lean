import MoonlightAddon.Core.Pairing

/-!
# When decoding hexadecimal text panics

`from_hex` cuts its input every two bytes.  The cut panics inside a character,
which the even length check does not rule out.  This file says exactly which
texts panic, and hence which pairing responses make the handshake panic.
-/

namespace MoonlightAddon

/-- Cutting `text` every two bytes meets a character boundary missing, after
nothing but valid pairs. -/
def straddles : Text → Bool
  | [] => false
  | [char] => 2 < char.utf8Size
  | first :: second :: rest =>
      if first.utf8Size = 1 then
        if second.utf8Size = 1 then
          match u8FromHex [first, second] with
          | .ok _ => straddles rest
          | .error _ => false
        else
          true
      else
        2 < first.utf8Size

/-- The field texts on which `from_hex` panics. -/
def hexPanics (text : Text) : Bool :=
  Text.byteLen (Text.trim text) % 2 == 0 && straddles (Text.trim text)

theorem code_of_utf8Size {char : Char} (wide : char.utf8Size ≠ 1) :
    127 < char.toNat := by
  have large : ¬ char.val ≤ 127 := by
    intro small
    exact wide (Char.utf8Size_eq_one_iff.mpr small)
  have bound := UInt32.not_le.mp large
  exact UInt32.lt_iff_toNat_lt.mp bound

theorem u8FromHex_wide {char : Char} (wide : char.utf8Size ≠ 1) :
    ∃ error, u8FromHex [char] = .error error := by
  have code := code_of_utf8Size wide
  have notPlus : char ≠ '+' := by
    rintro rfl
    exact wide rfl
  have notMinus : char ≠ '-' := by
    rintro rfl
    exact wide rfl
  have noDigit : hexDigitValue char = none := by
    unfold hexDigitValue
    simp only
    rw [if_neg (by omega), if_neg (by omega), if_neg (by omega)]
  refine ⟨invalidDigit, ?_⟩
  unfold u8FromHex fromStrRadix
  split
  · simp at *
  · simp_all
  · simp_all
  · simp_all
  · simp [digitsValue, noDigit, Except.map]

theorem fromHexPairs_isPanic (before rest : Text) (count : Nat)
    (size : Text.byteLen rest = 2 * count) :
    (fromHexPairs (before ++ rest) count (Text.byteLen before)).isPanic =
      straddles rest := by
  induction count generalizing before rest with
  | zero =>
      cases rest with
      | nil => rfl
      | cons char rest =>
          have positive := char.utf8Size_pos
          simp only [Text.byteLen_cons] at size
          omega
  | succ count induction =>
      rw [fromHexPairs, Text.slice_suffix]
      cases rest with
      | nil => simp at size
      | cons first rest =>
          have positive := first.utf8Size_pos
          by_cases narrow : first.utf8Size = 1
          · cases rest with
            | nil =>
                simp only [Text.byteLen_cons, Text.byteLen_nil] at size
                omega
            | cons second rest =>
                have secondPositive := second.utf8Size_pos
                by_cases secondNarrow : second.utf8Size = 1
                · have cut : Text.splitAtByte (first :: second :: rest) 2 =
                      some ([first, second], rest) := by
                    apply Text.splitAtByte_eq_some_iff.mpr
                    simp [narrow, secondNarrow]
                  have tail := induction (before ++ [first, second]) rest (by
                    simp only [Text.byteLen_cons] at size
                    omega)
                  have offset : Text.byteLen (before ++ [first, second]) =
                      Text.byteLen before + 2 := by
                    simp [narrow, secondNarrow]
                  rw [offset] at tail
                  rw [cut]
                  simp only [straddles, narrow, secondNarrow, ↓reduceIte,
                    Option.map_some]
                  cases value : u8FromHex [first, second] with
                  | error error => rfl
                  | ok byte =>
                      simp only [List.append_assoc, List.cons_append,
                        List.nil_append] at tail
                      rw [← tail]
                      cases fromHexPairs (before ++ first :: second :: rest)
                        count (Text.byteLen before + 2) <;> rfl
                · have cut : Text.splitAtByte (first :: second :: rest) 2 =
                      none := by
                    have wide : ¬ second.utf8Size ≤ 1 := by omega
                    simp [Text.splitAtByte, narrow, wide]
                  simp [cut, straddles, narrow, secondNarrow]
          · have shape : straddles (first :: rest) =
                decide (2 < first.utf8Size) := by
              cases rest with
              | nil => rfl
              | cons second rest => simp [straddles, narrow]
            rw [shape]
            by_cases double : first.utf8Size = 2
            · have cut : Text.splitAtByte (first :: rest) 2 =
                  some ([first], rest) := by
                apply Text.splitAtByte_eq_some_iff.mpr
                simp [double]
              obtain ⟨error, failed⟩ := u8FromHex_wide narrow
              simp [cut, failed, double]
            · have cut : Text.splitAtByte (first :: rest) 2 = none := by
                have wide : ¬ first.utf8Size ≤ 2 := by omega
                simp [Text.splitAtByte, wide]
              have wide : 2 < first.utf8Size := by omega
              simp [cut, wide]

/-- `from_hex` panics exactly on the texts `hexPanics` describes. -/
theorem fromHex_isPanic (text : Text) :
    (fromHex text).isPanic = hexPanics text := by
  unfold fromHex hexPanics
  by_cases odd : Text.byteLen (Text.trim text) % 2 ≠ 0
  · simp [odd]
  · have even : Text.byteLen (Text.trim text) % 2 = 0 := by omega
    have scanned := fromHexPairs_isPanic [] (Text.trim text)
      (Text.byteLen (Text.trim text) / 2) (by omega)
    simp only [List.nil_append, Text.byteLen_nil] at scanned
    simp [even, scanned]

namespace NvHttp

@[simp] theorem aesEcb_isPanic (ssl : OpenSsl) (mode : Mode)
    (key data : Bytes) : (aesEcb ssl mode key data).isPanic = false := by
  unfold aesEcb
  apply Outcome.isPanic_bind (Outcome.ofExcept_isPanic _)
  intro initialised
  apply Outcome.isPanic_bind (Outcome.ofExcept_isPanic _)
  intro written
  apply Outcome.isPanic_bind (Outcome.ofExcept_isPanic _)
  intro last
  rfl

namespace PairingClient

theorem length_isPanic (short : Prop) [Decidable short] (error : Text)
    (bytes : Bytes) :
    (if short then Outcome.err error else Outcome.ok bytes).isPanic =
      false := by
  by_cases holds : short
  · rw [if_pos holds]
    rfl
  · rw [if_neg holds]
    rfl

theorem readServerCert_isPanic (ssl : OpenSsl) (body : Text) :
    (readServerCert ssl body).isPanic =
      ((element body (lit "paired")).map Text.trim == some (lit "1") &&
        (element body (lit "plaincert")).any hexPanics) := by
  by_cases paired :
      (element body (lit "paired")).map Text.trim = some (lit "1")
  · cases field : element body (lit "plaincert") with
    | none => simp [readServerCert, tagIs, paired, field, Outcome.okOr]
    | some text =>
        have panics := fromHex_isPanic text
        cases decoded : fromHex text <;>
          simp_all [readServerCert, tagIs, Outcome.okOr]
  · simp [readServerCert, tagIs, paired]

theorem readChallengeResponse_isPanic (ssl : OpenSsl) (aesKey : Bytes)
    (body : Text) :
    (readChallengeResponse ssl aesKey body).isPanic =
      (element body (lit "challengeresponse")).any hexPanics := by
  cases field : element body (lit "challengeresponse") with
  | none =>
      simp [readChallengeResponse, field, Outcome.okOr]
  | some text =>
      have panics := fromHex_isPanic text
      cases decoded : fromHex text with
      | err error =>
          simp_all [readChallengeResponse, Outcome.okOr]
      | panicked message =>
          simp_all [readChallengeResponse, Outcome.okOr]
      | ok encrypted =>
          have cipher := aesEcb_isPanic ssl .decrypt aesKey encrypted
          cases decrypted : aesEcb ssl .decrypt aesKey encrypted with
          | err error =>
              simp_all [readChallengeResponse, Outcome.okOr]
          | panicked message => simp_all
          | ok response =>
              have harmless := length_isPanic (response.length < 48)
                (lit "phase 2: short challenge response") response
              simp_all [readChallengeResponse, Outcome.okOr]

theorem readPairingSecret_isPanic (body : Text) :
    (readPairingSecret body).isPanic =
      (element body (lit "pairingsecret")).any hexPanics := by
  cases field : element body (lit "pairingsecret") with
  | none => simp [readPairingSecret, field, Outcome.okOr]
  | some text =>
      have panics := fromHex_isPanic text
      cases decoded : fromHex text with
      | err error =>
          simp_all [readPairingSecret, Outcome.okOr]
      | panicked message =>
          simp_all [readPairingSecret, Outcome.okOr]
      | ok secret =>
          have harmless := length_isPanic (secret.length < 16 + 256)
            (lit "phase 3: short pairing secret") secret
          simp_all [readPairingSecret, Outcome.okOr]

theorem certificate_isPanic (ssl : OpenSsl) (identity : MoonlightIdentity) :
    (identity.certificate ssl).isPanic = false :=
  Outcome.ofExcept_isPanic _

theorem checkServerResponse_isPanic (ssl : OpenSsl)
    (clientChallenge certSignature serverSecret serverResponse : Bytes) :
    (checkServerResponse ssl clientChallenge certSignature serverSecret
      serverResponse).isPanic = false := by
  unfold checkServerResponse
  split <;> rfl

theorem checkServerSignature_isPanic (ssl : OpenSsl)
    (certificate : ssl.Certificate) (serverSecret serverSignature : Bytes) :
    (checkServerSignature ssl certificate serverSecret
      serverSignature).isPanic = false := by
  unfold checkServerSignature
  apply Outcome.isPanic_bind (Outcome.ofExcept_isPanic _)
  intro serverPub
  apply Outcome.isPanic_bind (Outcome.ofExcept_isPanic _)
  intro ready
  apply Outcome.isPanic_bind (Outcome.ofExcept_isPanic _)
  intro updated
  apply Outcome.isPanic_bind (Outcome.ofExcept_isPanic _)
  intro genuine
  cases genuine <;> rfl

theorem clientPairingSecret_isPanic (ssl : OpenSsl)
    (identity : MoonlightIdentity) (clientSecret : Bytes) :
    (clientPairingSecret ssl identity clientSecret).isPanic = false := by
  unfold clientPairingSecret
  apply Outcome.isPanic_bind (Outcome.ofExcept_isPanic _)
  intro key
  apply Outcome.isPanic_bind (Outcome.ofExcept_isPanic _)
  intro ready
  apply Outcome.isPanic_bind (Outcome.ofExcept_isPanic _)
  intro updated
  apply Outcome.isPanic_bind (Outcome.ofExcept_isPanic _)
  intro signature
  rfl

/-- The field whose hexadecimal text the handshake decodes next, given the
phase of the request and the response body. -/
def decodedField (phase : PairPhase) (body : Text) : Option Text :=
  match phase with
  | .serverCert =>
      if (element body (lit "paired")).map Text.trim = some (lit "1") then
        element body (lit "plaincert")
      else
        none
  | .clientChallenge => element body (lit "challengeresponse")
  | .serverChallenge => element body (lit "pairingsecret")
  | .clientSecret => none

end PairingClient

/-- A response that passes the checks before its hexadecimal field is decoded,
and whose field makes that decoding panic. -/
def wrecks : HttpRequest → HttpReply → Bool
  | .pair _ _ query, .body body =>
      Text.contains body statusOk &&
        (PairingClient.decodedField (PairingClient.phaseOf query) body).any
          hexPanics
  | _, _ => false

end NvHttp

end MoonlightAddon
