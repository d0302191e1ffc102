import MoonlightAddon.Core.Commands

/-!
# Third-party code

What the sidecar calls but does not contain: OpenSSL through the `openssl`
crate, the TLS client of `reqwest`, and `serde_json`.  Each is an argument of
the definitions that use it.
-/

namespace MoonlightAddon

/-- `openssl::symm::Mode`. -/
inductive Mode where
  | encrypt | decrypt
deriving DecidableEq

/-- The OpenSSL calls of `nvhttp.rs` and `identity.rs`.  `cipherUpdate` and
`cipherFinal` return the bytes a `Crypter` for AES-128-ECB without padding
writes into its output buffer. -/
structure OpenSsl where
  sha256 : Bytes → Drawn 32
  cipherInit : Mode → Bytes → Except Text Unit
  cipherUpdate : Mode → Bytes → Bytes → Except Text Bytes
  cipherFinal : Mode → Bytes → Bytes → Except Text Bytes
  Certificate : Type
  PublicKey : Type
  PrivateKey : Type
  certificateFromPem : Bytes → Except Text Certificate
  certificateSignature : Certificate → Bytes
  certificatePublicKey : Certificate → Except Text PublicKey
  privateKeyFromPem : Bytes → Except Text PrivateKey
  verifierNew : PublicKey → Except Text Unit
  verifierUpdate : PublicKey → Bytes → Except Text Unit
  verify : PublicKey → Bytes → Bytes → Except Text Bool
  signerNew : PrivateKey → Except Text Unit
  signerUpdate : PrivateKey → Bytes → Except Text Unit
  sign : PrivateKey → Bytes → Except Text Bytes

/-- An OpenSSL whose every call succeeds: ciphers copy, digests and signatures
are zero. -/
instance : Inhabited OpenSsl where
  default := {
    sha256 := fun _ => ⟨List.replicate 32 0, by simp⟩
    cipherInit := fun _ _ => .ok ()
    cipherUpdate := fun _ _ data => .ok data
    cipherFinal := fun _ _ _ => .ok []
    Certificate := Unit
    PublicKey := Unit
    PrivateKey := Unit
    certificateFromPem := fun _ => .ok ()
    certificateSignature := fun _ => []
    certificatePublicKey := fun _ => .ok ()
    privateKeyFromPem := fun _ => .ok ()
    verifierNew := fun _ => .ok ()
    verifierUpdate := fun _ _ => .ok ()
    verify := fun _ _ _ => .ok true
    signerNew := fun _ => .ok ()
    signerUpdate := fun _ _ => .ok ()
    sign := fun _ _ => .ok (List.replicate 256 0) }

structure Libraries where
  openSsl : OpenSsl
  /-- `reqwest::Client::new()`: the message of its panic when TLS cannot be
  set up. -/
  newClient : Except Text Unit
  /-- `reqwest::Identity::from_pem` on certificate and key. -/
  tlsIdentity : Bytes → Except Text Unit
  /-- Building the client that presents this identity. -/
  tlsClient : Bytes → Except Text Unit
  /-- `serde_json::from_slice` for host messages. -/
  fromSlice : Bytes → Except Text Proto.HostMsg
  /-- `serde_json::to_vec` for addon messages. -/
  toVec : Proto.AddonMsg → Except Text Bytes
  /-- `{:?}` of a host message. -/
  debugHostMsg : Proto.HostMsg → Text
  /-- `env!("CARGO_PKG_VERSION")`. -/
  packageVersion : Text

instance : Inhabited Libraries where
  default := {
    openSsl := default
    newClient := .ok ()
    tlsIdentity := fun _ => .ok ()
    tlsClient := fun _ => .ok ()
    fromSlice := fun _ => .error []
    toVec := fun _ => .ok []
    debugHostMsg := fun _ => []
    packageVersion := [] }

end MoonlightAddon
