import MoonlightAddon.Core.Urls

/-!
# The requests the builders send

Which requests the functions of `nvhttp.rs` send for an identity and a host,
and when the queries of all of them carry the parameters that were put in.
-/

namespace MoonlightAddon

namespace NvHttp

open Effect HttpRequest PairingClient Query

/-- The requests for an identity and a host. -/
inductive Built (identity : MoonlightIdentity) (host : Text) :
    HttpRequest → Prop where
  | serverInfo (port : UInt16) (drawn : Bytes) :
      Built identity host
        (.serverInfo host port identity.uniqueId (formatUuid drawn))
  | serverInfoHttps (port : UInt16) (drawn : Bytes) :
      Built identity host
        (.serverInfoHttps host port identity.uniqueId (formatUuid drawn))
  | appList (port : UInt16) (drawn : Bytes) :
      Built identity host
        (.appList host port identity.uniqueId (formatUuid drawn))
  | launch (port : UInt16) (drawn : Bytes) (appId width height fps : UInt32)
      (aesKey : Bytes) (aesKeyId : Int32) :
      Built identity host (.launch host port identity.uniqueId
        (formatUuid drawn) appId width height fps (toHex aesKey) aesKeyId)
  | cancel (port : UInt16) (drawn : Bytes) :
      Built identity host
        (.cancel host port identity.uniqueId (formatUuid drawn))
  | pair (port : UInt16) (drawn : Bytes) {params : List (Text × Text)}
      (safe : ∀ param ∈ params, UrlSafe param.1 ∧ UrlSafe param.2) :
      Built identity host
        (.pair host port (queryOf identity (formatUuid drawn) params))

/-- The requests among the commands are built for this identity and host. -/
def Requests (identity : MoonlightIdentity) (host : Text) : Command → Prop
  | .request request => Built identity host request
  | _ => True

section Builders

variable {allowed : Command → Prop} {libraries : Libraries}
  {identity : MoonlightIdentity} {host : Text} {port : UInt16}

theorem confined_lift {α : Type} (outcome : Outcome α) :
    Confined allowed (lift outcome) fun _ => True :=
  confined_done fun _ _ => trivial

theorem confined_drawOrZero {count : Nat}
    (draws : allowed (.randBytes count)) :
    Confined allowed (drawOrZero count) fun _ => True := by
  apply confined_bind (confined_perform draws fun _ => trivial)
  intro reply _
  cases reply with
  | ok bytes => exact confined_pure trivial
  | error error => exact confined_pure trivial

theorem confined_newUuid (draws : allowed (.randBytes 16)) :
    Confined allowed newUuid fun uuid => ∃ drawn, uuid = formatUuid drawn := by
  apply confined_bind (confined_drawOrZero draws)
  intro drawn _
  exact confined_pure ⟨drawn, rfl⟩

theorem confined_rand16 (draws : allowed (.randBytes 16)) :
    Confined allowed rand16 fun _ => True :=
  confined_performResult draws fun _ _ _ => trivial

theorem confined_httpGet {label : Text} {request : HttpRequest}
    (sends : allowed (.request request)) :
    Confined allowed (httpGet label request) fun _ => True :=
  confined_performResult sends fun _ _ _ => trivial

/-- A request with a fresh uuid, once its client is there. -/
theorem confined_client {α : Type} {client : Outcome Unit} {label : Text}
    {request : Text → HttpRequest} {rest : Text → Rust α}
    {yields : α → Prop} (draws : allowed (.randBytes 16))
    (sends : ∀ drawn, allowed (.request (request (formatUuid drawn))))
    (later : ∀ body, Confined allowed (rest body) yields) :
    Confined allowed
      (do
        let uuid ← newUuid
        lift client
        let body ← httpGet label (request uuid)
        rest body)
      yields := by
  apply confined_bind (confined_newUuid draws)
  rintro _ ⟨drawn, rfl⟩
  apply confined_bind (confined_lift client)
  intro _ _
  apply confined_bind (confined_httpGet (sends drawn))
  intro body _
  exact later body

theorem confined_serverInfo {uniqueId : Text}
    (draws : allowed (.randBytes 16))
    (sends : ∀ drawn, allowed
      (.request (.serverInfo host port uniqueId (formatUuid drawn)))) :
    Confined allowed (serverInfo libraries host port uniqueId)
      fun _ => True := by
  apply confined_client draws sends
  intro body
  apply confined_bind (confined_lift _)
  intro _ _
  exact confined_lift _

theorem confined_serverInfoHttps (draws : allowed (.randBytes 16))
    (sends : ∀ drawn, allowed (.request
      (.serverInfoHttps host port identity.uniqueId (formatUuid drawn)))) :
    Confined allowed (serverInfoHttps libraries identity host port)
      fun _ => True := by
  apply confined_client draws sends
  intro body
  apply confined_bind (confined_lift _)
  intro _ _
  exact confined_lift _

theorem confined_appList (draws : allowed (.randBytes 16))
    (sends : ∀ drawn, allowed (.request
      (.appList host port identity.uniqueId (formatUuid drawn)))) :
    Confined allowed (appList libraries identity host port)
      fun _ => True := by
  apply confined_client draws sends
  intro body
  apply confined_bind (confined_lift _)
  intro _ _
  exact confined_lift _

theorem confined_launch {appId width height fps : UInt32}
    (draws : ∀ count, allowed (.randBytes count))
    (sends : ∀ drawn aesKey aesKeyId, allowed (.request
      (.launch host port identity.uniqueId (formatUuid drawn) appId width height
        fps (toHex aesKey) aesKeyId))) :
    Confined allowed
      (launch libraries identity host port appId width height fps)
      fun _ => True := by
  apply confined_bind (confined_rand16 (draws 16))
  intro aesKey _
  apply confined_bind (confined_performResult (draws 4) fun _ _ _ => trivial)
  intro idBytes _
  apply confined_client (draws 16) fun drawn => sends drawn _ _
  intro body
  apply confined_bind (confined_lift _)
  intro _ _
  exact confined_pure trivial

theorem confined_cancel (draws : allowed (.randBytes 16))
    (sends : ∀ drawn, allowed (.request
      (.cancel host port identity.uniqueId (formatUuid drawn)))) :
    Confined allowed (cancel libraries identity host port) fun _ => True := by
  apply confined_client draws sends
  intro body
  exact confined_lift _

theorem confined_newClient :
    Confined allowed (lift (PairingClient.new libraries identity host port))
      fun client => client = { identity, host, httpPort := port } := by
  apply confined_done
  intro client built
  obtain same | ⟨_, message, panics⟩ :=
    PairingClient.new_cases libraries identity host port
  · exact Outcome.ok.inj (built.symm.trans same)
  · cases built.symm.trans panics

theorem confined_pairReq {params : List (Text × Text)}
    (draws : allowed (.randBytes 16))
    (sends : ∀ drawn, allowed (.request
      (.pair host port (queryOf identity (formatUuid drawn) params)))) :
    Confined allowed (pairReq { identity, host, httpPort := port } params)
      fun _ => True := by
  apply confined_bind (confined_newUuid draws)
  rintro _ ⟨drawn, rfl⟩
  apply confined_bind (confined_httpGet (sends drawn))
  intro body _
  apply confined_bind (confined_lift _)
  intro _ _
  exact confined_pure trivial

/-- One parameter that holds hexadecimal text. -/
theorem safe_hexParam {name : Text} (safe : UrlSafe name) (bytes : Bytes) :
    ∀ param ∈ [(name, toHex bytes)], UrlSafe param.1 ∧ UrlSafe param.2 :=
  List.forall_mem_singleton.mpr ⟨safe, urlSafe_toHex bytes⟩

theorem safe_serverCertParams (salt : Bytes) (identity : MoonlightIdentity) :
    ∀ param ∈ serverCertParams salt identity,
      UrlSafe param.1 ∧ UrlSafe param.2 := by
  simp only [serverCertParams, List.forall_mem_cons]
  exact ⟨by decide, by decide, by decide, ⟨by decide, urlSafe_toHex salt⟩,
    ⟨by decide, urlSafe_toHex _⟩, by simp⟩

theorem confined_pair {ssl : OpenSsl} {salt aesKey : Bytes}
    (draws : allowed (.randBytes 16))
    (sends : ∀ drawn params,
      (∀ param ∈ params, UrlSafe param.1 ∧ UrlSafe param.2) →
      allowed (.request
        (.pair host port (queryOf identity (formatUuid drawn) params)))) :
    Confined allowed
      (pair ssl { identity, host, httpPort := port } salt aesKey)
      fun _ => True := by
  -- Phase 1.
  apply confined_bind (confined_pairReq draws fun drawn =>
    sends drawn _ (safe_serverCertParams salt identity))
  intro body _
  apply confined_bind (confined_lift _)
  intro serverCert _
  -- Phase 2.
  apply confined_bind (confined_rand16 draws)
  intro clientChallenge _
  apply confined_bind (confined_lift _)
  intro encChallenge _
  apply confined_bind (confined_pairReq draws fun drawn =>
    sends drawn _ (safe_hexParam (by decide) _))
  intro body _
  apply confined_bind (confined_lift _)
  intro challengeResp _
  -- Phase 3.
  apply confined_bind (confined_lift _)
  intro clientCert _
  apply confined_bind (confined_rand16 draws)
  intro clientSecret _
  apply confined_bind (confined_lift _)
  intro enc _
  apply confined_bind (confined_pairReq draws fun drawn =>
    sends drawn _ (safe_hexParam (by decide) _))
  intro body _
  apply confined_bind (confined_lift _)
  intro pairingSecret _
  apply confined_bind (confined_lift _)
  intro _ _
  apply confined_bind (confined_lift _)
  intro _ _
  -- Phase 4.
  apply confined_bind (confined_lift _)
  intro secret _
  apply confined_bind (confined_pairReq draws fun drawn =>
    sends drawn _ (safe_hexParam (by decide) _))
  intro body _
  apply confined_bind (confined_lift _)
  intro accepted _
  cases accepted with
  | true => exact confined_pure trivial
  | false => exact confined_done fun _ _ => trivial

end Builders

section Faithfulness

variable {identity : MoonlightIdentity} {host : Text}

theorem notMem_address {request : HttpRequest}
    (built : Built identity host request) {mark : Char}
    (reserved : mark = '?' ∨ mark = '#') (absent : mark ∉ host) :
    mark ∉ request.address := by
  have digits : ∀ port, mark ∉ decimal port := by
    intro port
    apply (urlSafe_decimal port).notMem
    obtain rfl | rfl := reserved <;> decide
  obtain rfl | rfl := reserved <;>
    cases built <;>
    unfold address <;>
    simp [lit, absent, digits]

theorem parameters_of_built {request : HttpRequest}
    (built : Built identity host request) :
    ∃ rest, request.parameters = (lit "uniqueid", identity.uniqueId) :: rest ∧
      ∀ parameter ∈ rest, UrlSafe parameter.1 ∧ UrlSafe parameter.2 := by
  have named : UrlSafe (lit "uuid") := by decide
  cases built with
  | launch port drawn appId width height fps aesKey aesKeyId =>
      refine ⟨_, rfl, ?_⟩
      have mode : UrlSafe (decimal width.toNat ++ lit "x" ++
          decimal height.toNat ++ lit "x" ++ decimal fps.toNat) := by
        have cross : UrlSafe (lit "x") := by decide
        apply_rules [urlSafe_append, urlSafe_decimal, cross]
      simp only [List.forall_mem_cons]
      exact ⟨⟨named, urlSafe_formatUuid drawn⟩,
        ⟨by decide, urlSafe_decimal _⟩, ⟨by decide, mode⟩, by decide, by decide,
        ⟨by decide, urlSafe_toHex aesKey⟩, ⟨by decide, urlSafe_decimalInt _⟩,
        by decide, by decide, by decide, by decide, by decide, by simp⟩
  | pair port drawn safe =>
      refine ⟨_, rfl, ?_⟩
      exact List.forall_mem_cons.mpr
        ⟨⟨named, urlSafe_formatUuid drawn⟩, safe⟩
  | _ port drawn =>
      refine ⟨_, rfl, ?_⟩
      exact List.forall_mem_singleton.mpr ⟨named, urlSafe_formatUuid drawn⟩

theorem readsBack_of_built {request : HttpRequest}
    (built : Built identity host request)
    (uniqueId : '&' ∉ identity.uniqueId ∧ '#' ∉ identity.uniqueId) :
    request.parameters ≠ [] ∧
      ∀ parameter ∈ request.parameters, ReadsBack parameter := by
  obtain ⟨rest, parameters, safe⟩ := parameters_of_built built
  rw [parameters]
  have named : UrlSafe (lit "uniqueid") := by decide
  refine ⟨List.cons_ne_nil _ rest, List.forall_mem_cons.mpr ⟨?_, ?_⟩⟩
  · exact {
      plain := {
        name := ⟨named.notMem (by decide), named.notMem (by decide)⟩
        value := uniqueId.1 }
      unbroken := ⟨named.notMem (by decide), uniqueId.2⟩ }
  · intro parameter member
    exact readsBack_of_urlSafe (safe parameter member).1
      (safe parameter member).2

theorem faithful_of_built {request : HttpRequest}
    (built : Built identity host request) (plain : '?' ∉ host ∧ '#' ∉ host)
    (uniqueId : '&' ∉ identity.uniqueId ∧ '#' ∉ identity.uniqueId) :
    request.Faithful := by
  obtain ⟨nonempty, readsBack⟩ := readsBack_of_built built uniqueId
  apply faithful_of_readsBack _ nonempty readsBack
  exact ⟨notMem_address built (.inl rfl) plain.1,
    notMem_address built (.inr rfl) plain.2⟩

end Faithfulness

section Builds

/-- A run of the effect can get to the point of sending the request. -/
def Sends {α : Type} (effect : Rust α) (request : HttpRequest) : Prop :=
  ∃ bodies trace finish reply,
    Program.Run bodies effect trace finish ∧
      (⟨.request request, reply⟩ : Event sidecar) ∈ trace

/-- The requests of the builders, whatever else they are given and whatever
they draw. -/
inductive Builds (identity : MoonlightIdentity) (host : Text)
    (request : HttpRequest) : Prop where
  | serverInfo (libraries : Libraries) (port : UInt16) :
      Sends (serverInfo libraries host port identity.uniqueId) request →
      Builds identity host request
  | serverInfoHttps (libraries : Libraries) (port : UInt16) :
      Sends (serverInfoHttps libraries identity host port) request →
      Builds identity host request
  | appList (libraries : Libraries) (port : UInt16) :
      Sends (appList libraries identity host port) request →
      Builds identity host request
  | launch (libraries : Libraries) (port : UInt16)
      (appId width height fps : UInt32) :
      Sends (launch libraries identity host port appId width height fps)
        request →
      Builds identity host request
  | cancel (libraries : Libraries) (port : UInt16) :
      Sends (cancel libraries identity host port) request →
      Builds identity host request
  | pairReq (ssl : OpenSsl) (port : UInt16) (salt aesKey : Bytes) :
      Sends (pair ssl { identity, host, httpPort := port } salt aesKey)
        request →
      Builds identity host request

/-- No value adds, overrides, truncates or hides a parameter. -/
def CarriesParameters (identity : MoonlightIdentity) (host : Text) : Prop :=
  ∀ request, Builds identity host request → request.Faithful

variable {identity : MoonlightIdentity} {host : Text} {request : HttpRequest}

theorem built_of_sends {α : Type} {effect : Rust α}
    (confined : Confined (Requests identity host) effect fun _ => True)
    (sends : Sends effect request) : Built identity host request := by
  obtain ⟨bodies, trace, finish, reply, run, member⟩ := sends
  exact confined.allowed_of_run run _ member

theorem built_of_builds (builds : Builds identity host request) :
    Built identity host request := by
  cases builds with
  | serverInfo libraries port sends =>
      exact built_of_sends
        (confined_serverInfo trivial (.serverInfo port)) sends
  | serverInfoHttps libraries port sends =>
      exact built_of_sends
        (confined_serverInfoHttps trivial (.serverInfoHttps port)) sends
  | appList libraries port sends =>
      exact built_of_sends (confined_appList trivial (.appList port)) sends
  | launch libraries port appId width height fps sends =>
      exact built_of_sends (confined_launch (fun _ => trivial)
        fun drawn => .launch port drawn appId width height fps) sends
  | cancel libraries port sends =>
      exact built_of_sends (confined_cancel trivial (.cancel port)) sends
  | pairReq ssl port salt aesKey sends =>
      exact built_of_sends (confined_pair trivial
        fun drawn _ => .pair port drawn) sends

/-- Every draw can end up in a request. -/
theorem builds_serverInfo (identity : MoonlightIdentity) (host : Text)
    (drawn : Drawn 16) :
    Builds identity host
      (.serverInfo host 0 identity.uniqueId (formatUuid drawn.1)) := by
  apply Builds.serverInfo default 0
  have run : Program.Run Program.repeatLoop
      (serverInfo default host 0 identity.uniqueId)
      [⟨.randBytes 16, .ok drawn⟩,
        ⟨.request (.serverInfo host 0 identity.uniqueId (formatUuid drawn.1)),
          .sendFailed []⟩]
      (.ret (.err (lit "serverinfo" ++ lit " request failed: " ++ []))) := by
    apply Program.Run.step (.act _)
    apply Program.Run.step (.act _)
    exact .refl _
  exact ⟨_, _, _, .sendFailed [], run, by simp⟩

/-- A draw of the same byte throughout. -/
def drawnOf (byte : UInt8) : Drawn 16 :=
  ⟨List.replicate 16 byte, List.length_replicate⟩

theorem uniqueId_of_carries (carries : CarriesParameters identity host) :
    '&' ∉ identity.uniqueId ∧ '#' ∉ identity.uniqueId := by
  have faithful := carries _ (builds_serverInfo identity host (drawnOf 0))
  exact @Faithful.value _ faithful (lit "uniqueid", identity.uniqueId)
    List.mem_cons_self

/-- Behind a fragment in the host, the query is not even looked at. -/
theorem fragment_of_carries (carries : CarriesParameters identity host) :
    '#' ∉ host := by
  intro inside
  have front : '#' ∈ lit "http://" ++ host := List.mem_append_right _ inside
  have same : ∀ drawn : Drawn 16, [(lit "uniqueid", identity.uniqueId),
      (lit "uuid", formatUuid drawn.1)] =
        urlSeparators.parse (part (lit "http://" ++ host)) := by
    intro drawn
    have faithful := carries _ (builds_serverInfo identity host drawn)
    unfold Faithful url at faithful
    simp only [List.append_assoc] at faithful
    rw [← List.append_assoc, part_append_of_fragment front] at faithful
    exact faithful.symm
  have zero := same (drawnOf 0)
  rw [← same (drawnOf 1)] at zero
  simp only [List.cons.injEq, Prod.mk.injEq, true_and, and_true] at zero
  exact absurd zero (by decide)

theorem query_of_carries (carries : CarriesParameters identity host) :
    '?' ∉ host := by
  intro inside
  have early : '?' ∈ lit "http://" ++ host := List.mem_append_right _ inside
  have builds := builds_serverInfo identity host (drawnOf 0)
  have built := built_of_builds builds
  have split : (HttpRequest.serverInfo host 0 identity.uniqueId
      (formatUuid (drawnOf 0).1)).address =
        lit "http://" ++ host ++ (lit ":" ++ (decimal 0 ++ lit "/serverinfo")) := by
    unfold address
    simp only [List.append_assoc, UInt16.toNat_zero]
  apply not_faithful_of_early split early _ _ (carries _ builds)
  · exact notMem_address built (.inr rfl) (fragment_of_carries carries)
  · apply fragment_notMem_render
    intro parameter member
    exact ((readsBack_of_built built (uniqueId_of_carries carries)).2
      parameter member).unbroken

theorem carriesParameters_of_plain (plain : '?' ∉ host ∧ '#' ∉ host)
    (uniqueId : '&' ∉ identity.uniqueId ∧ '#' ∉ identity.uniqueId) :
    CarriesParameters identity host :=
  fun _ builds => faithful_of_built (built_of_builds builds) plain uniqueId

/-- A generated identity never gets in the way. -/
theorem carriesParameters_of_generate {ssl : CertificateSsl}
    (generated : MoonlightIdentity.generate ssl = .ok identity)
    (plain : '?' ∉ host ∧ '#' ∉ host) : CarriesParameters identity host := by
  obtain ⟨_, _, id, _, _, _, uniqueId⟩ :=
    MoonlightIdentity.generate_ok generated
  have safe : UrlSafe identity.uniqueId := by
    rw [uniqueId]
    exact urlSafe_hexBytesLower id.1
  exact carriesParameters_of_plain plain
    ⟨safe.notMem (by decide), safe.notMem (by decide)⟩

/-- The queries carry their parameters exactly when the host has neither `?`
nor `#` in it and the unique id neither `&` nor `#`. -/
theorem query_parameters (identity : MoonlightIdentity) (host : Text) :
    CarriesParameters identity host ↔
      ('?' ∉ host ∧ '#' ∉ host) ∧
        '&' ∉ identity.uniqueId ∧ '#' ∉ identity.uniqueId := by
  constructor
  · intro carries
    exact ⟨⟨query_of_carries carries, fragment_of_carries carries⟩,
      uniqueId_of_carries carries⟩
  · rintro ⟨plain, uniqueId⟩
    exact carriesParameters_of_plain plain uniqueId

/-- The unique id of a connect document adds a parameter. -/
theorem query_parameters_added :
    ¬ ∀ doc identity, Session.restoreIdentity doc = some identity →
      CarriesParameters identity doc.host := by
  intro claimed
  have carries := claimed { MoonlightConnectDoc.stored with
    clientUniqueId := lit "0123456789abcdef&rikey=00" } _ rfl
  exact absurd (uniqueId_of_carries carries).1 (by decide)

end Builds

end NvHttp

end MoonlightAddon
