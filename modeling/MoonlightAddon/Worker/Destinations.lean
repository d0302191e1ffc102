import MoonlightAddon.Worker.Identity
import MoonlightAddon.Worker.Launching

/-!
# Where an engine's thread sends things

Whatever the host answers, a thread asks only the host of its document, at the
ports of its document and with the unique id of one identity, and writes frames
only for its own session.
-/

namespace MoonlightAddon

namespace Worker

open Effect NvHttp PairingClient Session

/-- The requests for this document and identity. -/
inductive Addressed (doc : MoonlightConnectDoc) (identity : MoonlightIdentity) :
    HttpRequest → Prop where
  | serverInfo (drawn : Bytes) :
      Addressed doc identity (.serverInfo doc.host doc.httpPort
        identity.uniqueId (formatUuid drawn))
  | serverInfoHttps (drawn : Bytes) :
      Addressed doc identity (.serverInfoHttps doc.host doc.httpsPort
        identity.uniqueId (formatUuid drawn))
  | appList (drawn : Bytes) :
      Addressed doc identity (.appList doc.host doc.httpsPort
        identity.uniqueId (formatUuid drawn))
  | launch (drawn : Bytes) (appId : UInt32) (aesKey : Bytes)
      (aesKeyId : Int32) :
      Addressed doc identity (.launch doc.host doc.httpsPort
        identity.uniqueId (formatUuid drawn) appId doc.width.toUInt32
        doc.height.toUInt32 doc.fps.toUInt32 (toHex aesKey) aesKeyId)
  | cancel (drawn : Bytes) :
      Addressed doc identity (.cancel doc.host doc.httpsPort
        identity.uniqueId (formatUuid drawn))
  | pair (drawn : Bytes) (params : List (Text × Text)) :
      Addressed doc identity (.pair doc.host doc.httpPort
        (queryOf identity (formatUuid drawn) params))

/-- What a thread of this session may do with this identity. -/
def Keeps (session : UInt32) (doc : MoonlightConnectDoc)
    (identity : MoonlightIdentity) : Command → Prop
  | .request request => Addressed doc identity request
  | .frame stream update =>
      stream = session ∧ ∃ unit, update = frameUpdate doc unit
  | _ => True

section

variable {libraries : Libraries} {session : UInt32}
  {doc : MoonlightConnectDoc} {identity : MoonlightIdentity}

abbrev KeepsTo {α : Type} (session : UInt32) (doc : MoonlightConnectDoc)
    (identity : MoonlightIdentity) (effect : Rust α) : Prop :=
  Bounded (Keeps session doc identity) (OwnLoop session doc) effect

theorem keeps_lift {α : Type} (outcome : Outcome α) :
    KeepsTo session doc identity (lift outcome) :=
  (confined_lift outcome).bounded

theorem keeps_send (message : Proto.AddonMsg) :
    KeepsTo session doc identity (send message) :=
  Confined.bounded (confined_send (by trivial))

theorem keeps_of_launching {command : Command}
    (launching : Launching session doc identity command) :
    Keeps session doc identity command := by
  cases launching with
  | appList drawn => exact .appList drawn
  | launch drawn appId aesKey aesKeyId => exact .launch drawn appId aesKey aesKeyId
  | streaming streams =>
      cases streams with
      | cancel drawn => exact .cancel drawn
      | frame unit => exact ⟨rfl, unit, rfl⟩
      | _ => trivial

theorem LaunchesOnly.keeps {α : Type} {effect : Rust α}
    (launches : LaunchesOnly session doc identity effect) :
    KeepsTo session doc identity effect :=
  launches.mono (fun _ => keeps_of_launching) fun _ => id

theorem keeps_pairWithHost :
    KeepsTo session doc identity
      (pairWithHost libraries session doc identity) := by
  apply bounded_bind (Confined.bounded (confined_randomPin trivial))
  intro pin
  apply bounded_bind (keeps_send _)
  intro _
  apply bounded_bind (keeps_send _)
  intro _
  apply bounded_bind (Confined.bounded (confined_drawOrZero trivial))
  intro salt
  apply PairingClient.follows_new ?_ fun _ _ => trivial
  apply bounded_bind (Confined.bounded (confined_attempt
    (confined_pair trivial fun drawn params _ => .pair drawn params)))
  intro result
  cases result with
  | ok paired =>
      apply bounded_bind (keeps_send _)
      intro _
      exact keeps_send _
  | error error =>
      apply bounded_bind (keeps_send _)
      intro _
      exact keeps_lift (.err error)

theorem keeps_withIdentity :
    KeepsTo session doc identity
      (withIdentity libraries session doc identity) := by
  apply bounded_bind (Confined.bounded
    (confined_performResult trivial fun _ _ _ => trivial))
  intro runtime
  apply bounded_bind (keeps_send _)
  intro _
  apply bounded_bind (Confined.bounded
    (confined_learnServerInfo trivial .serverInfoHttps .serverInfo))
  intro info
  apply Typestate.follows_if
  · intro unpaired
    apply bounded_bind keeps_pairWithHost
    intro _
    exact launches_launchSession.keeps
  · intro paired
    exact launches_launchSession.keeps

theorem keeps_reportClosed {allowed : Command → Prop} {enters : LoopName → Prop}
    {outcome : Outcome Unit} (reports : ∀ message, allowed (.control message)) :
    Bounded allowed enters (reportClosed session outcome) := by
  have sent : Bounded allowed enters
      (onClosed session (closeReason outcome)) :=
    Confined.bounded (confined_send (reports _))
  apply Typestate.Follows.bind
  apply Typestate.Follows.mono sent
  intro written state _
  trivial

theorem keeps_tail :
    Bounded (Keeps session doc identity) (OwnLoop session doc)
      (tail libraries session doc identity) := by
  apply Typestate.Follows.bind
  apply Typestate.Follows.mono keeps_withIdentity
  intro outcome state _
  exact keeps_reportClosed fun _ => trivial

theorem keeps_of_tail {trace : List (Event sidecar)}
    {finish : Program sidecar Unit}
    (run : Program.Run (Main.bodies libraries)
      (tail libraries session doc identity) trace finish) :
    ∀ event ∈ trace, Keeps session doc identity event.command := by
  apply keeps_tail.allowed_of_run _ run
  rintro _ rfl
  exact launches_frameLoopBody.keeps

/-- Requests and frames. -/
def leaves : Command → Bool
  | .request _ | .frame _ _ => true
  | _ => false

theorem leaves_of_report {outcome : Outcome Unit}
    {trace : List (Event sidecar)} {finish : Program sidecar Unit}
    (run : Program.Run (Main.bodies libraries) (reportClosed session outcome)
      trace finish) : ∀ event ∈ trace, leaves event.command = false := by
  have reports : Bounded (fun command => leaves command = false)
      (fun _ => False) (reportClosed session outcome) :=
    keeps_reportClosed fun _ => rfl
  exact reports.allowed_of_run (fun _ impossible => absurd impossible id) run

/-- The thread uses this identity from its first request on: the document's, or
one it generated and reported to the host. -/
inductive Uses (session : UInt32) (doc : MoonlightConnectDoc)
    (identity : MoonlightIdentity) (trace : List (Event sidecar)) : Prop where
  | restored (known : restoreIdentity doc = some identity)
      (keeps : ∀ event ∈ trace, Keeps session doc identity event.command) :
      Uses session doc identity trace
  | generated {written : Except Text Unit} {rest : List (Event sidecar)}
      (missing : restoreIdentity doc = none)
      (begins : trace = ⟨.generateIdentity, .ok identity⟩ ::
        ⟨.control (identityMessage session identity), written⟩ :: rest)
      (keeps : ∀ event ∈ trace, Keeps session doc identity event.command) :
      Uses session doc identity trace

/-- A thread sends nothing, or keeps to its session with one identity. -/
theorem uses_of_run {trace : List (Event sidecar)}
    {finish : Program sidecar Unit}
    (run : Program.Run (Main.bodies libraries) (worker libraries session doc)
      trace finish) :
    (∀ event ∈ trace, leaves event.command = false) ∨
      ∃ identity, Uses session doc identity trace := by
  cases known : restoreIdentity doc with
  | some identity =>
      right
      refine ⟨identity, .restored known ?_⟩
      unfold worker at run
      rw [worker_of_restored known] at run
      exact keeps_of_tail run
  | none =>
      cases begins_of_run known run with
      | idle => exact .inl (by simp)
      | @failed error rest report =>
          left
          exact List.forall_mem_cons.mpr ⟨rfl, leaves_of_report report⟩
      | generated => exact .inl (by simp [leaves])
      | @reported identity written rest settled =>
          right
          refine ⟨identity, .generated known rfl ?_⟩
          simp only [List.forall_mem_cons]
          exact ⟨trivial, trivial, keeps_of_tail settled⟩

end

end Worker

end MoonlightAddon
