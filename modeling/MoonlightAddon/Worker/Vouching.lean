import MoonlightAddon.Core.PairingSoundness
import MoonlightAddon.Worker.Launching

/-!
# Who vouches for a pairing

The thread discloses the client secret, and tells its own host that it is
paired, only right after a handshake under the PIN that was shown, in which the
host of the document has proved that it knows this PIN.
-/

namespace MoonlightAddon

namespace Worker

open Effect NvHttp PairingClient Session

/-- The salt drawn for a pairing; zeros if the draw failed. -/
def saltOf : Except Text (Drawn 16) → Bytes
  | .ok bytes => bytes.1
  | .error _ => List.replicate 16 0

/-- The client that `run_moonlight` pairs with. -/
def clientOf (doc : MoonlightConnectDoc) (identity : MoonlightIdentity) :
    PairingClient where
  identity := identity
  host := doc.host
  httpPort := doc.httpPort

/-- The events end with a PIN shown to the user, the salt, three exchanges that
prove the host under the key of both, and these. -/
def Vouched (ssl : OpenSsl) (session : UInt32) (client : PairingClient)
    (last events : List (Event sidecar)) : Prop :=
  ∃ (earlier : List (Event sidecar)) (pin url : Text)
    (shown : Except Text Unit) (salt : Except Text (Drawn 16))
    (transcript : Transcript),
    events = earlier ++
        [⟨.control (.event session (.pairPrompt pin url)), shown⟩,
          ⟨.randBytes 16, salt⟩] ++
        (transcript.events client (saltOf salt) ++ last) ∧
      transcript.Proven ssl (deriveAesKey ssl (saltOf salt) pin)

/-- What a command needs to have happened before. -/
def Vouches (ssl : OpenSsl) (session : UInt32) (doc : MoonlightConnectDoc)
    (past : List (Event sidecar)) : Command → Prop
  | .request (.pair _ _ query) => phaseOf query = .clientSecret →
      ∃ identity draw, Vouched ssl session (clientOf doc identity)
        [⟨.randBytes 16, draw⟩] past
  | .control (.event other (.pairFinished none)) => other = session ∧
      ∃ identity draw secret body,
        Vouched ssl session (clientOf doc identity)
          (ask (clientOf doc identity) draw (clientSecretParams secret)
            (.body body)) past ∧
        (element body (lit "paired")).map Text.trim = some (lit "1")
  | _ => True

/-- The discipline that remembers the whole past. -/
def vouching (ssl : OpenSsl) (session : UInt32) (doc : MoonlightConnectDoc) :
    Typestate sidecar where
  State := List (Event sidecar)
  Next past event after :=
    after = past ++ [event] ∧ Vouches ssl session doc past event.command
  Pre loop _ := OwnLoop session doc loop
  Post _ _ _ _ := True

section

variable {libraries : Libraries} {ssl : OpenSsl} {session : UInt32}
  {doc : MoonlightConnectDoc} {identity : MoonlightIdentity}
  {past : List (Event sidecar)} {α β : Type} {yields : α → Prop}

theorem path_vouching {after trace : List (Event sidecar)}
    (path : (vouching ssl session doc).Path past trace after) :
    after = past ++ trace :=
  path.history id fun _ _ _ next => next.1

/-- A command that needs nothing. -/
def Free (ssl : OpenSsl) (session : UInt32) (doc : MoonlightConnectDoc)
    (command : Command) : Prop :=
  ∀ past, Vouches ssl session doc past command

theorem free_of_launching {command : Command}
    (launching : Launching session doc identity command) :
    Free ssl session doc command := by
  intro past
  cases launching with
  | streaming streams => cases streams <;> trivial
  | _ => trivial

/-- Nothing is required of where a thread ends. -/
abbrev VouchesFor (ssl : OpenSsl) (session : UInt32)
    (doc : MoonlightConnectDoc) {γ : Type} (program : Program sidecar γ)
    (past : List (Event sidecar)) : Prop :=
  (vouching ssl session doc).Follows program (fun _ _ => True) past

theorem LaunchesOnly.vouches {effect : Rust α}
    (launches : LaunchesOnly session doc identity effect)
    (past : List (Event sidecar)) :
    VouchesFor ssl session doc effect past := by
  refine @Bounded.follows _ _ _ _ (vouching ssl session doc) _ launches
    (fun _ => True) ?_ ?_ past trivial
  · intro _ command reply _ launching
    exact ⟨_, ⟨rfl, free_of_launching launching _⟩, trivial⟩
  · intro loop _ _ own
    exact ⟨own, fun _ _ _ => trivial⟩

theorem vouches_confined {effect : Rust α}
    (confined : Confined (Free ssl session doc) effect yields)
    (past : List (Event sidecar)) :
    VouchesFor ssl session doc effect past := by
  refine (@Confined.follows _ _ _ _ (vouching ssl session doc) _ confined
    (fun _ => True) ?_ past trivial).mono fun _ _ _ => trivial
  intro _ command reply _ free
  exact ⟨_, ⟨rfl, free _⟩, trivial⟩

theorem vouches_bind {effect : Rust α} {rest : α → Rust β}
    (first : VouchesFor ssl session doc effect past)
    (later : ∀ value past, VouchesFor ssl session doc (rest value) past) :
    VouchesFor ssl session doc (effect >>= rest : Rust β) past := by
  apply Typestate.follows_bind
  apply Typestate.Follows.mono first
  intro outcome after _
  cases outcome with
  | ok value => exact later value after
  | err error => trivial
  | panicked message => trivial

/-- Free commands first, and the rest from wherever they lead. -/
theorem vouches_free {effect : Rust α} {rest : α → Rust β}
    (confined : Confined (Free ssl session doc) effect yields)
    (later : ∀ value past, VouchesFor ssl session doc (rest value) past) :
    VouchesFor ssl session doc (effect >>= rest : Rust β) past :=
  vouches_bind (vouches_confined confined past) later

theorem free_line (line : Text) :
    Confined (Free ssl session doc) (onServiceMessage session line)
      fun _ => True :=
  confined_send fun _ => trivial

/-- What the handshake sends. -/
def Shakes : Command → Prop
  | .randBytes _ | .request (.pair ..) => True
  | _ => False

/-- A handshake after a PIN and a salt is vouched for by these. -/
theorem vouches_pair {pin url : Text} {shown : Except Text Unit}
    {salt : Except Text (Drawn 16)} {before : List (Event sidecar)}
    (begun : past = before ++
      [⟨.control (.event session (.pairPrompt pin url)), shown⟩,
        ⟨.randBytes 16, salt⟩]) :
    (vouching ssl session doc).Follows
      ((clientOf doc identity).pair ssl (saltOf salt)
        (deriveAesKey ssl (saltOf salt) pin))
      (fun outcome (after : List (Event sidecar)) => ∃ own,
        after = past ++ own ∧ Concluded ssl (clientOf doc identity)
          (saltOf salt) (deriveAesKey ssl (saltOf salt) pin) outcome own)
      past := by
  have confined : Confined Shakes
      ((clientOf doc identity).pair ssl (saltOf salt)
        (deriveAesKey ssl (saltOf salt) pin)) fun _ => True :=
    confined_pair trivial fun _ _ _ => trivial
  refine @Confined.simulate _ _ _ _ _ (vouching ssl session doc) _ _ _ _
    confined follows_judgedPair
    (fun (own all : List (Event sidecar)) => all = past ++ own) ?_
    (List.append_nil _).symm
  rintro own command reply after _ rfl shakes ⟨rfl, judged⟩
  refine ⟨_, ⟨rfl, ?_⟩, List.append_assoc ..⟩
  cases command with
  | request request =>
      cases request with
      | pair host port query =>
          intro disclosing
          obtain ⟨_, justified⟩ := judged host port query reply rfl
          obtain ⟨transcript, draw, rfl, proven⟩ := justified disclosing
          exact ⟨identity, draw, before, pin, url, shown, salt, transcript,
            by rw [begun], proven⟩
      | _ => exact absurd shakes id
  | randBytes => trivial
  | _ => exact absurd shakes id

/-- The end of `pairWithHost`. -/
def settlePairing (ssl : OpenSsl) (session : UInt32)
    (doc : MoonlightConnectDoc) (identity : MoonlightIdentity) (pin : Text)
    (salt : Bytes) : Rust Unit := do
  match ← Effect.attempt ((clientOf doc identity).pair ssl salt
      (deriveAesKey ssl salt pin)) with
  | .ok () =>
      onPairFinished session none
      onServiceMessage session (lit "Paired")
  | .error error =>
      onPairFinished session (some error)
      Effect.throw error

theorem vouches_settlePairing {pin url : Text} {shown : Except Text Unit}
    {salt : Except Text (Drawn 16)} {before : List (Event sidecar)}
    (begun : past = before ++
      [⟨.control (.event session (.pairPrompt pin url)), shown⟩,
        ⟨.randBytes 16, salt⟩]) :
    VouchesFor ssl session doc
      (settlePairing ssl session doc identity pin (saltOf salt)) past := by
  apply Typestate.follows_bind
  apply Typestate.follows_attempt
  apply Typestate.Follows.mono (vouches_pair begun)
  rintro outcome _ ⟨own, rfl, concluded⟩
  cases outcome with
  | panicked message => trivial
  | err error =>
      have failed : Confined (Free ssl session doc)
          (onPairFinished session (some error)) fun _ => True :=
        confined_send fun _ => trivial
      apply vouches_free failed
      intro _ _
      trivial
  | ok paired =>
      obtain ⟨transcript, draw, secret, body, rfl, proven, accepted⟩ :=
        concluded rfl
      apply Typestate.follows_bind
      apply Typestate.follows_bind
      apply Typestate.follows_perform
      intro written
      refine ⟨_, ⟨rfl, rfl, identity, draw, secret, body, ?_, accepted⟩, ?_⟩
      · exact ⟨before, pin, url, shown, salt, transcript, by rw [begun], proven⟩
      apply Typestate.follows_then
      exact vouches_confined (free_line _) _

theorem vouches_pairWithHost :
    VouchesFor libraries.openSsl session doc
      (pairWithHost libraries session doc identity) past := by
  apply vouches_free (confined_randomPin fun _ => trivial)
  intro pin past
  apply vouches_free (free_line _)
  intro _ past
  -- The prompt.
  apply Typestate.follows_bind
  apply Typestate.follows_bind
  apply Typestate.follows_perform
  intro shown
  refine ⟨_, ⟨rfl, trivial⟩, ?_⟩
  apply Typestate.follows_then
  -- The salt.
  apply Typestate.follows_bind
  apply Typestate.follows_bind
  apply Typestate.follows_perform
  intro salt
  refine ⟨_, ⟨rfl, trivial⟩, ?_⟩
  cases salt with
  | ok bytes =>
      apply PairingClient.follows_new ?_ fun _ _ => trivial
      exact @vouches_settlePairing _ session doc identity _ pin _ shown
        (.ok bytes) past (List.append_assoc ..)
  | error error =>
      apply PairingClient.follows_new ?_ fun _ _ => trivial
      exact @vouches_settlePairing _ session doc identity _ pin _ shown
        (.error error) past (List.append_assoc ..)

theorem vouches_withIdentity :
    VouchesFor libraries.openSsl session doc
      (withIdentity libraries session doc identity) past := by
  apply vouches_free (confined_performResult (fun _ => by trivial)
    fun _ _ _ => trivial)
  intro runtime past
  apply vouches_free (free_line _)
  intro _ past
  apply vouches_free (confined_learnServerInfo (fun _ => trivial)
    (fun _ _ => trivial) fun _ _ => trivial)
  intro info past
  apply Typestate.follows_if
  · intro unpaired
    apply vouches_bind vouches_pairWithHost
    intro _ past
    exact launches_launchSession.vouches past
  · intro paired
    exact launches_launchSession.vouches past

theorem vouches_worker :
    VouchesFor libraries.openSsl session doc (worker libraries session doc)
      past := by
  have runs : VouchesFor libraries.openSsl session doc
      (runMoonlight libraries session doc) past := by
    apply vouches_free (confined_settleIdentity (fun _ => trivial)
      fun _ _ _ _ => trivial)
    intro identity past
    exact vouches_withIdentity
  apply Typestate.Follows.bind
  apply Typestate.Follows.mono runs
  intro outcome after _
  apply Typestate.Follows.bind
  have sent : VouchesFor libraries.openSsl session doc
      (onClosed session (closeReason outcome)) after :=
    vouches_confined (confined_send fun _ => by trivial) after
  exact sent.mono fun _ _ _ => trivial

theorem vouching_sound :
    (vouching ssl session doc).Sound (Main.bodies libraries) := by
  rintro _ past rfl
  have launches : LaunchesOnly session doc ⟨[], [], []⟩
      (frameLoopBody session doc) := launches_frameLoopBody
  exact launches.vouches past

/-- Whatever needs a proven host comes right after one. -/
theorem vouched_of_run {rest : List (Event sidecar)} {event : Event sidecar}
    {finish : Program sidecar Unit}
    (run : Program.Run (Main.bodies libraries) (worker libraries session doc)
      (past ++ event :: rest) finish) :
    Vouches libraries.openSsl session doc past event.command := by
  have vouches : VouchesFor libraries.openSsl session doc
      (worker libraries session doc) [] := vouches_worker
  obtain ⟨after, path, _⟩ := Typestate.follows_run vouching_sound run vouches
  obtain ⟨before, later, first, next, _⟩ := path.split rfl
  obtain rfl := path_vouching first
  exact next.2

end

end Worker

end MoonlightAddon
