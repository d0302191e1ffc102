import MoonlightAddon.Allowance
import MoonlightAddon.Worker.Footing

/-!
# How long an engine thread can go on

Every function of the thread performs a bounded number of commands; only the
frame loop goes on for as long as the stop flag reads false.  Reading it false
is what fills up the allowance of the thread.
-/

namespace MoonlightAddon

namespace Worker

open Effect NvHttp PairingClient Program Session Typestate

/-- What a thread may still do once its stop flag is set. -/
def windDown : Nat := 26

/-- The frame loop needs its check and leaves enough to stop the stream, to
release the host and to report the end. -/
def frameLoopTerms : LoopName → Option Terms
  | .frameLoop _ _ => some ⟨7, 6⟩
  | _ => none

def rationed : Typestate sidecar :=
  rationing (fun event => isGoAhead event = true) windDown frameLoopTerms

section Parts

variable {libraries : Libraries} {session : UInt32} {doc : MoonlightConnectDoc}
  {identity : MoonlightIdentity} {host : Text} {port : UInt16}

theorem brief_lift {α : Type} (outcome : Outcome α) {count : Nat} :
    Brief (lift outcome) count :=
  brief_done outcome

theorem brief_send (message : Proto.AddonMsg) : Brief (send message) 1 := by
  apply brief_bind (brief_perform _) le_rfl
  intro reply
  exact brief_pure ()

theorem brief_drawOrZero (count : Nat) : Brief (drawOrZero count) 1 := by
  apply brief_bind (brief_perform _) le_rfl
  intro reply
  cases reply with
  | ok bytes => exact brief_pure _
  | error error => exact brief_pure _

theorem brief_newUuid : Brief newUuid 1 := by
  apply brief_bind (brief_drawOrZero 16) le_rfl
  intro bytes
  exact brief_pure _

theorem brief_rand16 : Brief rand16 1 :=
  brief_performResult _ _

theorem brief_httpGet (label : Text) (request : HttpRequest) :
    Brief (httpGet label request) 1 :=
  brief_performResult _ _

/-- A request with a fresh uuid, once its client is there. -/
theorem brief_client {α : Type} {client : Outcome Unit} {label : Text}
    {request : Text → HttpRequest} {rest : Text → Rust α}
    (later : ∀ body, Brief (rest body) 0) :
    Brief (do
      let uuid ← newUuid
      lift client
      let body ← httpGet label (request uuid)
      rest body) 2 := by
  apply brief_bind brief_newUuid (by decide)
  intro uuid
  apply brief_bind (brief_lift _) (Nat.zero_le _)
  intro _
  exact brief_bind (brief_httpGet _ _) le_rfl later

theorem brief_checked {α : Type} {check : Outcome Unit} {result : Outcome α}
    {count : Nat} :
    Brief (do
      lift check
      lift result) count := by
  apply brief_bind (brief_lift _) (Nat.zero_le _)
  intro _
  exact brief_lift _

theorem brief_serverInfo (uniqueId : Text) :
    Brief (serverInfo libraries host port uniqueId) 2 := by
  apply brief_bind brief_newUuid (by decide)
  intro uuid
  apply brief_bind (brief_lift _) (Nat.zero_le _)
  intro client
  apply brief_bind (brief_httpGet _ _) le_rfl
  intro body
  exact brief_checked

theorem brief_serverInfoHttps :
    Brief (serverInfoHttps libraries identity host port) 2 :=
  brief_client fun _ => brief_checked

theorem brief_appList : Brief (appList libraries identity host port) 2 :=
  brief_client fun _ => brief_checked

theorem brief_cancel : Brief (cancel libraries identity host port) 2 :=
  brief_client fun _ => brief_lift _

theorem brief_launch (appId width height fps : UInt32) :
    Brief (launch libraries identity host port appId width height fps) 4 := by
  apply brief_bind brief_rand16 (by decide)
  intro aesKey
  apply brief_bind (brief_performResult _ _) (by decide)
  intro idBytes
  apply brief_client
  intro body
  apply brief_bind (brief_lift _) le_rfl
  intro _
  exact brief_pure _

theorem brief_pairReq (client : PairingClient) (params : List (Text × Text)) :
    Brief (client.pairReq params) 2 := by
  apply brief_bind brief_newUuid (by decide)
  intro uuid
  apply brief_bind (brief_httpGet _ _) le_rfl
  intro body
  apply brief_bind (brief_lift _) le_rfl
  intro _
  exact brief_pure _

/-- Four requests and two draws. -/
theorem brief_pair (ssl : OpenSsl) (client : PairingClient)
    (salt aesKey : Bytes) : Brief (client.pair ssl salt aesKey) 10 := by
  apply brief_bind (brief_pairReq client _) (by decide)
  intro body
  apply brief_bind (brief_lift _) (Nat.zero_le _)
  intro certificate
  apply brief_bind brief_rand16 (by decide)
  intro challenge
  apply brief_bind (brief_lift _) (Nat.zero_le _)
  intro encrypted
  apply brief_bind (brief_pairReq client _) (by decide)
  intro body
  apply brief_bind (brief_lift _) (Nat.zero_le _)
  intro response
  apply brief_bind (brief_lift _) (Nat.zero_le _)
  intro own
  apply brief_bind brief_rand16 (by decide)
  intro secret
  apply brief_bind (brief_lift _) (Nat.zero_le _)
  intro hashed
  apply brief_bind (brief_pairReq client _) (by decide)
  intro body
  apply brief_bind (brief_lift _) (Nat.zero_le _)
  intro pairingSecret
  apply brief_bind (brief_lift _) (Nat.zero_le _)
  intro _
  apply brief_bind (brief_lift _) (Nat.zero_le _)
  intro _
  apply brief_bind (brief_lift _) (Nat.zero_le _)
  intro secret
  apply brief_bind (brief_pairReq client _) (by decide)
  intro body
  apply brief_bind (brief_lift _) (Nat.zero_le _)
  intro paired
  cases paired with
  | true => exact brief_pure ()
  | false => exact brief_done _

theorem brief_settleIdentity : Brief (settleIdentity session doc) 2 := by
  unfold settleIdentity
  cases restoreIdentity doc with
  | some identity => exact brief_pure _
  | none =>
      apply brief_bind (brief_performResult _ _) (by decide)
      intro identity
      apply brief_bind (brief_send _) le_rfl
      intro _
      exact brief_pure _

theorem brief_learnServerInfo :
    Brief (learnServerInfo libraries doc identity) 4 := by
  apply brief_bind (brief_attempt brief_serverInfoHttps) (by decide)
  intro result
  cases result with
  | ok info => exact brief_pure _
  | error error => exact brief_serverInfo _

theorem brief_pairWithHost :
    Brief (pairWithHost libraries session doc identity) 16 := by
  apply brief_bind
    (brief_bind (brief_drawOrZero 2) le_rfl fun _ => brief_pure _) (by decide)
  intro pin
  apply brief_bind (brief_send _) (by decide)
  intro _
  apply brief_bind (brief_send _) (by decide)
  intro _
  apply brief_bind (brief_drawOrZero 16) (by decide)
  intro salt
  apply brief_bind (brief_lift _) (Nat.zero_le _)
  intro client
  apply brief_bind (brief_attempt (brief_pair _ client salt _)) (by decide)
  intro result
  cases result with
  | ok paired =>
      apply brief_bind (brief_send _) (by decide)
      intro _
      exact brief_send _
  | error error =>
      apply brief_bind (brief_send _) (by decide)
      intro _
      exact brief_done _

theorem brief_startStream (opts : Stream.StreamOptions) :
    Brief (Stream.startStream opts) 5 := by
  apply brief_bind (brief_perform _) (by decide)
  intro _
  apply brief_bind (brief_perform _) (by decide)
  intro _
  apply brief_bind (brief_lift _) (Nat.zero_le _)
  intro address
  apply brief_bind (brief_lift _) (Nat.zero_le _)
  intro appVersion
  apply brief_bind (brief_lift _) (Nat.zero_le _)
  intro gfeVersion
  apply brief_bind (brief_perform _) (by decide)
  intro _
  apply brief_bind (brief_perform _) (by decide)
  intro code
  by_cases failed : code ≠ 0
  · rw [if_pos failed]
    apply brief_bind (brief_perform _) le_rfl
    intro _
    exact brief_done _
  · rw [if_neg failed]
    exact brief_pure ()

theorem brief_stopStream (caller : Caller) :
    Brief (Stream.stopStream caller) 3 := by
  apply brief_bind (brief_perform _) (by decide)
  intro _
  apply brief_bind (brief_perform _) (by decide)
  intro _
  exact brief_perform _

theorem brief_releaseHost : Brief (releaseHost libraries doc identity) 2 := by
  apply brief_bind (brief_attempt brief_cancel) le_rfl
  intro result
  exact brief_pure ()

theorem brief_frameSink (update : FrameUpdate) :
    Brief (frameSink session [update]) 1 := by
  apply brief_bind (brief_perform _) le_rfl
  intro reply
  cases reply with
  | ok written => exact brief_pure ()
  | error error => exact brief_pure ()

end Parts

section Thread

variable {libraries : Libraries} {session : UInt32} {doc : MoonlightConnectDoc}
  {identity : MoonlightIdentity}

/-- Enough to report the end. -/
def ReportsLater (_ : Outcome Unit) (left : Nat) : Prop :=
  1 ≤ left

theorem rationed_brief (left : Nat) {α : Type} {effect : Rust α}
    {rest : α → Rust Unit} {count : Nat} (brief : Brief effect count)
    (later : ∀ value after, left ≤ after →
      rationed.Follows (rest value) ReportsLater after)
    (reports : 1 ≤ left) {before : Nat} (enough : count + left ≤ before) :
    rationed.Follows (effect >>= rest : Rust Unit) ReportsLater before :=
  follows_brief_bind left brief later (fun _ _ remains => reports.trans remains)
    (fun _ _ remains => reports.trans remains) enough

/-- The stop flag takes one from the allowance, or fills it up. -/
theorem rationed_loadStop {rest : Bool → Rust Unit}
    {post : Outcome Unit → Nat → Prop} {before : Nat}
    (stopped : ∀ after, before ≤ after + 1 →
      rationed.Follows (rest true) post after)
    (running : rationed.Follows (rest false) post windDown)
    (enough : 1 ≤ before) :
    rationed.Follows (issue .loadStop >>= rest : Rust Unit) post before := by
  intro reply
  cases reply with
  | false => exact ⟨windDown, .inr ⟨rfl, le_rfl⟩, running⟩
  | true =>
      refine ⟨before - 1, .inl ?_, stopped (before - 1) ?_⟩
      · show before - 1 + 1 ≤ before
        omega
      · omega

theorem rationed_frameLoop {other : UInt32} {otherDoc : MoonlightConnectDoc}
    {before : Nat} (enough : 7 ≤ before) :
    rationed.Follows (frameLoop other otherDoc)
      (fun _ (left : Nat) => 6 ≤ left) before :=
  ⟨⟨_, rfl, enough⟩, fun _ _ leaves => leaves _ rfl⟩

theorem rationed_frameLoopBody {before : Nat} (enough : 7 ≤ before) :
    rationed.Follows (frameLoopBody session doc)
      (fun _ (left : Nat) => 6 ≤ left) before := by
  apply rationed_loadStop
  · intro after remains
    show 6 ≤ after
    omega
  · apply follows_brief_bind 20 (brief_perform _)
    · intro terminated after remains
      cases terminated with
      | true =>
          apply follows_short 6
            (brief_bind (brief_stopStream .worker) le_rfl fun _ => brief_done _)
          · exact fun _ _ leaves => leaves
          · omega
      | false =>
          apply follows_brief_bind 18 (brief_perform _)
          · intro received after remains
            cases received with
            | unit unit =>
                apply follows_brief_bind 7 (brief_frameSink _)
                · intro _ after remains
                  exact rationed_frameLoop remains
                · exact fun _ _ remains => Nat.le_of_succ_le remains
                · exact fun _ _ remains => Nat.le_of_succ_le remains
                · omega
            | timeout => exact rationed_frameLoop (by omega)
            | disconnected => exact (by decide : 6 ≤ 18).trans remains
          · exact fun _ _ remains => (by decide : 6 ≤ 18).trans remains
          · exact fun _ _ remains => (by decide : 6 ≤ 18).trans remains
          · omega
    · exact fun _ _ remains => (by decide : 6 ≤ 20).trans remains
    · exact fun _ _ remains => (by decide : 6 ≤ 20).trans remains
    · decide
  · omega

theorem rationed_sound (libraries : Libraries) :
    rationed.Sound (Main.bodies libraries) := by
  rintro loop before ⟨term, same, enough⟩
  cases loop with
  | frameLoop session doc =>
      cases same
      apply (rationed_frameLoopBody enough).mono
      rintro _ after leaves _ ⟨⟩
      exact leaves
  | readControl | readerLoop => cases same

theorem rationed_streamSession {info : ServerInfo} {launched : LaunchSession}
    {before : Nat} (enough : 19 ≤ before) :
    rationed.Follows
      (streamSession libraries session doc identity info launched) ReportsLater
      before := by
  apply rationed_brief 14 (brief_attempt (brief_startStream _))
  · intro result after remains
    cases result with
    | error error =>
        apply rationed_brief 1 brief_releaseHost
        · exact fun _ _ leaves => leaves
        · exact le_rfl
        · omega
    | ok started =>
        apply rationed_brief 13 (brief_send _)
        · intro _ after remains
          apply rationed_brief 12 (brief_send _)
          · intro _ after remains
            apply follows_bind
            apply (rationed_frameLoop (by omega)).mono
            intro outcome (after : Nat) leaves
            have leaves : 6 ≤ after := leaves
            cases outcome with
            | err error => exact (by decide : 1 ≤ 6).trans leaves
            | panicked message => exact (by decide : 1 ≤ 6).trans leaves
            | ok finished =>
                apply rationed_brief 3 (brief_stopStream .worker)
                · intro _ after remains
                  exact follows_short 1 brief_releaseHost
                    (fun _ _ leaves => leaves) (by omega)
                · decide
                · omega
          · decide
          · omega
        · decide
        · omega
  · decide
  · omega

theorem rationed_launchSession {info : ServerInfo} {before : Nat}
    (enough : 2 ≤ before) :
    rationed.Follows (launchSession libraries session doc identity info) ReportsLater
      before := by
  apply rationed_loadStop
  · intro after remains
    show 1 ≤ after
    omega
  · apply rationed_brief 24 brief_appList
    · intro apps after remains
      apply rationed_brief 24 (brief_lift _)
      · intro app after remains
        apply rationed_brief 23 (brief_send _)
        · intro _ after remains
          apply rationed_brief 19 (brief_launch _ _ _ _)
          · intro launched after remains
            exact rationed_streamSession remains
          · decide
          · omega
        · decide
        · omega
      · decide
      · show 0 + 24 ≤ after
        omega
    · decide
    · decide
  · omega

theorem rationed_runMoonlight :
    rationed.Follows (runMoonlight libraries session doc) ReportsLater windDown := by
  apply rationed_brief 24 brief_settleIdentity
  · intro identity after remains
    apply rationed_brief 23 (brief_performResult _ _)
    · intro _ after remains
      apply rationed_brief 22 (brief_send _)
      · intro _ after remains
        apply rationed_brief 18 brief_learnServerInfo
        · intro info after remains
          apply follows_if
          · intro unpaired
            apply rationed_brief 2 brief_pairWithHost
            · intro _ after remains
              exact rationed_launchSession remains
            · decide
            · omega
          · intro paired
            exact rationed_launchSession ((by decide : 2 ≤ 18).trans remains)
        · decide
        · omega
      · decide
      · omega
    · decide
    · omega
  · decide
  · decide

theorem rationed_worker :
    rationed.Follows (worker libraries session doc) (fun _ _ => True)
      windDown := by
  apply Follows.bind
  apply rationed_runMoonlight.mono
  intro outcome after remains
  have brief : Program.Short (reportClosed session outcome) (1 + 0) :=
    Program.Short.bind (brief_send _) fun _ => trivial
  exact follows_short 0 brief (fun _ _ _ => trivial) remains

/-- In every run of the thread, whatever it has done before, what follows is
short as soon as the stop flag reads false no more. -/
theorem length_of_stopped {past future : List (Event sidecar)}
    {finish : Program sidecar Unit}
    (run : Program.Run (Main.bodies libraries) (worker libraries session doc)
      (past ++ future) finish)
    (stopped : ∀ event ∈ future, isGoAhead event = false) :
    future.length ≤ windDown := by
  obtain ⟨left, path, _⟩ :=
    follows_run (rationed_sound libraries) run rationed_worker
  apply length_of_unrenewed path le_rfl
  intro event member renewed
  rw [stopped event member] at renewed
  cases renewed

end Thread

end Worker

end MoonlightAddon
