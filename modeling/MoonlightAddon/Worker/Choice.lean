import MoonlightAddon.Core.Apps
import MoonlightAddon.Worker.Conversation
import MoonlightAddon.Worker.Launching

/-!
# Which application a thread launches

The discipline of launching keeps the whole trace: an application is launched
only if it is the one chosen from the list that the host has answered with.
-/

namespace MoonlightAddon

open Effect NvHttp Session

/-- The application a command asks the host to launch. -/
def launchId : Command → Option UInt32
  | .request (.launch _ _ _ _ appId ..) => some appId
  | _ => none

def launchedIds (trace : List (Event sidecar)) : List UInt32 :=
  trace.filterMap fun event => launchId event.command

@[simp] theorem launchedIds_nil : launchedIds [] = [] := rfl

@[simp] theorem launchedIds_append (first second : List (Event sidecar)) :
    launchedIds (first ++ second) = launchedIds first ++ launchedIds second :=
  List.filterMap_append

theorem launchedIds_snoc {past : List (Event sidecar)} {event : Event sidecar}
    (none : launchedIds past = []) (quiet : launchId event.command = .none) :
    launchedIds (past ++ [event]) = [] := by
  rw [launchedIds_append, none]
  simp [launchedIds, quiet]

namespace Worker

/-- Whatever document the host has answered with, this is the application chosen
from it. -/
def Entitled (past : List (Event sidecar)) (appId : UInt32) : Prop :=
  ∀ document : AppDocument, document.AnswersIn past →
    ∃ app, Chosen document.apps app ∧ appId = app.id

/-- What was done since, without another launch. -/
def Later (past after : List (Event sidecar)) : Prop :=
  ∃ own, after = past ++ own ∧ launchedIds own = []

/-- The discipline of launching. -/
def choosing : Typestate sidecar where
  State := List (Event sidecar)
  Next past event after := after = past ++ [event] ∧
    ∀ appId, launchId event.command = some appId → Entitled past appId
  Pre loop _ := ∃ session doc, loop = .frameLoop session doc
  Post _ before _ after := Later before after

variable {libraries : Libraries} {session : UInt32} {doc : MoonlightConnectDoc}
  {identity : MoonlightIdentity} {past trace : List (Event sidecar)} {α β : Type}

section Steps

theorem Entitled.later {own : List (Event sidecar)} {appId : UInt32}
    (entitled : Entitled past appId) : Entitled (past ++ own) appId :=
  fun document answers => entitled document answers.earlier

theorem later_refl (past : List (Event sidecar)) : Later past past :=
  ⟨[], (List.append_nil past).symm, rfl⟩

theorem later_step {after : List (Event sidecar)} {event : Event sidecar}
    (later : Later past after) (quiet : launchId event.command = none) :
    Later past (after ++ [event]) := by
  obtain ⟨own, rfl, none⟩ := later
  exact ⟨own ++ [event], List.append_assoc .., launchedIds_snoc none quiet⟩

theorem Later.trans {middle after : List (Event sidecar)}
    (first : Later past middle) (second : Later middle after) :
    Later past after := by
  obtain ⟨own, rfl, none⟩ := first
  obtain ⟨more, rfl, nothing⟩ := second
  exact ⟨own ++ more, List.append_assoc .., by simp [none, nothing]⟩

/-- A command that launches nothing is always in order. -/
theorem next_of_quiet {command : Command} (quiet : launchId command = none)
    (reply : command.Reply) :
    choosing.Next past ⟨command, reply⟩ (past ++ [⟨command, reply⟩]) :=
  ⟨rfl, fun appId launches => by rw [quiet] at launches; cases launches⟩

theorem chooses_issue {command : Command}
    {post : Outcome command.Reply → List (Event sidecar) → Prop}
    (quiet : launchId command = none)
    (holds : ∀ reply, post (.ok reply) (past ++ [⟨command, reply⟩])) :
    choosing.Follows (issue command) post past :=
  Typestate.follows_perform fun reply =>
    ⟨past ++ [⟨command, reply⟩], next_of_quiet quiet reply, holds reply⟩

theorem launchId_of_streaming {command : Command}
    (streams : Streaming session doc identity command) :
    launchId command = none := by
  cases streams <;> rfl

/-- Nothing is launched once the stream is started. -/
theorem streams_later {effect : Rust α}
    (streams : StreamsOnly session doc identity effect)
    (past : List (Event sidecar)) :
    choosing.Follows effect (fun _ after => Later past after) past := by
  refine @Bounded.follows _ _ _ _ choosing _ streams (Later past) ?_ ?_ past
    (later_refl past)
  · intro state command reply later streaming
    have quiet := launchId_of_streaming streaming
    exact ⟨_, next_of_quiet quiet reply, later_step later quiet⟩
  · intro loop state later own
    exact ⟨⟨session, doc, own⟩, fun _ _ more => later.trans more⟩

theorem confined_later {effect : Rust α} {yields : α → Prop}
    (confined : Confined (fun command => launchId command = none) effect yields)
    (past : List (Event sidecar)) :
    choosing.Follows effect (fun _ after => Later past after) past := by
  refine (@Confined.follows _ _ _ _ choosing _ confined (Later past) ?_ past
    (later_refl past)).mono fun _ _ held => held.1
  intro state command reply later quiet
  exact ⟨_, next_of_quiet quiet reply, later_step later quiet⟩

theorem choosing_sound (libraries : Libraries) :
    choosing.Sound (Main.bodies libraries) := by
  rintro _ past ⟨session, doc, rfl⟩
  exact streams_later (@streams_frameLoopBody session doc ⟨[], [], []⟩) past

theorem path_choosing {after : List (Event sidecar)}
    (path : choosing.Path past trace after) : after = past ++ trace :=
  path.history id fun _ _ _ next => next.1

end Steps

/-! ### The two requests -/

theorem chooses_appList :
    choosing.Follows (appList libraries identity doc.host doc.httpsPort)
      (fun outcome after => ∃ own, after = past ++ own ∧ launchedIds own = [] ∧
        ∀ document, ListedBy libraries identity doc.host doc.httpsPort document
          outcome own) past := by
  have confined : Confined (fun command => launchId command = none)
      (appList libraries identity doc.host doc.httpsPort) fun _ => True :=
    confined_appList rfl fun _ => rfl
  have simulated := @Confined.simulate _ _ _ _ _ choosing _ _ _ past confined
    records_appList
    (fun (own all : List (Event sidecar)) =>
      all = past ++ own ∧ launchedIds own = [])
    (by
      rintro own command reply _ _ ⟨rfl, none⟩ quiet rfl
      exact ⟨_, next_of_quiet quiet reply, List.append_assoc ..,
        launchedIds_snoc none quiet⟩)
    ⟨(List.append_nil past).symm, rfl⟩
  apply simulated.mono
  rintro outcome _ ⟨own, ⟨rfl, none⟩, listed⟩
  exact ⟨own, rfl, none, listed⟩

/-- A draw failed. -/
def AnyDrawFailed (trace : List (Event sidecar)) : Prop :=
  ∃ count error, ⟨.randBytes count, .error error⟩ ∈ trace

/-- What a call of `launch` has done when it returns. -/
def LaunchDone (libraries : Libraries) (identity : MoonlightIdentity)
    (appId : UInt32) (own : List (Event sidecar)) : Prop :=
  launchedIds own = [appId] ∨
    launchedIds own = [] ∧
      (httpsClient libraries identity = .ok () → AnyDrawFailed own)

theorem records_launchDone {host : Text} {port : UInt16}
    {appId width height fps : UInt32} :
    (Typestate.recorder sidecar).Follows
      (launch libraries identity host port appId width height fps)
      (fun _ own => LaunchDone libraries identity appId own)
      ([] : List (Event sidecar)) := by
  apply Typestate.follows_bind
  apply Typestate.records_performResult
  intro keyReply
  cases keyReply with
  | error error => exact .inr ⟨rfl, fun _ => ⟨16, error, List.mem_cons_self⟩⟩
  | ok aesKey =>
  apply Typestate.follows_bind
  apply Typestate.records_performResult
  intro idReply
  cases idReply with
  | error error =>
      exact .inr ⟨rfl, fun _ => ⟨4, error, List.mem_cons_of_mem _ List.mem_cons_self⟩⟩
  | ok idBytes =>
  apply Typestate.follows_bind
  apply records_newUuid
  intro uuidBytes uuidReply
  apply Typestate.follows_bind
  cases client : httpsClient libraries identity with
  | err error => exact .inr ⟨rfl, fun built => by rw [client] at built; cases built⟩
  | panicked message =>
      exact .inr ⟨rfl, fun built => by rw [client] at built; cases built⟩
  | ok built =>
  apply Typestate.follows_bind
  apply Typestate.records_performResult
  intro reply
  have done : LaunchDone libraries identity appId
      [⟨.randBytes 16, .ok aesKey⟩, ⟨.randBytes 4, .ok idBytes⟩,
        ⟨.randBytes 16, uuidReply⟩,
        ⟨.request (.launch host port identity.uniqueId (formatUuid uuidBytes)
          appId width height fps (toHex aesKey.1) (rikeyIdOf idBytes.1)),
          reply⟩] := .inl rfl
  cases reply with
  | sendFailed error => exact done
  | readFailed error => exact done
  | body text =>
  apply Typestate.follows_bind
  cases checkLaunch text with
  | err error => exact done
  | panicked message => exact done
  | ok checked => exact done

theorem chooses_launch {appId width height fps : UInt32}
    (entitled : Entitled past appId) :
    choosing.Follows
      (launch libraries identity doc.host doc.httpsPort appId width height fps)
      (fun _ after => ∃ own, after = past ++ own ∧
        LaunchDone libraries identity appId own) past := by
  have confined : Confined
      (fun command => ∀ other, launchId command = some other → other = appId)
      (launch libraries identity doc.host doc.httpsPort appId width height fps)
      fun _ => True :=
    confined_launch (fun _ => nofun) fun _ _ _ other same =>
      (Option.some.inj same).symm
  have simulated := @Confined.simulate _ _ _ _ _ choosing _ _ _ past confined
    records_launchDone
    (fun (own all : List (Event sidecar)) => all = past ++ own)
    (by
      rintro own command reply _ _ rfl only rfl
      refine ⟨_, ⟨rfl, ?_⟩, List.append_assoc ..⟩
      intro other launches
      obtain rfl := only other launches
      exact entitled.later)
    (List.append_nil past).symm
  apply simulated.mono
  rintro outcome _ ⟨own, rfl, done⟩
  exact ⟨own, rfl, done⟩

/-! ### The thread -/

/-- The chosen application was launched, unless a draw failed; or there was none
to choose. -/
def ChoiceMade (document : AppDocument) (outcome : Outcome Unit)
    (own : List (Event sidecar)) : Prop :=
  (document.apps = [] ∧ launchedIds own = [] ∧ outcome = .err noApps) ∨
    ∃ app, Chosen document.apps app ∧
      (launchedIds own = [app.id] ∨ launchedIds own = [] ∧ AnyDrawFailed own)

/-- What becomes of a session that is not to stop, and whose client is answered
with the document. -/
def Concludes (libraries : Libraries) (identity : MoonlightIdentity)
    (document : AppDocument) (outcome : Outcome Unit)
    (own : List (Event sidecar)) : Prop :=
  own.head? = some ⟨.loadStop, false⟩ →
    httpsClient libraries identity = .ok () → document.AnswersIn own →
      ChoiceMade document outcome own

theorem AnyDrawFailed.within {own before after : List (Event sidecar)}
    (failed : AnyDrawFailed own) : AnyDrawFailed (before ++ own ++ after) := by
  obtain ⟨count, error, member⟩ := failed
  exact ⟨count, error,
    List.mem_append_left after (List.mem_append_right before member)⟩

/-- Nothing else was launched before or after. -/
theorem LaunchDone.within {own before after : List (Event sidecar)}
    {appId : UInt32} (done : LaunchDone libraries identity appId own)
    (first : launchedIds before = []) (last : launchedIds after = []) :
    LaunchDone libraries identity appId (before ++ own ++ after) := by
  obtain launched | ⟨unlaunched, failed⟩ := done
  · exact .inl (by simp [first, last, launched])
  · exact .inr ⟨by simp [first, last, unlaunched],
      fun built => (failed built).within⟩

/-- From the chosen application on. -/
theorem chooses_launchApp {info : ServerInfo} {app : HostApp}
    (entitled : Entitled past app.id) :
    choosing.Follows
      (do
        onServiceMessage session (lit "Launching " ++ app.title ++ lit " …")
        let launched ← launch libraries identity doc.host doc.httpsPort app.id
          doc.width.toUInt32 doc.height.toUInt32 doc.fps.toUInt32
        streamSession libraries session doc identity info launched : Rust Unit)
      (fun _ after => ∃ own, after = past ++ own ∧
        LaunchDone libraries identity app.id own) past := by
  apply Typestate.follows_bind
  apply Typestate.follows_bind
  apply chooses_issue rfl
  intro reply
  apply Typestate.follows_then
  apply Typestate.follows_bind
  apply Typestate.Follows.mono (chooses_launch entitled.later)
  rintro outcome _ ⟨own, rfl, done⟩
  let line : List (Event sidecar) := [⟨.control (.event session
    (.serviceMessage (lit "Launching " ++ app.title ++ lit " …"))), reply⟩]
  have along (more : List (Event sidecar)) :
      past ++ line ++ own ++ more = past ++ (line ++ own ++ more) := by
    simp only [List.append_assoc]
  have whole (more : List (Event sidecar)) (none : launchedIds more = []) :
      LaunchDone libraries identity app.id (line ++ own ++ more) :=
    done.within rfl none
  cases outcome with
  | ok launched =>
      apply Typestate.Follows.mono (streams_later streams_streamSession _)
      rintro outcome _ ⟨more, rfl, none⟩
      exact ⟨_, along more, whole more none⟩
  | err error =>
      exact ⟨_, (List.append_nil _).symm.trans (along []), whole [] rfl⟩
  | panicked message =>
      exact ⟨_, (List.append_nil _).symm.trans (along []), whole [] rfl⟩

theorem chooses_launchSession {info : ServerInfo} :
    choosing.Follows (launchSession libraries session doc identity info)
      (fun outcome after => ∃ own, after = past ++ own ∧
        ∀ document, Concludes libraries identity document outcome own)
      past := by
  apply Typestate.follows_bind
  apply chooses_issue rfl
  intro stop
  cases stop with
  | true => exact ⟨[⟨.loadStop, true⟩], rfl, by simp [Concludes]⟩
  | false =>
  apply Typestate.follows_bind
  apply Typestate.Follows.mono chooses_appList
  rintro outcome _ ⟨own, rfl, none, listed⟩
  cases outcome with
  | err error =>
      refine ⟨_, List.append_assoc .., ?_⟩
      intro document _ client answers
      cases (listed document).listed client answers.own
  | panicked message =>
      refine ⟨_, List.append_assoc .., ?_⟩
      intro document _ client answers
      cases (listed document).listed client answers.own
  | ok apps =>
  have same (document : AppDocument) (answers : document.AnswersIn own) :
      apps = document.apps := by
    have client := (listed document).client apps rfl
    exact Outcome.ok.inj ((listed document).listed client answers)
  obtain ⟨empty, chosen⟩ | ⟨app, isChosen, chosen⟩ := chooseApp_cases apps
  · apply Typestate.follows_then
    rw [chosen]
    refine ⟨_, List.append_assoc .., ?_⟩
    intro document _ client answers
    refine .inl ⟨?_, none, rfl⟩
    rw [← same document answers.own, empty]
  · apply Typestate.follows_then
    rw [chosen]
    have entitled : Entitled (past ++ [⟨.loadStop, false⟩] ++ own) app.id := by
      intro document answers
      rw [← same document answers.own]
      exact ⟨app, isChosen, rfl⟩
    apply Typestate.Follows.mono (chooses_launchApp entitled)
    rintro outcome _ ⟨more, rfl, done⟩
    let before : List (Event sidecar) := [⟨.loadStop, false⟩] ++ own
    have along : past ++ [⟨.loadStop, false⟩] ++ own ++ more =
        past ++ (before ++ more) := by
      simp only [before, List.append_assoc]
    refine ⟨before ++ more, along, ?_⟩
    intro document _ client answers
    rw [same document answers.earlier.own] at isChosen
    refine .inr ⟨app, isChosen, ?_⟩
    have whole := @LaunchDone.within libraries identity more before [] _ done
      none rfl
    rw [List.append_nil] at whole
    obtain launched | ⟨unlaunched, failed⟩ := whole
    · exact .inl launched
    · exact .inr ⟨unlaunched, failed client⟩

/-- An effect without a launch, and the rest from wherever it leads. -/
theorem chooses_bind {effect : Rust α} {rest : α → Rust β} {yields : α → Prop}
    (confined : Confined (fun command => launchId command = none) effect yields)
    (later : ∀ value past, choosing.Follows (rest value)
      (fun _ _ => True) past) :
    choosing.Follows (effect >>= rest : Rust β) (fun _ _ => True) past := by
  apply Typestate.follows_bind
  apply Typestate.Follows.mono (confined_later confined past)
  intro outcome after _
  cases outcome with
  | ok value => exact later value after
  | err error => trivial
  | panicked message => trivial

theorem chooses_withIdentity :
    choosing.Follows (withIdentity libraries session doc identity)
      (fun _ _ => True) past := by
  have launches {info : ServerInfo} {past : List (Event sidecar)} :
      choosing.Follows (launchSession libraries session doc identity info)
        (fun _ _ => True) past :=
    chooses_launchSession.mono fun _ _ _ => trivial
  apply chooses_bind (confined_performResult rfl fun _ _ _ => trivial)
  intro runtime past
  apply chooses_bind (confined_send rfl)
  intro _ past
  apply chooses_bind (confined_learnServerInfo rfl (fun _ => rfl) fun _ => rfl)
  intro info past
  apply Typestate.follows_if
  · intro unpaired
    apply chooses_bind
      (confined_pairWithHost (fun _ => rfl) (fun _ => rfl) fun _ => rfl)
    intro _ past
    exact launches
  · intro paired
    exact launches

theorem chooses_worker :
    choosing.Follows (worker libraries session doc) (fun _ _ => True) past := by
  apply Typestate.Follows.bind
  apply Typestate.Follows.mono
    (chooses_bind (confined_settleIdentity rfl fun _ _ _ => rfl)
      fun _ _ => chooses_withIdentity)
  intro outcome after _
  apply Typestate.Follows.bind
  have sent : choosing.Follows (onClosed session (closeReason outcome))
      (fun _ _ => True) after :=
    (confined_later (confined_send rfl) after).mono fun _ _ _ => trivial
  exact sent

/-- A thread launches only what is chosen from the answers of its host. -/
theorem entitled_of_run {finish : Program sidecar Unit} {appId : UInt32}
    (run : Program.Run (Main.bodies libraries) (worker libraries session doc)
      trace finish) (launched : appId ∈ launchedIds trace) :
    Entitled trace appId := by
  obtain ⟨after, path, _⟩ := Typestate.follows_run (choosing_sound libraries)
    run (@chooses_worker libraries session doc [])
  obtain ⟨event, member, launches⟩ := List.mem_filterMap.mp launched
  obtain ⟨past, future, split⟩ := List.append_of_mem member
  obtain ⟨before, next, first, step, _⟩ := path.split split
  have entitled := step.2 appId launches
  rw [path_choosing first, List.nil_append] at entitled
  rw [split]
  exact entitled.later

end Worker

namespace Session

open Worker

/-- With a client `app_list` asks the host and returns the applications of its
document, in order; without one it returns no list. -/
def ListsApps (document : AppDocument) : Prop :=
  ∀ (libraries : Libraries) (identity : MoonlightIdentity) (host : Text)
    (port : UInt16) (bodies : (loop : LoopName) → Program sidecar loop.Result),
    (∀ trace outcome, Program.Run bodies
        (appList libraries identity host port) trace (.ret outcome) →
      ListedBy libraries identity host port document outcome trace) ∧
    (httpsClient libraries identity = .ok () → ∃ trace,
      Program.Run bodies (appList libraries identity host port) trace
        (.ret (.ok document.apps)) ∧ document.AnswersIn trace)

/-- Answered with the document, a thread launches nothing but the chosen
application, at any time; and once it has a client and is not to stop it
launches that one, unless a draw fails, or fails if there is none. -/
def LaunchesChosen (document : AppDocument) : Prop :=
  ∀ (libraries : Libraries) (session : UInt32) (doc : MoonlightConnectDoc),
    (∀ trace finish, Program.Run (Main.bodies libraries)
        (worker libraries session doc) trace finish →
      document.AnswersIn trace →
        ∀ appId ∈ launchedIds trace,
          ∃ app, Chosen document.apps app ∧ appId = app.id) ∧
    ∀ identity info trace outcome, Program.Run (Main.bodies libraries)
        (launchSession libraries session doc identity info) trace
        (.ret outcome) →
      Concludes libraries identity document outcome trace

theorem listsApps_document (document : AppDocument) : ListsApps document := by
  intro libraries identity host port bodies
  constructor
  · intro trace outcome run
    exact Typestate.recorded_of_run run records_appList document
  · exact run_appList document bodies

theorem launchesChosen_document (document : AppDocument) :
    LaunchesChosen document := by
  intro libraries session doc
  constructor
  · intro trace finish run answers appId launched
    exact entitled_of_run run launched document answers
  · intro identity info trace outcome run
    obtain ⟨after, path, own, same, concludes⟩ := Typestate.follows_run
      (choosing_sound libraries) run
      (@chooses_launchSession libraries session doc identity [] info)
    obtain rfl : after = trace := path_choosing path
    obtain rfl : after = own := same
    exact concludes document

/-- The list is read and the application is chosen as the document says, in
every run. -/
theorem app_list_and_choice (document : AppDocument) :
    ListsApps document ∧ LaunchesChosen document :=
  ⟨listsApps_document document, launchesChosen_document document⟩

def answersList (document : AppDocument) : Event sidecar → Bool
  | ⟨.request (.appList ..), reply⟩ => decide (reply = .body document.text)
  | _ => true

theorem answersIn_of_all {document : AppDocument} {trace : List (Event sidecar)}
    (all : trace.all (answersList document) = true) :
    document.AnswersIn trace := by
  intro host port uniqueId uuid reply member
  exact of_decide_eq_true (List.all_eq_true.mp all _ member)

/-- The stop flag is read first, and is clear. -/
def unstopped : List (Event sidecar) → Bool
  | ⟨.loadStop, false⟩ :: _ => true
  | _ => false

theorem head_of_unstopped {trace : List (Event sidecar)}
    (clear : unstopped trace = true) :
    trace.head? = some ⟨.loadStop, false⟩ := by
  unfold unstopped at clear
  split at clear
  · rfl
  · cases clear

/-- A cooperative host that answers with this document. -/
def listing (document : AppDocument) : Responder sidecar Nat :=
  fun polls command =>
    match command with
    | .request (.appList ..) => (.body document.text, polls)
    | command => cooperative none polls command

/-- The identity of the stored document. -/
def storedIdentity : MoonlightIdentity where
  uniqueId := MoonlightConnectDoc.stored.clientUniqueId
  certPem := Text.asBytes MoonlightConnectDoc.stored.clientCertPem
  keyPem := Text.asBytes MoonlightConnectDoc.stored.clientKeyPem

/-- What its host says of itself. -/
def towerInfo : ServerInfo where
  hostname := lit "tower"
  appVersion := lit "7.1.431.0"
  gfeVersion := lit "3.23.0.74"
  pairStatus := 1
  currentGame := 0
  state := lit "SUNSHINE_SERVER_FREE"
  httpsPort := 47984
  serverCodecModeSupport := 259

/-- A whole session with the application called "DESKTOP", the second of the
list, whose id is 7. -/
theorem app_list_and_choice_desktop :
    (∃ trace, Program.Run (Main.bodies default)
        (appList default storedIdentity (lit "10.0.0.2") 47984) trace
        (.ret (.ok [⟨3, lit "Steam"⟩, ⟨7, lit "DESKTOP"⟩]))) ∧
    ∃ trace outcome, Program.Run (Main.bodies default)
        (launchSession default 1 .stored storedIdentity towerInfo) trace
        (.ret outcome) ∧
      launchedIds trace = [7] ∧ ChoiceMade default outcome trace := by
  constructor
  · obtain ⟨trace, run, _⟩ := ((app_list_and_choice default).1 default
      storedIdentity (lit "10.0.0.2") 47984 (Main.bodies default)).2 rfl
    have apps : (default : AppDocument).apps =
        [⟨3, lit "Steam"⟩, ⟨7, lit "DESKTOP"⟩] := by decide +kernel
    rw [apps] at run
    exact ⟨trace, run⟩
  · obtain ⟨outcome, trace, run, checked⟩ := Program.exists_run_of_serve
      (fun _ trace => decide (launchedIds trace = [7]) &&
        (unstopped trace && trace.all (answersList default)))
      (show (Program.serve (listing default)
        (Program.serveLoops (listing default) (Main.bodies default) 2)
        (launchSession default 1 .stored storedIdentity towerInfo) 0).any _ =
        true by decide +kernel)
    simp only [Bool.and_eq_true, decide_eq_true_eq] at checked
    obtain ⟨launched, clear, answers⟩ := checked
    exact ⟨trace, outcome, run, launched,
      ((app_list_and_choice default).2 default 1 .stored).2 _ _ trace outcome run
        (head_of_unstopped clear) rfl (answersIn_of_all answers)⟩

end Session

end MoonlightAddon
