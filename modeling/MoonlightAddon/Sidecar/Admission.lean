import MoonlightAddon.Sidecar.Ownership
import MoonlightAddon.Sidecar.StopCheck
import MoonlightAddon.Sidecar.Threads
import MoonlightAddon.Worker.Admission
import MoonlightAddon.Worker.Vouching

/-!
# What the engines ask their hosts

In every run, an engine's thread does only what the answers of its host permit,
and trusts no host that has not proved that it knows the PIN.
-/

namespace MoonlightAddon

namespace Sidecar

open NvHttp
open Worker (asksInfo finishesPairing knows Heeds Vouches)

section

variable {libraries : Libraries} {trace : (process libraries).Trace}
  {config : (process libraries).Config} {engine : Engine}

/-- In every run, whatever an engine's thread does is permitted by what its
host has answered before. -/
theorem traffic_admitted
    (run : Machine.Run (process.start libraries) trace config)
    {past rest : List (Event sidecar)} {event : Event sidecar}
    (split : workerEvents engine trace = past ++ event :: rest) :
    (knows past).Permits event.command := by
  cases life_of_run run engine with
  | unborn idle empty =>
      obtain ⟨_, tracked⟩ := tracked_of_run run
      rw [(tracked.unborn idle).2] at split
      simp at split
  | born spawned runs =>
      rw [split] at runs
      exact Worker.permitted_of_run runs

/-- In every run, an engine whose host answered with a document that describes
it goes by that description. -/
theorem description_heeded
    (run : Machine.Run (process.start libraries) trace config)
    {document : InfoDocument} {info : ServerInfo} {request : HttpRequest}
    (describes : document.Describes info) (asks : asksInfo request = true)
    (answered : ⟨.request request, .body document.text⟩ ∈
      workerEvents engine trace) :
    Heeds info (workerEvents engine trace) := by
  cases life_of_run run engine with
  | unborn idle empty =>
      obtain ⟨_, tracked⟩ := tracked_of_run run
      rw [(tracked.unborn idle).2] at answered
      cases answered
  | born spawned runs =>
      exact Worker.heeds_of_run runs describes asks answered

/-- In every run, an engine's thread discloses its client secret, and reports
that the pairing succeeded, only right after a handshake in which the host of
its document proved that it knows the PIN shown to the user. -/
theorem pairing_vouched
    (run : Machine.Run (process.start libraries) trace config)
    {past rest : List (Event sidecar)} {event : Event sidecar}
    (split : workerEvents engine trace = past ++ event :: rest) :
    ∃ session doc, ⟨.spawn session doc, (engine, true)⟩ ∈ readerEvents trace ∧
      Vouches libraries.openSsl session doc past event.command := by
  cases life_of_run run engine with
  | unborn idle empty =>
      obtain ⟨_, tracked⟩ := tracked_of_run run
      rw [(tracked.unborn idle).2] at split
      simp at split
  | @born session doc spawned runs =>
      rw [split] at runs
      exact ⟨session, doc, spawned, Worker.vouched_of_run runs⟩

/-- A host answered a request for its information with this text. -/
def isAnswer (text : Text) : Event sidecar → Bool
  | ⟨.request request, .body body⟩ => asksInfo request && body == text
  | _ => false

theorem event_of_isAnswer {text : Text} {event : Event sidecar}
    (answer : isAnswer text event = true) :
    ∃ request, event = ⟨.request request, .body text⟩ ∧
      asksInfo request = true := by
  match event, answer with
  | ⟨.request request, .body body⟩, answer =>
      obtain ⟨asks, same⟩ := Bool.and_eq_true_iff.mp answer
      obtain rfl := eq_of_beq same
      exact ⟨request, rfl, asks⟩

end

namespace SampleHost

def describedInfo : ServerInfo where
  hostname := lit "tower"
  appVersion := lit "7.1.431.0"
  gfeVersion := lit "3.23.0.74"
  pairStatus := 1
  currentGame := 0
  state := lit "SUNSHINE_SERVER_FREE"
  httpsPort := 47984
  serverCodecModeSupport := 259

def elementOf (part : Text × Text) : Piece :=
  .element part.1 part.2 (lit " ")

/-- The elements stand last first, among others. -/
def description : InfoDocument where
  pieces :=
    [.mark (lit "root status_code=\"200\"") (lit " "),
      .element (lit "MaxLumaPixelsHEVC") (lit "1869449984") []] ++
    (describedInfo.elements.map elementOf).reverse ++
    [.mark (lit "/root") []]
  plain := by decide +kernel
  unmarked := by decide +kernel
  status := by decide +kernel

/-- An element of this many zero bytes, in hexadecimal. -/
def zeros (tag : String) (count : Nat) : Text :=
  openTag (lit tag) ++ List.replicate (2 * count) '0' ++ closeTag (lit tag)

def answersPair (engine : Engine) (rest : Text) : List Move :=
  [draws engine 16, worker engine (.http (.body
    (statusOk ++ lit "<paired>1</paired>" ++ rest)))]

/-- From the start of an engine thread to the end of its pairing, with a host
whose secrets are all zero. -/
def goesPaired (engine : Engine) : List Move :=
  (goesLive engine).take 3 ++
  [answers engine "status_code=\"200\"", draws engine 2] ++
  [worker engine (.result (.ok ())), worker engine (.result (.ok ())),
    draws engine 16] ++
  answersPair engine (zeros "plaincert" 1) ++ [draws engine 16] ++
  answersPair engine (zeros "challengeresponse" 48) ++ [draws engine 16] ++
  answersPair engine (zeros "pairingsecret" 272) ++ answersPair engine [] ++
  [worker engine (.result (.ok ()))]

end SampleHost

open SampleHost

/-- A paired host is asked for a launch. -/
theorem traffic_admitted_launch :
    ∃ (trace : (process SampleHost.libraries).Trace)
      (past rest : List (Event sidecar)) (event : Event sidecar),
      workerEvents 0 trace = past ++ event :: rest ∧
        asksLaunch event = true ∧ (knows past).Permits event.command := by
  obtain ⟨trace, config, run, asked⟩ := Machine.exists_run_of_play
    (fun trace _ => (workerEvents 0 trace).any asksLaunch)
    (show (Machine.play (greeting ++ connects (lit "1") ++ goesLive 0)
      (process.start libraries)).any _ = true by decide +kernel)
  obtain ⟨event, member, asks⟩ := List.any_eq_true.mp asked
  obtain ⟨past, rest, split⟩ := List.append_of_mem member
  exact ⟨trace, past, rest, event, split, asks, traffic_admitted run split⟩

/-- The core is told the versions of the description. -/
theorem description_heeded_core :
    ∃ trace : (process SampleHost.libraries).Trace,
      (workerEvents 0 trace).any isDial = true ∧
        Heeds describedInfo (workerEvents 0 trace) := by
  obtain ⟨trace, config, run, checked⟩ := Machine.exists_run_of_play
    (fun trace _ => (workerEvents 0 trace).any isDial &&
      (workerEvents 0 trace).any (isAnswer description.text))
    (show (Machine.play (greeting ++ connects (lit "1") ++
      (goesLive 0).take 3 ++
      [worker 0 (.http (.body description.text))] ++ (goesLive 0).drop 4)
      (process.start libraries)).any _ = true by decide +kernel)
  obtain ⟨dials, answered⟩ := Bool.and_eq_true_iff.mp checked
  obtain ⟨event, member, answer⟩ := List.any_eq_true.mp answered
  obtain ⟨request, rfl, asks⟩ := event_of_isAnswer answer
  have describes : description.Describes describedInfo := by
    unfold InfoDocument.Describes
    decide +kernel
  exact ⟨trace, dials, description_heeded run describes asks member⟩

/-- A pairing that succeeds. -/
theorem pairing_vouched_zeros :
    ∃ (trace : (process SampleHost.libraries).Trace)
      (past rest : List (Event sidecar)) (event : Event sidecar)
      (session : UInt32) (doc : MoonlightConnectDoc),
      workerEvents 0 trace = past ++ event :: rest ∧
        finishesPairing event = true ∧
        Vouches SampleHost.libraries.openSsl session doc past event.command := by
  obtain ⟨trace, config, run, finished⟩ := Machine.exists_run_of_play
    (fun trace _ => (workerEvents 0 trace).any finishesPairing)
    (show (Machine.play (greeting ++ connects (lit "1") ++ goesPaired 0)
      (process.start libraries)).any _ = true by decide +kernel)
  obtain ⟨event, member, finishes⟩ := List.any_eq_true.mp finished
  obtain ⟨past, rest, split⟩ := List.append_of_mem member
  obtain ⟨session, doc, _, vouches⟩ := pairing_vouched run split
  exact ⟨trace, past, rest, event, session, doc, split, finishes, vouches⟩

end Sidecar

end MoonlightAddon
