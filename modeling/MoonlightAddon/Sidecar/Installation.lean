import MoonlightAddon.Recorder
import MoonlightAddon.Responder
import MoonlightAddon.Sidecar

/-!
# Installing the sink

`start_stream` among other threads that store and clear `VIDEO_SINK`.
-/

namespace MoonlightAddon

namespace Stream

open Sidecar

/-- What all threads do while one of them is in `start_stream`. -/
abbrev History := List (Thread × Event sidecar)

def ownEvents (engine : Engine) (history : History) : List (Event sidecar) :=
  history.filterMap fun entry =>
    if entry.1 = .worker engine then some entry.2 else none

def sharedAfter (history : History) (shared : Shared) : Shared :=
  history.foldl (fun shared entry => effectOf entry.1 entry.2 shared) shared

def storesSink (event : Event sidecar) : Prop :=
  event.command = .storeSink

def clearsSink (event : Event sidecar) : Prop :=
  ∃ caller, event.command = .clearSink caller

/-- What a failed call leaves: nothing of its own, and nothing at all unless
another thread has installed its sender since the last step of the call. -/
structure Withdrawn (engine : Engine) (history : History)
    (sink : Option Engine) : Prop where
  own : sink ≠ some engine
  empty : ∀ before last after,
    history = before ++ (.worker engine, last) :: after →
    (∀ entry ∈ after, entry.1 ≠ .worker engine ∧ ¬ storesSink entry.2) →
      sink = none

/-- What a successful call leaves: its sender, unless another thread has
touched the sink after it was stored. -/
def Installed (engine : Engine) (history : History)
    (sink : Option Engine) : Prop :=
  ∃ before after,
    history = before ++ (.worker engine, ⟨.storeSink, ()⟩) :: after ∧
      ((∀ entry ∈ after, entry.1 ≠ .worker engine →
        ¬ storesSink entry.2 ∧ ¬ clearsSink entry.2) → sink = some engine)

/-- `start_stream` is all or nothing, whatever the other threads do, whatever
the state it starts in, and whatever the C core returns. -/
def AllOrNothing (opts : StreamOptions) : Prop :=
  ∀ (bodies : (loop : LoopName) → Program sidecar loop.Result)
    (engine : Engine) (history : History) (shared : Shared)
    (outcome : Outcome Unit),
    Program.Run bodies (startStream opts) (ownEvents engine history)
      (.ret outcome) →
    (∀ error, outcome = .err error →
      Withdrawn engine history (sharedAfter history shared).videoSink) ∧
    (outcome = .ok () →
      Installed engine history (sharedAfter history shared).videoSink)

/-- The three strings can be handed to C. -/
def NulFree (opts : StreamOptions) : Prop :=
  '\x00' ∉ opts.host ∧ '\x00' ∉ opts.appVersion ∧ '\x00' ∉ opts.gfeVersion

theorem cString_of_free {what text : Text} (free : '\x00' ∉ text) :
    cString what text = .ok text :=
  if_neg free

/-- The server information of options that can be handed to C. -/
def serverInformation (opts : StreamOptions) : ServerInformation where
  address := opts.host
  serverInfoAppVersion := opts.appVersion
  serverInfoGfeVersion := opts.gfeVersion
  serverCodecModeSupport := opts.codecModeSupport

/-- All that a call does up to the return code. -/
def startEvents (opts : StreamOptions) (code : Int32) : List (Event sidecar) :=
  [⟨.storeSink, ()⟩, ⟨.storeTerminated false, ()⟩,
    ⟨.beginStart (serverInformation opts) (streamConfiguration opts), ()⟩,
    ⟨.finishStart, code⟩]

/-- What a call has done when it returns. -/
def Started (opts : StreamOptions) (outcome : Outcome Unit)
    (trace : List (Event sidecar)) : Prop :=
  (outcome = .ok () ∧ trace = startEvents opts 0) ∨
    ∃ error code, outcome = .err error ∧
      trace = startEvents opts code ++ [⟨.clearSink .worker, ()⟩]

theorem records_startStream {opts : StreamOptions} (free : NulFree opts) :
    (Typestate.recorder sidecar).Follows (startStream opts) (Started opts)
      ([] : List (Event sidecar)) := by
  obtain ⟨host, appVersion, gfeVersion⟩ := free
  apply Typestate.follows_bind
  apply Typestate.records_perform
  intro stored
  apply Typestate.follows_bind
  apply Typestate.records_perform
  intro reset
  apply Typestate.follows_bind
  rw [cString_of_free host]
  apply Typestate.follows_bind
  rw [cString_of_free appVersion]
  apply Typestate.follows_bind
  rw [cString_of_free gfeVersion]
  apply Typestate.follows_bind
  apply Typestate.records_perform
  intro began
  apply Typestate.follows_bind
  apply Typestate.records_perform
  intro code
  apply Typestate.follows_if
  · intro refused
    apply Typestate.follows_bind
    apply Typestate.records_perform
    intro cleared
    exact .inr ⟨_, code, rfl, rfl⟩
  · intro accepted
    obtain rfl : code = (0 : Int32) := not_not.mp accepted
    exact .inl ⟨rfl, rfl⟩

section Histories

variable {engine : Engine} {history : History} {shared : Shared}

theorem sharedAfter_append (first second : History) (shared : Shared) :
    sharedAfter (first ++ second) shared =
      sharedAfter second (sharedAfter first shared) :=
  List.foldl_append

/-- An event of this thread, where the thread's own events say it is. -/
theorem ownEvents_split {first second : List (Event sidecar)}
    {event : Event sidecar}
    (own : ownEvents engine history = first ++ event :: second) :
    ∃ before after, history = before ++ (.worker engine, event) :: after ∧
      ownEvents engine before = first ∧ ownEvents engine after = second := by
  obtain ⟨before, rest, rfl, earlier, later⟩ := List.filterMap_eq_append_iff.mp own
  obtain ⟨skipped, entry, after, rfl, silent, here, last⟩ :=
    List.filterMap_eq_cons_iff.mp later
  obtain ⟨thread, ran⟩ := entry
  obtain ⟨mine, rfl⟩ : thread = .worker engine ∧ ran = event := by
    by_cases mine : thread = .worker engine
    · exact ⟨mine, by simpa [mine] using here⟩
    · simp [mine] at here
  subst mine
  refine ⟨before ++ skipped, after, by simp, ?_, last⟩
  rw [ownEvents, List.filterMap_append, earlier,
    List.filterMap_eq_nil_iff.mpr silent, List.append_nil]

theorem mem_ownEvents {event : Event sidecar}
    (member : (.worker engine, event) ∈ history) :
    event ∈ ownEvents engine history :=
  List.mem_filterMap.mpr ⟨_, member, if_pos rfl⟩

/-- All that one event can do to the sink. -/
theorem videoSink_cases (thread : Thread) (event : Event sidecar)
    (shared : Shared) :
    (effectOf thread event shared).videoSink = shared.videoSink ∨
      (clearsSink event ∧
        (effectOf thread event shared).videoSink = none) ∨
      ∃ other, thread = .worker other ∧ storesSink event ∧
        (effectOf thread event shared).videoSink = some other := by
  obtain ⟨command, reply⟩ := event
  cases command with
  | storeSink =>
      cases thread with
      | reader => exact .inl rfl
      | worker other => exact .inr (.inr ⟨other, rfl, rfl, rfl⟩)
  | clearSink caller => cases thread <;> exact .inr (.inl ⟨⟨caller, rfl⟩, rfl⟩)
  | _ => cases thread <;> exact .inl rfl

theorem videoSink_untouched
    (untouched : ∀ entry ∈ history,
      ¬ storesSink entry.2 ∧ ¬ clearsSink entry.2) :
    (sharedAfter history shared).videoSink = shared.videoSink := by
  induction history generalizing shared with
  | nil => rfl
  | cons entry rest induction =>
      obtain ⟨first, later⟩ := List.forall_mem_cons.mp untouched
      apply (induction later).trans
      obtain same | ⟨cleared, _⟩ | ⟨_, _, stored, _⟩ :=
        videoSink_cases entry.1 entry.2 shared
      · exact same
      · exact absurd cleared first.2
      · exact absurd stored first.1

/-- The other threads never install this thread's sender. -/
theorem videoSink_foreign
    (foreign : ∀ entry ∈ history, entry.1 ≠ .worker engine)
    (absent : shared.videoSink ≠ some engine) :
    (sharedAfter history shared).videoSink ≠ some engine := by
  induction history generalizing shared with
  | nil => exact absent
  | cons entry rest induction =>
      obtain ⟨first, later⟩ := List.forall_mem_cons.mp foreign
      apply induction later
      obtain same | ⟨_, cleared⟩ | ⟨other, runner, _, stored⟩ :=
        videoSink_cases entry.1 entry.2 shared
      · rw [same]
        exact absent
      · simp [cleared]
      · rw [stored]
        rintro ⟨⟩
        exact first runner

theorem videoSink_none
    (unstored : ∀ entry ∈ history, ¬ storesSink entry.2)
    (absent : shared.videoSink = none) :
    (sharedAfter history shared).videoSink = none := by
  induction history generalizing shared with
  | nil => exact absent
  | cons entry rest induction =>
      obtain ⟨first, later⟩ := List.forall_mem_cons.mp unstored
      apply induction later
      obtain same | ⟨_, cleared⟩ | ⟨_, _, stored, _⟩ :=
        videoSink_cases entry.1 entry.2 shared
      · rw [same]
        exact absent
      · exact cleared
      · exact absurd stored first

/-- The last own event stands where no own event follows. -/
theorem ownEvents_last {before after : History} {last : Event sidecar}
    (foreign : ∀ entry ∈ after, entry.1 ≠ .worker engine) :
    ownEvents engine (before ++ (.worker engine, last) :: after) =
      ownEvents engine before ++ [last] := by
  have silent : ownEvents engine after = [] :=
    List.filterMap_eq_nil_iff.mpr fun entry member =>
      if_neg (foreign entry member)
  rw [ownEvents, List.filterMap_append, List.filterMap_cons, if_pos rfl]
  exact congrArg _ (congrArg _ silent)

theorem videoSink_cleared (before : History) (shared : Shared) :
    (sharedAfter (before ++ [(.worker engine, ⟨.clearSink .worker, ()⟩)])
      shared).videoSink = none := by
  rw [sharedAfter_append]
  rfl

/-- After its own clear, the thread has nothing installed. -/
theorem withdrawn_of_cleared {opts : StreamOptions} {code : Int32}
    (own : ownEvents engine history =
      startEvents opts code ++ [⟨.clearSink .worker, ()⟩]) :
    Withdrawn engine history (sharedAfter history shared).videoSink := by
  constructor
  · obtain ⟨before, after, rfl, _, done⟩ := ownEvents_split own
    have foreign : ∀ entry ∈ after, entry.1 ≠ .worker engine := by
      intro entry member mine
      have silent := List.filterMap_eq_nil_iff.mp done entry member
      simp [mine] at silent
    rw [← List.singleton_append, ← List.append_assoc, sharedAfter_append]
    apply videoSink_foreign foreign
    simp [videoSink_cleared]
  · rintro before last after rfl others
    rw [ownEvents_last fun entry member => (others entry member).1] at own
    obtain ⟨_, rfl⟩ := List.append_singleton_inj.mp own
    rw [← List.singleton_append, ← List.append_assoc, sharedAfter_append]
    apply videoSink_none _ (videoSink_cleared before shared)
    exact fun entry member => (others entry member).2

theorem installed_of_accepted {opts : StreamOptions} {code : Int32}
    (own : ownEvents engine history = startEvents opts code) :
    Installed engine history (sharedAfter history shared).videoSink := by
  obtain ⟨before, after, rfl, _, rest⟩ := @ownEvents_split engine history [] _ _
    own
  refine ⟨before, after, rfl, ?_⟩
  intro others
  have stored : (sharedAfter (before ++ [(.worker engine, ⟨.storeSink, ()⟩)])
      shared).videoSink = some engine := by
    rw [sharedAfter_append]
    rfl
  rw [← List.singleton_append, ← List.append_assoc, sharedAfter_append,
    ← stored]
  apply videoSink_untouched
  intro entry member
  by_cases mine : entry.1 = .worker engine
  · obtain ⟨thread, event⟩ := entry
    subst mine
    have ran := mem_ownEvents member
    simp only [rest, List.mem_cons, List.not_mem_nil, or_false] at ran
    obtain rfl | rfl | rfl := ran <;> exact ⟨nofun, nofun⟩
  · exact others entry member mine

end Histories

theorem allOrNothing_of_nulFree {opts : StreamOptions} (free : NulFree opts) :
    AllOrNothing opts := by
  intro bodies engine history shared outcome run
  have started := Typestate.recorded_of_run run (records_startStream free)
  constructor
  · rintro error rfl
    obtain ⟨⟨⟩, _⟩ | ⟨_, _, _, own⟩ := started
    exact withdrawn_of_cleared own
  · rintro rfl
    obtain ⟨_, own⟩ | ⟨_, _, ⟨⟩, _⟩ := started
    exact installed_of_accepted own

section Failing

variable {bodies : (loop : LoopName) → Program sidecar loop.Result}

theorem run_installing {rest : Rust Unit} {outcome : Outcome Unit}
    (returns : rest = Effect.done outcome) :
    Program.Run bodies
      (do issue .storeSink; issue (.storeTerminated false); rest : Rust Unit)
      [⟨.storeSink, ()⟩, ⟨.storeTerminated false, ()⟩] (.ret outcome) := by
  apply Program.Run.step (.act _)
  apply Program.Run.step (.act _)
  rw [returns]
  exact .refl _

/-- With a NUL in a string the call returns before it reaches the C core. -/
theorem run_of_not_nulFree {opts : StreamOptions} (nul : ¬ NulFree opts) :
    ∃ error, Program.Run bodies (startStream opts)
      [⟨.storeSink, ()⟩, ⟨.storeTerminated false, ()⟩] (.ret (.err error)) := by
  unfold startStream
  by_cases host : '\x00' ∈ opts.host
  · rw [cString, if_pos host]
    exact ⟨_, run_installing rfl⟩
  rw [cString_of_free host]
  by_cases appVersion : '\x00' ∈ opts.appVersion
  · rw [cString, if_pos appVersion]
    exact ⟨_, run_installing rfl⟩
  rw [cString_of_free appVersion]
  by_cases gfeVersion : '\x00' ∈ opts.gfeVersion
  · rw [cString, if_pos gfeVersion]
    exact ⟨_, run_installing rfl⟩
  exact absurd ⟨host, appVersion, gfeVersion⟩ nul

end Failing

/-- A call that returned early has left its sender behind. -/
theorem not_allOrNothing {opts : StreamOptions} (nul : ¬ NulFree opts) :
    ¬ AllOrNothing opts := by
  intro holds
  obtain ⟨error, run⟩ := @run_of_not_nulFree (Main.bodies default) opts nul
  have withdrawn := (holds _ 0 [(.worker 0, ⟨.storeSink, ()⟩),
    (.worker 0, ⟨.storeTerminated false, ()⟩)] Shared.initial _ run).1 error rfl
  exact withdrawn.own rfl

/-- `start_stream` is all or nothing exactly for strings without NUL. -/
theorem start_stream_all_or_nothing (opts : StreamOptions) :
    AllOrNothing opts ↔
      '\x00' ∉ opts.host ∧ '\x00' ∉ opts.appVersion ∧
        '\x00' ∉ opts.gfeVersion := by
  constructor
  · intro holds
    by_contra nul
    exact not_allOrNothing nul holds
  · exact allOrNothing_of_nulFree

/-- The options for a host that reports this version. -/
def reporting (appVersion : Text) : StreamOptions where
  host := lit "10.0.0.2"
  appVersion
  gfeVersion := lit "3.23.0.74"
  codecModeSupport := 0
  width := 1920
  height := 1080
  fps := 60
  bitrateKbps := 20000
  useHevc := false
  aesKey := ⟨List.replicate 16 0, rfl⟩
  aesIv := ⟨List.replicate 16 0, rfl⟩

theorem start_stream_all_or_nothing_nul :
    ¬ AllOrNothing (reporting (lit "7.1.431.0" ++ ['\x00'])) := by
  apply not_allOrNothing
  intro free
  exact absurd free.2.1 (by decide)

end Stream

end MoonlightAddon
