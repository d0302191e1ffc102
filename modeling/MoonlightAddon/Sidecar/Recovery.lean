import MoonlightAddon.Sidecar.Alone
import MoonlightAddon.Sidecar.Ownership
import MoonlightAddon.Sidecar.Threads

/-!
# A session can always come up

Whatever happened before in a process that still lives, a session whose thread
has just been started can go live and show what its host streams: no earlier
session, stopped, failed or still there, leaves anything behind that prevents
it.
-/

namespace MoonlightAddon

namespace Session

open Effect

variable {libraries : Libraries} {session : UInt32}
  {doc : MoonlightConnectDoc}

/-- A thread begins with a command. -/
theorem worker_acts : ∃ (command : Command)
    (next : command.Reply → Program sidecar Unit),
    worker libraries session doc = @Program.act sidecar Unit command next := by
  unfold worker runMoonlight settleIdentity
  cases restoreIdentity doc with
  | some identity => exact ⟨_, _, rfl⟩
  | none => exact ⟨_, _, rfl⟩

end Session

namespace Sidecar

open Machine Session

section

variable {libraries : Libraries} {trace : (process libraries).Trace}
  {config : (process libraries).Config} {engine : Engine} {shared : Shared}

/-- A thread without events still has its whole program. -/
theorem untouched_of_run {session : UInt32} {doc : MoonlightConnectDoc}
    {finish : Program sidecar Unit}
    (run : Program.Run (Main.bodies libraries) (worker libraries session doc) []
      finish) : finish = worker libraries session doc := by
  obtain ⟨command, next, acts⟩ := @worker_acts libraries session doc
  rw [acts] at run ⊢
  generalize events : ([] : List (Event sidecar)) = trace at run
  cases run with
  | refl => rfl
  | step stepped rest =>
      cases stepped
      cases events

/-- Nothing waits for an engine that has done nothing. -/
def Unfed (trace : (process libraries).Trace) (shared : Shared) : Prop :=
  ∀ engine, workerEvents engine trace = [] →
    shared.videoSink ≠ some engine ∧ shared.channel engine = []

/-- Other threads neither install an engine's sender nor touch its channel. -/
theorem effect_elsewhere {thread : Thread} (other : thread ≠ .worker engine)
    (event : Event sidecar) :
    ((effectOf thread event shared).videoSink = some engine →
      shared.videoSink = some engine) ∧
    (effectOf thread event shared).channel engine = shared.channel engine := by
  cases thread with
  | reader =>
      obtain ⟨command, reply⟩ := event
      cases command with
      | clearSink => exact ⟨nofun, rfl⟩
      | _ => exact ⟨id, rfl⟩
  | worker runner =>
      have distinct : engine ≠ runner := fun same => other (same ▸ rfl)
      refine ⟨?_, effect_channel_other distinct⟩
      obtain ⟨command, reply⟩ := event
      cases command with
      | storeSink =>
          intro installed
          exact absurd (Option.some.inj installed).symm distinct
      | clearSink => exact nofun
      | _ => exact id

theorem Unfed.ran {thread : Thread} {event : Event sidecar}
    (unfed : Unfed trace shared) :
    Unfed (trace ++ [.ran thread event]) (effectOf thread event shared) := by
  intro engine idle
  unfold workerEvents at idle
  rw [Machine.eventsOf_append, List.append_eq_nil_iff] at idle
  obtain ⟨sink, channel⟩ := unfed engine idle.1
  have other : thread ≠ .worker engine := by
    rintro rfl
    cases idle.2.symm.trans (Machine.eventsOf_ran_self ..)
  obtain ⟨installed, kept⟩ := @effect_elsewhere engine shared thread other event
  exact ⟨fun same => sink (installed same), kept.trans channel⟩

theorem Unfed.call {seen : Seen} (unfed : Unfed trace shared)
    (callback : Callback) :
    Unfed (trace ++ [.outside seen]) (callBack callback shared).2 := by
  intro engine idle
  rw [workerEvents_call] at idle
  obtain ⟨sink, channel⟩ := unfed engine idle
  rw [callBack_sink]
  refine ⟨sink, ?_⟩
  cases callback with
  | submit unit =>
      rw [channel_submit, if_neg sink, channel]
      rfl
  | _ => exact channel

/-- Nothing waits for the engines that have done nothing, in every run. -/
theorem unfed_of_run
    (run : Machine.Run (process.start libraries) trace config) :
    Unfed trace config.shared := by
  induction run with
  | refl => exact fun engine _ => ⟨nofun, rfl⟩
  | @snoc past before after move happening run stepped induction =>
      have cases := Machine.step_cases stepped
      cases cases with
      | unfold at_loop => simpa using induction
      | ran at_command possible => exact induction.ran
      | @outside callback seen shared acted =>
          obtain ⟨_, same⟩ := Option.ite_none_right_eq_some.mp acted
          obtain ⟨rfl, rfl⟩ := Prod.mk.inj (Option.some.inj same.symm)
          exact induction.call callback

/-- The C core may call back at any time. -/
theorem run_callBack (run : Machine.Run (process.start libraries) trace config)
    (living : config.shared.exited = none) (callback : Callback) :
    Machine.Run (process.start libraries)
      (trace ++ [.outside (callBack callback config.shared).1])
      { config with shared := (callBack callback config.shared).2 } := by
  have stepped : @Machine.step sidecar (process libraries) (.outside callback)
      config = some (some (.outside (callBack callback config.shared).1),
        { config with shared := (callBack callback config.shared).2 }) := by
    simp only [Machine.step, if_pos living]
  exact run.snoc stepped

/-- A started engine that has done nothing yet stands before its whole
program. -/
theorem born_of_fresh
    (run : Machine.Run (process.start libraries) trace config)
    (started : engine ∈ startedEngines trace)
    (fresh : workerEvents engine trace = []) :
    ∃ session doc, ⟨.spawn session doc, (engine, true)⟩ ∈ readerEvents trace ∧
      config.pool (.worker engine) = worker libraries session doc := by
  cases life_of_run run engine with
  | unborn idle => exact absurd started idle
  | @born session doc spawned runs =>
      rw [fresh] at runs
      exact ⟨session, doc, spawned, untouched_of_run runs⟩

/-- The frame that a decode unit becomes, written without an error. -/
def frameEvent (session : UInt32) (doc : MoonlightConnectDoc) (format : Int32)
    (unit : Stream.DecodeUnit) : Event sidecar :=
  ⟨.frame session (frameUpdate doc (Stream.drSubmit format unit)), .ok ()⟩

/-- From every state of every run in which the process lives, an engine that
was started, has done nothing yet and was not closed can go live and then show
any unit that the C core decodes. -/
theorem session_can_stream
    (run : Machine.Run (process.start libraries) trace config)
    (living : config.shared.exited = none)
    (started : engine ∈ startedEngines trace)
    (fresh : workerEvents engine trace = [])
    (unclosed : (readerEvents trace).any (isStoreStop engine) = false) :
    ∃ session doc, ⟨.spawn session doc, (engine, true)⟩ ∈ readerEvents trace ∧
      ∀ identity, Usable libraries doc identity → ∀ format unit,
        ∃ more last, Machine.Run (process.start libraries) (trace ++ more) last ∧
          [readyEvent session, frameEvent session doc format unit].Sublist
            (workerEvents engine more) := by
  obtain ⟨_, tracked⟩ := tracked_of_run run
  have unstopped := (tracked.stop engine).trans unclosed
  obtain ⟨session, doc, spawned, whole⟩ := born_of_fresh run started fresh
  have unfed := fun engine fresh => (unfed_of_run run engine fresh).2
  refine ⟨session, doc, spawned, ?_⟩
  intro identity usable format unit
  -- Into the frame loop.
  obtain ⟨rest, first, up, ready⟩ :=
    @goesLive_worker libraries engine config.shared session doc identity living
      unstopped usable
  rw [← whole] at up
  obtain ⟨before, reached, run, events, waits, shares⟩ :=
    Machine.exists_run_of_solo run up
  -- The C core sets the format and decodes a unit.
  let fed := (callBack (.submit unit)
    (callBack (.setup format) (connectedTo engine config.shared)).2).2
  have waiting : fed.channel engine = [Stream.drSubmit format unit] := by
    have empty : config.shared.channel engine = [] := unfed engine fresh
    rw [channel_submit]
    simp [callBack, connectedTo, empty]
  have called := run_callBack run (by rw [shares]; exact living) (.setup format)
  have called := run_callBack called (by rw [shares]; exact living)
    (.submit unit)
  -- A turn of the loop.
  obtain ⟨finish, after, second, turn, shown⟩ :=
    @leads_frameLoop libraries engine fed session doc Unit living unstopped rfl
      _ [] waiting rest
  rw [← waits] at turn
  simp only [shares] at called
  obtain ⟨later, last, run, written, _, _⟩ :=
    Machine.exists_run_of_solo called turn
  simp only [List.append_assoc] at run
  refine ⟨_, last, run, ?_⟩
  unfold workerEvents
  simp only [Machine.eventsOf_append, Machine.eventsOf_outside, events, written,
    List.nil_append]
  exact (List.singleton_sublist.mpr ready).append
    (List.singleton_sublist.mpr shown)

end

open SampleHost

/-- All engines are started for this document. -/
def startsFor (doc : MoonlightConnectDoc) (event : Event sidecar) : Bool :=
  match event.command with
  | .spawn _ other => other == doc
  | _ => true

/-- After a session that the host ended while it streamed, the next one shows
a frame. -/
theorem session_can_stream_next :
    ∃ (trace more : (process SampleHost.libraries).Trace)
      (last : (process SampleHost.libraries).Config) (session : UInt32)
      (doc : MoonlightConnectDoc),
      Machine.Run (process.start SampleHost.libraries) (trace ++ more) last ∧
        reportedClosed 0 trace = true ∧
        [readyEvent session, frameEvent session doc 1 keyFrame].Sublist
          (workerEvents 1 more) := by
  obtain ⟨trace, config, run, checked⟩ := Machine.exists_run_of_play
    (fun trace config => reportedClosed 0 trace &&
      (config.shared.exited == none &&
        ((startedEngines trace).contains 1 &&
          ((workerEvents 1 trace).isEmpty &&
            (!(readerEvents trace).any (isStoreStop 1) &&
              (readerEvents trace).all
                (startsFor (Main.toCoreDoc SampleHost.doc)))))))
    (show (Machine.play (greeting ++ connects (lit "1") ++ goesLive 0 ++
      terminates 0 ++ connects (lit "2")) (process.start libraries)).any _ =
      true by decide +kernel)
  simp only [Bool.and_eq_true, Bool.not_eq_true', beq_iff_eq,
    List.contains_iff_mem, List.isEmpty_iff] at checked
  obtain ⟨closed, living, started, fresh, unclosed, same⟩ := checked
  obtain ⟨session, doc, spawned, streams⟩ :=
    session_can_stream run living started fresh unclosed
  obtain rfl := eq_of_beq (List.all_eq_true.mp same _ spawned)
  have usable : Usable SampleHost.libraries (Main.toCoreDoc SampleHost.doc)
      ⟨lit "id", Text.asBytes (lit "cert"), Text.asBytes (lit "key")⟩ :=
    ⟨.inl (by decide), rfl, by decide⟩
  obtain ⟨more, last, later, shown⟩ := streams _ usable 1 keyFrame
  exact ⟨trace, more, last, _, _, later, closed, shown⟩

end Sidecar

end MoonlightAddon
