import MoonlightAddon.Sidecar.Tracking

/-!
# Isolation of the stream globals

`VIDEO_SINK`, `TERMINATED` and the C core's connection belong to the process.
While one engine streams, the leftovers of another may still reach them: its
thread on the way out, or a late close of it.  They do not when the host turns
to the next engine only once the others are spent.
-/

namespace MoonlightAddon

namespace Sidecar

section

variable {libraries : Libraries}

section Windows

variable (engine : Engine) (trace : (process libraries).Trace)

/-- The engine's thread does nothing to the stream any more: it is over, it
has cleared the sink, or it was asked to stop before its stop check. -/
def spent : Bool :=
  (workerEvents engine trace).any isClosed ||
    (workerEvents engine trace).any isUninstall ||
    ((readerEvents trace).any (isStoreStop engine) &&
      !(workerEvents engine trace).any isGoAhead)

def othersSpent : Bool :=
  (startedEngines trace).all fun other =>
    other == engine || spent other trace

def isDrain : Event sidecar → Bool
  | ⟨.mapDrain, _⟩ => true
  | _ => false

/-- The host closed the engine, replaced it, or ended the process. -/
def askedToClose : Bool :=
  (readerEvents trace).any fun event =>
    isDrain event ||
      (takenOut event).any fun session => session.engine == engine

/-- From the installation of the engine's sender until the engine is asked to
close or its thread leaves the frame loop. -/
def streaming : Bool :=
  (workerEvents engine trace).any isInstall &&
    !(workerEvents engine trace).any leavesLoop &&
    !askedToClose engine trace

end Windows

/-- The engine a step is done on behalf of. -/
def onBehalf : (process libraries).Happening → Option Engine
  | .ran (.worker engine) _ => some engine
  | .ran .reader event => closing event.command
  | .outside _ => none

/-- The engines a Connect or a Close is about. -/
def aboutEngines : Event sidecar → List Engine
  | ⟨.spawn _ _, (engine, true)⟩ => [engine]
  | ⟨.mapInsert _ _, replaced⟩ => replaced.toList.map MoonlightSession.engine
  | ⟨.mapRemove _, removed⟩ => removed.toList.map MoonlightSession.engine
  | _ => []

/-- The host turns to an engine, or away from it, only when all others are
spent. -/
def considerate (past : (process libraries).Trace) :
    (process libraries).Happening → Bool
  | .ran .reader event =>
      (aboutEngines event).all fun engine => othersSpent engine past
  | _ => true

section Spent

variable {trace : (process libraries).Trace} {shared : Shared}
  {standing : Standing} {engine : Engine}

/-- A spent engine's thread is in no phase that touches the stream. -/
theorem Tracked.aside (tracked : Tracked trace shared standing)
    (isSpent : spent engine trace = true) :
    (standing.workers engine).phase.streams = false := by
  have footing := tracked.footing engine
  by_contra streams
  rw [Bool.not_eq_false] at streams
  simp only [spent, Bool.or_eq_true, Bool.and_eq_true,
    Bool.not_eq_true'] at isSpent
  rcases isSpent with (closed | uninstalled) | ⟨_, unread⟩
  · rw [footing.closed.mp closed] at streams
    cases streams
  · have gone := footing.gone uninstalled
    rw [Phase.not_gone_of_streams streams] at gone
    cases gone
  · rw [footing.ahead (Phase.ahead_of_streams streams)] at unread
    cases unread

/-- A spent engine is not streaming. -/
theorem Tracked.not_streaming (tracked : Tracked trace shared standing)
    (isSpent : spent engine trace = true) :
    streaming engine trace = false := by
  have footing := tracked.footing engine
  by_contra streams
  simp only [streaming, Bool.not_eq_false, Bool.and_eq_true,
    Bool.not_eq_true'] at streams
  obtain ⟨⟨installed, inside⟩, _⟩ := streams
  have stays := List.any_eq_false.mp inside
  simp only [spent, Bool.or_eq_true, Bool.and_eq_true,
    Bool.not_eq_true'] at isSpent
  rcases isSpent with (closed | uninstalled) | ⟨_, unread⟩
  · obtain ⟨event, member, closed⟩ := List.any_eq_true.mp closed
    exact stays event member (leavesLoop_of_isClosed closed)
  · obtain ⟨event, member, uninstalls⟩ := List.any_eq_true.mp uninstalled
    exact stays event member (leavesLoop_of_isUninstall uninstalls)
  · rw [footing.installed installed] at unread
    cases unread

/-- A thread whose flag is set does not read it as clear. -/
theorem not_goAhead_of_stop {event : Event sidecar}
    (possible : Possible (.worker engine) shared event)
    (stop : shared.stopFlag engine = true) : isGoAhead event = false := by
  obtain ⟨command, reply⟩ := event
  obtain ⟨_, answer, replied⟩ := possible
  cases command with
  | loadStop =>
      cases answer with
      | nothing =>
          obtain rfl : shared.stopFlag engine = reply :=
            Option.some.inj replied
          rw [stop]
          rfl
      | _ => cases replied
  | _ => rfl

theorem spent_read {event : Event sidecar}
    (isSpent : spent engine trace = true) :
    spent engine (trace ++ [.ran .reader event]) = true := by
  simp only [spent, workerEvents_read, readerEvents_read, List.any_append,
    Bool.or_eq_true, Bool.and_eq_true] at isSpent ⊢
  exact isSpent.imp_right fun ⟨asked, unread⟩ => ⟨.inl asked, unread⟩

/-- What a spent engine's thread still does leaves it spent. -/
theorem Tracked.spent_work {runner : Engine} {event : Event sidecar}
    (tracked : Tracked trace shared standing)
    (possible : Possible (.worker runner) shared event)
    (isSpent : spent engine trace = true) :
    spent engine (trace ++ [.ran (.worker runner) event]) = true := by
  by_cases same : runner = engine
  · subst same
    simp only [spent, workerEvents_work, readerEvents_work, List.any_append,
      Bool.or_eq_true, Bool.and_eq_true, Bool.not_eq_true',
      Bool.or_eq_false_iff] at isSpent ⊢
    rcases isSpent with (closed | uninstalled) | ⟨asked, unread⟩
    · exact .inl (.inl (.inl closed))
    · exact .inl (.inr (.inl uninstalled))
    · have stop := (tracked.stop runner).trans asked
      have stays := not_goAhead_of_stop possible stop
      exact .inr ⟨asked, unread, by simpa using stays⟩
  · simpa only [spent, workerEvents_other same, readerEvents_work] using isSpent

theorem spent_call {seen : Seen} (isSpent : spent engine trace = true) :
    spent engine (trace ++ [.outside seen]) = true := by
  simpa only [spent, workerEvents_call, readerEvents_call] using isSpent

end Spent

section Isolation

variable {trace : (process libraries).Trace} {shared : Shared}
  {standing : Standing}

def touched : (process libraries).Happening → Bool
  | .ran _ event => touchesStream event.command
  | .outside _ => false

/-- A step done for one engine leaves the stream of another alone. -/
def Respectful (past : (process libraries).Trace)
    (happening : (process libraries).Happening) : Prop :=
  ∀ engine other, engine ≠ other → streaming other past = true →
    onBehalf happening = some engine → touched happening = false

structure Isolated (trace : (process libraries).Trace) (standing : Standing) :
    Prop where
  lone : Lone spent trace
  due : ∀ command ∈ standing.reader.due, ∀ engine,
    closing command = some engine →
      (readerEvents trace).any isDrain = true ∨
        othersSpent engine trace = true
  respected : Machine.Obeys Respectful trace

theorem othersSpent_iff {engine : Engine} :
    othersSpent engine trace = true ↔
      ∀ other ∈ startedEngines trace,
        other = engine ∨ spent other trace = true := by
  simp [othersSpent]

theorem about_of_startedBy {event : Event sidecar} {engine : Engine}
    (starts : startedBy event = some engine) :
    engine ∈ aboutEngines event := by
  obtain ⟨command, reply⟩ := event
  cases command with
  | spawn session doc =>
      obtain ⟨number, _ | _⟩ := reply
      · cases starts
      · obtain rfl := Option.some.inj starts
        exact List.mem_cons_self
  | _ => cases starts

theorem about_of_takenOut {event : Event sidecar} {session : MoonlightSession}
    (taken : session ∈ takenOut event) :
    isDrain event = true ∨ session.engine ∈ aboutEngines event := by
  obtain ⟨command, reply⟩ := event
  cases command with
  | mapDrain => exact .inl rfl
  | mapInsert | mapRemove => exact .inr (List.mem_map_of_mem taken)
  | _ => cases taken

/-- An engine that streams is not spent, so it was started and all others are
spent. -/
theorem Tracked.started_of_streaming (tracked : Tracked trace shared standing)
    {engine : Engine} (streams : streaming engine trace = true) :
    engine ∈ startedEngines trace ∧ spent engine trace = false := by
  constructor
  · apply tracked.started_of_events
    intro nothing
    simp [streaming, nothing] at streams
  · by_contra isSpent
    rw [Bool.not_eq_false] at isSpent
    rw [tracked.not_streaming isSpent] at streams
    cases streams

theorem Isolated.read {event : Event sidecar} {after : Main.Phase}
    {workers : Engine → Worker} (isolated : Isolated trace standing)
    (tracked : Tracked trace shared standing)
    (careful : considerate trace (.ran .reader event) = true)
    (next : Main.Phase.Next libraries standing.reader event after) :
    Isolated (trace ++ [.ran .reader event]) ⟨after, workers⟩ := by
  have about : ∀ engine ∈ aboutEngines event,
      othersSpent engine trace = true := by
    simpa [considerate] using careful
  constructor
  · apply isolated.lone.read fun _ => spent_read
    intro engine starts other member
    exact othersSpent_iff.mp (about _ (about_of_startedBy starts)) other member
  · intro command member engine closes
    have still : ∀ {engine}, othersSpent engine trace = true →
        othersSpent engine (trace ++ [.ran .reader event]) = true := by
      intro engine others
      rw [othersSpent_iff] at others ⊢
      intro other started
      rw [startedEngines_read, tracked.not_startedBy_of_due next member,
        Option.toList_none, List.append_nil] at started
      exact (others other started).imp_right spent_read
    rw [readerEvents_read, List.any_append, Bool.or_eq_true]
    rcases Main.due_step next command member with
      before | ⟨session, taken, closes'⟩
    · rcases isolated.due command before engine closes with drained | others
      · exact .inl (.inl drained)
      · exact .inr (still others)
    · obtain rfl : engine = session.engine :=
        Option.some.inj (closes.symm.trans closes')
      rcases about_of_takenOut taken with drains | member
      · exact .inl (.inr (by simpa using drains))
      · exact .inr (still (about _ member))
  · apply isolated.respected.snoc
    intro engine other distinct streams closes
    obtain ⟨started, unspent⟩ := tracked.started_of_streaming streams
    rcases isolated.due _ (Main.due_of_closing next closes) engine closes with
      drained | others
    · have asked : askedToClose other trace = true := by
        obtain ⟨drain, member, drains⟩ := List.any_eq_true.mp drained
        exact List.any_eq_true.mpr ⟨drain, member, by simp [drains]⟩
      simp [streaming, asked] at streams
    · rcases othersSpent_iff.mp others other started with same | isSpent
      · exact absurd same.symm distinct
      · rw [isSpent] at unspent
        cases unspent

theorem Isolated.work {runner : Engine} {event : Event sidecar}
    {after : Worker} {workers : Engine → Worker}
    (isolated : Isolated trace standing)
    (tracked : Tracked trace shared standing)
    (next : Worker.Next (standing.workers runner) event after)
    (possible : Possible (.worker runner) shared event) :
    Isolated (trace ++ [.ran (.worker runner) event])
      ⟨standing.reader, workers⟩ := by
  constructor
  · exact isolated.lone.extend (fun _ => tracked.spent_work possible)
      readerEvents_work
  · intro command member engine closes
    rw [readerEvents_work]
    refine (isolated.due command member engine closes).imp_right ?_
    intro others
    rw [othersSpent_iff] at others ⊢
    rw [startedEngines_work]
    intro other started
    exact (others other started).imp_right (tracked.spent_work possible)
  · apply isolated.respected.snoc
    intro engine other distinct streams behalf
    obtain rfl : runner = engine := Option.some.inj behalf
    obtain ⟨started, unspent⟩ := tracked.started_of_streaming streams
    rcases isolated.lone runner (tracked.started_of_next next) other started with
      same | isSpent | isSpent
    · exact absurd same distinct
    · have aside := tracked.aside isSpent
      by_contra touches
      rw [Bool.not_eq_false] at touches
      generalize standing.workers runner = worker at next aside
      cases next with
      | mk next =>
          have streams := Phase.streams_of_touches next touches
          rw [streams] at aside
          cases aside
    · rw [isSpent] at unspent
      cases unspent

theorem Isolated.call {seen : Seen} (isolated : Isolated trace standing) :
    Isolated (trace ++ [.outside seen]) standing := by
  constructor
  · exact isolated.lone.extend (fun _ => spent_call) readerEvents_call
  · intro command member engine closes
    rw [readerEvents_call]
    refine (isolated.due command member engine closes).imp_right ?_
    intro others
    rw [othersSpent_iff] at others ⊢
    rw [startedEngines_call]
    intro other started
    exact (others other started).imp_right spent_call
  · apply isolated.respected.snoc
    intro engine other distinct streams behalf
    cases behalf

theorem isolated_initial :
    Isolated ([] : (process libraries).Trace) .initial where
  lone _ member := by cases member
  due _ member := by cases member
  respected _ _ _ split := by simp at split

theorem respectful_of_run {config : (process libraries).Config}
    (run : Machine.Run (process.start libraries) trace config)
    (careful : Machine.Obeys (fun past next => considerate past next = true)
      trace) : Machine.Obeys Respectful trace := by
  obtain ⟨standing, _, isolated⟩ := tracked_invariant run _ careful
    (fun trace _ standing => Isolated trace standing) isolated_initial
    (fun _ _ _ _ _ tracked isolated careful next _ =>
      isolated.read tracked careful next)
    (fun _ _ _ _ _ _ tracked isolated _ next possible =>
      isolated.work tracked next possible)
    (fun _ _ _ _ _ isolated _ _ => isolated.call)
  exact isolated.respected

/-- `LiStopConnection` is called. -/
def callsStop : (process libraries).Happening → Bool
  | .ran _ ⟨.beginStop _, _⟩ => true
  | _ => false

theorem effect_untouched (thread : Thread) {event : Event sidecar}
    (untouched : touchesStream event.command = false) (shared : Shared) :
    (effectOf thread event shared).videoSink = shared.videoSink ∧
      (effectOf thread event shared).terminated = shared.terminated := by
  obtain ⟨command, reply⟩ := event
  cases command with
  | storeSink | clearSink caller | storeTerminated value | beginStop caller
  | finishStop caller => cases untouched
  | _ => cases thread <;> exact ⟨rfl, rfl⟩

/-- While an engine streams, a step done on behalf of another neither stops
the connection nor changes the sink or the termination flag, in every run whose
host is considerate. -/
theorem isolation {past : (process libraries).Trace}
    {config after : (process libraries).Config}
    {move : (process libraries).Move}
    {happening : (process libraries).Happening}
    (run : Machine.Run (process.start libraries) past config)
    (stepped : Machine.step move config = some (some happening, after))
    (careful : Machine.Obeys (fun past next => considerate past next = true)
      (past ++ [happening]))
    {engine other : Engine} (distinct : engine ≠ other)
    (streams : streaming other past = true)
    (behalf : onBehalf happening = some engine) :
    callsStop happening = false ∧
      after.shared.videoSink = config.shared.videoSink ∧
      after.shared.terminated = config.shared.terminated := by
  have respectful : Respectful past happening :=
    (respectful_of_run (run.snoc stepped) careful).last
  have untouched := respectful engine other distinct streams behalf
  generalize same : some happening = step at stepped
  cases Machine.step_cases stepped with
  | unfold at_loop => cases same
  | @ran thread command next reply at_command possible =>
      obtain rfl := Option.some.inj same
      refine ⟨?_, effect_untouched thread untouched config.shared⟩
      cases command with
      | beginStop caller => cases untouched
      | _ => rfl
  | outside acted =>
      obtain rfl := Option.some.inj same
      cases behalf

end Isolation

end

open SampleHost

/-- The host has one session open at a time: it connects only when every
earlier session was closed by it or reported closed. -/
def oneAtATime {libraries : Libraries} (past : (process libraries).Trace) :
    (process libraries).Happening → Bool
  | .ran .reader event =>
      (startedBy event).all fun _ => (startedEngines past).all fun other =>
        askedToClose other past || (workerEvents other past).any isClosed
  | _ => true

/-- The first session ends on its own, the second one streams, and then the
close of the first one stops the connection. -/
theorem isolation_late_close :
    ¬ ∀ {libraries : Libraries} {past : (process libraries).Trace}
      {config after : (process libraries).Config}
      {move : (process libraries).Move}
      {happening : (process libraries).Happening},
      Machine.Run (process.start libraries) past config →
      Machine.step move config = some (some happening, after) →
      Machine.Obeys (fun past next => oneAtATime past next = true)
        (past ++ [happening]) →
      ∀ engine other, engine ≠ other → streaming other past = true →
        onBehalf happening = some engine →
        callsStop happening = false ∧
          after.shared.videoSink = config.shared.videoSink ∧
          after.shared.terminated = config.shared.terminated := by
  intro claim
  obtain ⟨past, config, happening, after, run, stepped, checked⟩ :=
    Machine.exists_step_of_play (reader .nothing)
      (fun past _ happening _ =>
        Machine.checkAll oneAtATime [] (past ++ [happening]) &&
          (streaming 1 past && (onBehalf happening == some 0 &&
            callsStop happening)))
      (show (Machine.play (greeting ++ connects (lit "1") ++ goesLive 0 ++
        terminates 0 ++ connects (lit "2") ++ goesLive 1 ++
        [sends close, reader .nothing]) (process.start libraries)).any _ =
        true by decide +kernel)
  simp only [Bool.and_eq_true, beq_iff_eq] at checked
  obtain ⟨obeys, streams, behalf, stops⟩ := checked
  have untouched := claim run stepped (Machine.obeys_of_checkAll obeys) 0 1
    (by decide) streams behalf
  rw [stops] at untouched
  cases untouched.1

/-- The first session is closed and has cleared the sink when the second one
is connected; its thread is still at work when the second one streams. -/
theorem isolation_closing_thread :
    ∃ (past : (process SampleHost.libraries).Trace)
      (happening : (process SampleHost.libraries).Happening),
      streaming 1 past = true ∧ onBehalf happening = some 0 ∧
        callsStop happening = false := by
  obtain ⟨past, config, happening, after, run, stepped, checked⟩ :=
    Machine.exists_step_of_play (draws 0 16)
      (fun past _ happening _ =>
        Machine.checkAll considerate [] (past ++ [happening]) &&
          (streaming 1 past && (onBehalf happening == some 0)))
      (show (Machine.play (greeting ++ connects (lit "1") ++ goesLive 0 ++
        [sends close] ++ passes reader 11 ++ passes (worker 0) 4 ++
        connects (lit "2") ++ goesLive 1) (process.start libraries)).any _ =
        true by decide +kernel)
  simp only [Bool.and_eq_true, beq_iff_eq] at checked
  obtain ⟨careful, streams, behalf⟩ := checked
  exact ⟨past, happening, streams, behalf, (isolation run stepped
    (Machine.obeys_of_checkAll careful) (by decide) streams behalf).1⟩

end Sidecar

end MoonlightAddon
