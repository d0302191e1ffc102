import MoonlightAddon.Sidecar.Connection
import MoonlightAddon.Sidecar.Isolation
import MoonlightAddon.Sidecar.Threads
import MoonlightAddon.Worker.WindDown

/-!
# Every session that is closed ends

Once the stop flag of an engine is set, its thread does a bounded number of
things more, whatever the host, the C core and the other threads do, and it is
never stuck before the end of the session was reported.
-/

namespace MoonlightAddon

namespace Sidecar

section

variable {libraries : Libraries} {trace : (process libraries).Trace}
  {config : (process libraries).Config} {engine : Engine}

/-- A thread whose stop flag was set does not read it as clear. -/
def Heeds (past : (process libraries).Trace) :
    (process libraries).Happening → Prop
  | .ran (.worker runner) event =>
      (readerEvents past).any (isStoreStop runner) = true →
        isGoAhead event = false
  | _ => True

theorem heeds_of_run
    (run : Machine.Run (process.start libraries) trace config) :
    Machine.Obeys Heeds trace := by
  obtain ⟨_, _, heeds⟩ := tracked_invariant run (fun _ _ => True)
    (Machine.Obeys.of_forall fun _ _ _ => trivial)
    (fun trace _ _ => Machine.Obeys Heeds trace)
    (Machine.Obeys.of_forall fun _ _ member => by cases member)
    (fun _ _ _ _ _ _ heeds _ _ _ => heeds.snoc trivial)
    (fun _ _ _ runner _ _ tracked heeds _ _ possible =>
      heeds.snoc fun stopped => not_goAhead_of_stop possible
        ((tracked.stop runner).trans stopped))
    (fun _ _ _ _ _ heeds _ _ => heeds.snoc trivial)
  exact heeds

theorem unrenewed_of_stopped {past future : (process libraries).Trace}
    (heeds : Machine.Obeys Heeds (past ++ future))
    (stopped : (readerEvents past).any (isStoreStop engine) = true) :
    ∀ event ∈ workerEvents engine future, isGoAhead event = false := by
  intro event member
  obtain ⟨before, after, split⟩ :=
    List.append_of_mem (Machine.mem_of_mem_eventsOf member)
  have heed := heeds (past ++ before) _ after
    (by rw [split, List.append_assoc])
  apply heed
  obtain ⟨stop, member, stops⟩ := List.any_eq_true.mp stopped
  exact List.any_eq_true.mpr
    ⟨stop, (prefix_readerEvents past before).subset member, stops⟩

/-- A thread that returned has reported the end of its session. -/
theorem closed_of_ret {session : UInt32} {doc : MoonlightConnectDoc}
    (run : Program.Run (Main.bodies libraries)
      (Session.worker libraries session doc) (workerEvents engine trace)
      (.ret ())) : reportedClosed engine trace = true := by
  have footing := Worker.footing_of_path (Worker.path_of_finished run)
  exact footing.closed.mpr rfl

/-- In every run, once the stop flag of an engine was set its thread does at
most `Worker.windDown` things more; and as long as the process lives and the
thread was started, it has either reported the end of its session or can go
on. -/
theorem closed_session_ends {past future : (process libraries).Trace}
    (run : Machine.Run (process.start libraries) (past ++ future) config)
    (stopped : (readerEvents past).any (isStoreStop engine) = true) :
    (workerEvents engine future).length ≤ Worker.windDown ∧
      (config.shared.exited = none →
        engine ∈ startedEngines (past ++ future) →
        reportedClosed engine (past ++ future) = true ∨
          ∃ answer result,
            Machine.step (turn (.worker engine) answer) config =
              some result) := by
  have unrenewed := unrenewed_of_stopped (heeds_of_run run) stopped
  have life := life_of_run run engine
  constructor
  · cases life with
    | unborn idle empty =>
        obtain ⟨_, tracked⟩ := tracked_of_run run
        have silent := (tracked.unborn idle).2
        unfold workerEvents at silent ⊢
        rw [Machine.eventsOf_append, List.append_eq_nil_iff] at silent
        simp [silent.2]
    | born spawned runs =>
        unfold workerEvents at runs
        rw [Machine.eventsOf_append] at runs
        exact Worker.length_of_stopped runs unrenewed
  · intro living started
    cases life with
    | unborn idle empty => exact absurd started idle
    | born spawned runs =>
        cases waits : config.pool (.worker engine) with
        | ret value =>
            rw [waits] at runs
            exact .inl (closed_of_ret runs)
        | enter loop next =>
            exact .inr (step_of_enter waits)
        | act command next =>
            exact .inr (step_of_act living waits fun same => by cases same)

end

open SampleHost

/-- A session is closed while it streams; four events later its thread is on
its way out, and not stuck. -/
theorem closed_session_ends_live :
    ∃ (past future : (process SampleHost.libraries).Trace)
      (config : (process SampleHost.libraries).Config) (answer : Answer),
      (workerEvents 0 future).length = 4 ∧ 4 ≤ Worker.windDown ∧
        reportedClosed 0 (past ++ future) = false ∧
        (Machine.step (turn (.worker 0) answer) config).isSome := by
  obtain ⟨past, future, config, run, checked⟩ := Machine.exists_split_of_play
    (process.start SampleHost.libraries)
    (greeting ++ connects (lit "1") ++ goesLive 0 ++ [sends close] ++
      passes reader 5)
    (passes (worker 0) 4)
    (fun past future config => (readerEvents past).any (isStoreStop 0) &&
      ((workerEvents 0 future).length == 4 &&
        (!reportedClosed 0 (past ++ future) &&
          (config.shared.exited.isNone &&
            decide (0 ∈ startedEngines (past ++ future))))))
    (by decide +kernel)
  simp only [Bool.and_eq_true, Bool.not_eq_true', beq_iff_eq,
    Option.isNone_iff_eq_none, decide_eq_true_eq] at checked
  obtain ⟨stopped, four, still, living, started⟩ := checked
  obtain ⟨short, goesOn⟩ := closed_session_ends run stopped
  rcases goesOn living started with closed | ⟨answer, result, moves⟩
  · rw [still] at closed
    cases closed
  · refine ⟨past, future, config, answer, four, ?_, still, by rw [moves]; rfl⟩
    rw [four] at short
    exact short

end Sidecar

end MoonlightAddon
