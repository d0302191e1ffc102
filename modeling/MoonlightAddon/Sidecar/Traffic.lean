import MoonlightAddon.Sidecar.Isolation
import MoonlightAddon.Sidecar.Threads
import MoonlightAddon.Worker.Destinations

/-!
# The traffic of the process

Every request and every frame of a run belongs to one engine, and to the
session, the document and the identity of that engine.
-/

namespace MoonlightAddon

namespace Sidecar

open Worker (leaves Uses)

section

variable {libraries : Libraries} {trace : (process libraries).Trace}
  {config : (process libraries).Config}

theorem leaves_of_readerOnly {command : Command}
    (own : readerOnly command = true) : leaves command = false := by
  cases command with
  | request | frame => cases own
  | _ => rfl

/-- In every run, the reader asks no host and writes no frame; an engine's
thread does neither, or keeps to the session and the document its engine was
made for, with the identity it had before its first request. -/
theorem traffic_confined
    (run : Machine.Run (process.start libraries) trace config) :
    (∀ event ∈ readerEvents trace, leaves event.command = false) ∧
      ∀ engine,
        (∀ event ∈ workerEvents engine trace, leaves event.command = false) ∨
        ∃ session doc identity,
          ⟨.spawn session doc, (engine, true)⟩ ∈ readerEvents trace ∧
            Uses session doc identity (workerEvents engine trace) := by
  refine ⟨fun event member =>
    leaves_of_readerOnly (readerOnly_of_run run event member), ?_⟩
  intro engine
  cases life_of_run run engine with
  | unborn idle empty =>
      left
      obtain ⟨_, tracked⟩ := tracked_of_run run
      rw [(tracked.unborn idle).2]
      simp
  | @born session doc spawned runs =>
      rcases Worker.uses_of_run runs with stays | ⟨identity, uses⟩
      · exact .inl stays
      · exact .inr ⟨session, doc, identity, spawned, uses⟩

end

open SampleHost

/-- Of two sessions, the second one streams. -/
theorem traffic_confined_second :
    ∃ (trace : (process SampleHost.libraries).Trace)
      (session : UInt32) (doc : MoonlightConnectDoc)
      (identity : MoonlightIdentity),
      (workerEvents 1 trace).any (fun event => leaves event.command) = true ∧
        Uses session doc identity (workerEvents 1 trace) := by
  obtain ⟨trace, config, run, sends⟩ := Machine.exists_run_of_play
    (fun trace _ => (workerEvents 1 trace).any fun event =>
      leaves event.command)
    (show (Machine.play (greeting ++ connects (lit "1") ++ goesLive 0 ++
      connects (lit "2") ++ goesLive 1)
      (process.start libraries)).any _ = true by decide +kernel)
  rcases (traffic_confined run).2 1 with stays | ⟨session, doc, identity, _, uses⟩
  · obtain ⟨event, member, sent⟩ := List.any_eq_true.mp sends
    rw [stays event member] at sent
    cases sent
  · exact ⟨trace, session, doc, identity, sends, uses⟩

end Sidecar

end MoonlightAddon
