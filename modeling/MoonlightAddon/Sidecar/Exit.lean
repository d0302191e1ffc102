import MoonlightAddon.Main.Farewell
import MoonlightAddon.Sidecar.Isolation
import MoonlightAddon.Sidecar.Routing
import MoonlightAddon.Sidecar.Threads

/-!
# The exit of the process

Whatever the engines' threads and the C core do, the process exits as soon as
the reader has taken down the sessions it still holds, with the exit code that
the host's messages determine.
-/

namespace MoonlightAddon

open Session

namespace Main

open Sidecar

variable {libraries : Libraries} {before after : Phase} {event : Event sidecar}
  {events : List (Event sidecar)}

theorem remap_of_closing (closes : (closing event.command).isSome = true)
    (sessions : Sessions) : remap sessions event = sessions := by
  obtain ⟨command, reply⟩ := event
  cases command with
  | mapInsert | mapRemove | mapDrain => cases closes
  | _ => rfl

theorem serves_found (input : RemoteInput) (found : Option MoonlightSession) :
    (Phase.found input found).serves = true := by
  unfold Phase.found
  split
  · split <;> rfl
  · rfl

theorem attention_unread (unread : event.command ≠ .readMessage) :
    attention libraries (events ++ [event]) = attention libraries events := by
  rw [attention_snoc]
  obtain ⟨command, reply⟩ := event
  cases command with
  | readMessage => exact absurd rfl unread
  | _ => rfl

theorem place_hello (waits : attention libraries events = .hello)
    (next : Phase.Next libraries .opening event after) :
    Place libraries (events ++ [event]) after := by
  cases next with
  | @read _ reply listening =>
      apply place_of_told (waits ▸ nofun)
      rw [attention_snoc, waits]
      exact told_opening reply

theorem place_messages (waits : attention libraries events = .messages)
    (serves : before.serves = true)
    (due : ∀ command ∈ before.due, (closing command).isSome = true)
    (next : Phase.Next libraries before event after) :
    Place libraries (events ++ [event]) after := by
  have stays : event.command ≠ .readMessage → after.serves = true →
      Place libraries (events ++ [event]) after := by
    intro unread served
    exact .messages ((attention_unread unread).trans waits) served
  cases next with
  | @read _ reply listening =>
      have resting : before.atRest = true := by
        cases before with
        | opening => cases serves
        | _ => exact listening
      apply place_of_told (waits ▸ nofun)
      rw [attention_snoc, waits]
      exact told_resting resting reply
  | @serve command rest reply =>
      have closes := due command List.mem_cons_self
      refine stays ?_ rfl
      rintro rfl
      cases closes
  | look => exact stays Command.noConfusion (serves_found ..)
  | greet | spawn | insert | send | swap | remove =>
      exact stays Command.noConfusion rfl
  | drain | empty | dropRest | drop | leave | exit => cases serves

/-- What a departing reader does next. -/
theorem departs_step {ending : Ending} {past now : Sessions}
    {done : List Command} (departs : Departs past ending done now before)
    (due : ∀ command ∈ before.due, (closing command).isSome = true)
    (next : Phase.Next libraries before event after)
    (drained : ∀ sessions, event = ⟨.mapDrain, sessions⟩ →
      sessions.Perm now.values) :
    Departs past ending (done ++ [event.command]) (remap now event) after := by
  cases departs with
  | ended =>
      cases next with
      | read listening => cases listening
      | @drain sessions => exact .emptying (drained sessions rfl) rfl
  | dropping =>
      cases next with
      | read listening => cases listening
      | @drop code sessions => exact .leaving (drained sessions rfl) rfl
  | @emptying sessions done rest all split =>
      cases next with
      | read listening => cases listening
      | @empty command rest reply =>
          have closes := due command List.mem_cons_self
          rw [remap_of_closing closes]
          exact .emptying all (by rw [List.append_assoc]; exact split)
      | @dropRest left =>
          obtain rfl : left = [] := (drained left rfl).eq_nil
          rw [List.append_nil] at split
          subst split
          exact .dropped all
  | dropped all =>
      cases next with
      | read listening => cases listening
      | exit =>
          change Departs past .served (_ ++ [.exit 0]) ∅
            (.exited Ending.served.code)
          rw [List.cons_append, List.append_assoc]
          exact .exited all
  | @leaving sessions code done rest all split =>
      cases next with
      | read listening => cases listening
      | @leave command rest _ reply =>
          have closes := due command List.mem_cons_self
          rw [remap_of_closing closes]
          exact .leaving all (by rw [List.append_assoc]; exact split)
      | exit =>
          rw [List.append_nil] at split
          subst split
          change Departs past (.quit code) (_ ++ [.exit code]) ∅
            (.exited (Ending.quit code).code)
          rw [List.cons_append]
          exact .exited all
  | exited all =>
      cases next with
      | read listening => cases listening

theorem Place.step (place : Place libraries events before)
    (due : ∀ command ∈ before.due, (closing command).isSome = true)
    (next : Phase.Next libraries before event after)
    (drained : ∀ sessions, event = ⟨.mapDrain, sessions⟩ →
      sessions.Perm (held events).values) :
    Place libraries (events ++ [event]) after := by
  cases place with
  | hello waits => exact place_hello waits next
  | messages waits serves => exact place_messages waits serves due next
  | @departed ending past reply rest _ split listened ends departs =>
      have goes := departs_step departs due next drained
      rw [← held_snoc] at goes
      refine @Place.departed libraries _ ending past reply (rest ++ [event]) after
        (by rw [split]; simp) listened ends ?_
      rw [List.map_append]
      exact goes

/-- A departing reader has issued a part of its farewell, and all of it only
once it exits. -/
theorem Departs.prefix {ending : Ending} {past now : Sessions}
    {done : List Command} {phase : Phase}
    (departs : Departs past ending done now phase) :
    ∃ sessions : List MoonlightSession, sessions.Perm past.values ∧
      done <+: farewell sessions ending ∧
      (∀ code, phase = .exited code →
        code = ending.code ∧ done = farewell sessions ending) := by
  cases departs with
  | ended | dropping =>
      exact ⟨past.values, .refl _, List.nil_prefix, fun _ same => by cases same⟩
  | @emptying sessions done due all split =>
      refine ⟨sessions, all, ⟨due ++ [.mapDrain, .exit 0], ?_⟩,
        fun _ same => by cases same⟩
      rw [← List.append_assoc, split]
      rfl
  | @dropped sessions all =>
      refine ⟨sessions, all, ⟨[.exit 0], ?_⟩, fun _ same => by cases same⟩
      simp [farewell]
  | @leaving sessions code done due all split =>
      refine ⟨sessions, all, ⟨due ++ [.exit code], ?_⟩,
        fun _ same => by cases same⟩
      rw [← List.append_assoc, split]
      rfl
  | @exited _ sessions all =>
      refine ⟨sessions, all, List.prefix_refl _, ?_⟩
      rintro code same
      exact ⟨(Phase.exited.inj same).symm, rfl⟩

end Main

namespace Sidecar

open Main

section

variable {libraries : Libraries} {trace : (process libraries).Trace}
  {config : (process libraries).Config} {shared : Shared}
  {standing : Standing}

/-- The exit code, once the reader has issued it. -/
def exitOf : Main.Phase → Option Nat
  | .exited code => some code
  | _ => none

/-- Where the reader of a run stands. -/
structure Placed (trace : (process libraries).Trace) (shared : Shared)
    (reader : Main.Phase) : Prop where
  place : Place libraries (readerEvents trace) reader
  held : Main.held (readerEvents trace) = shared.sessions
  exited : shared.exited = exitOf reader
  living : shared.exited = none →
    ∀ event ∈ readerEvents trace, ∀ code, event.command ≠ .exit code

theorem effect_remap (thread : Thread) (event : Event sidecar)
    (shared : Shared) :
    (effectOf thread event shared).sessions =
      remap shared.sessions event := by
  obtain ⟨command, reply⟩ := event
  cases command with
  | _ => cases thread <;> rfl

/-- Only its exit command ends the process. -/
theorem effect_exited (thread : Thread) {event : Event sidecar}
    (goesOn : ∀ code, event.command ≠ .exit code) (shared : Shared) :
    (effectOf thread event shared).exited = shared.exited := by
  obtain ⟨command, reply⟩ := event
  cases command with
  | exit code => exact absurd rfl (goesOn code)
  | _ => cases thread <;> rfl

theorem exitOf_step {before after : Main.Phase} {event : Event sidecar}
    (next : Main.Phase.Next libraries before event after)
    (due : ∀ command ∈ before.due, (closing command).isSome = true) :
    (∃ code, event.command = .exit code ∧ after = .exited code) ∨
      ((∀ code, event.command ≠ .exit code) ∧ exitOf after = none) := by
  cases next with
  | exit => exact .inl ⟨_, rfl, rfl⟩
  | @read before reply listening =>
      refine .inr ⟨fun _ same => (by cases same), ?_⟩
      have turn := @Main.turn_heard libraries before reply
      generalize before.heard libraries reply = after at turn ⊢
      cases turn with
      | stay =>
          cases before with
          | exited => cases listening
          | _ => rfl
      | _ => rfl
  | serve | empty | leave =>
      refine .inr ⟨?_, rfl⟩
      rintro code rfl
      cases due _ List.mem_cons_self
  | look =>
      refine .inr ⟨fun _ same => (by cases same), ?_⟩
      unfold Main.Phase.found
      split
      · split <;> rfl
      · rfl
  | _ => exact .inr ⟨fun _ same => (by cases same), rfl⟩

theorem perm_of_drain {sessions : List MoonlightSession}
    (possible : Possible .reader shared ⟨.mapDrain, sessions⟩) :
    sessions.Perm (sessionsOf shared) := by
  obtain ⟨_, answer, replied⟩ := possible
  cases answer with
  | order chosen =>
      simp only [replyOf] at replied
      split at replied
      · rename_i complete
        obtain rfl := Option.some.inj replied
        exact complete
      · cases replied
  | _ => cases replied

theorem Placed.read {event : Event sidecar} {after : Main.Phase}
    (placed : Placed trace shared standing.reader)
    (tracked : Tracked trace shared standing)
    (next : Main.Phase.Next libraries standing.reader event after)
    (possible : Possible .reader shared event) :
    Placed (trace ++ [.ran .reader event]) (effectOf .reader event shared)
      after := by
  constructor
  · rw [readerEvents_read]
    apply placed.place.step tracked.due next
    rintro sessions rfl
    rw [placed.held]
    exact perm_of_drain possible
  · rw [readerEvents_read, held_snoc, placed.held, effect_remap]
  · rcases exitOf_step next tracked.due with ⟨code, issued, rfl⟩ | ⟨goesOn, none⟩
    · obtain ⟨command, reply⟩ := event
      obtain rfl : command = .exit code := issued
      rfl
    · rw [effect_exited _ goesOn, possible.1, none]
  · intro living earlier member code issued
    rw [readerEvents_read, List.mem_append, List.mem_singleton] at member
    rcases member with before | rfl
    · exact placed.living possible.1 earlier before code issued
    · obtain ⟨command, reply⟩ := earlier
      obtain rfl : command = .exit code := issued
      cases living

theorem Placed.work {engine : Engine} {event : Event sidecar} {after : Worker}
    (placed : Placed trace shared standing.reader)
    (next : Worker.Next (standing.workers engine) event after) :
    Placed (trace ++ [.ran (.worker engine) event])
      (effectOf (.worker engine) event shared) standing.reader := by
  have goesOn : ∀ code, event.command ≠ .exit code := by
    intro code issued
    have foreign := not_readerOnly_of_work next
    rw [issued] at foreign
    cases foreign
  constructor
  · rw [readerEvents_work]
    exact placed.place
  · rw [readerEvents_work, effect_sessions _ (remaps_of_work next)]
    exact placed.held
  · rw [effect_exited _ goesOn]
    exact placed.exited
  · rw [effect_exited _ goesOn, readerEvents_work]
    exact placed.living

theorem Placed.call (placed : Placed trace shared standing.reader)
    (callback : Callback) :
    Placed (trace ++ [.outside (callBack callback shared).1])
      (callBack callback shared).2 standing.reader := by
  obtain ⟨_, _, _, same⟩ := callBack_frame callback shared
  constructor
  · rw [readerEvents_call]
    exact placed.place
  · rw [readerEvents_call, same]
    exact placed.held
  · rw [same]
    exact placed.exited
  · rw [same, readerEvents_call]
    exact placed.living

theorem placed_of_run
    (run : Machine.Run (process.start libraries) trace config) :
    ∃ standing, Tracked trace config.shared standing ∧
      Placed trace config.shared standing.reader := by
  apply tracked_invariant run (fun _ _ => True)
    (Machine.Obeys.of_forall fun _ _ _ => trivial)
    (fun trace shared standing => Placed trace shared standing.reader)
  · exact ⟨.hello rfl, rfl, rfl, fun _ _ member => by cases member⟩
  · intro past shared standing event after tracked placed _ next possible
    exact placed.read tracked next possible
  · intro past shared standing engine event after _ placed _ next _
    exact placed.work next
  · intro past shared standing callback _ placed _ _
    exact placed.call callback

theorem exit_of_path {events : List (Event sidecar)} {code : Nat}
    (path : (mainThread libraries).Path Main.Phase.opening events
      (Main.Phase.exited code)) :
    ∃ event ∈ events, event.command = .exit code := by
  obtain ⟨past, event, rfl⟩ : ∃ past event, events = past ++ [event] := by
    cases events using List.reverseRecOn with
    | nil => cases path.eq_of_nil
    | append_singleton past event => exact ⟨past, event, rfl⟩
  obtain ⟨before, first, next⟩ := path.of_snoc
  refine ⟨event, by simp, ?_⟩
  rcases exitOf_step next (due_of_path first) with ⟨other, issued, same⟩ | ⟨_, none⟩
  · rw [issued, Main.Phase.exited.inj same]
  · cases none

/-- The reader never asks what only an engine's thread is told. -/
theorem not_workerOnly_of_next {before after : Main.Phase}
    {event : Event sidecar}
    (next : Main.Phase.Next libraries before event after)
    (due : ∀ command ∈ before.due, (closing command).isSome = true) :
    workerOnly event.command = false := by
  cases next with
  | @serve command | @empty command | @leave command =>
      have closes := due command List.mem_cons_self
      cases command with
      | loadStop | receive => cases closes
      | _ => rfl
  | _ => rfl

/-- The reader's thread can go on as long as the process lives. -/
theorem reader_goes_on
    (run : Machine.Run (process.start libraries) trace config)
    (living : config.shared.exited = none) :
    ∃ answer result,
      Machine.step (turn .reader answer) config = some result := by
  obtain ⟨phase, path, follows⟩ :=
    Typestate.follows_run mainThread_sound (reader_run run) follows_main
  cases waits : config.pool .reader with
  | enter loop next => exact step_of_enter waits
  | ret value =>
      rw [waits] at follows
      obtain ⟨code, rfl⟩ := follows
      obtain ⟨event, member, issued⟩ := exit_of_path path
      obtain ⟨_, _, placed⟩ := placed_of_run run
      exact absurd issued (placed.living living event member code)
  | act command next =>
      apply step_of_act living waits
      intro _
      rw [waits] at follows
      by_contra only
      have answered : ∃ reply : command.Reply, True := by
        cases command with
        | loadStop => exact ⟨true, trivial⟩
        | receive => exact ⟨.timeout, trivial⟩
        | _ => exact absurd rfl only
      obtain ⟨reply, _⟩ := answered
      obtain ⟨after, next, _⟩ := follows reply
      exact only (not_workerOnly_of_next next (due_of_path path))

/-- A reader that stopped listening with these sessions in the map, and has
issued these commands since. -/
structure Leaving (config : (process libraries).Config) (ending : Ending)
    (sessions : List MoonlightSession) (issued : List Command) : Prop where
  part : issued <+: farewell sessions ending
  code : ending.code = 0 ∨ ending.code = 1
  exited : ∀ code, config.shared.exited = some code →
    code = ending.code ∧ issued = farewell sessions ending
  goesOn : config.shared.exited = none → ∃ answer result,
    Machine.step (turn .reader answer) config = some result

/-- In every run, the process exits only after the reader was told to leave, with
the exit code that goes with it; from the read that told it so, which is the
first to end it, the reader issues nothing but its farewell to the sessions that
were in the map, and can always go on with it. -/
theorem process_exits
    (run : Machine.Run (process.start libraries) trace config) :
    match attention libraries (readerEvents trace) with
    | .ended ending =>
        ∃ (past rest : List (Event sidecar)) (reply : _)
          (sessions : List MoonlightSession),
          readerEvents trace = past ++ ⟨.readMessage, reply⟩ :: rest ∧
            (∀ earlier, attention libraries past ≠ .ended earlier) ∧
            attention libraries (past ++ [⟨.readMessage, reply⟩]) =
              .ended ending ∧
            sessions.Perm (held past).values ∧
            Leaving config ending sessions (rest.map Event.command)
    | _ => config.shared.exited = none := by
  obtain ⟨standing, tracked, placed⟩ := placed_of_run run
  have clean := clean_attention libraries (readerEvents trace)
  have exited := placed.exited
  have place := placed.place
  generalize standing.reader = reader at exited place
  cases place with
  | hello waits =>
      rw [waits]
      exact exited
  | messages waits serves =>
      rw [waits]
      refine exited.trans ?_
      cases reader with
      | exited => cases serves
      | _ => rfl
  | @departed ending past reply rest _ split listened ends departs =>
      have waits : attention libraries (readerEvents trace) = .ended ending := by
        rw [split, List.append_cons]
        exact attention_ended ends rest
      rw [waits] at clean ⊢
      obtain ⟨sessions, all, part, whole⟩ := departs.prefix
      refine ⟨past, rest, reply, sessions, split, listened, ends, all, part,
        clean, ?_, reader_goes_on run⟩
      intro code leaves
      apply whole
      rw [leaves] at exited
      cases reader with
      | exited other => exact congrArg _ (Option.some.inj exited).symm
      | _ => cases exited

end

open SampleHost

/-- The host shuts down while a session streams. -/
theorem process_exits_shutdown :
    ∃ (trace : (process SampleHost.libraries).Trace)
      (config : (process SampleHost.libraries).Config)
      (past rest : List (Event sidecar)) (reply : _)
      (sessions : List MoonlightSession),
      config.shared.exited = some 0 ∧
        readerEvents trace = past ++ ⟨.readMessage, reply⟩ :: rest ∧
        attention SampleHost.libraries (past ++ [⟨.readMessage, reply⟩]) =
          .ended .served ∧
        sessions.Perm (held past).values ∧
        Leaving config .served sessions (rest.map Event.command) := by
  obtain ⟨trace, config, run, checked⟩ := Machine.exists_run_of_play
    (fun trace (config : (process SampleHost.libraries).Config) =>
      config.shared.exited == some 0 &&
        attention SampleHost.libraries (readerEvents trace) == .ended .served)
    (show (Machine.play (greeting ++ connects (lit "1") ++ goesLive 0 ++
      [sends shutdown, reader (.order [⟨0, 1920, 1080⟩])] ++
      passes reader 8 ++ [reader (.order []), reader .nothing])
      (process.start libraries)).any _ = true by decide +kernel)
  simp only [Bool.and_eq_true, beq_iff_eq] at checked
  obtain ⟨exits, waits⟩ := checked
  have leaves := process_exits run
  rw [waits] at leaves
  obtain ⟨past, rest, reply, sessions, split, _, ends, all, leaving⟩ := leaves
  exact ⟨trace, config, past, rest, reply, sessions, exits, split, ends, all,
    leaving⟩

end Sidecar

end MoonlightAddon
