import MoonlightAddon.Main.Console
import MoonlightAddon.Sidecar.Exit

/-!
# Every input, once and in order

In every run of the process the C core is called for the inputs of the host and
for nothing else: in the order the host sent them, each before the reader reads
on, with the buttons that changed since the engine's last pointer event.
-/

namespace MoonlightAddon

namespace Sidecar

open Main

section

variable {libraries : Libraries} {trace : (process libraries).Trace}
  {config : (process libraries).Config} {shared : Shared}
  {standing : Standing} {event : Event sidecar}

/-- The reader's map and masks are those of the shared state, and have answered
it so far. -/
structure Answering (trace : (process libraries).Trace) (shared : Shared) :
    Prop where
  held : Main.held (readerEvents trace) = shared.sessions
  masks : masksAfter (readerEvents trace) = shared.lastButtons
  faithful : Faithful (readerEvents trace)

theorem effect_mask (thread : Thread) (event : Event sidecar)
    (shared : Shared) :
    (effectOf thread event shared).lastButtons =
      mask shared.lastButtons event := by
  obtain ⟨command, reply⟩ := event
  cases command with
  | _ => cases thread <;> rfl

theorem mask_of_work {worker after : Worker}
    (next : Worker.Next worker event after) (masks : Masks) :
    mask masks event = masks := by
  have unread := not_readerOnly_of_work next
  obtain ⟨command, reply⟩ := event
  cases command with
  | swapButtons => cases unread
  | _ => rfl

/-- What the shared state answers is what the reader's events tell. -/
theorem Answering.answered (answering : Answering trace shared)
    (possible : Possible .reader shared event) :
    Answered (readerEvents trace) event := by
  obtain ⟨_, answer, replied⟩ := possible
  obtain ⟨command, reply⟩ := event
  cases command with
  | mapGet session =>
      cases answer with
      | nothing =>
          obtain rfl := Option.some.inj replied
          exact congrArg (·.lookup session) answering.held.symm
      | _ => cases replied
  | swapButtons engine buttons =>
      cases answer with
      | nothing =>
          obtain rfl := Option.some.inj replied
          exact congrFun answering.masks.symm engine
      | _ => cases replied
  | _ => trivial

theorem Answering.read (answering : Answering trace shared)
    (possible : Possible .reader shared event) :
    Answering (trace ++ [.ran .reader event])
      (effectOf .reader event shared) := by
  constructor
  · rw [readerEvents_read, held_snoc, answering.held, effect_remap]
  · rw [readerEvents_read, masksAfter_snoc, answering.masks, effect_mask]
  · rw [readerEvents_read]
    intro past next rest split
    obtain ⟨_, rfl, rfl⟩ | ⟨earlier, _, before⟩ := Machine.split_snoc split
    · exact answering.answered possible
    · exact answering.faithful past next earlier before

theorem Answering.work {worker after : Worker} {engine : Engine}
    (answering : Answering trace shared)
    (next : Worker.Next worker event after) :
    Answering (trace ++ [.ran (.worker engine) event])
      (effectOf (.worker engine) event shared) := by
  constructor
  · rw [readerEvents_work, effect_sessions _ (remaps_of_work next)]
    exact answering.held
  · rw [readerEvents_work, effect_mask, mask_of_work next]
    exact answering.masks
  · rw [readerEvents_work]
    exact answering.faithful

theorem Answering.call (answering : Answering trace shared)
    (callback : Callback) :
    Answering (trace ++ [.outside (callBack callback shared).1])
      (callBack callback shared).2 := by
  obtain ⟨_, _, _, same⟩ := callBack_frame callback shared
  constructor
  · rw [readerEvents_call, same]
    exact answering.held
  · rw [readerEvents_call, same]
    exact answering.masks
  · rw [readerEvents_call]
    exact answering.faithful

theorem answering_of_run
    (run : Machine.Run (process.start libraries) trace config) :
    Answering trace config.shared := by
  obtain ⟨_, _, answering⟩ := tracked_invariant run (fun _ _ => True)
    (Machine.Obeys.of_forall fun _ _ _ => trivial)
    (fun trace shared _ => Answering trace shared)
    ⟨rfl, rfl, fun past event rest split => by cases past <;> cases split⟩
    (fun _ _ _ _ _ _ answering _ _ possible => answering.read possible)
    (fun _ _ _ _ _ _ _ answering _ next _ => answering.work next)
    (fun _ _ _ callback _ answering _ _ => answering.call callback)
  exact answering

/-- The reader has made the calls of the host's inputs, but for those it still
owes for the last one. -/
theorem accounted_of_run
    (run : Machine.Run (process.start libraries) trace config) :
    ∃ operator, (Main.operator libraries).Path
        (⟨.hello, .nothing⟩ : Operator) (readerEvents trace) operator ∧
      Accounted libraries (readerEvents trace) operator := by
  obtain ⟨operator, path, _⟩ :=
    Typestate.follows_run operator_sound (reader_run run) operates_main
  exact ⟨operator, path,
    accounted_of_path path (answering_of_run run).faithful⟩

/-- In every run, when the reader reads on it has made exactly the calls that
the inputs before amount to; in between it has made a part of them, and no
other thread makes any. -/
theorem inputs_delivered
    (run : Machine.Run (process.start libraries) trace config) :
    (∀ past reply rest,
      readerEvents trace = past ++ ⟨.readMessage, reply⟩ :: rest →
        callsOf past = (Console.after libraries past).calls) ∧
      callsOf (readerEvents trace) <+:
        (Console.after libraries (readerEvents trace)).calls ∧
      ∀ engine, callsOf (workerEvents engine trace) = [] := by
  obtain ⟨operator, path, accounted⟩ := accounted_of_run run
  refine ⟨?_, ?_, ?_⟩
  · intro past reply rest split
    obtain ⟨before, after, first, next, _⟩ := path.split split
    have faithful := (answering_of_run run).faithful
    rw [split] at faithful
    have still := accounted_of_path first faithful.of_append
    obtain ⟨later, planned, calls⟩ := still.planned
    cases next with
    | read =>
        obtain ⟨_, rfl⟩ := Prod.mk.inj planned
        rw [calls, List.append_nil]
    | other apart => exact absurd apart id
  · obtain ⟨later, _, calls⟩ := accounted.planned
    rw [calls]
    exact List.prefix_append _ _
  · intro engine
    obtain ⟨_, tracked⟩ := tracked_of_run run
    apply List.filterMap_eq_nil_iff.mpr
    intro event member
    have unread := tracked.not_readerOnly member
    obtain ⟨command, reply⟩ := event
    cases command with
    | liSend => cases unread
    | _ => rfl

end

open SampleHost

def endsReading (events : List (Event sidecar)) : Bool :=
  match events.getLast? with
  | some ⟨.readMessage, _⟩ => true
  | _ => false

theorem split_of_endsReading {events : List (Event sidecar)}
    (ends : endsReading events = true) :
    ∃ reply, events = events.dropLast ++ [⟨.readMessage, reply⟩] := by
  cases events using List.reverseRecOn with
  | nil => cases ends
  | append_singleton past event =>
      rw [endsReading, List.getLast?_concat] at ends
      obtain ⟨command, reply⟩ := event
      cases command with
      | readMessage => exact ⟨reply, by rw [List.dropLast_concat]⟩
      | _ => cases ends

/-- A key is pressed twice, and the host closes the session: when the reader
reads that, it has made the calls of both inputs. -/
theorem inputs_delivered_key :
    ∃ (trace : (process SampleHost.libraries).Trace)
      (past : List (Event sidecar)) (reply : Except Text (Option Message)),
      readerEvents trace = past ++ [⟨.readMessage, reply⟩] ∧
        (Console.after SampleHost.libraries past).calls =
          [(0, .keyboard 0x41 Session.keyActionDown 0),
            (0, .keyboard 0x41 Session.keyActionDown 0)] ∧
        callsOf past = (Console.after SampleHost.libraries past).calls := by
  obtain ⟨trace, config, run, checked⟩ := Machine.exists_run_of_play
    (fun trace _ => endsReading (readerEvents trace) && decide
      ((Console.after SampleHost.libraries (readerEvents trace).dropLast).calls =
        [(0, .keyboard 0x41 Session.keyActionDown 0),
          (0, .keyboard 0x41 Session.keyActionDown 0)]))
    (show (Machine.play (greeting ++ connects (lit "1") ++ goesLive 0 ++
      [sends key] ++ passes reader 4 ++ [sends key] ++ passes reader 4 ++
      [sends close]) (process.start libraries)).any _ = true by decide +kernel)
  obtain ⟨ends, calls⟩ := Bool.and_eq_true_iff.mp checked
  obtain ⟨reply, split⟩ := split_of_endsReading ends
  exact ⟨trace, _, reply, split, of_decide_eq_true calls,
    (inputs_delivered run).1 _ reply [] split⟩

end Sidecar

end MoonlightAddon
