import MoonlightAddon.Addon.Writer

/-!
# The framing round trip

The lock makes the writes of one message contiguous: at every moment the bytes
written and the rest of the message being written are the framed messages, in
the order in which the lock was taken.  So the reader gets them back.
-/

namespace MoonlightAddon

namespace Writer

open Proto

/-- Where a thread stands: the messages it has not begun, and while it holds
the lock the bytes of its message that are still to be written. -/
inductive Phase where
  | between (due : List Message)
  | writing (left : Bytes) (due : List Message)
  /-- Nothing more is written; the guard is to be dropped. -/
  | leaving (due : List Message)

namespace Phase

def due : Phase → List Message
  | .between due | .writing _ due | .leaving due => due

def left : Phase → Bytes
  | .writing left _ => left
  | _ => []

def inside : Phase → Bool
  | .between _ => false
  | _ => true

inductive Next : Phase → Event calls → Phase → Prop where
  | lock {message due} :
      Next (.between (message :: due)) ⟨.lock, false⟩
        (.writing (encode message) due)
  | poisoned {message due} :
      Next (.between (message :: due)) ⟨.lock, true⟩ (.between due)
  | accept {buffer rest due count} (positive : 0 < count) :
      Next (.writing (buffer ++ rest) due) ⟨.write buffer, .ok count⟩
        (.writing (buffer.drop count ++ rest) due)
  | refuse {buffer rest due} :
      Next (.writing (buffer ++ rest) due) ⟨.write buffer, .ok 0⟩
        (.leaving due)
  | retry {buffer rest due error} (interrupted : error.kind = .interrupted) :
      Next (.writing (buffer ++ rest) due) ⟨.write buffer, .error error⟩
        (.writing (buffer ++ rest) due)
  | fail {buffer rest due error} (failed : error.kind ≠ .interrupted) :
      Next (.writing (buffer ++ rest) due) ⟨.write buffer, .error error⟩
        (.leaving due)
  | flush {due result} : Next (.writing [] due) ⟨.flush, result⟩ (.leaving due)
  | unlock {due reply} : Next (.leaving due) ⟨.unlock, reply⟩ (.between due)

end Phase

/-- What `write_all` leaves behind. -/
def Wrote (buffer : Bytes) (before : Phase) :
    Except IoError Unit → Phase → Prop
  | .ok (), after => ∃ rest due,
      before = .writing (buffer ++ rest) due ∧ after = .writing rest due
  | .error _, after => ∃ left due,
      before = .writing left due ∧ after = .leaving due

/-- The discipline of the threads that write. -/
def writer : Typestate calls where
  State := Phase
  Next := Phase.Next
  Pre buffer phase := ∃ rest due, phase = .writing (buffer ++ rest) due
  Post := Wrote

theorem writer_sound : writer.Sound writeAllBody := by
  rintro buffer _ ⟨rest, due, rfl⟩
  unfold writeAllBody
  apply Typestate.follows_if
  · rintro rfl
    exact ⟨rest, due, rfl, rfl⟩
  · intro _ result
    match result with
    | .ok 0 => exact ⟨_, .refuse, _, _, rfl, rfl⟩
    | .ok (count + 1) =>
        refine ⟨_, .accept (Nat.succ_pos count), ⟨_, _, rfl⟩, ?_⟩
        intro result after wrote
        cases result with
        | ok _ =>
            obtain ⟨remaining, _, same, rfl⟩ := wrote
            obtain ⟨split, rfl⟩ := Phase.writing.inj same
            obtain rfl := List.append_cancel_left split
            exact ⟨rest, due, rfl, rfl⟩
        | error _ =>
            obtain ⟨_, _, same, rfl⟩ := wrote
            obtain ⟨_, rfl⟩ := Phase.writing.inj same
            exact ⟨_, _, rfl, rfl⟩
    | .error error =>
        by_cases interrupted : error.kind = .interrupted
        · refine ⟨_, .retry interrupted, ?_⟩
          simp only [if_pos interrupted]
          refine ⟨⟨_, _, rfl⟩, ?_⟩
          intro result after wrote
          exact wrote
        · refine ⟨_, .fail interrupted, ?_⟩
          simp only [if_neg interrupted]
          exact ⟨_, _, rfl, rfl⟩

/-- A part of a message that either writes `buffer` off the front of what is
left, or gives up. -/
theorem follows_andThen {buffer rest : Bytes} {due : List Message}
    {second : Written} {post : Except IoError Unit → Phase → Prop}
    (continues : writer.Follows second post (.writing rest due))
    (gives : ∀ error, post (.error error) (.leaving due)) :
    writer.Follows (andThen (writeAll buffer) second) post
      (.writing (buffer ++ rest) due) := by
  refine ⟨⟨rest, due, rfl⟩, ?_⟩
  intro result after wrote
  cases result with
  | ok _ =>
      obtain ⟨remaining, _, same, rfl⟩ := wrote
      obtain ⟨split, rfl⟩ := Phase.writing.inj same
      obtain rfl := List.append_cancel_left split
      exact continues
  | error error =>
      obtain ⟨_, _, same, rfl⟩ := wrote
      obtain ⟨_, rfl⟩ := Phase.writing.inj same
      exact gives error

theorem encode_of_allowed {kind : UInt8} {payload : Bytes} {length : UInt32}
    (allowed : outboundLength payload = some length) :
    encode (kind, payload) =
      LittleEndian.u32 length ++ ([kind] ++ (payload ++ [])) := by
  simp only [outboundLength] at allowed
  split at allowed
  · obtain rfl := Option.some.inj allowed
    simp [encode]
  · cases allowed

theorem follows_raw {kind : UInt8} {payload : Bytes} {length : UInt32}
    (allowed : outboundLength payload = some length) (due : List Message) :
    writer.Follows (raw kind payload) (fun _ after => after = .between due)
      (.between ((kind, payload) :: due)) := by
  simp only [raw, allowed]
  intro isPoisoned
  cases isPoisoned with
  | true => exact ⟨_, .poisoned, rfl⟩
  | false =>
      refine ⟨_, .lock, ?_⟩
      rw [encode_of_allowed allowed]
      have guarded : writer.Follows
          (andThen (writeAll (LittleEndian.u32 length))
            (andThen (writeAll [kind]) (andThen (writeAll payload) flush)))
          (fun _ after => after = Phase.leaving due)
          (.writing (LittleEndian.u32 length ++ ([kind] ++ (payload ++ [])))
            due) := by
        apply follows_andThen _ (fun _ => rfl)
        apply follows_andThen _ (fun _ => rfl)
        apply follows_andThen _ (fun _ => rfl)
        exact fun result => ⟨_, .flush, rfl⟩
      apply Typestate.Follows.bind
      apply guarded.mono
      rintro result _ rfl
      exact fun _ => ⟨_, .unlock, rfl⟩

/-- The message a call puts through the writer, if `raw` is reached and lets
it pass. -/
def attempted (libraries : Libraries) (call : Call) : Option Message :=
  match call.message libraries with
  | .ok message =>
      if (outboundLength message.2).isSome then some message else none
  | .error _ => none

theorem follows_thread (libraries : Libraries) (made : List Call) :
    writer.Follows (thread libraries made) (fun _ after => after = .between [])
      (.between (made.filterMap (attempted libraries))) := by
  induction made with
  | nil => rfl
  | cons call rest induction =>
      apply Typestate.Follows.bind
      cases serialised : call.message libraries with
      | error error =>
          simp only [Call.run, serialised, List.filterMap_cons, attempted]
          exact induction
      | ok message =>
          obtain ⟨kind, payload⟩ := message
          simp only [Call.run, serialised, List.filterMap_cons, attempted]
          cases allowed : outboundLength payload with
          | none =>
              simp only [raw, allowed]
              exact induction
          | some length =>
              simp only [Option.isSome_some, if_true]
              apply (follows_raw allowed _).mono
              rintro _ _ rfl
              exact induction

section Interleaved

variable {ι : Type} [DecidableEq ι]

/-- The threads that took the lock, in order. -/
def lockers (trace : (machine ι).Trace) : List ι :=
  trace.filterMap fun
    | .ran thread ⟨.lock, false⟩ => some thread
    | _ => none

def messagesOf (thread : ι) (tagged : List (ι × Message)) : List Message :=
  (tagged.filter fun entry => entry.1 = thread).map Prod.snd

/-- The underlying writer does not fail: each `write` takes something or is
interrupted, and each `flush` succeeds. -/
def Reliable (_ : (machine ι).Trace) : (machine ι).Happening → Prop
  | .ran _ ⟨.write _, .ok count⟩ => 0 < count
  | .ran _ ⟨.write _, .error error⟩ => error.kind = .interrupted
  | .ran _ ⟨.flush, .error _⟩ => False
  | _ => True

instance (past : (machine ι).Trace) :
    DecidablePred (Reliable past) := fun happening =>
  match happening with
  | .ran _ ⟨.write _, .ok count⟩ => inferInstanceAs (Decidable (0 < count))
  | .ran _ ⟨.write _, .error error⟩ =>
      inferInstanceAs (Decidable (error.kind = .interrupted))
  | .ran _ ⟨.flush, .error _⟩ => inferInstanceAs (Decidable False)
  | .ran _ ⟨.flush, .ok _⟩ => inferInstanceAs (Decidable True)
  | .ran _ ⟨.lock, _⟩ => inferInstanceAs (Decidable True)
  | .ran _ ⟨.unlock, _⟩ => inferInstanceAs (Decidable True)
  | .outside _ => inferInstanceAs (Decidable True)

/-- What the lock keeps true while `due` is what each thread set out to
write.  The ghost `tagged` lists the messages begun, in order. -/
structure Serialised (due : ι → List Message) (tagged : List (ι × Message))
    (trace : (machine ι).Trace) (shared : Shared ι) (phases : ι → Phase) :
    Prop where
  order : lockers trace = tagged.map Prod.fst
  each : ∀ thread, messagesOf thread tagged ++ (phases thread).due = due thread
  alone : ∀ thread,
    (phases thread).inside = true ↔ shared.holder = some thread
  bytes : shared.written ++
      (shared.holder.elim [] fun thread => (phases thread).left) =
    (tagged.map Prod.snd).flatMap encode

section

variable {due : ι → List Message} {tagged : List (ι × Message)}
  {trace : (machine ι).Trace} {shared : Shared ι} {phases : ι → Phase}
  {runner : ι} {after : Phase}

theorem messagesOf_append (thread : ι) (first second : List (ι × Message)) :
    messagesOf thread (first ++ second) =
      messagesOf thread first ++ messagesOf thread second := by
  simp [messagesOf]

theorem lockers_append (first second : (machine ι).Trace) :
    lockers (first ++ second) = lockers first ++ lockers second := by
  simp [lockers]

/-- The thread that holds the lock writes some bytes, perhaps none. -/
theorem Serialised.advance {event : Event calls}
    (serialised : Serialised due tagged trace shared phases)
    (holds : (phases runner).inside = true) (still : after.inside = true)
    (quiet : lockers [.ran runner event] = ([] : List ι))
    (kept : after.due = (phases runner).due) {took : Bytes}
    (split : (phases runner).left = took ++ after.left) :
    Serialised due tagged (trace ++ [.ran runner event])
      { shared with written := shared.written ++ took }
      (Function.update phases runner after) := by
  have holder := (serialised.alone runner).mp holds
  constructor
  · rw [lockers_append, quiet, List.append_nil]
    exact serialised.order
  · intro thread
    by_cases same : thread = runner
    · subst same
      simpa [kept] using serialised.each thread
    · simpa [Function.update_of_ne same] using serialised.each thread
  · intro thread
    by_cases same : thread = runner
    · subst same
      simp [still, holder]
    · simpa [Function.update_of_ne same] using serialised.alone thread
  · have bytes := serialised.bytes
    simp only [holder, Option.elim_some, split] at bytes
    simpa [holder] using bytes

/-- The thread that holds the lock writes nothing. -/
theorem Serialised.pause {event : Event calls}
    (serialised : Serialised due tagged trace shared phases)
    (holds : (phases runner).inside = true) (still : after.inside = true)
    (quiet : lockers [.ran runner event] = ([] : List ι))
    (kept : after.due = (phases runner).due)
    (same : (phases runner).left = after.left) :
    Serialised due tagged (trace ++ [.ran runner event]) shared
      (Function.update phases runner after) := by
  have advanced := serialised.advance holds still quiet kept
    (same.trans (List.nil_append _).symm)
  rwa [List.append_nil] at advanced

theorem Serialised.lock {message : Message} {rest : List Message}
    (serialised : Serialised due tagged trace shared phases)
    (free : shared.holder = none)
    (standing : phases runner = .between (message :: rest)) :
    Serialised due (tagged ++ [(runner, message)])
      (trace ++ [.ran runner ⟨.lock, false⟩])
      { shared with holder := some runner }
      (Function.update phases runner (.writing (encode message) rest)) := by
  constructor
  · rw [lockers_append, serialised.order, List.map_append]
    rfl
  · intro thread
    have each := serialised.each thread
    rw [messagesOf_append]
    by_cases same : thread = runner
    · subst same
      simpa [messagesOf, Phase.due, standing] using each
    · simpa [messagesOf, Function.update_of_ne same, Ne.symm same] using each
  · intro thread
    by_cases same : thread = runner
    · subst same
      simp [Phase.inside]
    · have alone := serialised.alone thread
      simpa [Function.update_of_ne same, free, Ne.symm same] using alone
  · have bytes := serialised.bytes
    simp only [free, Option.elim_none, List.append_nil] at bytes
    simp [bytes, Phase.left]

theorem Serialised.unlock {rest : List Message}
    (serialised : Serialised due tagged trace shared phases)
    (standing : phases runner = .leaving rest) :
    Serialised due tagged (trace ++ [.ran runner ⟨.unlock, ()⟩])
      { shared with holder := none }
      (Function.update phases runner (.between rest)) := by
  have inside : (phases runner).inside = true := by
    rw [standing]
    rfl
  have holder := (serialised.alone runner).mp inside
  constructor
  · rw [lockers_append]
    exact (List.append_nil _).trans serialised.order
  · intro thread
    by_cases same : thread = runner
    · subst same
      simpa [Phase.due, standing] using serialised.each thread
    · simpa [Function.update_of_ne same] using serialised.each thread
  · intro thread
    by_cases same : thread = runner
    · subst same
      simp [Phase.inside]
    · have alone := serialised.alone thread
      simpa [Function.update_of_ne same, holder, Ne.symm same] using alone
  · have bytes := serialised.bytes
    simpa [holder, standing, Phase.left] using bytes

theorem Serialised.step {event : Event calls}
    (serialised : Serialised due tagged trace shared phases)
    (reliable : Reliable trace (.ran runner event))
    (next : Phase.Next (phases runner) event after)
    (possible : ∃ answer, replyOf shared event.command answer =
      some event.reply) :
    ∃ tagged, Serialised due tagged (trace ++ [.ran runner event])
      (effectOf runner event shared) (Function.update phases runner after) := by
  generalize standing : phases runner = before at next
  cases next with
  | @lock message rest =>
      have free : shared.holder = none := by
        obtain ⟨answer, replied⟩ := possible
        cases answer <;> simp_all [replyOf]
      exact ⟨_, serialised.lock free standing⟩
  | poisoned =>
      obtain ⟨answer, replied⟩ := possible
      cases answer <;> simp [replyOf] at replied
  | @accept buffer rest left count positive =>
      refine ⟨tagged, serialised.advance ?_ rfl rfl ?_ ?_⟩
      · rw [standing]
        rfl
      · rw [standing]
        rfl
      · simp [standing, Phase.left, ← List.append_assoc]
  | refuse => exact absurd reliable (Nat.lt_irrefl 0)
  | retry interrupted =>
      refine ⟨tagged, serialised.pause ?_ rfl rfl ?_ ?_⟩ <;>
        simp [standing, Phase.inside, Phase.due, Phase.left]
  | fail failed => exact absurd reliable failed
  | flush =>
      refine ⟨tagged, serialised.pause ?_ rfl rfl ?_ ?_⟩ <;>
        simp [standing, Phase.inside, Phase.due, Phase.left]
  | unlock => exact ⟨tagged, serialised.unlock standing⟩

/-- What holds after every run of a reliable writer, finished or not. -/
theorem serialised_of_run {libraries : Libraries} {callsOf : ι → List Call}
    {trace : (machine ι).Trace} {config : (machine ι).Config}
    (run : Machine.Run (start libraries callsOf) trace config)
    (reliable : Machine.Obeys Reliable trace) :
    ∃ phases tagged,
      Serialised
        (fun thread => (callsOf thread).filterMap (attempted libraries))
        tagged trace config.shared phases ∧
      ∀ thread, writer.Follows (config.pool thread)
        (fun _ after => after = .between []) (phases thread) := by
  obtain ⟨phases, ⟨tagged, serialised⟩, typed⟩ := @Machine.Run.invariant
    calls (machine ι) (fun _ => writer) (fun _ _ _ => Phase.between [])
    (fun _ after => after = .between []) _ _ _ run (fun _ => writer_sound)
    (fun _ _ _ _ forked => by cases forked) Reliable reliable
    (fun trace shared phases => ∃ tagged, Serialised
      (fun thread => (callsOf thread).filterMap (attempted libraries))
      tagged trace shared phases)
    (fun thread =>
      .between ((callsOf thread).filterMap (attempted libraries)))
    (fun thread => follows_thread libraries (callsOf thread))
    ⟨[], rfl, fun _ => rfl, fun thread => by simp [Phase.inside, start], rfl⟩
    (fun past shared phases thread event after held reliable next possible => by
      obtain ⟨tagged, serialised⟩ := held
      exact serialised.step reliable next possible)
    (fun _ _ _ action => nomatch action)
  exact ⟨phases, tagged, serialised, typed⟩

end

/-- The call serialises, to a message within the cap. -/
def CallFits (libraries : Libraries) (call : Call) : Prop :=
  ∃ message, call.message libraries = .ok message ∧ Fits message

theorem outboundLength_of_fits {message : Message} (fits : Fits message) :
    outboundLength message.2 = some (UInt32.ofNat message.2.length + 1) := by
  have counted := toNat_length_of_fits fits
  have length := toNat_ofNat_of_fits fits
  have cap : maxFrameBytes.toNat = 33554432 := rfl
  rw [Fits, cap] at fits
  apply if_pos
  constructor
  · rw [length]
    omega
  · rw [UInt32.le_iff_toNat_le, counted, cap]
    exact fits

theorem attempted_of_fits {libraries : Libraries} {call : Call}
    (fits : CallFits libraries call) :
    ∃ message, call.message libraries = .ok message ∧ Fits message ∧
      attempted libraries call = some message := by
  obtain ⟨message, serialised, fits⟩ := fits
  refine ⟨message, serialised, fits, ?_⟩
  simp [attempted, serialised, outboundLength_of_fits fits]

theorem attempted_calls {libraries : Libraries} {made : List Call}
    (fits : ∀ call ∈ made, CallFits libraries call) :
    (made.filterMap (attempted libraries)).map .ok =
        made.map (Call.message libraries) ∧
      ∀ message ∈ made.filterMap (attempted libraries), Fits message := by
  induction made with
  | nil => simp
  | cons call rest induction =>
      obtain ⟨message, serialised, fit, attempt⟩ :=
        attempted_of_fits (fits call List.mem_cons_self)
      obtain ⟨same, others⟩ := induction fun later member =>
        fits later (List.mem_cons_of_mem _ member)
      simp only [List.filterMap_cons, attempt, List.map_cons, serialised, same,
        List.forall_mem_cons]
      exact ⟨trivial, fit, others⟩

/-- Every message begun was due to the thread that began it. -/
theorem Serialised.fits {due : ι → List Message} {tagged : List (ι × Message)}
    {trace : (machine ι).Trace} {shared : Shared ι} {phases : ι → Phase}
    (serialised : Serialised due tagged trace shared phases)
    (fits : ∀ thread, ∀ message ∈ due thread, Fits message) :
    ∀ message ∈ tagged.map Prod.snd, Fits message := by
  intro message member
  obtain ⟨⟨thread, _⟩, entry, rfl⟩ := List.mem_map.mp member
  apply fits thread
  rw [← serialised.each thread]
  apply List.mem_append_left
  simp only [messagesOf, List.mem_map, List.mem_filter, decide_eq_true_eq]
  exact ⟨_, ⟨entry, rfl⟩, rfl⟩

/-- When every thread is done, the reader yields the messages in the order in
which the lock was taken, each thread's in its own order, and then the end. -/
theorem framing_round_trip (libraries : Libraries) (callsOf : ι → List Call)
    (fits : ∀ thread, ∀ call ∈ callsOf thread, CallFits libraries call)
    {trace : (machine ι).Trace} {config : (machine ι).Config}
    (run : Machine.Run (start libraries callsOf) trace config)
    (reliable : Machine.Obeys Reliable trace)
    (finished : ∀ thread, config.pool thread = .ret ())
    (schedule : List Pace) :
    ∃ tagged : List (ι × Message),
      tagged.map Prod.fst = lockers trace ∧
      (∀ thread, (messagesOf thread tagged).map .ok =
        (callsOf thread).map (Call.message libraries)) ∧
      Yields ⟨config.shared.written, schedule⟩ (tagged.map Prod.snd)
        .closed := by
  obtain ⟨phases, tagged, serialised, typed⟩ := serialised_of_run run reliable
  have ended : ∀ thread, phases thread = .between [] := by
    intro thread
    have follows := typed thread
    rw [finished thread] at follows
    exact follows
  have free : config.shared.holder = none := by
    cases holder : config.shared.holder with
    | none => rfl
    | some thread =>
        have inside := (serialised.alone thread).mpr holder
        rw [ended] at inside
        cases inside
  refine ⟨tagged, serialised.order.symm, ?_, ?_⟩
  · intro thread
    have each := serialised.each thread
    rw [ended, Phase.due, List.append_nil] at each
    rw [each]
    exact (attempted_calls (fits thread)).1
  · apply yields_encode
    · apply serialised.fits
      intro thread
      exact (attempted_calls (fits thread)).2
    · have bytes := serialised.bytes
      rw [free, Option.elim_none, List.append_nil] at bytes
      exact bytes

end Interleaved

/-- One control message from each of two threads. -/
def twoCalls : Bool → List Call
  | true => [.control (.sessionClosed 1 none)]
  | false => [.control (.sessionReady 2 0 0)]

/-- A `write_all` whose calls are answered like this. -/
def writeMoves (thread : Bool) (answers : List (Except IoError Nat)) :
    List (machine Bool).Move :=
  .run thread .nothing :: answers.flatMap fun answer =>
    [.run thread (.wrote answer), .run thread .nothing]

/-- A call, with these answers for its length field. -/
def callMoves (thread : Bool) (answers : List (Except IoError Nat)) :
    List (machine Bool).Move :=
  .run thread .nothing :: writeMoves thread answers ++
    writeMoves thread [.ok 1] ++ writeMoves thread [.ok 2] ++
    [.run thread (.flushed (.ok ())), .run thread .nothing]

/-- One length field is written in two parts, the other after an interrupted
call, and the reader is handed the bytes in pieces. -/
theorem framing_round_trip_twoCalls :
    ∃ (written : Bytes) (tagged : List (Bool × Message)),
      tagged.map Prod.fst = [true, false] ∧
      Yields ⟨written, [.upTo 3, .interrupted, .upTo 1]⟩ (tagged.map Prod.snd)
        .closed := by
  have fits : ∀ thread, ∀ call ∈ twoCalls thread,
      CallFits { (default : Libraries) with toVec := fun _ => .ok [123, 125] }
        call := by
    rintro (_ | _) call member <;>
      obtain rfl := List.mem_singleton.mp member <;>
      exact ⟨_, rfl, by decide⟩
  obtain ⟨trace, config, run, checked⟩ := Machine.exists_run_of_play
    (fun trace config =>
      trace.all (fun happening => decide (Reliable [] happening)) &&
      (lockers trace == [true, false] &&
      (Machine.isDone (config.pool true) && Machine.isDone (config.pool false))))
    (show (Machine.play
      (callMoves true [.ok 3, .ok 1] ++
        callMoves false [.error ⟨.interrupted, []⟩, .ok 4])
      (start { (default : Libraries) with toVec := fun _ => .ok [123, 125] }
        twoCalls)).any _ = true by decide +kernel)
  simp only [Bool.and_eq_true, beq_iff_eq, List.all_eq_true,
    decide_eq_true_eq] at checked
  obtain ⟨reliable, order, first, second⟩ := checked
  have finished : ∀ thread : Bool, config.pool thread = .ret ()
    | true => Machine.eq_ret_of_isDone first
    | false => Machine.eq_ret_of_isDone second
  obtain ⟨tagged, tags, _, yields⟩ := framing_round_trip _ twoCalls fits run
    (.of_forall fun _ => reliable) finished [.upTo 3, .interrupted, .upTo 1]
  exact ⟨config.shared.written, tagged, tags.trans order, yields⟩

end Writer

end MoonlightAddon
