import MoonlightAddon.Addon.RoundTrip
import MoonlightAddon.Responder

/-!
# The outbound size guard

`Writer::raw` narrows the payload length to 32 bits before it tests the cap.
So the guard is right for payloads below 2^32 bytes, and beyond where the
narrowed length happens to be above the cap.
-/

namespace MoonlightAddon

namespace Writer

open Proto

section Ledger

/-- The bytes a step puts into the underlying writer. -/
def accepted : Event calls → Bytes
  | ⟨.write buffer, .ok count⟩ => buffer.take count
  | _ => []

/-- The bytes a call puts into the underlying writer. -/
def written (trace : List (Event calls)) : Bytes :=
  trace.flatMap accepted

/-- The bytes written so far; `write_all` succeeds only once all of its buffer
is written. -/
def ledger : Typestate calls where
  State := Bytes
  Next before event after := after = before ++ accepted event
  Pre _ _ := True
  Post buffer before result after := result = .ok () → after = before ++ buffer

theorem take_then_drop (before buffer : Bytes) (count : Nat) :
    before ++ buffer.take count ++ buffer.drop count = before ++ buffer := by
  rw [List.append_assoc, List.take_append_drop]

theorem one_after_the_other (first second third : Bytes) :
    [] ++ first ++ second ++ third ++ [] =
      first ++ (second ++ (third ++ [])) := by
  simp

theorem ledger_sound : ledger.Sound writeAllBody := by
  intro buffer before _
  unfold writeAllBody
  apply Typestate.follows_if
  · rintro rfl _
    exact (List.append_nil before).symm
  · intro _ result
    refine ⟨_, rfl, ?_⟩
    match result with
    | .ok 0 => exact fun impossible => nomatch impossible
    | .ok (count + 1) =>
        refine ⟨trivial, ?_⟩
        intro result after wrote done
        exact (wrote done).trans (take_then_drop before buffer _)
    | .error error =>
        by_cases interrupted : error.kind = .interrupted
        · simp only [if_pos interrupted]
          refine ⟨trivial, ?_⟩
          intro result after wrote done
          exact (wrote done).trans
            (congrArg (· ++ buffer) (List.append_nil before))
        · simp only [if_neg interrupted]
          exact fun impossible => nomatch impossible

theorem written_snoc (past : List (Event calls)) (event : Event calls) :
    written (past ++ [event]) = written past ++ accepted event := by
  simp [written]

theorem written_of_path {trace : List (Event calls)} {finish : Bytes}
    (path : ledger.Path ([] : Bytes) trace finish) : finish = written trace := by
  apply path.invariant (fun past state => state = written past) rfl
  intro past state event after held moved
  rw [written_snoc, ← held]
  exact moved

/-- A part that writes its buffer, and what follows once it succeeded. -/
theorem records_andThen {buffer : Bytes} {second : Written}
    {post : Except IoError Unit → Bytes → Prop} {before : Bytes}
    (continues : ledger.Follows second post (before ++ buffer))
    (gives : ∀ error after, post (.error error) after) :
    ledger.Follows (andThen (writeAll buffer) second) post before := by
  refine ⟨trivial, ?_⟩
  intro result after wrote
  cases result with
  | ok _ =>
      rw [wrote rfl]
      exact continues
  | error error => exact gives error after

theorem records_raw {kind : UInt8} {payload : Bytes} {length : UInt32}
    (allowed : outboundLength payload = some length) :
    ledger.Follows (raw kind payload)
      (fun result after => result = .ok () → after = encode (kind, payload))
      [] := by
  simp only [raw, allowed]
  intro isPoisoned
  refine ⟨_, rfl, ?_⟩
  cases isPoisoned with
  | true => rintro ⟨⟩
  | false =>
      apply Typestate.Follows.bind
      have guarded : ledger.Follows
          (andThen (writeAll (LittleEndian.u32 length))
            (andThen (writeAll [kind]) (andThen (writeAll payload) flush)))
          (fun result after => result = .ok () →
            after = encode (kind, payload)) [] := by
        rw [encode_of_allowed allowed]
        apply records_andThen _ (by rintro _ _ ⟨⟩)
        apply records_andThen _ (by rintro _ _ ⟨⟩)
        apply records_andThen _ (by rintro _ _ ⟨⟩)
        intro result
        refine ⟨_, rfl, ?_⟩
        intro _
        exact one_after_the_other _ _ _
      apply guarded.mono
      intro result after holds _
      refine ⟨_, rfl, ?_⟩
      intro done
      exact (List.append_nil after).trans (holds done)

end Ledger

/-- The guard refuses exactly by the length modulo 2^32. -/
theorem outboundLength_eq_none {payload : Bytes} :
    outboundLength payload = none ↔
      maxFrameBytes.toNat ≤ payload.length % 2 ^ 32 := by
  have cap : maxFrameBytes.toNat = 33554432 := rfl
  have narrowed : (UInt32.ofNat payload.length).toNat =
      payload.length % 2 ^ 32 := UInt32.toNat_ofNat'
  have one : (1 : UInt32).toNat = 1 := rfl
  simp only [outboundLength, ite_eq_right_iff, reduceCtorEq, imp_false, not_and,
    UInt32.le_iff_toNat_le, UInt32.toNat_add, narrowed, one, cap]
  omega

/-- The narrowed length does not hide a payload that is too large. -/
def Exposed (message : Message) : Prop :=
  message.2.length < 2 ^ 32 ∨
    maxFrameBytes.toNat ≤ message.2.length % 2 ^ 32

theorem fits_of_allowed {message : Message} (exposed : Exposed message)
    (allowed : outboundLength message.2 ≠ none) : Fits message := by
  rw [Ne, outboundLength_eq_none] at allowed
  unfold Exposed at exposed
  unfold Fits
  omega

theorem refused_of_exposed {message : Message} (exposed : Exposed message)
    (large : maxFrameBytes.toNat < 1 + message.2.length) :
    outboundLength message.2 = none := by
  rw [outboundLength_eq_none]
  unfold Exposed at exposed
  omega

section

variable (libraries : Libraries)

/-- What a call has done when it returns. -/
structure Recorded (call : Call) (result : Except IoError Unit)
    (after : Bytes) : Prop where
  whole : result = .ok () → ∃ message, call.message libraries = .ok message ∧
    outboundLength message.2 ≠ none ∧ after = encode message
  refused : ∀ message, call.message libraries = .ok message →
    outboundLength message.2 = none →
    (∃ error, result = .error error) ∧ after = []

theorem records_call (call : Call) :
    ledger.Follows (call.run libraries) (Recorded libraries call)
      ([] : Bytes) := by
  cases serialised : call.message libraries with
  | error error =>
      simp only [Call.run, serialised]
      constructor
      · rintro ⟨⟩
      · intro message same _
        cases serialised.symm.trans same
  | ok message =>
      obtain ⟨kind, payload⟩ := message
      simp only [Call.run, serialised]
      cases allowed : outboundLength payload with
      | none =>
          simp only [raw, allowed]
          constructor
          · rintro ⟨⟩
          · exact fun _ _ _ => ⟨⟨_, rfl⟩, rfl⟩
      | some length =>
          apply (records_raw allowed).mono
          intro result after wrote
          constructor
          · intro done
            refine ⟨_, serialised, ?_, wrote done⟩
            simp [allowed]
          · intro other same refused
            obtain rfl := Except.ok.inj (serialised.symm.trans same)
            cases allowed.symm.trans refused

theorem recorded_of_run {call : Call} {result : Except IoError Unit}
    {trace : List (Event calls)}
    (run : Program.Run writeAllBody (call.run libraries) trace (.ret result)) :
    Recorded libraries call result (written trace) := by
  obtain ⟨after, path, recorded⟩ := Typestate.follows_run ledger_sound run
    (records_call libraries call)
  rw [← written_of_path path]
  exact recorded

/-- The property of the guard: a call that succeeds has written bytes that are
read back as its message, and a message beyond the cap writes nothing. -/
def Guarded (call : Call) : Prop :=
  ∀ trace result,
    Program.Run writeAllBody (call.run libraries) trace (.ret result) →
      (result = .ok () →
        ∃ message, call.message libraries = .ok message ∧
          ∀ schedule, ∃ after,
            readMessage ⟨written trace, schedule⟩ =
              (.ok (some message), after) ∧ after.bytes = []) ∧
      ∀ message, call.message libraries = .ok message →
        maxFrameBytes.toNat < 1 + message.2.length →
        (∃ error, result = .error error) ∧ written trace = []

end

theorem run_writeAll (buffer : Bytes) :
    ∃ trace, Program.Run writeAllBody (writeAll buffer) trace
      (.ret (.ok ())) := by
  have nothing : Program.Run writeAllBody (writeAll []) [] (.ret (.ok ())) :=
    .step .unfold (.refl _)
  cases buffer with
  | nil => exact ⟨_, nothing⟩
  | cons byte rest =>
      have body : Program.Run writeAllBody (writeAllBody (byte :: rest))
          [⟨.write (byte :: rest), .ok (rest.length + 1)⟩]
          (.ret (.ok ())) := by
        rw [writeAllBody, if_neg (List.cons_ne_nil byte rest)]
        apply Program.Run.step (.act _)
        change Program.Run _ (writeAll ((byte :: rest).drop (rest.length + 1)))
          _ _
        rw [List.drop_eq_nil_of_le (List.length_cons ▸ Nat.le_refl _)]
        exact nothing
      exact ⟨_, .step .unfold (body.bind _)⟩

theorem run_andThen {first second : Written} {result : Except IoError Unit}
    (begins : ∃ trace, Program.Run writeAllBody first trace (.ret (.ok ())))
    (continues : ∃ trace, Program.Run writeAllBody second trace
      (.ret result)) :
    ∃ trace, Program.Run writeAllBody (andThen first second) trace
      (.ret result) := by
  obtain ⟨before, begins⟩ := begins
  obtain ⟨after, continues⟩ := continues
  exact ⟨before ++ after, (begins.bind _).append continues⟩

/-- An underlying writer may take everything it is given. -/
theorem run_raw {kind : UInt8} {payload : Bytes}
    (allowed : outboundLength payload ≠ none) :
    ∃ trace, Program.Run writeAllBody (raw kind payload) trace
      (.ret (.ok ())) := by
  obtain ⟨length, allowed⟩ := Option.ne_none_iff_exists'.mp allowed
  simp only [raw, allowed]
  have flushed : ∃ trace, Program.Run writeAllBody flush trace
      (.ret (.ok ())) :=
    ⟨_, .step (.act (Except.ok ())) (.refl _)⟩
  obtain ⟨trace, body⟩ := run_andThen (run_writeAll (LittleEndian.u32 length))
    (run_andThen (run_writeAll [kind])
      (run_andThen (run_writeAll payload) flushed))
  have unlocked := (body.bind fun result =>
    @Program.act calls _ .unlock fun () => .ret result).append
      (.step (.act ()) (.refl _))
  refine ⟨⟨.lock, false⟩ :: (trace ++ [⟨.unlock, ()⟩]), ?_⟩
  apply Program.Run.step (.act _)
  exact unlocked

theorem guarded_of_exposed {libraries : Libraries} {call : Call}
    (exposed : ∀ message, call.message libraries = .ok message →
      Exposed message) : Guarded libraries call := by
  intro trace result run
  have recorded := recorded_of_run libraries run
  constructor
  · intro done
    obtain ⟨message, serialised, allowed, bytes⟩ := recorded.whole done
    refine ⟨message, serialised, ?_⟩
    intro schedule
    have fits := fits_of_allowed (exposed message serialised) allowed
    apply readMessage_encode fits
    rw [List.append_nil]
    exact bytes
  · intro message serialised large
    apply recorded.refused message serialised
    exact refused_of_exposed (exposed message serialised) large

theorem not_guarded {libraries : Libraries} {call : Call} {message : Message}
    (serialised : call.message libraries = .ok message)
    (hidden : ¬ Exposed message) : ¬ Guarded libraries call := by
  intro guarded
  unfold Exposed at hidden
  have cap : maxFrameBytes.toNat = 33554432 := rfl
  have allowed : outboundLength message.2 ≠ none := by
    rw [Ne, outboundLength_eq_none]
    omega
  obtain ⟨kind, payload⟩ := message
  obtain ⟨trace, run⟩ := @run_raw kind payload allowed
  have call_run : call.run libraries = raw kind payload := by
    simp only [Call.run, serialised]
  rw [← call_run] at run
  obtain ⟨⟨_, impossible⟩, _⟩ := (guarded trace _ run).2 _ serialised (by omega)
  cases impossible

/-- The guard holds up exactly for the payloads whose low 32 bits of length
still show that they are too large. -/
theorem outbound_size_guard (libraries : Libraries) (call : Call) :
    Guarded libraries call ↔
      ∀ message, call.message libraries = .ok message →
        message.2.length < 2 ^ 32 ∨
          maxFrameBytes.toNat ≤ message.2.length % 2 ^ 32 := by
  constructor
  · intro guarded message serialised
    by_contra hidden
    exact not_guarded serialised hidden guarded
  · exact guarded_of_exposed

/-- A frame of the whole surface. -/
def keyFrame (data : Bytes) : Call :=
  .frame 7 {
    codec := .h264
    frameId := 1
    width := 1920
    height := 1080
    x := 0
    y := 0
    w := 1920
    h := 1080
    key := true
    sx := 0
    sy := 0
    data }

theorem not_guarded_keyFrame {data : Bytes}
    (wraps : data.length = 2 ^ 32 - 26) :
    ¬ Guarded default (keyFrame data) := by
  apply @not_guarded default (keyFrame data) (Proto.kindFrame, _) rfl
  rw [Exposed, length_framePayload, wraps]
  decide

/-- A payload of exactly 2^32 bytes passes the guard. -/
theorem outbound_size_guard_wraps :
    ¬ Guarded default (keyFrame (List.replicate (2 ^ 32 - 26) 0)) :=
  not_guarded_keyFrame List.length_replicate

end Writer

end MoonlightAddon
