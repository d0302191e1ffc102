import MoonlightAddon.Addon.RoundTrip

/-!
# The outbound stream after write failures

A write that fails before anything of its message was accepted loses the whole
message and harms nothing.  One that fails in the middle tears the message, and
the writer remembers nothing of it: the stream stays aligned exactly as long as
nothing is accepted after that.
-/

namespace MoonlightAddon

namespace Writer

open Proto

/-- Complete messages, and at the very end at most a part of one more. -/
def Aligned (sent : Message → Prop) (written : Bytes) : Prop :=
  ∃ (messages : List Message) (last : Bytes),
    (∀ message ∈ messages, sent message) ∧
    written = messages.flatMap encode ++ last ∧
    (last = [] ∨ ∃ message, sent message ∧ last <+: encode message)

/-- How much of the message begun last was accepted, and whether some message
was given up with a part of it accepted. -/
structure Progress where
  accepted : Nat
  torn : Bool

section

variable {ι : Type} [DecidableEq ι]

def Progress.giveUp (progress : Progress) : Progress :=
  { progress with torn := progress.torn || decide (0 < progress.accepted) }

def Progress.after (progress : Progress) : (machine ι).Happening → Progress
  | .ran _ ⟨.lock, false⟩ => { progress with accepted := 0 }
  | .ran _ ⟨.write _, .ok 0⟩ => progress.giveUp
  | .ran _ ⟨.write _, .ok count⟩ =>
      { progress with accepted := progress.accepted + count }
  | .ran _ ⟨.write _, .error error⟩ =>
      if error.kind = .interrupted then progress else progress.giveUp
  | _ => progress

def progressOf (trace : (machine ι).Trace) : Progress :=
  trace.foldl Progress.after ⟨0, false⟩

/-- Nothing is accepted once a message is torn. -/
def ceases (past : (machine ι).Trace) : (machine ι).Happening → Bool
  | .ran _ ⟨.write _, .ok count⟩ => !(progressOf past).torn || count == 0
  | _ => true

/-- What was written before any message is torn: complete messages, and what
was accepted of the one being written. -/
def Whole (sent : Message → Prop) (accepted : Nat) (written : Bytes)
    (phase : Phase) : Prop :=
  ∃ (messages : List Message) (taken : Bytes),
    (∀ message ∈ messages, sent message) ∧
    written = messages.flatMap encode ++ taken ∧
    match phase with
    | .writing left _ =>
        accepted = taken.length ∧
          ∃ message, sent message ∧ encode message = taken ++ left
    | _ => taken = []

theorem Whole.aligned {sent : Message → Prop} {accepted : Nat}
    {written : Bytes} {phase : Phase}
    (whole : Whole sent accepted written phase) : Aligned sent written := by
  obtain ⟨messages, taken, sends, split, stands⟩ := whole
  refine ⟨messages, taken, sends, split, ?_⟩
  cases phase with
  | writing left due =>
      obtain ⟨_, message, sends, same⟩ := stands
      exact .inr ⟨message, sends, left, same.symm⟩
  | between due | leaving due => exact .inl stands

/-- The phase of the thread that holds the lock. -/
def current (shared : Shared ι) (phases : ι → Phase) : Phase :=
  shared.holder.elim (.between []) phases

structure Aligning (sent : Message → Prop) (trace : (machine ι).Trace)
    (shared : Shared ι) (phases : ι → Phase) : Prop where
  sends : ∀ thread, ∀ message ∈ (phases thread).due, sent message
  alone : ∀ thread,
    (phases thread).inside = true ↔ shared.holder = some thread
  aligned : Aligned sent shared.written
  whole : (progressOf trace).torn = false →
    Whole sent (progressOf trace).accepted shared.written
      (current shared phases)

section

variable {sent : Message → Prop} {trace : (machine ι).Trace}
  {shared : Shared ι} {phases : ι → Phase} {runner : ι} {after : Phase}
  {event : Event calls}

theorem progressOf_snoc (trace : (machine ι).Trace)
    (happening : (machine ι).Happening) :
    progressOf (trace ++ [happening]) =
      (progressOf trace).after happening := by
  rw [progressOf, List.foldl_append]
  rfl

theorem due_subset {before : Phase} (next : Phase.Next before event after) :
    after.due ⊆ before.due := by
  cases next with
  | lock | poisoned => exact List.subset_cons_self ..
  | _ => exact List.Subset.refl _

omit [DecidableEq ι] in
theorem current_of_holder (holder : shared.holder = some runner) :
    current shared phases = phases runner := by
  rw [current, holder]
  rfl

/-- While nothing is torn, a step of the thread that holds the lock leaves
complete messages and what was accepted of its own. -/
theorem Whole.step {progress : Progress} {before : Phase}
    (whole : Whole sent progress.accepted shared.written before)
    (inside : before.inside = true)
    (next : Phase.Next before event after)
    (possible : ∃ answer, replyOf shared event.command answer =
      some event.reply)
    (untorn : (progress.after (.ran runner event)).torn = false) :
    Whole sent (progress.after (.ran runner event)).accepted
      (effectOf runner event shared).written after := by
  obtain ⟨messages, taken, sends, split, stands⟩ := whole
  -- a message that is given up untorn was not begun
  have given : ∀ {left : Bytes} {due : List Message},
      progress.giveUp.torn = false → before = .writing left due →
        taken = [] := by
    rintro left due untorn rfl
    simp only [Progress.giveUp, Bool.or_eq_false_iff, decide_eq_false_iff_not,
      Nat.not_lt, Nat.le_zero] at untorn
    exact List.length_eq_zero_iff.mp (stands.1.symm.trans untorn.2)
  cases next with
  | lock | poisoned => cases inside
  | @accept buffer rest due count positive =>
      obtain ⟨count, rfl⟩ := Nat.exists_eq_succ_of_ne_zero positive.ne'
      have bounded : count + 1 ≤ buffer.length := by
        obtain ⟨answer, replied⟩ := possible
        cases answer with
        | wrote result =>
            cases result with
            | ok many =>
                simp only [replyOf] at replied
                split at replied
                · cases replied
                  assumption
                · cases replied
            | error error => cases replied
        | _ => cases replied
      obtain ⟨accepted, message, sent, same⟩ := stands
      refine ⟨messages, taken ++ buffer.take (count + 1), sends, ?_, ?_, message,
        sent, ?_⟩
      · rw [← List.append_assoc, ← split]
        rfl
      · rw [List.length_append, List.length_take, Nat.min_eq_left bounded]
        exact congrArg (· + (count + 1)) accepted
      · rw [same, List.append_assoc, ← List.append_assoc (buffer.take _),
          List.take_append_drop]
  | refuse =>
      obtain rfl := given untorn rfl
      exact ⟨messages, [], sends, (List.append_nil _).trans split, rfl⟩
  | retry interrupted =>
      refine ⟨messages, taken, sends, split, ?_⟩
      simpa only [Progress.after, if_pos interrupted] using stands
  | fail failed =>
      simp only [Progress.after, if_neg failed] at untorn
      obtain rfl := given untorn rfl
      exact ⟨messages, [], sends, split, rfl⟩
  | flush =>
      obtain ⟨_, message, sent, same⟩ := stands
      refine ⟨messages ++ [message], [], ?_, ?_, rfl⟩
      · intro other member
        rcases List.mem_append.mp member with before | last
        · exact sends other before
        · obtain rfl := List.mem_singleton.mp last
          exact sent
      · rw [List.append_nil] at same
        change shared.written = _
        rw [split, List.flatMap_append, List.append_nil, ← same]
        simp
  | unlock => exact ⟨messages, taken, sends, split, stands⟩

/-- The step that tears a message, and every step after it, adds nothing. -/
theorem Aligned.step {before : Phase} (aligned : Aligned sent shared.written)
    (next : Phase.Next before event after)
    (torn : (progressOf (trace ++ [.ran runner event])).torn = true)
    (ceases : ceases trace (.ran runner event) = true) :
    Aligned sent (effectOf runner event shared).written := by
  rw [progressOf_snoc] at torn
  cases next with
  | @accept buffer rest due count positive =>
      obtain ⟨count, rfl⟩ := Nat.exists_eq_succ_of_ne_zero positive.ne'
      have before : (progressOf trace).torn = true := torn
      simp [Writer.ceases, before] at ceases
  | refuse => simpa [effectOf] using aligned
  | _ => exact aligned

theorem torn_step {progress : Progress} (happening : (machine ι).Happening)
    (torn : progress.torn = true) : (progress.after happening).torn = true := by
  unfold Progress.after
  split
  · exact torn
  · simp [Progress.giveUp, torn]
  · exact torn
  · split
    · exact torn
    · simp [Progress.giveUp, torn]
  · exact torn

omit [DecidableEq ι] in
/-- A thread keeps the lock, takes it, or gives it up. -/
theorem lock_cases (runner : ι) {before : Phase} (next : Phase.Next before event after)
    (possible : ∃ answer, replyOf shared event.command answer =
      some event.reply) :
    (before.inside = true ∧ after.inside = true ∧
        (effectOf runner event shared).holder = shared.holder) ∨
      (before.inside = false ∧ shared.holder = none ∧ after.inside = true ∧
        (effectOf runner event shared).holder = some runner) ∨
      (before.inside = true ∧ after.inside = false ∧
        (effectOf runner event shared).holder = none) := by
  cases next with
  | lock =>
      have free : shared.holder = none := by
        obtain ⟨answer, replied⟩ := possible
        cases answer <;> simp_all [replyOf]
      exact .inr (.inl ⟨rfl, free, rfl, rfl⟩)
  | poisoned =>
      obtain ⟨answer, replied⟩ := possible
      cases answer <;> simp [replyOf] at replied
  | unlock => exact .inr (.inr ⟨rfl, rfl, rfl⟩)
  | _ => exact .inl ⟨rfl, rfl, rfl⟩

theorem alone_step
    (alone : ∀ thread,
      (phases thread).inside = true ↔ shared.holder = some thread)
    (next : Phase.Next (phases runner) event after)
    (possible : ∃ answer, replyOf shared event.command answer =
      some event.reply) (thread : ι) :
    (Function.update phases runner after thread).inside = true ↔
      (effectOf runner event shared).holder = some thread := by
  have moved := lock_cases runner next possible
  by_cases same : thread = runner
  · subst same
    rw [Function.update_self]
    rcases moved with ⟨inside, still, kept⟩ | ⟨_, _, inside, taken⟩ |
      ⟨_, outside, released⟩
    · simpa [still, kept] using (alone thread).mp inside
    · simp [inside, taken]
    · simp [outside, released]
  · rw [Function.update_of_ne same]
    rcases moved with ⟨inside, still, kept⟩ | ⟨_, free, _, taken⟩ |
      ⟨inside, _, released⟩
    · rw [kept]
      exact alone thread
    · simpa [taken, free, Ne.symm same] using alone thread
    · have holder := (alone runner).mp inside
      simpa [released, holder, Ne.symm same] using alone thread

theorem aligning_start {callsOf : ι → List Call} {libraries : Libraries} :
    Aligning
      (fun message => ∃ thread,
        message ∈ (callsOf thread).filterMap (attempted libraries))
      [] ⟨none, []⟩
      (fun thread =>
        .between ((callsOf thread).filterMap (attempted libraries))) where
  sends thread message member := ⟨thread, member⟩
  alone thread := by simp [Phase.inside]
  aligned := ⟨[], [], by simp, rfl, .inl rfl⟩
  whole _ := ⟨[], [], by simp, rfl, rfl⟩

theorem Aligning.whole_step (aligning : Aligning sent trace shared phases)
    (next : Phase.Next (phases runner) event after)
    (possible : ∃ answer, replyOf shared event.command answer =
      some event.reply)
    (untorn : (progressOf (trace ++ [.ran runner event])).torn = false) :
    Whole sent (progressOf (trace ++ [.ran runner event])).accepted
      (effectOf runner event shared).written
      (current (effectOf runner event shared)
        (Function.update phases runner after)) := by
  rw [progressOf_snoc] at untorn ⊢
  have before : (progressOf trace).torn = false := by
    by_contra torn
    rw [torn_step _ (Bool.not_eq_false _ ▸ torn)] at untorn
    cases untorn
  have whole := aligning.whole before
  rcases lock_cases runner next possible with
    ⟨inside, _, kept⟩ | ⟨outside, free, _, taken⟩ | ⟨inside, left, released⟩
  · have holder := (aligning.alone runner).mp inside
    rw [current_of_holder holder] at whole
    rw [current_of_holder (kept.trans holder), Function.update_self]
    exact whole.step inside next possible untorn
  · rw [current_of_holder taken, Function.update_self]
    rw [current, free] at whole
    obtain ⟨messages, _, sends, split, rfl⟩ := whole
    have due := aligning.sends runner
    generalize phases runner = before at next outside due
    cases next with
    | @lock message rest =>
        exact ⟨messages, [], sends, split, rfl, message,
          due message List.mem_cons_self, rfl⟩
    | poisoned =>
        obtain ⟨answer, replied⟩ := possible
        cases answer <;> simp [replyOf] at replied
    | _ => cases outside
  · have holder := (aligning.alone runner).mp inside
    rw [current_of_holder holder] at whole
    have after_whole := whole.step inside next possible untorn
    rw [current, released]
    cases after with
    | between due => exact after_whole
    | writing | leaving => cases left

theorem Aligning.step (aligning : Aligning sent trace shared phases)
    (ceases : ceases trace (.ran runner event) = true)
    (next : Phase.Next (phases runner) event after)
    (possible : ∃ answer, replyOf shared event.command answer =
      some event.reply) :
    Aligning sent (trace ++ [.ran runner event])
      (effectOf runner event shared) (Function.update phases runner after) := by
  have whole := aligning.whole_step next possible
  constructor
  · intro thread message member
    by_cases same : thread = runner
    · subst same
      rw [Function.update_self] at member
      exact aligning.sends thread message (due_subset next member)
    · rw [Function.update_of_ne same] at member
      exact aligning.sends thread message member
  · exact alone_step aligning.alone next possible
  · cases torn : (progressOf (trace ++ [.ran runner event])).torn with
    | true => exact aligning.aligned.step next torn ceases
    | false => exact (whole torn).aligned
  · exact whole

end

/-- At every moment of a run in which nothing is accepted after a torn message,
the stream is aligned on the messages the threads set out to write. -/
theorem stays_aligned {libraries : Libraries} {callsOf : ι → List Call}
    {trace : (machine ι).Trace} {config : (machine ι).Config}
    (run : Machine.Run (start libraries callsOf) trace config)
    (careful : Machine.Obeys (fun past next => ceases past next = true)
      trace) :
    Aligned
      (fun message => ∃ thread,
        message ∈ (callsOf thread).filterMap (attempted libraries))
      config.shared.written := by
  obtain ⟨phases, aligning, _⟩ := @Machine.Run.invariant
    calls (machine ι) (fun _ => writer) (fun _ _ _ => Phase.between [])
    (fun _ after => after = .between []) _ _ _ run (fun _ => writer_sound)
    (fun _ _ _ _ forked => by cases forked)
    (fun past next => ceases past next = true) careful
    (Aligning fun message => ∃ thread,
      message ∈ (callsOf thread).filterMap (attempted libraries))
    (fun thread =>
      .between ((callsOf thread).filterMap (attempted libraries)))
    (fun thread => follows_thread libraries (callsOf thread))
    aligning_start
    (fun _ _ _ _ _ _ aligning ceases next possible =>
      aligning.step ceases next possible)
    (fun _ _ _ action => nomatch action)
  exact aligning.aligned

end

/-- The libraries of a message whose text is the empty object. -/
def emptyObject : Libraries :=
  { (default : Libraries) with toVec := fun _ => .ok [123, 125] }

/-- The first thread's write fails after two bytes. -/
def tearing : List (machine Bool).Move :=
  .run true .nothing :: writeMoves true [.ok 2, .error ⟨.other, []⟩]

/-- A message is torn, and every write after it fails. -/
theorem stays_aligned_torn :
    ∃ written : Bytes, written.length = 2 ∧
      Aligned
        (fun message => ∃ thread,
          message ∈ (twoCalls thread).filterMap (attempted emptyObject))
        written := by
  obtain ⟨trace, config, run, checked⟩ := Machine.exists_run_of_play
    (fun trace config => Machine.checkAll ceases [] trace &&
      config.shared.written.length == 2)
    (show (Machine.play
      (tearing ++
        .run false .nothing :: writeMoves false [.error ⟨.other, []⟩])
      (start emptyObject twoCalls)).any _ = true by decide +kernel)
  simp only [Bool.and_eq_true, beq_iff_eq] at checked
  obtain ⟨careful, length⟩ := checked
  exact ⟨config.shared.written, length,
    stays_aligned run (Machine.obeys_of_checkAll careful)⟩

theorem sent_twoCalls {message : Message}
    (sent : ∃ thread,
      message ∈ (twoCalls thread).filterMap (attempted emptyObject)) :
    message = (1, [123, 125]) := by
  obtain ⟨thread, member⟩ := sent
  cases thread with
  | true => exact List.mem_singleton.mp member
  | false => exact List.mem_singleton.mp member

/-- The second thread's message follows two bytes of the first one's. -/
theorem torn_message :
    ¬ ∀ {ι : Type} [DecidableEq ι] {libraries : Libraries}
      {callsOf : ι → List Call} {trace : (machine ι).Trace}
      {config : (machine ι).Config},
      Machine.Run (start libraries callsOf) trace config →
      Aligned
        (fun message => ∃ thread,
          message ∈ (callsOf thread).filterMap (attempted libraries))
        config.shared.written := by
  intro claim
  obtain ⟨trace, config, run, checked⟩ := Machine.exists_run_of_play
    (fun _ (config : (machine Bool).Config) =>
      config.shared.written == [3, 0, 3, 0, 0, 0, 1, 123, 125])
    (show (Machine.play (tearing ++ callMoves false [.ok 4])
      (start emptyObject twoCalls)).any _ = true by decide +kernel)
  have written := eq_of_beq checked
  obtain ⟨messages, last, sends, split, ends⟩ := claim run
  rw [written] at split
  cases messages with
  | nil =>
      obtain rfl : last = [3, 0, 3, 0, 0, 0, 1, 123, 125] := split.symm
      rcases ends with empty | ⟨message, sent, part⟩
      · cases empty
      · obtain rfl := sent_twoCalls sent
        exact absurd part (by decide)
  | cons message messages =>
      obtain rfl := sent_twoCalls (sends message List.mem_cons_self)
      have third := congrArg (·[2]?) split
      cases third

end Writer

end MoonlightAddon
