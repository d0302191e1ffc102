import MoonlightAddon.Main.Phase

/-!
# The reader thread follows its phases

One lemma for each function of `main.rs`: which phases it takes the thread
through, whatever the host sends.
-/

namespace MoonlightAddon

open Session

namespace Main

variable {libraries : Libraries}

theorem follows_issue {command : Command} {phase : Phase}
    {post : Outcome command.Reply → Phase → Prop}
    (allowed : ∀ reply, ∃ after,
      Phase.Next libraries phase ⟨command, reply⟩ after ∧
        post (.ok reply) after) :
    (mainThread libraries).Follows (issue command) post phase :=
  Typestate.follows_perform allowed

section Closing

/-- A family of phases that work off the commands due. -/
def WorksOff (libraries : Libraries) (stage : List Command → Phase) : Prop :=
  ∀ command due reply,
    Phase.Next libraries (stage (command :: due)) ⟨command, reply⟩ (stage due)

variable {stage : List Command → Phase}

theorem follows_due (worksOff : WorksOff libraries stage) {command : Command}
    {due : List Command} {post : Outcome command.Reply → Phase → Prop}
    (holds : ∀ reply, post (.ok reply) (stage due)) :
    (mainThread libraries).Follows (issue command) post
      (stage (command :: due)) := by
  apply follows_issue
  intro reply
  exact ⟨stage due, worksOff command due reply, holds reply⟩

theorem follows_close (worksOff : WorksOff libraries stage)
    {session : MoonlightSession} {due : List Command}
    {post : Outcome Unit → Phase → Prop} (holds : post (.ok ()) (stage due)) :
    (mainThread libraries).Follows (close session) post
      (stage (closeSteps session.engine ++ due)) := by
  apply Typestate.follows_bind
  apply Typestate.follows_bind
  apply follows_due worksOff
  intro begun
  apply Typestate.follows_then
  apply Typestate.follows_bind
  apply follows_due worksOff
  intro finished
  apply Typestate.follows_then
  apply follows_due worksOff
  intro cleared
  apply Typestate.follows_then
  apply follows_due worksOff
  intro stored
  exact holds

theorem follows_closeAndDrop (worksOff : WorksOff libraries stage)
    {session : MoonlightSession} {due : List Command}
    {post : Outcome Unit → Phase → Prop} (holds : post (.ok ()) (stage due)) :
    (mainThread libraries).Follows (closeAndDrop session) post
      (stage (closeAndDropSteps session ++ due)) := by
  rw [closeAndDropSteps, List.append_assoc]
  apply Typestate.follows_bind
  apply follows_close worksOff
  apply Typestate.follows_then
  exact follows_close worksOff holds

theorem follows_forEach {action : MoonlightSession → Rust Unit}
    {steps : MoonlightSession → List Command}
    (one : ∀ session due (post : Outcome Unit → Phase → Prop),
      post (.ok ()) (stage due) →
        (mainThread libraries).Follows (action session) post
          (stage (steps session ++ due)))
    {sessions : List MoonlightSession} {post : Outcome Unit → Phase → Prop}
    (holds : post (.ok ()) (stage [])) :
    (mainThread libraries).Follows (forEach action sessions) post
      (stage (sessions.flatMap steps)) := by
  induction sessions with
  | nil => exact holds
  | cons session rest induction =>
      apply Typestate.follows_bind
      apply one
      apply Typestate.follows_then
      exact induction

end Closing

section Messages

theorem follows_sendButtons {engine : Engine} {previous buttons : UInt8}
    {table : List (UInt8 × Int32)} {post : Outcome Unit → Phase → Prop}
    (holds : post (.ok ()) (.sending engine)) :
    (mainThread libraries).Follows
      (sendButtons engine previous buttons table) post (.sending engine) := by
  induction table with
  | nil => exact holds
  | cons entry rest induction =>
      obtain ⟨mask, button⟩ := entry
      apply Typestate.follows_if
      · intro changed
        apply Typestate.follows_bind
        apply follows_issue
        intro reply
        exact ⟨_, .send, induction⟩
      · intro unchanged
        exact induction

theorem follows_sendInput {session : MoonlightSession} {input : RemoteInput}
    {post : Outcome Unit → Phase → Prop}
    (holds : ∀ after, after.atRest = true → post (.ok ()) after) :
    (mainThread libraries).Follows (sendInput session input) post
      (Phase.found input (some session)) := by
  have sent := holds (.sending session.engine) rfl
  cases input with
  | pointer x y buttons =>
      apply Typestate.follows_bind
      apply follows_issue
      intro moved
      refine ⟨_, .send, ?_⟩
      apply Typestate.follows_then
      apply Typestate.follows_bind
      apply follows_issue
      intro previous
      exact ⟨_, .swap, follows_sendButtons sent⟩
  | wheel x y dx dy =>
      apply Typestate.follows_if
      · intro moves
        have loud : silent (.wheel x y dx dy) = false := by
          simpa [silent] using moves
        rw [Phase.found, loud]
        apply follows_issue
        intro reply
        exact ⟨_, .send, sent⟩
      · intro still
        have quiet : silent (.wheel x y dx dy) = true := by
          simpa [silent] using still
        rw [Phase.found, quiet]
        exact holds _ rfl
  | key down code char mods =>
      cases found : vkFromCode code with
      | none =>
          simp only [sendInput, Phase.found, silent, found]
          exact holds _ rfl
      | some vk =>
          simp only [sendInput, Phase.found, silent, found]
          apply follows_issue
          intro reply
          exact ⟨_, .send, sent⟩
  | clipboardText text => exact holds _ rfl

theorem follows_handle {message : Proto.HostMsg}
    {post : Outcome Bool → Phase → Prop}
    (continues : ∀ after, after.atRest = true → post (.ok true) after)
    (stops : post (.ok false) .ended) :
    (mainThread libraries).Follows (handle message) post
      (Phase.handling message) := by
  have served := continues (.serving []) rfl
  cases message with
  | hello abi version => exact served
  | connect session doc =>
      apply Typestate.follows_bind
      apply Typestate.follows_bind
      apply follows_issue
      rintro ⟨engine, started⟩
      refine ⟨_, .spawn, ?_⟩
      apply Typestate.follows_then
      apply Typestate.follows_bind
      apply follows_issue
      intro replaced
      refine ⟨_, .insert, ?_⟩
      cases replaced with
      | none => exact served
      | some old =>
          apply Typestate.follows_then
          apply Typestate.follows_bind
          rw [Phase.dueFor, Option.elim_some,
            ← List.append_nil (closeSteps old.engine)]
          exact follows_close (fun _ _ _ => .serve) served
  | input session input =>
      apply Typestate.follows_bind
      apply follows_issue
      intro looked
      refine ⟨_, .look, ?_⟩
      cases looked with
      | none => exact served
      | some engine =>
          apply Typestate.follows_then
          apply Typestate.follows_bind
          exact follows_sendInput continues
  | resize session width height => exact served
  | frameAck session frameId => exact served
  | close session =>
      apply Typestate.follows_bind
      apply follows_issue
      intro removed
      refine ⟨_, .remove, ?_⟩
      cases removed with
      | none => exact served
      | some old =>
          apply Typestate.follows_then
          apply Typestate.follows_bind
          rw [Phase.dueFor, Option.elim_some,
            ← List.append_nil (closeAndDropSteps old)]
          exact follows_closeAndDrop (fun _ _ _ => .serve) served
  | shutdown => exact stops

theorem follows_readControlBody {before : Phase}
    (listening : before.listens = true) :
    (mainThread libraries).Follows (readControlBody libraries) (Read before)
      before := by
  apply Typestate.follows_bind
  apply Typestate.follows_performResult
  intro reply
  refine ⟨_, .read listening, ?_⟩
  match reply with
  | .error error => exact rfl
  | .ok none => exact rfl
  | .ok (some (kind, payload)) =>
      apply Typestate.follows_then
      simp only [Phase.heard]
      by_cases control : kind ≠ Proto.kindControl
      · rw [if_pos control, if_pos control]
        exact ⟨listening, fun _ _ read => read⟩
      · rw [if_neg control, if_neg control]
        cases libraries.fromSlice payload with
        | ok message => exact rfl
        | error error => exact rfl

theorem listens_of_atRest {phase : Phase} (rest : phase.atRest = true) :
    phase.listens = true := by
  cases phase with
  | opening => rfl
  | _ => exact rest

theorem onEnd_of_atRest {phase : Phase} (rest : phase.atRest = true) :
    phase.onEnd = .ended := by
  cases phase with
  | opening => cases rest
  | _ => rfl

theorem onMessage_of_atRest {phase : Phase} (rest : phase.atRest = true) :
    phase.onMessage = Phase.handling := by
  cases phase with
  | opening => cases rest
  | _ => rfl

theorem follows_readerLoopBody {before : Phase}
    (rest : before.atRest = true) :
    (mainThread libraries).Follows readerLoopBody LoopEnds before := by
  apply Typestate.follows_bind
  refine ⟨listens_of_atRest rest, ?_⟩
  rintro outcome after read
  match outcome with
  | .ok none => exact read.trans (onEnd_of_atRest rest)
  | .ok (some message) =>
      obtain rfl := read
      rw [onMessage_of_atRest rest]
      apply Typestate.follows_then
      apply Typestate.follows_bind
      apply follows_handle
      · intro after rest
        exact ⟨rest, fun _ _ ends => ends⟩
      · exact rfl
  | .err error => exact read

theorem mainThread_sound :
    (mainThread libraries).Sound (bodies libraries) := by
  rintro (⟨session, doc⟩ | _ | _) phase pre
  · exact pre.elim
  · exact follows_readControlBody pre
  · exact follows_readerLoopBody pre

end Messages

/-- The phases in which `run` may still have to drop the map. -/
def Over : Outcome Unit → Phase → Prop
  | .ok (), phase => phase = .dropping 0 ∨ phase = .emptying []
  | .err _, phase => phase = .dropping 1
  | .panicked _, _ => False

theorem follows_runSessions :
    (mainThread libraries).Follows (runSessions libraries) Over .opening := by
  apply Typestate.follows_bind
  refine ⟨rfl, ?_⟩
  rintro outcome after read
  match outcome with
  | .err error => exact read
  | .ok none => exact .inl read
  | .ok (some (.hello abi version)) =>
      obtain rfl := read
      apply Typestate.follows_then
      apply Typestate.follows_if
      · intro mismatch
        exact if_pos mismatch
      · intro agreed
        rw [Phase.onMessage, Phase.opened, if_neg agreed]
        apply Typestate.follows_bind
        apply Typestate.follows_bind
        apply follows_issue
        intro reply
        refine ⟨_, .greet, ?_⟩
        apply Typestate.follows_then
        apply Typestate.follows_bind
        refine ⟨rfl, ?_⟩
        rintro outcome after ends
        match outcome with
        | .err error => exact ends
        | .ok () =>
            obtain rfl := ends
            apply Typestate.follows_bind
            apply follows_issue
            intro sessions
            refine ⟨_, .drain, ?_⟩
            apply Typestate.follows_then
            apply follows_forEach
            · intro session due post holds
              exact follows_closeAndDrop (fun _ _ _ => .empty) holds
            · exact .inr rfl
  | .ok (some (.connect _ _)) => exact read
  | .ok (some (.input _ _)) => exact read
  | .ok (some (.resize _ _ _)) => exact read
  | .ok (some (.frameAck _ _)) => exact read
  | .ok (some (.close _)) => exact read
  | .ok (some .shutdown) => exact read

/-- The map is dropped and the process exits with the code of the result. -/
def exitCode : Outcome Unit → Nat
  | .ok () => 0
  | .err _ => 1
  | .panicked _ => 101

theorem follows_dropMap {result : Except Text Unit} {phase : Phase}
    (drops : ∀ sessions, Phase.Next libraries phase ⟨.mapDrain, sessions⟩
      (.leaving (sessions.flatMap fun old => closeSteps old.engine)
        (exitCode (Outcome.ofExcept result)))) :
    (mainThread libraries).Follows
      (do
        forEach drop (← issue .mapDrain)
        lift (Outcome.ofExcept result) : Rust Unit)
      (fun outcome after => after = .leaving [] (exitCode outcome)) phase := by
  have worksOff : WorksOff libraries fun due =>
      .leaving due (exitCode (Outcome.ofExcept result)) :=
    fun _ _ _ => .leave
  apply Typestate.follows_bind
  apply follows_issue
  intro sessions
  refine ⟨_, drops sessions, ?_⟩
  apply Typestate.follows_then
  apply Typestate.follows_bind
  apply @follows_forEach _
    (fun due => .leaving due (exitCode (Outcome.ofExcept result))) drop
    (fun old => closeSteps old.engine)
  · intro session due post holds
    exact follows_close worksOff holds
  · exact rfl

theorem follows_run :
    (mainThread libraries).Follows (run libraries)
      (fun outcome after => after = .leaving [] (exitCode outcome))
      .opening := by
  apply Typestate.follows_bind
  apply Typestate.follows_attempt
  apply follows_runSessions.mono
  intro outcome after gone
  match outcome with
  | .ok () =>
      rcases gone with rfl | rfl
      · exact @follows_dropMap _ (.ok ()) _ fun _ => .drop
      · exact @follows_dropMap _ (.ok ()) _ fun _ => .dropRest
  | .err error =>
      obtain rfl := gone
      exact @follows_dropMap _ (.error error) _ fun _ => .drop

theorem follows_main :
    (mainThread libraries).Follows (main libraries) (fun _ => final)
      .opening := by
  apply Typestate.Follows.bind
  apply follows_run.mono
  rintro outcome after rfl
  match outcome with
  | .ok () => exact fun _ => ⟨_, .exit, 0, rfl⟩
  | .err error => exact fun _ => ⟨_, .exit, 1, rfl⟩
  | .panicked message => exact fun _ => ⟨_, .exit, 101, rfl⟩

end Main

end MoonlightAddon
