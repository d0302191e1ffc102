import MoonlightAddon.Main.Observed

/-!
# The hello gates everything

Without an accepted hello as its first control message the reader makes no
engine and writes nothing; with one it greets the host once, before anything
else.
-/

namespace MoonlightAddon

open Session Proto

namespace Main

variable {libraries : Libraries} {drain : DrainOrder}

/-- What the first control message decodes to. -/
def firstControl (libraries : Libraries) (messages : List Message) :
    Option (Except Text HostMsg) :=
  (messages.find? fun message => message.1 == kindControl).map fun message =>
    libraries.fromSlice message.2

def Accepted (libraries : Libraries) (messages : List Message) : Prop :=
  ∃ version, firstControl libraries messages =
    some (.ok (.hello Proto.abi version))

/-- The desk after the greeting and quiet work. -/
def Greeted (libraries : Libraries) (desk : Desk) : Prop :=
  ∃ others,
    desk.deeds = .issued (.control (Account.ready libraries)) :: others ∧
    ∀ deed ∈ others, deed.writes = false

section Deeds

/-- One desk comes from the other by work that writes nothing. -/
def Quietly (before after : Desk) : Prop :=
  ∃ more, after.deeds = before.deeds ++ more ∧
    ∀ deed ∈ more, deed.writes = false

theorem Greeted.quietly {before after : Desk}
    (greeted : Greeted libraries before) (quietly : Quietly before after) :
    Greeted libraries after := by
  obtain ⟨others, deeds, quiet⟩ := greeted
  obtain ⟨more, further, still⟩ := quietly
  refine ⟨others ++ more, ?_, ?_⟩
  · rw [further, deeds, List.cons_append]
  · exact List.forall_mem_append.mpr ⟨quiet, still⟩

theorem handle_quietly (desk : Desk) (message : HostMsg) :
    Quietly desk (desk.handle message) := by
  cases message with
  | connect session doc =>
      refine ⟨_, rfl, ?_⟩
      intro deed member
      rcases List.mem_cons.mp member with rfl | member
      · rfl
      · obtain ⟨old, _, member⟩ := List.mem_flatMap.mp member
        exact (Desk.tends_dropped member).1
  | input session input =>
      rw [Desk.handle]
      cases desk.sessions.lookup session with
      | none => exact ⟨[], (List.append_nil _).symm, by simp⟩
      | some value =>
          exact ⟨_, rfl, fun deed member => (Desk.tends_inputDeeds member).1⟩
  | close session =>
      rw [Desk.handle]
      split
      · exact ⟨_, rfl,
          fun deed member => (Desk.tends_closedAndDropped member).1⟩
      · exact ⟨[], by simp, by simp⟩
  | hello | resize | frameAck | shutdown =>
      exact ⟨[], by simp [Desk.handle], by simp⟩

theorem emptied_quietly (drain : DrainOrder) (result : Except Text Unit)
    (desk : Desk) : Quietly desk (desk.emptied drain result) := by
  cases result with
  | ok value =>
      refine ⟨_, rfl, ?_⟩
      intro deed member
      obtain ⟨value, _, member⟩ := List.mem_flatMap.mp member
      exact (Desk.tends_closedAndDropped member).1
  | error error =>
      refine ⟨_, rfl, ?_⟩
      intro deed member
      obtain ⟨value, _, member⟩ := List.mem_flatMap.mp member
      exact (Desk.tends_dropped member).1

end Deeds

section Accounts

theorem firstControl_other {message : Message} {messages : List Message}
    (other : message.1 ≠ kindControl) :
    firstControl libraries (message :: messages) =
      firstControl libraries messages := by
  simp [firstControl, other]

theorem firstControl_control {message : Message} {messages : List Message}
    (control : message.1 = kindControl) :
    firstControl libraries (message :: messages) =
      some (libraries.fromSlice message.2) := by
  simp [firstControl, control]

/-- The hello was accepted; nothing but `Ready` was written. -/
structure Welcomed (libraries : Libraries) (account : Account) : Prop where
  past : account.stage ≠ .opening
  greeted : Greeted libraries account.desk

theorem Welcomed.serve {account : Account}
    (welcomed : Welcomed libraries account) (message : HostMsg) :
    Welcomed libraries (account.serve message) := by
  cases message with
  | shutdown => exact ⟨by simp [Account.serve], welcomed.greeted⟩
  | _ =>
      exact ⟨welcomed.past, welcomed.greeted.quietly (handle_quietly _ _)⟩

theorem Welcomed.hear {account : Account}
    (welcomed : Welcomed libraries account) (message : Message) :
    Welcomed libraries (account.hear libraries message) := by
  cases stage : account.stage with
  | opening => exact absurd stage welcomed.past
  | finished result =>
      rw [Account.hear_finished stage]
      exact welcomed
  | serving =>
      have reads : account.stage.reads = true := by rw [stage]; rfl
      have turn := @Account.hearing libraries _ reads message
      generalize account.hear libraries message = after at turn
      cases turn with
      | skipped other => exact ⟨welcomed.past, welcomed.greeted⟩
      | garbled control decoded => exact ⟨by simp, welcomed.greeted⟩
      | heard kind decoded =>
          have serving : account.read.stage = .serving := stage
          rw [Account.attend_serving serving]
          have same : Welcomed libraries account.read :=
            ⟨welcomed.past, welcomed.greeted⟩
          exact same.serve _

theorem Welcomed.reckon {account : Account}
    (welcomed : Welcomed libraries account) (messages : List Message)
    (stop : Stop) :
    Welcomed libraries (account.reckon libraries messages stop) := by
  induction messages generalizing account with
  | nil =>
      rw [Account.reckon_nil, Account.stop]
      split
      · exact welcomed
      · exact ⟨by simp, welcomed.greeted⟩
  | cons message messages induction =>
      exact induction (welcomed.hear message)

theorem welcomed_of_accepted {account : Account}
    (opening : account.stage = .opening) (untouched : account.desk = .initial)
    {messages : List Message} (accepted : Accepted libraries messages)
    (stop : Stop) :
    Welcomed libraries (account.reckon libraries messages stop) := by
  induction messages generalizing account with
  | nil =>
      obtain ⟨version, first⟩ := accepted
      cases first
  | cons message messages induction =>
      have reads : account.stage.reads = true := by rw [opening]; rfl
      obtain ⟨version, first⟩ := accepted
      have turn := @Account.hearing libraries _ reads message
      rw [Account.reckon_cons]
      generalize account.hear libraries message = after at turn
      cases turn with
      | skipped other =>
          rw [firstControl_other other] at first
          exact induction opening untouched ⟨version, first⟩
      | garbled control decoded =>
          rw [firstControl_control control, decoded] at first
          cases first
      | heard control decoded =>
          rw [firstControl_control control, decoded] at first
          cases first
          have waiting : account.read.stage = .opening := opening
          rw [Account.attend_opening waiting]
          apply Welcomed.reckon
          refine ⟨by simp [Account.welcome], [], ?_, by simp⟩
          simp [Account.welcome, Account.read, untouched, Desk.did,
            Desk.initial]

/-- How `run` ends when no hello was accepted. -/
def Refused (libraries : Libraries) (messages : List Message) (stop : Stop)
    (result : Except Text Unit) : Prop :=
  if firstControl libraries messages = none ∧ stop = .closed then
    result = .ok ()
  else
    ∃ error, result = .error error

theorem refused_error {message : Message} {messages : List Message}
    (control : message.1 = kindControl) (stop : Stop) (error : Text) :
    Refused libraries (message :: messages) stop (.error error) := by
  rw [Refused, firstControl_control control, if_neg (by simp)]
  exact ⟨error, rfl⟩

theorem refused_of_not_accepted {account : Account}
    (opening : account.stage = .opening)
    {messages : List Message} (rejected : ¬ Accepted libraries messages)
    (stop : Stop) :
    (account.reckon libraries messages stop).desk = account.desk ∧
      ∃ result, Refused libraries messages stop result ∧
        (account.reckon libraries messages stop).stage = .finished result := by
  induction messages generalizing account with
  | nil =>
      have reads : account.stage.reads = true := by rw [opening]; rfl
      rw [Account.reckon_nil, Account.stop_reading reads]
      refine ⟨rfl, Account.stopped stop, ?_, rfl⟩
      cases stop with
      | closed => exact rfl
      | failed error => exact ⟨_, rfl⟩
  | cons message messages induction =>
      have reads : account.stage.reads = true := by rw [opening]; rfl
      have turn := @Account.hearing libraries _ reads message
      rw [Account.reckon_cons]
      generalize account.hear libraries message = after at turn
      cases turn with
      | skipped other =>
          rw [Accepted, firstControl_other other] at rejected
          simp only [Refused, firstControl_other other]
          exact @induction account.read opening rejected
      | garbled control decoded =>
          rw [Account.reckon_finished rfl]
          exact ⟨rfl, _, refused_error control stop _, rfl⟩
      | @heard greeting control decoded =>
          have waiting : account.read.stage = .opening := opening
          rw [Accepted, firstControl_control control, decoded] at rejected
          rw [Account.attend_opening waiting]
          cases greeting with
          | hello abi version =>
              have mismatch : abi ≠ Proto.abi := by
                rintro rfl
                exact rejected ⟨version, rfl⟩
              rw [Account.welcome, if_pos mismatch, Account.reckon_finished rfl]
              exact ⟨rfl, _, refused_error control stop _, rfl⟩
          | _ =>
              rw [Account.welcome, Account.reckon_finished rfl]
              · exact ⟨rfl, _, refused_error control stop _, rfl⟩
              · simp

end Accounts

section Traces

def writesToHost : Event sidecar → Bool
  | ⟨.control _, _⟩ | ⟨.frame _ _, _⟩ => true
  | _ => false

def createsEngine : Event sidecar → Bool
  | ⟨.spawn _ _, _⟩ => true
  | _ => false

/-- No engine, and nothing to the host. -/
def Silent (trace : List (Event sidecar)) : Prop :=
  ∀ event ∈ trace, writesToHost event = false ∧ createsEngine event = false

/-- `Ready` comes before everything else, and nothing is written after it. -/
def GreetsFirst (libraries : Libraries) (trace : List (Event sidecar)) :
    Prop :=
  ∃ before reply after,
    trace = before ++ ⟨.control (Account.ready libraries), reply⟩ :: after ∧
      Silent before ∧ ∀ event ∈ after, writesToHost event = false

theorem silent_of_deeds {trace : List (Event sidecar)}
    (none : ∀ event ∈ trace, deedOf event = none) : Silent trace := by
  intro event member
  have nothing := none event member
  obtain ⟨command, reply⟩ := event
  cases command with
  | control | frame | spawn => cases nothing
  | _ => exact ⟨rfl, rfl⟩

theorem writesToHost_of_quiet {event : Event sidecar} {deeds : List Deed}
    (quiet : ∀ deed ∈ deeds, deed.writes = false)
    (recorded : ∀ deed, deedOf event = some deed → deed ∈ deeds) :
    writesToHost event = false := by
  obtain ⟨command, reply⟩ := event
  cases command with
  | control message =>
      have impossible := quiet _ (recorded _ rfl)
      cases impossible
  | frame session update =>
      have impossible := quiet _ (recorded _ rfl)
      cases impossible
  | _ => rfl

theorem greetsFirst_of_greeted {stdin : Reader} {trace : List (Event sidecar)}
    {final : Surroundings}
    (path : (surroundings drain).Path (.initial stdin) trace final)
    (greeted : Greeted libraries final.desk) : GreetsFirst libraries trace := by
  obtain ⟨others, deeds, quiet⟩ := greeted
  have commands := deeds_of_path path
  rw [deeds] at commands
  obtain ⟨before, event, after, rfl, silent, wrote, rest⟩ :=
    List.filterMap_eq_cons_iff.mp commands.symm
  obtain ⟨reply, rfl⟩ := eq_control_of_deedOf wrote
  refine ⟨before, reply, after, rfl, silent_of_deeds silent, ?_⟩
  intro event member
  apply writesToHost_of_quiet quiet
  intro deed doing
  have recorded : deed ∈ after.filterMap deedOf :=
    List.mem_filterMap.mpr ⟨event, member, doing⟩
  rw [rest] at recorded
  exact recorded

theorem silent_or_greetsFirst {trace more : List (Event sidecar)}
    (greets : GreetsFirst libraries (trace ++ more)) :
    Silent trace ∨ GreetsFirst libraries trace := by
  obtain ⟨before, reply, after, split, silent, quiet⟩ := greets
  rcases List.append_eq_append_iff.mp split with
    ⟨between, rfl, _⟩ | ⟨between, rfl, rest⟩
  · left
    intro event member
    exact silent event (List.mem_append_left between member)
  · cases between with
    | nil =>
        left
        rwa [List.append_nil]
    | cons event between =>
        right
        rw [List.cons_append, List.cons.injEq] at rest
        obtain ⟨rfl, rfl⟩ := rest
        refine ⟨before, reply, between, rfl, silent, ?_⟩
        intro event member
        exact quiet event (List.mem_append_left more member)

end Traces

/-- What the hello decides about the runs on these bytes. -/
structure HelloGates (libraries : Libraries) (drain : DrainOrder)
    (stdin : Reader) (messages : List Message) (stop : Stop) : Prop where
  returns : ∀ trace program state,
    Executes libraries drain stdin trace program state →
      ∃ more outcome final,
        Executes libraries drain stdin (trace ++ more) (.ret outcome) final
  refused : ¬ Accepted libraries messages → ∀ trace program state,
    Executes libraries drain stdin trace program state → Silent trace
  accepted : Accepted libraries messages → ∀ trace program state,
    Executes libraries drain stdin trace program state →
      Silent trace ∨ GreetsFirst libraries trace
  greets : Accepted libraries messages → ∀ trace outcome final,
    Executes libraries drain stdin trace (.ret outcome) final →
      GreetsFirst libraries trace
  result : ¬ Accepted libraries messages → ∀ trace outcome final,
    Executes libraries drain stdin trace (.ret outcome) final →
      ∃ result, outcome = Outcome.ofExcept result ∧
        Refused libraries messages stop result

theorem finished_greets {stdin : Reader} {messages : List Message}
    {stop : Stop} (yields : Yields stdin messages stop)
    (accepted : Accepted libraries messages) {trace : List (Event sidecar)}
    {outcome : Outcome Unit} {final : Surroundings}
    (executes : Executes libraries drain stdin trace (.ret outcome) final) :
    GreetsFirst libraries trace := by
  obtain ⟨result, _, settled⟩ := executes.settled yields
  have welcomed :=
    @welcomed_of_accepted _ .initial rfl rfl _ accepted stop
  apply greetsFirst_of_greeted executes.path
  rw [settled.desk]
  exact welcomed.greeted.quietly (emptied_quietly drain result _)

theorem finished_refused {stdin : Reader} {messages : List Message}
    {stop : Stop} (yields : Yields stdin messages stop)
    (rejected : ¬ Accepted libraries messages) {trace : List (Event sidecar)}
    {outcome : Outcome Unit} {final : Surroundings}
    (executes : Executes libraries drain stdin trace (.ret outcome) final) :
    Silent trace ∧ ∃ result, outcome = Outcome.ofExcept result ∧
      Refused libraries messages stop result := by
  obtain ⟨result, returned, settled⟩ := executes.settled yields
  obtain ⟨untouched, result, refused, finished⟩ :=
    @refused_of_not_accepted _ .initial rfl _ rejected stop
  obtain rfl : result = _ :=
    Stage.finished.inj (finished.symm.trans settled.finished)
  refine ⟨?_, result, returned, refused⟩
  have desk : final.desk = Desk.initial := by
    rw [settled.desk, untouched]
    exact Desk.emptied_of_empty rfl result
  have commands := deeds_of_path executes.path
  rw [desk] at commands
  exact silent_of_deeds (List.filterMap_eq_nil_iff.mp commands.symm)

theorem hello_gates (libraries : Libraries) (drain : DrainOrder)
    (stdin : Reader) :
    ∃ messages stop, Yields stdin messages stop ∧
      HelloGates libraries drain stdin messages stop := by
  obtain ⟨messages, stop, yields⟩ := exists_yields stdin
  refine ⟨messages, stop, yields, ?_, ?_, ?_, ?_, ?_⟩
  · intro trace program state executes
    exact executes.returns
  · intro rejected trace program state executes
    obtain ⟨more, outcome, final, finished⟩ := executes.returns
    intro event member
    exact (finished_refused yields rejected finished).1 event
      (List.mem_append_left more member)
  · intro accepted trace program state executes
    obtain ⟨more, outcome, final, finished⟩ := executes.returns
    exact silent_or_greetsFirst (finished_greets yields accepted finished)
  · intro accepted trace outcome final executes
    exact finished_greets yields accepted executes
  · intro rejected trace outcome final executes
    exact (finished_refused yields rejected executes).2

end Main

end MoonlightAddon
