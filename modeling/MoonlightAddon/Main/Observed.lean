import MoonlightAddon.Addon.Exactness
import MoonlightAddon.Main.Dispatch
import MoonlightAddon.Responder

/-!
# Runs of the reader

What the commands of a run say about its surroundings, and the desk at each
`read_message` of a run: it is the desk of the account of the messages read
until then.
-/

namespace MoonlightAddon

open Session Proto

namespace Main

variable {libraries : Libraries} {drain : DrainOrder}

/-- A run of `run` on these bytes has got this far. -/
structure Executes (libraries : Libraries) (drain : DrainOrder)
    (stdin : Reader) (trace : List (Event sidecar)) (program : Rust Unit)
    (state : Surroundings) : Prop where
  run : Program.Run (bodies libraries) (run libraries) trace program
  path : (surroundings drain).Path (.initial stdin) trace state

theorem exists_yields (stdin : Reader) :
    ∃ messages stop, Yields stdin messages stop := by
  obtain ⟨messages, rest, splits⟩ := exists_splits stdin.bytes
  rcases yields_of_splits splits with ⟨_, yields⟩ | ⟨_, error, yields⟩
  · exact ⟨messages, .closed, yields⟩
  · exact ⟨messages, .failed error, yields⟩

theorem Executes.continues {stdin : Reader} {trace : List (Event sidecar)}
    {program : Rust Unit} {state : Surroundings}
    (executes : Executes libraries drain stdin trace program state) :
    ∃ more outcome final,
      Program.Run (bodies libraries) program more (.ret outcome) ∧
        (surroundings drain).Path state more final := by
  obtain ⟨messages, stop, yields⟩ := exists_yields stdin
  exact ((ends_run yields).run executes.run executes.path).exists_run

/-- No run goes on forever, and none gets stuck. -/
theorem Executes.returns {stdin : Reader} {trace : List (Event sidecar)}
    {program : Rust Unit} {state : Surroundings}
    (executes : Executes libraries drain stdin trace program state) :
    ∃ more outcome final,
      Executes libraries drain stdin (trace ++ more) (.ret outcome) final := by
  obtain ⟨more, outcome, final, run, path⟩ := executes.continues
  exact ⟨more, outcome, final, executes.run.append run,
    executes.path.append path⟩

theorem Executes.settled {stdin : Reader} {messages : List Message}
    {stop : Stop} (yields : Yields stdin messages stop)
    {trace : List (Event sidecar)} {outcome : Outcome Unit}
    {final : Surroundings}
    (executes : Executes libraries drain stdin trace (.ret outcome) final) :
    ∃ result, outcome = Outcome.ofExcept result ∧
      (Account.initial.reckon libraries messages stop).Settles drain result
        final :=
  (ends_run yields).returned executes.run executes.path

section Commands

theorem eq_control_of_deedOf {event : Event sidecar} {message : AddonMsg}
    (wrote : deedOf event = some (.issued (.control message))) :
    ∃ reply, event = ⟨.control message, reply⟩ := by
  obtain ⟨command, reply⟩ := event
  cases command with
  | control other =>
      cases wrote
      exact ⟨reply, rfl⟩
  | _ => cases wrote

theorem eq_spawn_of_deedOf {event : Event sidecar} {engine : Engine}
    {session : UInt32} {doc : MoonlightConnectDoc}
    (connected : deedOf event = some (.connected engine session doc)) :
    ∃ started, event = ⟨.spawn session doc, (engine, started)⟩ := by
  obtain ⟨command, reply⟩ := event
  cases command with
  | spawn other wanted =>
      cases connected
      exact ⟨reply.2, rfl⟩
  | _ => cases connected

theorem eq_storeStop_of_deedOf {event : Event sidecar} {engine : Engine}
    (closed : deedOf event = some (.issued (.storeStop engine))) :
    event = ⟨.storeStop engine, ()⟩ := by
  obtain ⟨command, reply⟩ := event
  cases command with
  | storeStop other =>
      cases closed
      rfl
  | _ => cases closed

theorem deeds_after (state : Surroundings) (event : Event sidecar) :
    (state.after event).desk.deeds =
      state.desk.deeds ++ (deedOf event).toList := by
  obtain ⟨command, reply⟩ := event
  cases command with
  | readMessage | mapInsert | mapGet | mapDrain =>
      exact (List.append_nil _).symm
  | mapRemove session =>
      cases reply with
      | none => exact (List.append_nil _).symm
      | some value => exact (List.append_nil _).symm
  | _ => rfl

/-- The deeds on the desk are those of the trace. -/
theorem deeds_of_path {stdin : Reader} {trace : List (Event sidecar)}
    {state : Surroundings}
    (path : (surroundings drain).Path (.initial stdin) trace state) :
    state.desk.deeds = trace.filterMap deedOf := by
  apply path.invariant fun trace state =>
    state.desk.deeds = trace.filterMap deedOf
  · rfl
  · rintro past state event after deeds ⟨_, rfl⟩
    rw [deeds_after, deeds, List.filterMap_append]
    congr 1

theorem mem_deeds_iff {stdin : Reader} {trace : List (Event sidecar)}
    {state : Surroundings}
    (path : (surroundings drain).Path (.initial stdin) trace state)
    {deed : Deed} :
    deed ∈ state.desk.deeds ↔ ∃ event ∈ trace, deedOf event = some deed := by
  rw [deeds_of_path path, List.mem_filterMap]

end Commands

section Turns

/-- The messages a run has read. -/
def readIn (trace : List (Event sidecar)) : List Message :=
  trace.filterMap fun event =>
    match event with
    | ⟨.readMessage, .ok (some message)⟩ => some message
    | _ => none

/-- The control messages among these, as far as they can be decoded. -/
def controls (libraries : Libraries) (messages : List Message) :
    List HostMsg :=
  messages.filterMap fun (kind, payload) =>
    if kind ≠ kindControl then none
    else (libraries.fromSlice payload).toOption

theorem readIn_append (first second : List (Event sidecar)) :
    readIn (first ++ second) = readIn first ++ readIn second :=
  List.filterMap_append

/-- Every command but `read_message` leaves stdin and the turns alone. -/
theorem unread (state : Surroundings) (event : Event sidecar) :
    (∃ reply, event = ⟨.readMessage, reply⟩) ∨
      (readIn [event] = [] ∧
        (state.after event).turns = state.turns ∧
        (state.after event).stdin = state.stdin) := by
  obtain ⟨command, reply⟩ := event
  cases command with
  | readMessage => exact .inl ⟨reply, rfl⟩
  | mapRemove session =>
      cases reply with
      | none => exact .inr ⟨rfl, rfl, rfl⟩
      | some value => exact .inr ⟨rfl, rfl, rfl⟩
  | _ => exact .inr ⟨rfl, rfl, rfl⟩

theorem turns_of_path {state final : Surroundings}
    {trace : List (Event sidecar)}
    (path : (surroundings drain).Path state trace final) :
    state.turns <+: final.turns := by
  apply path.invariant fun _ later => state.turns <+: later.turns
  · exact List.prefix_rfl
  · rintro past later event after held ⟨_, rfl⟩
    apply held.trans
    rcases @unread later event with ⟨reply, rfl⟩ | ⟨_, same, _⟩
    · exact List.prefix_append ..
    · exact same.symm ▸ List.prefix_rfl

/-- The surroundings and a list of messages after some of them were read. -/
structure Reading (messages : List Message) (stop : Stop)
    (trace : List (Event sidecar)) (state : Surroundings) : Prop where
  past : readIn trace = messages.take state.turns.length
  future : Yields state.stdin (messages.drop state.turns.length) stop

theorem reading_of_path {stdin : Reader} {messages : List Message}
    {stop : Stop} (yields : Yields stdin messages stop)
    {trace : List (Event sidecar)} {state : Surroundings}
    (path : (surroundings drain).Path (.initial stdin) trace state)
    (fewer : state.turns.length ≤ messages.length) :
    Reading messages stop trace state := by
  revert fewer
  apply path.invariant fun trace state =>
    state.turns.length ≤ messages.length → Reading messages stop trace state
  · intro _
    exact ⟨rfl, yields⟩
  · rintro past state event after reading ⟨answers, rfl⟩ fewer
    rcases @unread state event with
      ⟨reply, rfl⟩ | ⟨nothing, turns, stdin⟩
    · obtain rfl : reply = state.readReply := answers
      change (state.turns ++ [state.desk]).length ≤ _ at fewer
      rw [List.length_append] at fewer
      obtain ⟨before, left⟩ := reading (Nat.le_of_succ_le fewer)
      rw [List.drop_eq_getElem_cons fewer] at left
      cases left with
      | message read later =>
          have replied : state.readReply =
              .ok (some messages[state.turns.length]) := by
            rw [Surroundings.readReply, read]
            rfl
          refine ⟨?_, ?_⟩
          · rw [readIn_append, before, replied]
            simp [Surroundings.after, Surroundings.turned, readIn,
              List.take_append_getElem]
          · simpa [Surroundings.after, Surroundings.turned, read] using later
    · rw [turns] at fewer
      obtain ⟨before, left⟩ := reading fewer
      refine ⟨?_, ?_⟩
      · rw [readIn_append, nothing, List.append_nil, turns, before]
      · rwa [turns, stdin]

/-- At each `read_message` the desk is that of the messages read before, and
none of them ended the reading. -/
theorem Executes.desk_at_read {stdin : Reader} {past : List (Event sidecar)}
    {reply : Except Text (Option Message)} {program : Rust Unit}
    {state : Surroundings}
    (executes : Executes libraries drain stdin (past ++ [⟨.readMessage, reply⟩])
      program state) :
    (Account.after libraries (readIn past)).stage.reads = true ∧
      (Account.after libraries (readIn past)).desk = state.desk := by
  obtain ⟨messages, stop, yields⟩ := exists_yields stdin
  obtain ⟨more, outcome, final, run, later⟩ := executes.continues
  have finished : Executes libraries drain stdin _ (.ret outcome) final :=
    ⟨executes.run.append run, executes.path.append later⟩
  obtain ⟨result, _, settled⟩ := finished.settled yields
  obtain ⟨agree, few⟩ := Account.turns_reckon libraries messages stop
  rw [← settled.turns] at agree few
  obtain ⟨before, earlier, _, rfl⟩ := executes.path.of_snoc
  obtain ⟨others, turns⟩ := turns_of_path later
  have turn : final.turns[before.turns.length]? = some before.desk := by
    simp [← turns, Surroundings.after, Surroundings.turned]
  have fewer : before.turns.length ≤ messages.length := by
    rw [List.getElem?_eq_some_iff] at turn
    obtain ⟨bound, _⟩ := turn
    omega
  rw [(reading_of_path yields earlier fewer).past]
  exact agree _ _ turn

end Turns

end Main

end MoonlightAddon
