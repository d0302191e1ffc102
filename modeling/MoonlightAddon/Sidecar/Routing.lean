import MoonlightAddon.Sidecar.Connection
import MoonlightAddon.Sidecar.Isolation

/-!
# Where the input goes

`LiSend*` reach the C core's one connection, whoever it belongs to.  The reader
finds the engine of an input in the session map, which keeps the engines whose
sessions ended on their own; the calls are well directed as long as no input
to such an engine makes one.
-/

namespace MoonlightAddon

namespace Sidecar

variable {libraries : Libraries}

/-- The input a message carries. -/
def inputOf (libraries : Libraries) : Event sidecar → Option RemoteInput
  | ⟨.readMessage, .ok (some (_, payload))⟩ =>
      match libraries.fromSlice payload with
      | .ok (.input _ input) => some (Main.toCoreInput input)
      | _ => none
  | _ => none

/-- The input of the message the reader has just read. -/
def lastInput (trace : (process libraries).Trace) : Option RemoteInput :=
  (readerEvents trace).getLast?.bind (inputOf libraries)

/-- The engine's session is live, or no session is. -/
def answerable (engine : Engine) (trace : (process libraries).Trace) : Bool :=
  !reportedClosed engine trace &&
    ((startedEngines trace).contains engine ||
      (startedEngines trace).all fun other => reportedClosed other trace)

/-- An input that finds an engine makes no call, or comes while the engine's
session is live. -/
def timely (past : (process libraries).Trace) :
    (process libraries).Happening → Bool
  | .ran .reader ⟨.mapGet _, some value⟩ =>
      (lastInput past).all silent || answerable value.engine past
  | _ => true

/-- The calls of one input and what happens between them. -/
def isSend : Event sidecar → Bool
  | ⟨.liSend _ _, _⟩ | ⟨.swapButtons _ _, _⟩ => true
  | _ => false

/-- The engine was made for this session. -/
def MadeFor (session : UInt32) (engine : Engine)
    (trace : (process libraries).Trace) : Prop :=
  ∃ doc started, ⟨.spawn session doc, (engine, started)⟩ ∈ readerEvents trace

/-- The calls that follow a lookup are for the engine that it found, which was
made for that session and not reported closed. -/
def Directed (trace : (process libraries).Trace) (engine : Engine) : Prop :=
  ∀ earlier session value between,
    trace = earlier ++ .ran .reader ⟨.mapGet session, some value⟩ :: between →
    (readerEvents between).all isSend = true →
      value.engine = engine ∧ reportedClosed engine earlier = false ∧
        MadeFor session engine earlier

section Map

/-- The commands that change the session map. -/
def remaps : Command → Bool
  | .mapInsert _ _ | .mapRemove _ | .mapDrain => true
  | _ => false

theorem effect_sessions (thread : Thread) {event : Event sidecar}
    (still : remaps event.command = false) (shared : Shared) :
    (effectOf thread event shared).sessions = shared.sessions := by
  obtain ⟨command, reply⟩ := event
  cases command with
  | mapInsert | mapRemove | mapDrain => cases still
  | _ => cases thread <;> rfl

theorem remaps_of_closing {command : Command}
    (closes : (closing command).isSome = true) : remaps command = false := by
  cases command with
  | mapInsert | mapRemove | mapDrain => cases closes
  | _ => rfl

theorem remaps_of_work {worker after : Worker} {event : Event sidecar}
    (next : Worker.Next worker event after) :
    remaps event.command = false := by
  have unread := not_readerOnly_of_work next
  cases issued : event.command with
  | mapInsert | mapRemove | mapDrain =>
      rw [issued] at unread
      cases unread
  | _ => rfl

theorem callBack_sessions (callback : Callback) (shared : Shared) :
    (callBack callback shared).2.sessions = shared.sessions := by
  obtain ⟨_, _, _, same⟩ := callBack_frame callback shared
  rw [same]

variable {trace : (process libraries).Trace} {shared : Shared}
  {standing : Standing}

/-- Every entry of the map is under the session its engine was made for. -/
structure Mapped (trace : (process libraries).Trace) (shared : Shared)
    (reader : Main.Phase) : Prop where
  entries : ∀ session value, shared.sessions.lookup session = some value →
    MadeFor session value.engine trace
  inserting : ∀ session value, reader = .inserting session value →
    MadeFor session value.engine trace

theorem MadeFor.extend {session : UInt32} {engine : Engine}
    {happening : (process libraries).Happening}
    (made : MadeFor session engine trace) :
    MadeFor session engine (trace ++ [happening]) := by
  obtain ⟨doc, started, member⟩ := made
  refine ⟨doc, started, ?_⟩
  unfold readerEvents at member ⊢
  rw [Machine.eventsOf_append]
  exact List.mem_append_left _ member

theorem mapped_initial :
    Mapped ([] : (process libraries).Trace) .initial .opening where
  entries _ _ found := by cases found
  inserting _ _ impossible := by cases impossible

/-- An engine is put into the map right after it was made. -/
theorem spawn_of_inserting {before : Main.Phase} {event : Event sidecar}
    {session : UInt32} {value : MoonlightSession}
    (next : Main.Phase.Next libraries before event (.inserting session value)) :
    ∃ doc started, event = ⟨.spawn session doc, (value.engine, started)⟩ := by
  generalize inserting : Main.Phase.inserting session value = after at next
  cases next with
  | @spawn spawned doc engine started =>
      obtain ⟨rfl, rfl⟩ := Main.Phase.inserting.inj inserting
      exact ⟨doc, started, rfl⟩
  | @read before reply listening =>
      have turn := @Main.turn_heard libraries before reply
      rw [← inserting] at turn
      cases turn with
      | stay => cases listening
  | look =>
      simp only [Main.Phase.found] at inserting
      split at inserting
      · split at inserting <;> cases inserting
      · cases inserting
  | _ => cases inserting

theorem Mapped.read {event : Event sidecar} {after : Main.Phase}
    (mapped : Mapped trace shared standing.reader)
    (tracked : Tracked trace shared standing)
    (next : Main.Phase.Next libraries standing.reader event after) :
    Mapped (trace ++ [.ran .reader event]) (effectOf .reader event shared)
      after := by
  have closes := tracked.due
  constructor
  · intro session value found
    cases still : remaps event.command with
    | false =>
        rw [effect_sessions _ still] at found
        exact (mapped.entries session value found).extend
    | true =>
        generalize before_def : standing.reader = before at next closes
        cases next with
        | @insert inserted stored replaced =>
            change (shared.sessions.insert inserted stored).lookup session =
              some value at found
            by_cases same : session = inserted
            · subst same
              rw [AList.lookup_insert] at found
              obtain rfl := Option.some.inj found
              exact (mapped.inserting _ _ before_def).extend
            · rw [AList.lookup_insert_ne same] at found
              exact (mapped.entries session value found).extend
        | @remove removed reply =>
            change (shared.sessions.erase removed).lookup session =
              some value at found
            by_cases same : session = removed
            · subst same
              rw [AList.lookup_erase] at found
              cases found
            · rw [AList.lookup_erase_ne same] at found
              exact (mapped.entries session value found).extend
        | drain | dropRest | drop => cases found
        | serve | empty | leave =>
            rw [remaps_of_closing (closes _ List.mem_cons_self)] at still
            cases still
        | _ => cases still
  · rintro session value rfl
    obtain ⟨doc, started, rfl⟩ := spawn_of_inserting next
    refine ⟨doc, started, ?_⟩
    rw [readerEvents_read]
    exact List.mem_append_right _ List.mem_cons_self

theorem Mapped.work {runner : Engine} {event : Event sidecar} {after : Worker}
    (mapped : Mapped trace shared standing.reader)
    (next : Worker.Next (standing.workers runner) event after) :
    Mapped (trace ++ [.ran (.worker runner) event])
      (effectOf (.worker runner) event shared) standing.reader := by
  constructor
  · rw [effect_sessions _ (remaps_of_work next)]
    exact fun session value found =>
      (mapped.entries session value found).extend
  · exact fun session value inserting =>
      (mapped.inserting session value inserting).extend

theorem Mapped.call (mapped : Mapped trace shared standing.reader)
    (callback : Callback) :
    Mapped (trace ++ [.outside (callBack callback shared).1])
      (callBack callback shared).2 standing.reader := by
  constructor
  · rw [callBack_sessions]
    exact fun session value found =>
      (mapped.entries session value found).extend
  · exact fun session value inserting =>
      (mapped.inserting session value inserting).extend

end Map

section Directing

variable {trace : (process libraries).Trace} {shared : Shared}
  {standing : Standing}

/-- What is known about the sessions and the input at hand. -/
structure Routed (trace : (process libraries).Trace) (reader : Main.Phase) :
    Prop where
  lone : Lone reportedClosed trace
  looking : ∀ session input, reader = .looking session input →
    lastInput trace = some input
  others : ∀ engine, reader = .sending engine →
    ∀ other ∈ startedEngines trace,
      other = engine ∨ reportedClosed other trace = true
  directed : ∀ engine, reader = .sending engine → Directed trace engine
  sent : ∀ engine call reply,
    (readerEvents trace).getLast? = some ⟨.liSend engine call, reply⟩ →
      reader = .sending engine

theorem routed_initial :
    Routed ([] : (process libraries).Trace) .opening where
  lone _ member := by cases member
  looking _ _ impossible := by cases impossible
  others _ impossible := by cases impossible
  directed _ impossible := by cases impossible
  sent _ _ _ impossible := by cases impossible

/-- What others do leaves the calls of an input as they are. -/
theorem Directed.extend {engine : Engine}
    {happening : (process libraries).Happening}
    (directed : Directed trace engine)
    (other : ∀ event, happening ≠ .ran .reader event) :
    Directed (trace ++ [happening]) engine := by
  intro earlier session value between split sends
  rcases Machine.split_snoc split with ⟨_, _, same⟩ | ⟨rest, rfl, before⟩
  · exact absurd same.symm (other _)
  · refine directed earlier session value rest before ?_
    unfold readerEvents at sends ⊢
    rw [Machine.eventsOf_append, List.all_append, Bool.and_eq_true] at sends
    exact sends.1

theorem Routed.extend {reader : Main.Phase}
    {happening : (process libraries).Happening} (routed : Routed trace reader)
    (other : ∀ event, happening ≠ .ran .reader event)
    (same : readerEvents (trace ++ [happening]) = readerEvents trace) :
    Routed (trace ++ [happening]) reader where
  lone := routed.lone.extend (fun _ => reportedClosed_append) same
  looking := by
    unfold lastInput
    rw [same]
    exact routed.looking
  others := by
    unfold startedEngines
    rw [same]
    intro engine sending other member
    exact (routed.others engine sending other member).imp_right
      reportedClosed_append
  directed engine sending := (routed.directed engine sending).extend other
  sent := by
    rw [same]
    exact routed.sent

theorem isSend_of_closing {command : Command}
    (closes : (closing command).isSome = true) (reply : command.Reply) :
    isSend ⟨command, reply⟩ = false := by
  cases command with
  | liSend | swapButtons => cases closes
  | _ => rfl

/-- The reader sends only while it handles an input. -/
theorem sending_of_send {before after : Main.Phase} {event : Event sidecar}
    (next : Main.Phase.Next libraries before event after)
    (due : ∀ command ∈ before.due, (closing command).isSome = true)
    (sends : isSend event = true) :
    ∃ engine, before = .sending engine ∧ after = .sending engine ∧
      ∀ other call, event.command = .liSend other call → other = engine := by
  cases next with
  | @send engine call =>
      refine ⟨engine, rfl, rfl, ?_⟩
      rintro other call' same
      exact (Command.liSend.inj same).1.symm
  | @swap engine =>
      refine ⟨engine, rfl, rfl, ?_⟩
      rintro other call same
      cases same
  | serve | empty | leave =>
      rw [isSend_of_closing (due _ List.mem_cons_self)] at sends
      cases sends
  | _ => cases sends

/-- The reader starts to send when it finds the engine of an input. -/
theorem sending_cases {before after : Main.Phase} {event : Event sidecar}
    {engine : Engine} (next : Main.Phase.Next libraries before event after)
    (sending : after = .sending engine) :
    (before = .sending engine ∧ startedBy event = none ∧
        ∀ session, event.command ≠ .mapGet session) ∨
      ∃ session input value, before = .looking session input ∧
        event = ⟨.mapGet session, some value⟩ ∧ silent input = false ∧
        value.engine = engine := by
  cases next with
  | @read before reply listening =>
      have turn := @Main.turn_heard libraries before reply
      rw [sending] at turn
      cases turn with
      | stay => exact .inl ⟨rfl, rfl, fun session => by simp⟩
  | @look session input reply =>
      cases reply with
      | none => cases sending
      | some value =>
          simp only [Main.Phase.found] at sending
          split at sending
          · cases sending
          · rename_i audible
            refine .inr ⟨session, input, value, rfl, rfl, ?_, ?_⟩
            · simpa using audible
            · exact Main.Phase.sending.inj sending
  | send | swap => exact .inl ⟨sending, rfl, fun session => by simp⟩
  | _ => cases sending

/-- The reader looks an engine up for the input it has just read. -/
theorem inputOf_of_looking {before after : Main.Phase} {event : Event sidecar}
    {session : UInt32} {input : RemoteInput}
    (next : Main.Phase.Next libraries before event after)
    (looking : after = .looking session input) :
    inputOf libraries event = some input := by
  cases next with
  | @read before reply listening =>
      match reply with
      | .error error => cases looking
      | .ok none => cases before <;> cases looking
      | .ok (some (kind, payload)) =>
          simp only [Main.Phase.heard] at looking
          split at looking
          · subst looking
            cases listening
          · split at looking
            · rename_i message decoded
              cases before with
              | opening =>
                  cases message with
                  | hello abi version =>
                      simp only [Main.Phase.onMessage,
                        Main.Phase.opened] at looking
                      split at looking <;> cases looking
                  | _ => cases looking
              | _ =>
                  cases message with
                  | input other value =>
                      obtain ⟨rfl, rfl⟩ := Main.Phase.looking.inj looking
                      simp [inputOf, decoded]
                  | _ => cases looking
            · cases looking
  | look =>
      simp only [Main.Phase.found] at looking
      split at looking
      · split at looking <;> cases looking
      · cases looking
  | _ => cases looking

theorem lookup_of_possible {session : UInt32} {value : MoonlightSession}
    (possible : Possible .reader shared ⟨.mapGet session, some value⟩) :
    shared.sessions.lookup session = some value := by
  obtain ⟨_, answer, replied⟩ := possible
  cases answer with
  | nothing => exact Option.some.inj replied
  | _ => cases replied

theorem Routed.read {event : Event sidecar} {after : Main.Phase}
    (routed : Routed trace standing.reader)
    (tracked : Tracked trace shared standing)
    (mapped : Mapped trace shared standing.reader)
    (alone : oneLive trace (.ran .reader event) = true)
    (inTime : timely trace (.ran .reader event) = true)
    (next : Main.Phase.Next libraries standing.reader event after)
    (possible : Possible .reader shared event) :
    Routed (trace ++ [.ran .reader event]) after where
  lone := lone_read routed.lone alone
  looking := by
    intro session input looking
    unfold lastInput
    rw [readerEvents_read, List.getLast?_concat]
    exact inputOf_of_looking next looking
  others := by
    intro engine sending other member
    rw [startedEngines_read, List.mem_append] at member
    refine Or.imp_right reportedClosed_append ?_
    rcases sending_cases next sending with ⟨before, idle, _⟩ |
      ⟨session, input, value, before, rfl, audible, rfl⟩
    · rw [idle] at member
      exact routed.others engine before other (by simpa using member)
    · have member : other ∈ startedEngines trace := by
        simpa [startedBy] using member
      have read := routed.looking session input before
      have answers : answerable value.engine trace = true := by
        simpa [timely, read, audible] using inTime
      simp only [answerable, Bool.and_eq_true, Bool.not_eq_true',
        Bool.or_eq_true, List.contains_iff_mem, List.all_eq_true] at answers
      obtain ⟨unclosed, started | none⟩ := answers
      · rcases routed.lone other member value.engine started with
          same | closed | closed
        · exact .inl same
        · exact .inr closed
        · rw [unclosed] at closed
          cases closed
      · exact .inr (none other member)
  directed := by
    intro engine sending earlier session value between split sends
    rcases sending_cases next sending with ⟨before, _, unlooked⟩ |
      ⟨looked, input, found, before, rfl, audible, rfl⟩
    · rcases Machine.split_snoc split with ⟨_, _, same⟩ | ⟨rest, rfl, first⟩
      · obtain rfl := (Machine.Happening.ran.inj same).2
        exact absurd rfl (unlooked _)
      · rw [readerEvents_read, List.all_append, Bool.and_eq_true] at sends
        exact routed.directed engine before earlier session value rest first
          sends.1
    · rcases Machine.split_snoc split with ⟨_, rfl, same⟩ | ⟨rest, rfl, first⟩
      · cases same
        have read := routed.looking session input before
        have answers : answerable value.engine earlier = true := by
          simpa [timely, read, audible] using inTime
        simp only [answerable, Bool.and_eq_true, Bool.not_eq_true'] at answers
        exact ⟨rfl, answers.1, mapped.entries _ _ (lookup_of_possible possible)⟩
      · rw [readerEvents_read] at sends
        simp [isSend] at sends
  sent := by
    intro engine call reply last
    rw [readerEvents_read, List.getLast?_concat] at last
    obtain rfl := Option.some.inj last
    obtain ⟨sender, _, sending, own⟩ :=
      sending_of_send next tracked.due rfl
    rw [own engine call rfl]
    exact sending

/-- The rules of a run: the host has one session live at a time, and inputs are
timely. -/
def orderly (past : (process libraries).Trace)
    (next : (process libraries).Happening) : Prop :=
  oneLive past next = true ∧ timely past next = true

theorem routed_of_run {config : (process libraries).Config}
    (run : Machine.Run (process.start libraries) trace config)
    (careful : Machine.Obeys orderly trace) :
    ∃ standing, Tracked trace config.shared standing ∧
      Linked standing.workers config.shared.connection ∧
      Routed trace standing.reader := by
  obtain ⟨standing, tracked, linked, _, routed⟩ := tracked_invariant run _
    careful
    (fun trace shared standing => Linked standing.workers shared.connection ∧
      Mapped trace shared standing.reader ∧ Routed trace standing.reader)
    ⟨trivial, mapped_initial, routed_initial⟩
    (fun past shared standing event after tracked held careful next possible => by
      obtain ⟨linked, mapped, routed⟩ := held
      exact ⟨linked.read tracked next possible, mapped.read tracked next,
        routed.read tracked mapped careful.1 careful.2 next possible⟩)
    (fun past shared standing engine event after tracked held _ next _ => by
      obtain ⟨linked, mapped, routed⟩ := held
      exact ⟨linked.work next, mapped.work next,
        routed.extend (fun _ => by simp) readerEvents_work⟩)
    (fun past shared standing callback tracked held _ _ => by
      obtain ⟨linked, mapped, routed⟩ := held
      refine ⟨?_, mapped.call callback,
        routed.extend (fun _ => by simp) readerEvents_call⟩
      rw [callBack_connection]
      exact linked)
  exact ⟨standing, tracked, linked, routed⟩

theorem shared_of_send {config after : (process libraries).Config}
    {move : (process libraries).Move} {engine : Engine} {call : LiSend}
    {happening : (process libraries).Happening}
    (stepped : Machine.step move config = some (some happening, after))
    (sends : happening = .ran .reader ⟨.liSend engine call, ()⟩) :
    after.shared = config.shared := by
  generalize same : some happening = step at stepped
  cases Machine.step_cases stepped with
  | unfold at_loop => cases same
  | outside acted =>
      cases same
      cases sends
  | ran at_command replied =>
      cases same
      cases sends
      rfl

/-- A call made for an input reaches the connection of the engine it is for,
if it reaches one at all; that engine was made for the session of the input and
not reported closed when it was looked up. -/
theorem input_routing {past : (process libraries).Trace}
    {config after : (process libraries).Config}
    {move : (process libraries).Move} {engine : Engine} {call : LiSend}
    (run : Machine.Run (process.start libraries) past config)
    (stepped : Machine.step move config =
      some (some (.ran .reader ⟨.liSend engine call, ()⟩), after))
    (careful : Machine.Obeys orderly
      (past ++ [.ran .reader ⟨.liSend engine call, ()⟩])) :
    (∀ owner, config.shared.connection = .established owner →
      owner = engine) ∧ Directed past engine := by
  have longer : Machine.Run (process.start libraries)
      (past ++ [.ran .reader ⟨.liSend engine call, ()⟩]) after :=
    run.snoc stepped
  obtain ⟨standing, tracked, linked, routed⟩ := routed_of_run longer careful
  have sending : standing.reader = .sending engine := by
    apply routed.sent engine call ()
    rw [readerEvents_read, List.getLast?_concat]
  constructor
  · intro owner owns
    have owns : after.shared.connection = .established owner := by
      rw [shared_of_send stepped rfl]
      exact owns
    obtain ⟨started, unclosed⟩ := tracked.owner_open linked owns
    rcases routed.others engine sending owner started with same | closed
    · exact same
    · rw [reportedClosed, unclosed] at closed
      cases closed
  · intro earlier session value between split sends
    apply routed.directed engine sending earlier session value
      (between ++ [.ran .reader ⟨.liSend engine call, ()⟩])
    · rw [split, List.append_assoc, List.cons_append]
    · rw [readerEvents_read, List.all_append, sends]
      rfl

end Directing

open SampleHost

def isSendFor (engine : Engine) : (process libraries).Happening → Bool
  | .ran .reader ⟨.liSend other _, _⟩ => other == engine
  | _ => false

theorem send_of_isSendFor {engine : Engine}
    {happening : (process libraries).Happening}
    (sends : isSendFor engine happening = true) :
    ∃ call, happening = .ran .reader ⟨.liSend engine call, ()⟩ := by
  unfold isSendFor at sends
  split at sends
  · rename_i other call reply
    obtain rfl := eq_of_beq sends
    exact ⟨call, rfl⟩
  · cases sends

/-- The first session ended on its own; a key for it reaches the host of the
second one. -/
theorem input_misrouted :
    ¬ ∀ {libraries : Libraries} {past : (process libraries).Trace}
      {config after : (process libraries).Config}
      {move : (process libraries).Move} {engine : Engine} {call : LiSend},
      Machine.Run (process.start libraries) past config →
      Machine.step move config =
        some (some (.ran .reader ⟨.liSend engine call, ()⟩), after) →
      Machine.Obeys (fun past next => oneLive past next = true)
        (past ++ [.ran .reader ⟨.liSend engine call, ()⟩]) →
      (∀ owner, config.shared.connection = .established owner →
        owner = engine) ∧ Directed past engine := by
  intro claim
  obtain ⟨past, config, happening, after, run, stepped, checked⟩ :=
    Machine.exists_step_of_play (reader .nothing)
      (fun past config happening _ =>
        Machine.checkAll oneLive [] (past ++ [happening]) &&
          (isSendFor 0 happening &&
            config.shared.connection == .established 1))
      (show (Machine.play (greeting ++ connects (lit "1") ++ goesLive 0 ++
        terminates 0 ++ connects (lit "2") ++ goesLive 1 ++
        [sends key, reader .nothing]) (process.start libraries)).any _ =
        true by decide +kernel)
  simp only [Bool.and_eq_true, beq_iff_eq] at checked
  obtain ⟨alone, sends, owned⟩ := checked
  obtain ⟨call, rfl⟩ := send_of_isSendFor sends
  have routed := claim run stepped (Machine.obeys_of_checkAll alone)
  exact absurd (routed.1 1 owned) (by decide)

/-- A key for the session that is live. -/
theorem input_routing_live :
    ∃ (past : (process SampleHost.libraries).Trace)
      (config : (process SampleHost.libraries).Config),
      config.shared.connection = .established 0 ∧
        (∀ owner, config.shared.connection = .established owner →
          owner = 0) ∧ Directed past 0 := by
  obtain ⟨past, config, happening, after, run, stepped, checked⟩ :=
    Machine.exists_step_of_play (reader .nothing)
      (fun past config happening _ =>
        Machine.checkAll (fun past next => oneLive past next &&
          timely past next) [] (past ++ [happening]) &&
          (isSendFor 0 happening &&
            config.shared.connection == .established 0))
      (show (Machine.play (greeting ++ connects (lit "1") ++ goesLive 0 ++
        [sends key, reader .nothing]) (process.start libraries)).any _ =
        true by decide +kernel)
  simp only [Bool.and_eq_true, beq_iff_eq] at checked
  obtain ⟨careful, sends, owned⟩ := checked
  obtain ⟨call, rfl⟩ := send_of_isSendFor sends
  have careful : Machine.Obeys orderly
      (past ++ [.ran .reader ⟨.liSend 0 call, ()⟩]) := by
    intro earlier next later split
    exact Bool.and_eq_true_iff.mp
      (Machine.obeys_of_checkAll careful earlier next later split)
  exact ⟨past, config, owned, input_routing run stepped careful⟩

end Sidecar

end MoonlightAddon
