import MoonlightAddon.Worker.Admission
import MoonlightAddon.Worker.Conversation
import MoonlightAddon.Worker.Launching

/-!
# Taking the pairing prompt down

A prompt stays up exactly when the handshake panics: for want of a client to
begin with, or on a response whose hexadecimal field is cut inside a character.
-/

namespace MoonlightAddon

open Effect NvHttp Session

section

variable (session : UInt32)

def isFinished : Output → Bool
  | .message (.event id (.pairFinished _)) => id = session
  | _ => false

/-- The messages a prompt must not be up for. -/
def endsPrompt : Output → Bool
  | .message (.sessionReady id _ _) | .message (.sessionClosed id _) =>
      id = session
  | _ => false

def isPrompt : Output → Bool
  | .message (.event id (.pairPrompt _ _)) => id = session
  | _ => false

/-- Each prompt is followed by exactly one finish before the session is ready
or closed. -/
def bracketed : List Output → Bool
  | [] => true
  | output :: rest =>
      (!isPrompt session output ||
        (rest.takeWhile fun later => !endsPrompt session later).countP
          (isFinished session) == 1) &&
        bracketed rest

end

section

variable {session : UInt32}

theorem bracketed_append {plain rest : List Output}
    (unprompted : ∀ output ∈ plain, isPrompt session output = false) :
    bracketed session (plain ++ rest) = bracketed session rest := by
  induction plain with
  | nil => rfl
  | cons output plain induction =>
      have first := unprompted output List.mem_cons_self
      have later := induction fun other member =>
        unprompted other (List.mem_cons_of_mem output member)
      simp [bracketed, first, later]

theorem bracketed_of_plain {plain : List Output}
    (unprompted : ∀ output ∈ plain, isPrompt session output = false) :
    bracketed session plain = true := by
  have whole := @bracketed_append session plain [] unprompted
  simpa [bracketed] using whole

theorem plain_opening (talk : Talk) :
    ∀ output ∈ talk.opening session, isPrompt session output = false := by
  intro output member
  simp only [Talk.opening, List.mem_append, List.mem_map] at member
  obtain ⟨parts, _, rfl⟩ | ⟨line, _, rfl⟩ := member <;> rfl

theorem plain_ending (talk : Talk) (error : Option Text) :
    ∀ output ∈ talk.liveOutputs session ++
        [Output.message (.sessionClosed session error)],
      isPrompt session output = false := by
  intro output member
  unfold Talk.liveOutputs at member
  cases live : talk.live with
  | none =>
      rw [live] at member
      obtain rfl := List.mem_singleton.mp member
      rfl
  | some parts =>
      simp only [live, List.mem_append, List.mem_cons, List.mem_map,
        List.not_mem_nil, or_false] at member
      obtain (rfl | ⟨line, _, rfl⟩ | ⟨frame, _, rfl⟩) | rfl := member <;> rfl

/-- A prompt ends, at the latest, where the session is ready or closed. -/
theorem takeWhile_ending (talk : Talk) (error : Option Text) :
    (talk.liveOutputs session ++
        [Output.message (.sessionClosed session error)]).takeWhile
      (fun later => !endsPrompt session later) = [] := by
  unfold Talk.liveOutputs
  cases talk.live with
  | none => simp [endsPrompt]
  | some parts => simp [endsPrompt]

theorem takeWhile_say (lines : List Text) (rest : List Output) :
    (lines.map (say session) ++ rest).takeWhile
        (fun later => !endsPrompt session later) =
      lines.map (say session) ++
        rest.takeWhile fun later => !endsPrompt session later := by
  apply List.takeWhile_append_of_pos
  intro output member
  obtain ⟨line, _, rfl⟩ := List.mem_map.mp member
  rfl

/-- A conversation takes its prompt down exactly when the prompt was answered. -/
theorem bracketed_conversation (conversation : Conversation) :
    bracketed session (conversation.outputs session) = true ↔
      conversation.talk.Answered := by
  obtain ⟨talk, error⟩ := conversation
  have opening := @plain_opening session talk
  have ending := @plain_ending session talk error
  have quiet := bracketed_of_plain ending
  have stops := @takeWhile_ending session talk error
  simp only [Conversation.outputs, Talk.outputs, List.append_assoc]
  rw [bracketed_append opening]
  cases prompted : talk.pairing with
  | none =>
      have answered : talk.Answered := by
        intro pairing same
        simp [prompted] at same
      simpa [quiet] using answered
  | some pairing =>
      obtain ⟨pin, url, answer⟩ := pairing
      cases answer with
      | none =>
          have unanswered : ¬ talk.Answered := by
            intro answered
            obtain ⟨answer, impossible⟩ := answered _ prompted
            cases impossible
          simpa [PairingTalk.outputs, bracketed, isPrompt, stops]
            using unanswered
      | some answer =>
          obtain ⟨finish, lines⟩ := answer
          have answered : talk.Answered := by
            intro pairing same
            obtain rfl := Option.some.inj (prompted.symm.trans same)
            exact ⟨_, rfl⟩
          have said : ∀ output ∈ lines.map (say session),
              isPrompt session output = false := by
            intro output member
            obtain ⟨line, _, rfl⟩ := List.mem_map.mp member
            rfl
          have counted : (lines.map (say session)).countP
              (isFinished session) = 0 := by
            rw [List.countP_eq_zero]
            intro output member
            obtain ⟨line, _, rfl⟩ := List.mem_map.mp member
            simp [isFinished, say]
          have up (error : Option Text) : endsPrompt session
              (.message (.event session (.pairFinished error))) = false := rfl
          have taken (error : Option Text) : isFinished session
              (.message (.event session (.pairFinished error))) = true := by
            simp [isFinished]
          simp [PairingTalk.outputs, bracketed, isPrompt, up, taken,
            takeWhile_say, stops, counted, bracketed_append said, quiet,
            answered]

end

theorem Talk.prompted_of_mem {talk : Talk} {session id : UInt32}
    {pin url : Text}
    (member : Output.message (.event id (.pairPrompt pin url)) ∈
      talk.outputs session) : ∃ pairing, talk.pairing = some pairing := by
  cases prompted : talk.pairing with
  | some pairing => exact ⟨pairing, rfl⟩
  | none =>
      unfold Talk.outputs Talk.opening Talk.liveOutputs at member
      cases live : talk.live with
      | none => simp [prompted, live, say] at member
      | some parts => simp [prompted, live, say] at member

theorem mem_outputs {trace : List (Event sidecar)} {message : Proto.AddonMsg} :
    Output.message message ∈ outputs trace ↔
      ∃ reply, ⟨.control message, reply⟩ ∈ trace := by
  simp only [outputs, List.mem_filterMap]
  constructor
  · rintro ⟨event, member, written⟩
    unfold outputOf at written
    split at written
    · cases written
      exact ⟨_, member⟩
    · cases written
    · cases written
  · rintro ⟨reply, member⟩
    exact ⟨_, member, rfl⟩

/-- A pairing response that made the handshake panic. -/
def wrecking : Event sidecar → Bool
  | ⟨.request request, reply⟩ => wrecks request reply
  | _ => false

namespace Worker

variable {session : UInt32} {doc : MoonlightConnectDoc}
  {libraries : Libraries} {trace : List (Event sidecar)}

theorem wrecking_quiet {phase : Phase} {command : Command}
    (quiet : Phase.Quiet phase command = true) (reply : command.Reply) :
    wrecking ⟨command, reply⟩ = false := by
  cases Phase.routine_of_quiet quiet <;> rfl

/-- The wrecked phase is entered by such a response, and only by one. -/
theorem wrecked_iff {before after : Phase} {event : Event sidecar}
    (next : Phase.Next session doc before event after) :
    after = .wrecked ↔ wrecking event = true := by
  cases next with
  | quiet quiet =>
      rw [wrecking_quiet quiet]
      constructor
      · rintro rfl
        simp [Phase.Quiet] at quiet
      · simp
  | noRuntime settled => obtain rfl | rfl := settled <;> simp [wrecking]
  | handshake sound => simp [wrecking, sound]
  | wreck wrecks => simp [wrecking, wrecks]
  | _ => simp [wrecking, wrecks]

/-- Closing is the only way on from the wrecked phase, and the only way into
the closed one. -/
theorem closing_of_next {before after : Phase} {event : Event sidecar}
    (next : Phase.Next session doc before event after)
    (gone : before = .wrecked ∨ after = .closed) :
    after = .closed ∧ ∃ error reply,
      event = ⟨.control (.sessionClosed session error), reply⟩ ∧
        Phase.MayClose before error := by
  cases next with
  | @close phase error reply may => exact ⟨rfl, error, reply, rfl, may⟩
  | quiet quiet =>
      obtain rfl | rfl := gone <;> simp [Phase.Quiet] at quiet
  | runtime settled | noRuntime settled =>
      obtain rfl | rfl := settled <;> simp at gone
  | proceed due | stopEarly due => obtain rfl | rfl := due <;> simp at gone
  | _ => simp at gone

/-- Whether a response wrecked the handshake, as the phase tells it. -/
def WreckKnown (trace : List (Event sidecar)) : Phase → Prop
  | .closed => True
  | .wrecked => ∃ event ∈ trace, wrecking event = true
  | _ => ∀ event ∈ trace, wrecking event = false

theorem WreckKnown.unwrecked {phase : Phase} (known : WreckKnown trace phase)
    (still : phase ≠ .closed) (unwrecked : phase ≠ .wrecked) :
    ∀ event ∈ trace, wrecking event = false := by
  cases phase with
  | closed => exact absurd rfl still
  | wrecked => exact absurd rfl unwrecked
  | _ => exact known

theorem wreckKnown_step {past : List (Event sidecar)} {before after : Phase}
    {event : Event sidecar} (known : WreckKnown past before)
    (next : Phase.Next session doc before event after) :
    WreckKnown (past ++ [event]) after := by
  by_cases wrecked : after = .wrecked
  · have caused := (wrecked_iff next).mp wrecked
    subst wrecked
    exact ⟨event, by simp, caused⟩
  · by_cases closed : after = .closed
    · subst closed
      trivial
    · have unwrecked : before ≠ .wrecked := by
        intro same
        exact closed (closing_of_next next (.inl same)).1
      have earlier := known.unwrecked (open_of_next next) unwrecked
      have harmless : wrecking event = false := by
        cases caused : wrecking event with
        | false => rfl
        | true => exact absurd ((wrecked_iff next).mpr caused) wrecked
      have all : ∀ other ∈ past ++ [event], wrecking other = false := by
        intro other member
        obtain old | new := List.mem_append.mp member
        · exact earlier other old
        · obtain rfl := List.mem_singleton.mp new
          exact harmless
      cases after with
      | closed => exact absurd rfl closed
      | wrecked => exact absurd rfl wrecked
      | _ => exact all

theorem wreckKnown_of_path {start : Phase} {worker : Worker}
    (path : engineThread.Path ⟨session, doc, start⟩ trace worker)
    (initial : WreckKnown [] start) :
    ∃ phase, worker = ⟨session, doc, phase⟩ ∧ WreckKnown trace phase :=
  path_invariant path WreckKnown initial
    fun _ _ _ _ known next => wreckKnown_step known next

/-- A closed thread wrote its closing message last. -/
theorem last_of_closed
    (path : engineThread.Path (born session doc) trace
      ⟨session, doc, .closed⟩) :
    ∃ past before error reply,
      trace = past ++ [⟨.control (.sessionClosed session error), reply⟩] ∧
      engineThread.Path (born session doc) past ⟨session, doc, before⟩ ∧
      Phase.MayClose before error := by
  rcases List.eq_nil_or_concat trace with rfl | ⟨past, event, rfl⟩
  · exact absurd (congrArg Worker.phase path.eq_of_nil) (by simp [born])
  · rw [List.concat_eq_append] at path ⊢
    obtain ⟨worker, first, last⟩ := path.of_snoc
    cases last with
    | mk next =>
        obtain ⟨_, error, reply, rfl, may⟩ := closing_of_next next (.inr rfl)
        exact ⟨past, _, error, reply, rfl, first, may⟩

/-! ### Without a client -/

/-- Not part of a handshake: neither its requests nor its end. -/
def Withheld : Command → Prop
  | .request (.pair ..) | .control (.event _ (.pairFinished _)) => False
  | _ => True

theorem withheld_of_launching {identity : MoonlightIdentity} {command : Command}
    (launching : Launching session doc identity command) :
    Withheld command := by
  cases launching with
  | streaming streams => cases streams <;> trivial
  | _ => trivial

/-- The panic comes before the handshake. -/
theorem withheld_pairWithHost {identity : MoonlightIdentity}
    (clientless : (plainClient libraries).isPanic = true) :
    Bounded Withheld (OwnLoop session doc)
      (pairWithHost libraries session doc identity) := by
  apply bounded_bind (Confined.bounded (confined_randomPin trivial))
  intro pin
  apply bounded_bind (Confined.bounded (confined_send trivial))
  intro _
  apply bounded_bind (Confined.bounded (confined_send trivial))
  intro _
  apply bounded_bind (Confined.bounded (confined_drawOrZero trivial))
  intro salt
  obtain ⟨message, panics⟩ := PairingClient.new_panics clientless identity
    doc.host doc.httpPort
  rw [panics]
  trivial

theorem withheld_withIdentity {identity : MoonlightIdentity}
    (clientless : (plainClient libraries).isPanic = true) :
    Bounded Withheld (OwnLoop session doc)
      (withIdentity libraries session doc identity) := by
  have launches {info : ServerInfo} : Bounded Withheld (OwnLoop session doc)
      (launchSession libraries session doc identity info) :=
    launches_launchSession.mono (fun _ => withheld_of_launching) fun _ => id
  apply bounded_bind (Confined.bounded
    (confined_performResult trivial fun _ _ _ => trivial))
  intro runtime
  apply bounded_bind (Confined.bounded (confined_send trivial))
  intro _
  apply bounded_bind (Confined.bounded (confined_learnServerInfo trivial
    (fun _ => trivial) fun _ => trivial))
  intro info
  apply Typestate.follows_if
  · intro unpaired
    apply bounded_bind (withheld_pairWithHost clientless)
    intro _
    exact launches
  · intro paired
    exact launches

/-- Without a client the thread does nothing of a handshake. -/
theorem withheld_of_run {finish : Program sidecar Unit}
    (clientless : (plainClient libraries).isPanic = true)
    (run : Program.Run (Main.bodies libraries)
      (worker libraries session doc) trace finish) :
    ∀ event ∈ trace, Withheld event.command := by
  have bounded : Bounded Withheld (OwnLoop session doc)
      (worker libraries session doc) := by
    apply Typestate.Follows.bind
    apply Typestate.Follows.mono (bounded_bind (Confined.bounded
      (confined_settleIdentity trivial fun _ _ _ => trivial))
      fun _ => withheld_withIdentity clientless)
    intro outcome _ _
    exact Confined.bounded (confined_send trivial)
  apply bounded.allowed_of_run _ run
  rintro _ rfl
  exact (@launches_frameLoopBody session doc ⟨[], [], []⟩).mono
    (fun _ => withheld_of_launching) fun _ => id

/-! ### The prompt of a thread -/

/-- No response wrecks the handshake, and no host that asks for one finds the
thread without a client. -/
def Undisturbed (libraries : Libraries) (trace : List (Event sidecar)) : Prop :=
  (∀ event ∈ trace, wrecking event = false) ∧
    ((plainClient libraries).isPanic = true → ¬ (knows trace).Unpaired)

/-- A finished thread wrote its closing message last, and left the prompt up
before the handshake for want of a client only. -/
theorem closing_of_finished
    (run : Program.Run (Main.bodies libraries) (worker libraries session doc)
      trace (.ret ())) :
    ∃ past before error reply,
      trace = past ++ [⟨.control (.sessionClosed session error), reply⟩] ∧
      engineThread.Path (born session doc) past ⟨session, doc, before⟩ ∧
      before ≠ .closed ∧
      (before = .pairing → (plainClient libraries).isPanic = true) := by
  obtain ⟨inside, _, same⟩ | ⟨past, last, outcome, rfl, runs, closes⟩ :=
    run.bind_cases
  · cases inside <;> cases same
  · obtain ⟨after, path, before, rfl, may, only⟩ := Typestate.follows_run
      (engineThread_sound libraries) runs follows_runMoonlight
    have still : before ≠ .closed := by
      rintro rfl
      exact may
    obtain ⟨_, unfinished⟩ | ⟨error, reply, rfl⟩ := reportClosed_run closes
    · exact absurd rfl unfinished
    · exact ⟨past, before, error, reply, rfl, path, still, only⟩

theorem bracketed_of_finished
    (run : Program.Run (Main.bodies libraries) (worker libraries session doc)
      trace (.ret ())) :
    bracketed session (outputs trace) = true ↔ Undisturbed libraries trace := by
  obtain ⟨past, before, error, reply, rfl, path, still, only⟩ :=
    closing_of_finished run
  obtain ⟨phase, same, written⟩ := written_of_path path
  obtain rfl : before = phase := congrArg Worker.phase same
  obtain ⟨phase, same, known⟩ := wreckKnown_of_path path (by simp [WreckKnown])
  obtain rfl : before = phase := congrArg Worker.phase same
  obtain ⟨talk, equality, fits⟩ := written.talk still
  have whole : outputs (past ++
      [⟨.control (.sessionClosed session error), reply⟩]) =
        Conversation.outputs session ⟨talk, error⟩ := by
    rw [outputs_append, equality]
    rfl
  rw [whole, bracketed_conversation]
  by_cases wrecked : before = .wrecked
  · subst wrecked
    obtain ⟨event, member, caused⟩ := known
    obtain ⟨⟨pin, url, prompted⟩, _⟩ := fits
    constructor
    · intro answered
      obtain ⟨answer, impossible⟩ := answered _ prompted
      cases impossible
    · rintro ⟨harmless, _⟩
      rw [harmless event (List.mem_append_left _ member)] at caused
      cases caused
  · by_cases up : before = .pairing
    · subst up
      obtain ⟨⟨pin, url, prompted⟩, _⟩ := fits
      constructor
      · intro answered
        obtain ⟨answer, impossible⟩ := answered _ prompted
        cases impossible
      · rintro ⟨_, paired⟩
        have said : Output.message (.event session (.pairPrompt pin url)) ∈
            outputs past := by
          simp [equality, Talk.outputs, prompted, PairingTalk.outputs]
        obtain ⟨reply, member⟩ := mem_outputs.mp said
        apply absurd _ (paired (only rfl))
        exact (prompted_iff_unpaired run).mp (List.any_eq_true.mpr
          ⟨_, List.mem_append_left _ member, rfl⟩)
    · have answered := Talk.answered_of_fits fits up wrecked
      refine ⟨fun _ => ⟨?_, ?_⟩, fun _ => answered⟩
      · intro event member
        obtain earlier | last := List.mem_append.mp member
        · exact known.unwrecked still wrecked event earlier
        · obtain rfl := List.mem_singleton.mp last
          rfl
      · intro clientless unpaired
        obtain ⟨id, pin, url, reply, member⟩ := prompt_of_shows
          ((prompted_iff_unpaired run).mpr unpaired)
        have said : Output.message (.event id (.pairPrompt pin url)) ∈
            talk.outputs session := by
          have all := mem_outputs.mpr ⟨reply, member⟩
          rw [outputs_append, equality] at all
          simpa [outputs, outputOf] using all
        obtain ⟨pairing, prompted⟩ := Talk.prompted_of_mem said
        obtain ⟨⟨finish, lines⟩, answer⟩ := answered pairing prompted
        have finished : Output.message (.event session (.pairFinished finish)) ∈
            outputs past := by
          simp [equality, Talk.outputs, prompted, PairingTalk.outputs, answer]
        obtain ⟨reply, ended⟩ := mem_outputs.mp finished
        exact withheld_of_run clientless run _ (List.mem_append_left _ ended)

/-- A thread that has written its closing message has finished. -/
theorem finished_of_closed {finish : Program sidecar Unit}
    (follows : engineThread.Follows finish (fun _ => final)
      ⟨session, doc, .closed⟩) : finish = .ret () := by
  cases finish with
  | ret value => rfl
  | act command next =>
      obtain ⟨after, next, _⟩ := follows command.quietReply
      cases next with
      | mk next => exact absurd rfl (open_of_next next)
  | enter loop next =>
      cases loop with
      | frameLoop session doc =>
          have same := congrArg Worker.phase follows.1
          exact absurd same (by simp)
      | readControl | readerLoop => exact absurd follows.1 id

/-- Undisturbed, a run is on its way to a bracketed conversation. -/
theorem bracketed_extends {finish : Program sidecar Unit}
    (run : Program.Run (Main.bodies libraries)
      (worker libraries session doc) trace finish)
    (undisturbed : Undisturbed libraries trace) :
    ∃ rest, bracketed session (outputs trace ++ rest) = true := by
  obtain ⟨after, path, final⟩ := path_of_run run
  obtain ⟨phase, rfl, written⟩ := written_of_path path
  obtain ⟨other, same, known⟩ := wreckKnown_of_path path (by simp [WreckKnown])
  obtain rfl : phase = other := congrArg Worker.phase same
  by_cases closed : phase = .closed
  · subst closed
    obtain rfl := finished_of_closed final
    refine ⟨[], ?_⟩
    rw [List.append_nil]
    exact (bracketed_of_finished run).mpr undisturbed
  · obtain ⟨talk, equality, fits⟩ := written.talk closed
    have unwrecked : phase ≠ .wrecked := by
      rintro rfl
      obtain ⟨event, member, caused⟩ := known
      rw [undisturbed.1 event member] at caused
      cases caused
    by_cases up : phase = .pairing
    · subst up
      obtain ⟨⟨pin, url, prompted⟩, before⟩ := fits
      let later : Talk :=
        { talk with pairing := some ⟨pin, url, some (none, [])⟩ }
      have answered : later.Answered := by
        intro pairing same
        obtain rfl := Option.some.inj same
        exact ⟨_, rfl⟩
      refine ⟨[.message (.event session (.pairFinished none)),
        .message (.sessionClosed session none)], ?_⟩
      have whole :=
        (@bracketed_conversation session ⟨later, none⟩).mpr answered
      simpa [equality, later, Conversation.outputs, Talk.outputs, Talk.opening,
        Talk.liveOutputs, PairingTalk.outputs, prompted, before] using whole
    · have answered := Talk.answered_of_fits fits up unwrecked
      refine ⟨[.message (.sessionClosed session none)], ?_⟩
      rw [equality]
      exact (bracketed_conversation ⟨talk, none⟩).mpr answered

/-- The handshake panics exactly on a wrecking response. -/
theorem pair_isPanic {ssl : OpenSsl} {client : PairingClient}
    {salt aesKey : Bytes} {outcome : Outcome Unit}
    (run : Program.Run (Main.bodies libraries) (client.pair ssl salt aesKey)
      trace (.ret outcome)) :
    outcome.isPanic = false ↔ ∀ event ∈ trace, wrecking event = false := by
  let post (outcome : Outcome Unit) (worker : Worker) : Prop :=
    worker.phase = if outcome.isPanic then .wrecked else .pairing
  have follows : engineThread.Follows (client.pair ssl salt aesKey) post
      ⟨0, default, .pairing⟩ :=
    follows_pair rfl (fun error => rfl) (fun message => rfl)
  obtain ⟨after, path, ended⟩ := Typestate.follows_run
    (engineThread_sound libraries) run follows
  obtain ⟨phase, rfl, known⟩ := wreckKnown_of_path path (by simp [WreckKnown])
  have phaseIs : phase = if outcome.isPanic then .wrecked else .pairing := ended
  cases panicked : outcome.isPanic with
  | false =>
      rw [phaseIs, panicked] at known
      exact ⟨fun _ => known, fun _ => rfl⟩
  | true =>
      rw [phaseIs, panicked] at known
      obtain ⟨event, member, caused⟩ := known
      constructor
      · intro impossible
        cases impossible
      · intro harmless
        rw [harmless event member] at caused
        cases caused

/-- Even length in bytes, and cut inside the second character. -/
def accentedCertificate : Text :=
  lit "<paired>1</paired><plaincert>aéa</plaincert>"

/-- Libraries without a client for plain HTTP. -/
def clientless : Libraries :=
  { (default : Libraries) with newClient := .error (lit "No such file") }

/-- These messages show one prompt and never take it down. -/
def Unfinished (outputs : List Output) : Prop :=
  outputs.countP (isPrompt 1) = 1 ∧ outputs.countP (isFinished 1) = 0 ∧
    bracketed 1 outputs = false

instance (outputs : List Output) : Decidable (Unfinished outputs) :=
  inferInstanceAs (Decidable (_ ∧ _))

theorem unfinished_of_serve {libraries : Libraries} {pairing : Text}
    (served : (Program.serve (cooperative (some pairing))
      (Program.serveLoops (cooperative (some pairing)) (Main.bodies libraries) 2)
      (worker libraries 1 .stored) 0).any
        (fun answer => decide (Unfinished (outputs answer.2.1))) = true) :
    ∃ trace, Program.Run (Main.bodies libraries) (worker libraries 1 .stored)
        trace (.ret ()) ∧ Unfinished (outputs trace) := by
  obtain ⟨⟨⟩, trace, run, left⟩ := Program.exists_run_of_serve
    (fun _ trace => decide (Unfinished (outputs trace))) served
  exact ⟨trace, run, of_decide_eq_true left⟩

end Worker

end MoonlightAddon
