import MoonlightAddon.Main.Discipline
import MoonlightAddon.Sidecar
import MoonlightAddon.Worker.Discipline

/-!
# Runs of the whole process

An invariant of the process is proved from the phases of its threads: a step
is one event that the reader's or one engine's phase allows, or a callback of
the C core.  The moves of a sample host, from which the runs on fixed inputs
are made, come last.
-/

namespace MoonlightAddon

namespace Sidecar

/-- Where every thread stands. -/
structure Standing where
  reader : Main.Phase
  workers : Engine → Worker

def Standing.initial : Standing := ⟨.opening, fun _ => .unborn⟩

/-- The engines after an event of the reader, which may have started one. -/
def started (event : Event sidecar) (workers : Engine → Worker) :
    Engine → Worker :=
  match event with
  | ⟨.spawn session doc, (engine, true)⟩ =>
      Function.update workers engine (.born session doc)
  | _ => workers

@[simp] theorem started_spawn {session : UInt32} {doc : MoonlightConnectDoc}
    {engine : Engine} (workers : Engine → Worker) :
    started ⟨.spawn session doc, (engine, true)⟩ workers engine =
      .born session doc :=
  Function.update_self ..

/-- The shared state and the environment allow this event now. -/
def Possible (thread : Thread) (shared : Shared) (event : Event sidecar) :
    Prop :=
  shared.exited = none ∧
    ∃ answer, replyOf thread shared event.command answer = some event.reply

section

variable (libraries : Libraries)

def discipline : Thread → Typestate sidecar
  | .reader => mainThread libraries
  | .worker _ => engineThread

def birth (event : Event sidecar) :
    (child : Thread) → (discipline libraries child).State
  | .reader => Main.Phase.opening
  | .worker _ =>
      match event with
      | ⟨.spawn session doc, _⟩ => Worker.born session doc
      | _ => Worker.unborn

def final : (thread : Thread) → (discipline libraries thread).State → Prop
  | .reader => Main.final
  | .worker _ => Worker.final

def standing (states : (thread : Thread) → (discipline libraries thread).State) :
    Standing :=
  ⟨states .reader, fun engine => states (.worker engine)⟩

def initialStates : (thread : Thread) → (discipline libraries thread).State
  | .reader => Main.Phase.opening
  | .worker _ => Worker.unborn

variable {libraries}

theorem discipline_sound :
    ∀ thread, (discipline libraries thread).Sound (Main.bodies libraries)
  | .reader => Main.mainThread_sound
  | .worker _ => Worker.engineThread_sound libraries

theorem bornTyped :
    @Machine.BornTyped sidecar (process libraries) (discipline libraries)
      (fun event _ => birth libraries event) (final libraries) := by
  rintro ⟨command, reply⟩ shared child program forked
  cases command with
  | spawn session doc =>
      obtain ⟨engine, _ | _⟩ := reply
      · cases forked
      · cases forked
        exact Worker.follows_worker
  | _ => cases forked

theorem typed_start :
    Machine.Typed (discipline libraries) (final libraries)
      (initialStates libraries) (process.start libraries) := by
  intro thread
  cases thread with
  | reader => exact Main.follows_main
  | worker engine => exact .inl rfl

theorem not_spawn_of_next {worker after : Worker} {event : Event sidecar}
    (next : Worker.Next worker event after) (shared : Shared) :
    (process libraries).fork event shared = none := by
  obtain @⟨session, doc, before, after, event, next⟩ := next
  cases next with
  | quiet quiet =>
      cases Phase.routine_of_quiet quiet <;> rfl
  | _ => rfl

section

variable (states : (thread : Thread) → (discipline libraries thread).State)

theorem update_same (thread : Thread)
    (after : (discipline libraries thread).State) :
    Function.update states thread after thread = after :=
  Function.update_self ..

theorem update_other (thread other : Thread) (distinct : other ≠ thread)
    (after : (discipline libraries thread).State) :
    Function.update states thread after other = states other :=
  Function.update_of_ne distinct ..

theorem standing_reader (after : Main.Phase) :
    standing libraries (Function.update states .reader after) =
      ⟨after, (standing libraries states).workers⟩ := by
  have workers : ∀ engine,
      Function.update states .reader after (.worker engine) =
        states (.worker engine) :=
    fun engine => update_other states .reader (.worker engine) (by simp) after
  exact congr (congrArg Standing.mk (update_same states .reader after))
    (funext workers)

theorem standing_worker (engine : Engine)
    (after : (discipline libraries (.worker engine)).State) :
    standing libraries (Function.update states (.worker engine) after) =
      ⟨states .reader,
        Function.update (standing libraries states).workers engine after⟩ := by
  have workers : ∀ other,
      Function.update states (.worker engine) after (.worker other) =
        Function.update (standing libraries states).workers engine after
          other := by
    intro other
    by_cases same : other = engine
    · subst same
      exact (update_same states _ after).trans
        (@Function.update_self Engine (fun _ => Worker) _ _ after _).symm
    · have distinct : Thread.worker other ≠ .worker engine := by simpa using same
      exact (update_other states _ _ distinct after).trans
        (@Function.update_of_ne Engine (fun _ => Worker) _ _ _ same after
          (standing libraries states).workers).symm
  have reader := update_other states (.worker engine) .reader (by simp) after
  exact congr (congrArg Standing.mk reader) (funext workers)

theorem standing_read (event : Event sidecar) (shared : Shared)
    (after : Main.Phase) :
    standing libraries (@Machine.assign sidecar (process libraries)
      (discipline libraries) (fun event _ => birth libraries event) event shared
      (Function.update states .reader after)) =
    ⟨after, started event (standing libraries states).workers⟩ := by
  have moved := standing_reader states after
  obtain ⟨command, reply⟩ := event
  cases command with
  | spawn session doc =>
      obtain ⟨engine, _ | _⟩ := reply
      · exact moved
      · have born := standing_worker (Function.update states .reader after)
          engine (Worker.born session doc)
        have workers := congrArg Standing.workers moved
        exact born.trans (congr
          (congrArg Standing.mk (update_same states .reader after))
          (congrArg (Function.update · engine _) workers))
  | _ => exact moved

theorem standing_work {event : Event sidecar} (shared : Shared)
    {engine : Engine} {after : Worker}
    (next : Worker.Next (states (.worker engine)) event after) :
    standing libraries (@Machine.assign sidecar (process libraries)
      (discipline libraries) (fun event _ => birth libraries event) event shared
      (Function.update states (.worker engine) after)) =
    ⟨states .reader,
      Function.update (standing libraries states).workers engine after⟩ := by
  unfold Machine.assign
  rw [not_spawn_of_next next]
  exact standing_worker states engine after

end

theorem possible_of_reply {thread : Thread} {shared : Shared}
    {event : Event sidecar}
    (replied : ∃ answer, (process libraries).reply thread shared event.command
      answer = some event.reply) : Possible thread shared event := by
  obtain ⟨answer, replied⟩ := replied
  simp only at replied
  split at replied
  · rename_i running
    exact ⟨running, answer, replied⟩
  · cases replied

/-- The invariant rule of the process. -/
theorem invariant_of_run {trace : (process libraries).Trace}
    {config : (process libraries).Config}
    (run : Machine.Run (process.start libraries) trace config)
    (rule : (process libraries).Trace → (process libraries).Happening → Prop)
    (obeys : Machine.Obeys rule trace)
    (holds : (process libraries).Trace → Shared → Standing → Prop)
    (initial : holds [] .initial .initial)
    (read : ∀ past shared standing event after,
      holds past shared standing → rule past (.ran .reader event) →
      Main.Phase.Next libraries standing.reader event after →
      Possible .reader shared event →
      holds (past ++ [.ran .reader event]) (effectOf .reader event shared)
        ⟨after, started event standing.workers⟩)
    (work : ∀ past shared standing engine event after,
      holds past shared standing → rule past (.ran (.worker engine) event) →
      Worker.Next (standing.workers engine) event after →
      Possible (.worker engine) shared event →
      holds (past ++ [.ran (.worker engine) event])
        (effectOf (.worker engine) event shared)
        ⟨standing.reader, Function.update standing.workers engine after⟩)
    (call : ∀ past shared standing callback,
      holds past shared standing →
      rule past (.outside (callBack callback shared).1) →
      shared.exited = none →
      holds (past ++ [.outside (callBack callback shared).1])
        (callBack callback shared).2 standing) :
    ∃ standing, holds trace config.shared standing := by
  obtain ⟨states, held, _⟩ := @Machine.Run.invariant sidecar
    (process libraries) (discipline libraries)
    (fun event _ => birth libraries event) (final libraries) _ _ _ run
    discipline_sound bornTyped rule obeys
    (fun trace shared states => holds trace shared (standing libraries states))
    (initialStates libraries) typed_start initial
    (fun past shared states thread event after held ruled next replied => by
      have possible := possible_of_reply replied
      cases thread with
      | reader =>
          have moved := read past shared _ event after held ruled next possible
          exact (congrArg (holds _ _)
            (standing_read states event shared after)).mpr moved
      | worker engine =>
          have moved := work past shared _ engine event after held ruled next
            possible
          exact (congrArg (holds _ _)
            (standing_work states shared next)).mpr moved)
    (fun past shared states callback seen next held ruled acted => by
      simp only [process] at acted
      split at acted
      · rename_i running
        obtain ⟨rfl, rfl⟩ := Prod.mk.inj (Option.some.inj acted).symm
        exact call past shared _ callback held ruled running
      · cases acted)
  exact ⟨_, held⟩

end

namespace SampleHost

/-- A connect doc with a stored identity and defaults for the rest. -/
def doc : Proto.ConnectDoc where
  host := lit "pc"
  httpPort := 47989
  httpsPort := 47984
  width := 1920
  height := 1080
  fps := 60
  bitrateKbps := 20000
  useHevc := false
  clientUniqueId := lit "id"
  clientCertPem := lit "cert"
  clientKeyPem := lit "key"

def docText : Text :=
  lit "\x7b\"host\":\"pc\",\"clientUniqueId\":\"id\"," ++
    lit "\"clientCertPem\":\"cert\",\"clientKeyPem\":\"key\"\x7d"

def hello : Text := lit "\x7b\"t\":\"hello\",\"abi\":1\x7d"

def connect (session : Text) : Text :=
  lit "\x7b\"t\":\"connect\",\"session\":" ++ session ++
    lit ",\"doc\":" ++ docText ++ lit "\x7d"

/-- A key for session 1 is pressed. -/
def key : Text :=
  lit "\x7b\"t\":\"input\",\"session\":1,\"kind\":\"key\"," ++
    lit "\"down\":true,\"code\":\"KeyA\"\x7d"

def shutdown : Text := lit "\x7b\"t\":\"shutdown\"\x7d"

def close : Text := lit "\x7b\"t\":\"close\",\"session\":1\x7d"

/-- What this host may send, with the message each text decodes to. -/
def vocabulary : List (Text × Proto.HostMsg) :=
  [(hello, .hello 1 []), (connect (lit "1"), .connect 1 doc),
    (connect (lit "2"), .connect 2 doc), (close, .close 1),
    (shutdown, .shutdown),
    (key, .input 1 (.key true (lit "KeyA") none ⟨false, false, false, false⟩))]

def fromSlice (payload : Bytes) : Except Text Proto.HostMsg :=
  match vocabulary.find? fun entry => Text.asBytes entry.1 == payload with
  | some (_, message) => .ok message
  | none => .error []

def libraries : Libraries := { (default : Libraries) with fromSlice := fromSlice }

abbrev Move := (process libraries).Move

def reader (answer : Answer) : Move := .run Thread.reader answer

def worker (engine : Engine) (answer : Answer) : Move :=
  .run (Thread.worker engine) answer

/-- The reader receives this control message. -/
def sends (text : Text) : Move :=
  reader (.message (.ok (some (Proto.kindControl, Text.asBytes text))))

def draws (engine : Engine) (count : Nat) : Move :=
  worker engine (.bytes (.ok (List.replicate count 0)))

def answers (engine : Engine) (body : String) : Move :=
  worker engine (.http (.body (lit body)))

def passes (thread : Answer → Move) (count : Nat) : List Move :=
  List.replicate count (thread .nothing)

/-- Up to the first control message of the loop. -/
def greeting : List Move :=
  [reader .nothing, sends hello, reader (.result (.ok ())), reader .nothing,
    reader .nothing]

/-- A connect whose thread starts. -/
def connects (session : Text) : List Move :=
  [sends (connect session), reader (.spawned true)] ++ passes reader 3

/-- From the start of an engine thread into its frame loop, on a paired
host. -/
def goesLive (engine : Engine) : List Move :=
  [worker engine (.result (.ok ())), worker engine (.result (.ok ())),
    draws engine 16,
    answers engine "<r status_code=\"200\"><PairStatus>1</PairStatus></r>",
    worker engine .nothing, draws engine 16,
    answers engine "<r status_code=\"200\"><App><AppTitle>Desktop</AppTitle><ID>1</ID></App></r>",
    worker engine (.result (.ok ())), draws engine 16, draws engine 4,
    draws engine 16,
    answers engine "<r status_code=\"200\"><gamesession>1</gamesession></r>"] ++
  passes (worker engine) 3 ++
  [worker engine (.code 0), worker engine (.result (.ok ())),
    worker engine (.result (.ok ())), worker engine .nothing]

/-- The host ends the session of an engine in its frame loop. -/
def terminates (engine : Engine) : List Move :=
  [.outside .terminated] ++ passes (worker engine) 5 ++
    [worker engine (.result (.ok ()))]

/-- A thread that has just read `TERMINATED` as clear finds its channel
disconnected and stops the stream. -/
def stopsStream (engine : Engine) : List Move :=
  passes (worker engine) 4

/-- From the start of an engine thread past its stop check, on a paired
host. -/
def clears (engine : Engine) : List Move :=
  (goesLive engine).take 5

/-- The rest of the way into the frame loop. -/
def continues (engine : Engine) : List Move :=
  (goesLive engine).drop 5

/-- A key frame in two buffers, with an empty one between them. -/
def keyFrame : Stream.DecodeUnit where
  frameType := Stream.frameTypeIdr
  bufferList := [⟨some [0, 0, 1], 3⟩, ⟨none, 5⟩, ⟨some [7, 8], 1⟩]

/-- The core submits a unit and the engine writes its frame. -/
def streams (engine : Engine) (unit : Stream.DecodeUnit) : List Move :=
  [.outside (.submit unit)] ++ passes (worker engine) 3 ++
    [worker engine (.result (.ok ()))]

end SampleHost

end Sidecar

end MoonlightAddon
