import MoonlightAddon.Interleaving
import MoonlightAddon.Main.Observed

/-!
# No engine outlives the reader

The map holds the engine of the latest connect of each id, and every engine is
closed by the time `run` returns.
-/

namespace MoonlightAddon

open Session Proto

namespace Main

variable {libraries : Libraries} {drain : DrainOrder}

def isConnect : HostMsg → Bool
  | .connect _ _ => true
  | _ => false

/-- The engines made for these messages. -/
def connects (heard : List HostMsg) : Nat :=
  heard.countP isConnect

/-- A connect or a close of this session. -/
def concerns (session : UInt32) : HostMsg → Bool
  | .connect other _ => other == session
  | .close other => other == session
  | _ => false

/-- The engine of the latest connect of this session, no close of it following.
Engines are numbered in the order of the connects. -/
def Latest (heard : List HostMsg) (session : UInt32)
    (value : MoonlightSession) : Prop :=
  ∃ earlier doc later, heard = earlier ++ .connect session doc :: later ∧
    value = ⟨connects earlier, doc.width, doc.height⟩ ∧
    ∀ message ∈ later, concerns session message = false

theorem latest_snoc {heard : List HostMsg} {message : HostMsg}
    {session : UInt32} {value : MoonlightSession} :
    Latest (heard ++ [message]) session value ↔
      (∃ doc, message = .connect session doc ∧
        value = ⟨connects heard, doc.width, doc.height⟩) ∨
      (concerns session message = false ∧ Latest heard session value) := by
  constructor
  · rintro ⟨earlier, doc, later, split, rfl, quiet⟩
    rcases Machine.split_snoc split with ⟨_, rfl, rfl⟩ | ⟨rest, rfl, rfl⟩
    · exact .inl ⟨doc, rfl, rfl⟩
    · obtain ⟨still, last⟩ := List.forall_mem_append.mp quiet
      exact .inr ⟨last _ List.mem_cons_self, earlier, doc, rest, rfl, rfl, still⟩
  · rintro (⟨doc, rfl, rfl⟩ | ⟨other, earlier, doc, later, rfl, rfl, quiet⟩)
    · exact ⟨heard, doc, [], rfl, rfl, by simp⟩
    · refine ⟨earlier, doc, later ++ [message], by simp, rfl, ?_⟩
      exact List.forall_mem_append.mpr ⟨quiet, by simpa using other⟩

/-- The desk of a reader that has heard these messages. -/
structure Represents (desk : Desk) (heard : List HostMsg) : Prop where
  engines : desk.engines = connects heard
  sessions : ∀ session value,
    desk.sessions.lookup session = some value ↔ Latest heard session value
  made : ∀ earlier session doc later,
    heard = earlier ++ .connect session doc :: later →
      .connected (connects earlier) session (toCoreDoc doc) ∈ desk.deeds

section Represents

variable {desk : Desk} {heard : List HostMsg}

theorem represents_initial : Represents .initial [] where
  engines := rfl
  sessions := by
    intro session value
    constructor
    · intro impossible
      cases impossible
    · rintro ⟨earlier, doc, later, split, _⟩
      simp at split
  made := by
    intro earlier session doc later split
    simp at split

/-- Further deeds, the map and the numbering being the same. -/
theorem Represents.extend (represents : Represents desk heard) {after : Desk}
    (changes : after.changes = desk.changes)
    (engines : after.engines = desk.engines)
    (deeds : desk.deeds <+: after.deeds) : Represents after heard where
  engines := engines.trans represents.engines
  sessions := by
    intro session value
    rw [Desk.sessions, changes]
    exact represents.sessions session value
  made := by
    intro earlier session doc later split
    exact deeds.mem (represents.made earlier session doc later split)

/-- A message that finds no session changes nothing. -/
theorem Represents.ignore (represents : Represents desk heard)
    {message : HostMsg} (quiet : isConnect message = false)
    (vain : ∀ session, concerns session message = true →
      desk.sessions.lookup session = none) :
    Represents desk (heard ++ [message]) where
  engines := by
    rw [connects, List.countP_append, represents.engines]
    simp [connects, quiet]
  sessions := by
    intro session value
    rw [latest_snoc, ← represents.sessions]
    constructor
    · intro found
      right
      refine ⟨?_, found⟩
      by_contra concerned
      rw [Bool.not_eq_false] at concerned
      rw [vain session concerned] at found
      cases found
    · rintro (⟨doc, rfl, _⟩ | ⟨_, found⟩)
      · cases quiet
      · exact found
  made := by
    intro earlier session doc later split
    rcases Machine.split_snoc split with ⟨_, _, rfl⟩ | ⟨rest, _, rfl⟩
    · cases quiet
    · exact represents.made earlier session doc rest rfl

theorem Represents.connect (represents : Represents desk heard)
    (session : UInt32) (doc : ConnectDoc) :
    Represents (desk.handle (.connect session doc))
      (heard ++ [.connect session doc]) where
  engines := by
    rw [connects, List.countP_append, Desk.handle, represents.engines]
    rfl
  sessions := by
    intro other value
    rw [latest_snoc, ← represents.sessions]
    change (desk.sessions.insert session _).lookup other = _ ↔ _
    by_cases same : other = session
    · subst same
      rw [AList.lookup_insert, represents.engines]
      constructor
      · intro found
        exact .inl ⟨doc, rfl, (Option.some.inj found).symm⟩
      · rintro (⟨_, ⟨⟩, rfl⟩ | ⟨other, _⟩)
        · rfl
        · simp [concerns] at other
    · rw [AList.lookup_insert_ne same]
      constructor
      · intro found
        exact .inr ⟨by simpa [concerns] using Ne.symm same, found⟩
      · rintro (⟨_, ⟨⟩, _⟩ | ⟨_, found⟩)
        · exact absurd rfl same
        · exact found
  made := by
    intro earlier other wanted later split
    rcases Machine.split_snoc split with ⟨_, rfl, ⟨⟩⟩ | ⟨rest, _, rfl⟩
    · rw [← represents.engines]
      exact List.mem_append_right _ List.mem_cons_self
    · exact List.mem_append_left _ (represents.made earlier other wanted rest rfl)

theorem Represents.close (represents : Represents desk heard)
    (session : UInt32) :
    Represents (desk.handle (.close session)) (heard ++ [.close session]) := by
  rw [Desk.handle]
  split
  · rename_i value found
    refine ⟨?_, ?_, ?_⟩
    · rw [connects, List.countP_append, represents.engines]
      rfl
    · intro other value
      rw [latest_snoc, ← represents.sessions]
      change (desk.sessions.erase session).lookup other = _ ↔ _
      by_cases same : other = session
      · subst same
        rw [AList.lookup_erase]
        simp [concerns]
      · rw [AList.lookup_erase_ne same]
        simp [concerns, Ne.symm same]
    · intro earlier other doc later split
      rcases Machine.split_snoc split with ⟨_, _, impossible⟩ | ⟨rest, _, rfl⟩
      · cases impossible
      · exact List.mem_append_left _ (represents.made earlier other doc rest rfl)
  · rename_i missing
    apply represents.ignore rfl
    intro other concerned
    rw [← eq_of_beq concerned]
    exact missing

theorem Represents.handle (represents : Represents desk heard)
    (message : HostMsg) :
    Represents (desk.handle message) (heard ++ [message]) := by
  cases message with
  | connect session doc => exact represents.connect session doc
  | close session => exact represents.close session
  | input session input =>
      have ignored : Represents desk (heard ++ [.input session input]) :=
        represents.ignore rfl (by simp [concerns])
      rw [Desk.handle]
      cases desk.sessions.lookup session with
      | none => exact ignored
      | some value => exact ignored.extend rfl rfl (List.prefix_append ..)
  | _ => exact represents.ignore rfl (by simp [concerns])

end Represents

section Accounts

variable {message : Message} {messages : List Message}

theorem controls_skipped (other : message.1 ≠ kindControl) :
    controls libraries (messages ++ [message]) =
      controls libraries messages := by
  simp [controls, other]

theorem controls_heard {control : HostMsg} (kind : message.1 = kindControl)
    (decoded : libraries.fromSlice message.2 = .ok control) :
    controls libraries (messages ++ [message]) =
      controls libraries messages ++ [control] := by
  simp [controls, kind, decoded, Except.toOption]

theorem Represents.attend {account : Account} {heard : List HostMsg}
    (represents : Represents account.desk heard) {control : HostMsg}
    (before : account.stage.reads = true)
    (reads : (account.attend libraries control).stage.reads = true) :
    Represents (account.attend libraries control).desk (heard ++ [control]) := by
  cases stage : account.stage with
  | finished result =>
      rw [stage] at before
      cases before
  | serving =>
      rw [Account.attend_serving stage, Account.desk_serve]
      exact represents.handle control
  | opening =>
      rw [Account.attend_opening stage] at reads ⊢
      cases control with
      | hello abi version =>
          rw [Account.welcome] at reads ⊢
          split at reads
          · cases reads
          · rename_i agreed
            rw [if_neg agreed]
            exact (represents.handle (.hello abi version)).extend rfl rfl
              (List.prefix_append ..)
      | _ => cases reads

/-- While messages are read, the account represents the control messages. -/
theorem represents_after
    (reads : (Account.after libraries messages).stage.reads = true) :
    Represents (Account.after libraries messages).desk
      (controls libraries messages) := by
  induction messages using List.reverseRecOn with
  | nil => exact represents_initial
  | append_singleton messages message induction =>
      rw [Account.after_append] at reads ⊢
      cases before : (Account.after libraries messages).stage.reads with
      | false =>
          obtain ⟨result, finished⟩ := Stage.finished_of_not_reads before
          rw [Account.hear_finished finished, before] at reads
          cases reads
      | true =>
          have represents := induction before
          have turn := @Account.hearing libraries _ before message
          generalize (Account.after libraries messages).hear libraries message
            = after at turn reads
          cases turn with
          | skipped other =>
              rw [controls_skipped other]
              exact represents
          | garbled control decoded => cases reads
          | heard kind decoded =>
              rw [controls_heard kind decoded]
              exact @Represents.attend _ (Account.after libraries messages).read
                _ represents _ before reads

end Accounts

section Closing

/-- Every engine made is closed or in the map. -/
def Kept (desk : Desk) : Prop :=
  ∀ engine session doc, .connected engine session doc ∈ desk.deeds →
    .issued (.storeStop engine) ∈ desk.deeds ∨
      ∃ id value, desk.sessions.lookup id = some value ∧ value.engine = engine

theorem Kept.did {desk : Desk} (kept : Kept desk) {deeds : List Deed}
    (makes : ∀ deed ∈ deeds, deed.connects = false) : Kept (desk.did deeds) := by
  intro engine session doc made
  rcases List.mem_append.mp made with before | now
  · rcases kept engine session doc before with closed | held
    · exact .inl (List.mem_append_left _ closed)
    · exact .inr held
  · cases makes _ now

theorem Kept.connect {desk : Desk} (kept : Kept desk) (session : UInt32)
    (doc : ConnectDoc) : Kept (desk.handle (.connect session doc)) := by
  intro engine other wanted made
  change _ ∈ desk.deeds ++ _ at made
  change _ ∈ desk.deeds ++ _ ∨
    ∃ id value, (desk.sessions.insert session _).lookup id = some value ∧ _
  rcases List.mem_append.mp made with before | now
  · rcases kept engine other wanted before with closed | ⟨id, value, found, rfl⟩
    · exact .inl (List.mem_append_left _ closed)
    · by_cases same : id = session
      · subst same
        left
        apply List.mem_append_right
        rw [found]
        exact List.mem_cons_of_mem _
          (List.mem_append_left _ (Desk.storeStop_mem_dropped value))
      · exact .inr ⟨id, value, by rwa [AList.lookup_insert_ne same], rfl⟩
  · rcases List.mem_cons.mp now with same | replaced
    · cases same
      exact .inr ⟨session, _, AList.lookup_insert _, rfl⟩
    · obtain ⟨old, _, member⟩ := List.mem_flatMap.mp replaced
      cases (Desk.tends_dropped member).2

theorem Kept.close {desk : Desk} (kept : Kept desk) (session : UInt32) :
    Kept (desk.handle (.close session)) := by
  rw [Desk.handle]
  split
  · rename_i value found
    intro engine other wanted made
    change _ ∈ desk.deeds ++ _ ∨
      ∃ id value, (desk.sessions.erase session).lookup id = some value ∧ _
    rcases List.mem_append.mp made with before | now
    · rcases kept engine other wanted before with
        closed | ⟨id, held, there, rfl⟩
      · exact .inl (List.mem_append_left _ closed)
      · by_cases same : id = session
        · subst same
          obtain rfl := Option.some.inj (found.symm.trans there)
          exact .inl (List.mem_append_right _
            (Desk.storeStop_mem_closedAndDropped value))
        · exact .inr ⟨id, held, by rwa [AList.lookup_erase_ne same], rfl⟩
    · cases (Desk.tends_closedAndDropped now).2
  · exact kept

theorem Kept.input {desk : Desk} (kept : Kept desk) (session : UInt32)
    (input : InputMsg) : Kept (desk.handle (.input session input)) := by
  rw [Desk.handle]
  cases desk.sessions.lookup session with
  | none => exact kept
  | some value =>
      exact @Kept.did desk kept _
        fun deed member => (Desk.tends_inputDeeds member).2

theorem Kept.handle {desk : Desk} (kept : Kept desk) (message : HostMsg) :
    Kept (desk.handle message) := by
  cases message with
  | connect session doc => exact kept.connect session doc
  | close session => exact kept.close session
  | input session input => exact kept.input session input
  | _ => exact kept

theorem Kept.attend {account : Account} (kept : Kept account.desk)
    (control : HostMsg) : Kept (account.attend libraries control).desk := by
  cases stage : account.stage with
  | finished result =>
      rw [Account.attend, stage]
      exact kept
  | serving =>
      rw [Account.attend_serving stage, Account.desk_serve]
      exact kept.handle control
  | opening =>
      rw [Account.attend_opening stage]
      cases control with
      | hello abi version =>
          rw [Account.welcome]
          split
          · exact kept
          · exact kept.did (by simp [Deed.connects])
      | _ => exact kept

theorem Kept.hear {account : Account} (kept : Kept account.desk)
    (message : Message) : Kept (account.hear libraries message).desk := by
  cases reads : account.stage.reads with
  | false =>
      obtain ⟨result, finished⟩ := Stage.finished_of_not_reads reads
      rw [Account.hear_finished finished]
      exact kept
  | true =>
      have turn := @Account.hearing libraries _ reads message
      generalize account.hear libraries message = after at turn
      cases turn with
      | skipped other => exact kept
      | garbled control decoded => exact kept
      | heard kind decoded => exact @Kept.attend _ account.read kept _

theorem Kept.reckon {account : Account} (kept : Kept account.desk)
    (messages : List Message) (stop : Stop) :
    Kept (account.reckon libraries messages stop).desk := by
  induction messages generalizing account with
  | nil =>
      rw [Account.reckon_nil, Account.stop]
      split
      · exact kept
      · exact kept
  | cons message messages induction => exact induction (kept.hear message)

/-- Emptying the map closes whatever was still in it. -/
theorem Kept.cleared {desk : Desk} (kept : Kept desk)
    {deeds : MoonlightSession → List Deed}
    (closes : ∀ value, .issued (.storeStop value.engine) ∈ deeds value)
    (makes : ∀ value, ∀ deed ∈ deeds value, deed.connects = false)
    {engine : Engine} {session : UInt32} {doc : MoonlightConnectDoc}
    (made : .connected engine session doc ∈ (desk.cleared drain deeds).deeds) :
    .issued (.storeStop engine) ∈ (desk.cleared drain deeds).deeds := by
  rcases List.mem_append.mp made with before | now
  · rcases kept engine session doc before with closed | ⟨id, value, held, rfl⟩
    · exact List.mem_append_left _ closed
    · have entry : value ∈ (sessionsAfter desk.changes).values :=
        List.mem_map.mpr ⟨⟨id, value⟩, AList.mem_lookup_iff.mp held, rfl⟩
      have drained := (drain.complete desk.changes).mem_iff.mpr entry
      exact List.mem_append_right _
        (List.mem_flatMap.mpr ⟨value, drained, closes value⟩)
  · obtain ⟨value, _, member⟩ := List.mem_flatMap.mp now
    cases makes value _ member

theorem Kept.emptied {desk : Desk} (kept : Kept desk)
    (result : Except Text Unit) {engine : Engine} {session : UInt32}
    {doc : MoonlightConnectDoc}
    (made : .connected engine session doc ∈ (desk.emptied drain result).deeds) :
    .issued (.storeStop engine) ∈ (desk.emptied drain result).deeds := by
  cases result with
  | ok value =>
      apply kept.cleared _ _ made
      · exact Desk.storeStop_mem_closedAndDropped
      · exact fun value deed member => (Desk.tends_closedAndDropped member).2
  | error error =>
      apply kept.cleared _ _ made
      · exact Desk.storeStop_mem_dropped
      · exact fun value deed member => (Desk.tends_dropped member).2

end Closing

/-- What becomes of the engines a reader of these bytes makes. -/
structure Custody (libraries : Libraries) (drain : DrainOrder)
    (stdin : Reader) : Prop where
  returns : ∀ trace program state,
    Executes libraries drain stdin trace program state →
      ∃ more outcome final,
        Executes libraries drain stdin (trace ++ more) (.ret outcome) final
  closed : ∀ trace outcome final,
    Executes libraries drain stdin trace (.ret outcome) final →
      ∀ session doc engine started,
        ⟨.spawn session doc, (engine, started)⟩ ∈ trace →
          ⟨.storeStop engine, ()⟩ ∈ trace
  /-- The map where the loop reads its next message. -/
  held : ∀ past reply program state,
    Executes libraries drain stdin (past ++ [⟨.readMessage, reply⟩]) program
      state →
      ∀ session value, state.desk.sessions.lookup session = some value ↔
        Latest (controls libraries (readIn past)) session value
  /-- Each connect heard by then has made the engine of its number. -/
  numbered : ∀ past reply program state,
    Executes libraries drain stdin (past ++ [⟨.readMessage, reply⟩]) program
      state →
      ∀ earlier session doc later,
        controls libraries (readIn past) =
            earlier ++ .connect session doc :: later →
          ∃ started,
            ⟨.spawn session (toCoreDoc doc), (connects earlier, started)⟩ ∈
              past

theorem engines_in_custody (libraries : Libraries) (drain : DrainOrder)
    (stdin : Reader) : Custody libraries drain stdin := by
  refine ⟨?_, ?_, ?_, ?_⟩
  · intro trace program state executes
    exact executes.returns
  · intro trace outcome final executes session doc engine started spawned
    obtain ⟨messages, stop, yields⟩ := exists_yields stdin
    obtain ⟨result, _, settled⟩ := executes.settled yields
    have kept : Kept (Account.initial.reckon libraries messages stop).desk := by
      apply Kept.reckon
      intro engine session doc impossible
      cases impossible
    have made : .connected engine session doc ∈ final.desk.deeds :=
      (mem_deeds_iff executes.path).mpr ⟨_, spawned, rfl⟩
    rw [settled.desk] at made
    have closed := kept.emptied result made
    rw [← settled.desk, mem_deeds_iff executes.path] at closed
    obtain ⟨event, member, stored⟩ := closed
    rwa [eq_storeStop_of_deedOf stored] at member
  · intro past reply program state executes session value
    obtain ⟨reads, desk⟩ := executes.desk_at_read
    rw [← desk]
    exact (represents_after reads).sessions session value
  · intro past reply program state executes earlier session doc later split
    obtain ⟨reads, desk⟩ := executes.desk_at_read
    have made := (represents_after reads).made earlier session doc later split
    rw [desk, mem_deeds_iff executes.path] at made
    obtain ⟨event, member, connected⟩ := made
    obtain ⟨started, rfl⟩ := eq_spawn_of_deedOf connected
    rcases List.mem_append.mp member with before | last
    · exact ⟨started, before⟩
    · simp at last

end Main

end MoonlightAddon
