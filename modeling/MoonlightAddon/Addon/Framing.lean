import MoonlightAddon.Core.NvHttp

/-!
# Reading framed messages

`read_message` of `proto.rs` over a reader that hands out its bytes in pieces
of any size, and the wire form of a message.
-/

namespace MoonlightAddon

/-- `io::ErrorKind`, as far as the framing distinguishes kinds. -/
inductive ErrorKind where
  | unexpectedEof
  | invalidData
  | interrupted
  | writeZero
  | other
deriving DecidableEq

structure IoError where
  kind : ErrorKind
  message : Text
deriving DecidableEq

/-- What one `read` call does: it is interrupted, or returns at most so many
bytes (and at least one while there are any). -/
inductive Pace where
  | interrupted
  | upTo (limit : Nat)
deriving DecidableEq

/-- A reader: the bytes it has left, and the pace of the next calls.  After
these every call fills its buffer. -/
structure Reader where
  bytes : Bytes
  schedule : List Pace
deriving DecidableEq

namespace Reader

/-- `Read::read` into a buffer of `capacity` bytes. -/
def read (capacity : Nat) (reader : Reader) : Except IoError Bytes × Reader :=
  match reader.schedule with
  | .interrupted :: later =>
      (.error ⟨.interrupted, []⟩, { reader with schedule := later })
  | .upTo limit :: later =>
      let count := min capacity (max 1 limit)
      (.ok (reader.bytes.take count), ⟨reader.bytes.drop count, later⟩)
  | [] => (.ok (reader.bytes.take capacity), ⟨reader.bytes.drop capacity, []⟩)

def readExactEof : IoError :=
  ⟨.unexpectedEof, lit "failed to fill whole buffer"⟩

/-- What bounds the calls `read_exact` still makes. -/
def remaining (want : Nat) (reader : Reader) : Nat :=
  reader.schedule.length + want

theorem remaining_read_error {want : Nat} {reader after : Reader}
    {error : IoError} (read : reader.read want = (.error error, after)) :
    remaining want after < remaining want reader := by
  obtain ⟨bytes, schedule⟩ := reader
  match schedule with
  | .interrupted :: later =>
      simp only [Reader.read, Prod.mk.injEq] at read
      obtain ⟨_, rfl⟩ := read
      simp [remaining]
  | .upTo limit :: later => simp [Reader.read] at read
  | [] => simp [Reader.read] at read

theorem remaining_read_ok {want : Nat} {reader after : Reader} {byte : UInt8}
    {got : Bytes} (positive : want ≠ 0)
    (read : reader.read want = (.ok (byte :: got), after)) :
    remaining (want - (byte :: got).length) after < remaining want reader := by
  obtain ⟨bytes, schedule⟩ := reader
  match schedule with
  | .interrupted :: later => simp [Reader.read] at read
  | .upTo limit :: later =>
      simp only [Reader.read, Prod.mk.injEq] at read
      obtain ⟨_, rfl⟩ := read
      simp only [remaining, List.length_cons]
      omega
  | [] =>
      simp only [Reader.read, Prod.mk.injEq] at read
      obtain ⟨_, rfl⟩ := read
      simp only [remaining, List.length_cons, List.length_nil]
      omega

/-- `Read::read_exact`: interrupted calls are made again, and the end of the
bytes before the buffer is full is an error. -/
def readExact (want : Nat) (reader : Reader) : Except IoError Bytes × Reader :=
  if positive : want = 0 then
    (.ok [], reader)
  else
    match read : reader.read want with
    | (.ok [], after) => (.error readExactEof, after)
    | (.ok (byte :: got), after) =>
        have := remaining_read_ok positive read
        match readExact (want - (byte :: got).length) after with
        | (.ok rest, last) => (.ok (byte :: got ++ rest), last)
        | (.error error, last) => (.error error, last)
    | (.error error, after) =>
        have := remaining_read_error read
        if error.kind = .interrupted then
          readExact want after
        else
          (.error error, after)
termination_by remaining want reader

/-- A call is interrupted, or takes some bytes off the front. -/
theorem read_cases {want : Nat} {reader after : Reader}
    {result : Except IoError Bytes} (positive : want ≠ 0)
    (read : reader.read want = (result, after)) :
    (∃ error, result = .error error ∧ error.kind = .interrupted ∧
        after.bytes = reader.bytes) ∨
      ∃ got, result = .ok got ∧ reader.bytes = got ++ after.bytes ∧
        got.length ≤ want ∧ (got = [] → reader.bytes = []) := by
  obtain ⟨bytes, schedule⟩ := reader
  match schedule with
  | .interrupted :: later =>
      simp only [Reader.read, Prod.mk.injEq] at read
      obtain ⟨rfl, rfl⟩ := read
      exact .inl ⟨_, rfl, rfl, rfl⟩
  | .upTo limit :: later =>
      simp only [Reader.read, Prod.mk.injEq] at read
      obtain ⟨rfl, rfl⟩ := read
      refine .inr ⟨_, rfl, by simp, by rw [List.length_take]; omega, ?_⟩
      intro nothing
      rcases List.take_eq_nil_iff.mp nothing with zero | empty
      · omega
      · exact empty
  | [] =>
      simp only [Reader.read, Prod.mk.injEq] at read
      obtain ⟨rfl, rfl⟩ := read
      refine .inr ⟨_, rfl, by simp, by rw [List.length_take]; omega, ?_⟩
      intro nothing
      rcases List.take_eq_nil_iff.mp nothing with zero | empty
      · omega
      · exact empty

/-- `read_exact` takes the bytes it wants off the front, whatever the pace, or
fails because there are fewer. -/
theorem readExact_cases (want : Nat) (reader : Reader) :
    (∃ front after, readExact want reader = (.ok front, after) ∧
        front.length = want ∧ reader.bytes = front ++ after.bytes) ∨
      ∃ after, readExact want reader = (.error readExactEof, after) ∧
        reader.bytes.length < want ∧ after.bytes = [] := by
  fun_induction readExact want reader with
  | case1 reader => exact .inl ⟨[], reader, rfl, rfl, rfl⟩
  | case2 want reader positive after read =>
      rcases read_cases positive read with ⟨_, ⟨⟩, _⟩ | ⟨_, ⟨⟩, split, _, ended⟩
      have empty := ended rfl
      refine .inr ⟨after, rfl, ?_, ?_⟩
      · rw [empty]
        exact Nat.pos_of_ne_zero positive
      · simpa [empty] using split.symm
  | case3 want reader positive byte got after read _ rest last tail induction =>
      rcases read_cases positive read with
        ⟨_, ⟨⟩, _⟩ | ⟨_, ⟨⟩, split, short, _⟩
      rw [tail] at induction
      rcases induction with ⟨_, _, ⟨⟩, length, further⟩ | ⟨_, ⟨⟩, _⟩
      refine .inl ⟨_, last, rfl, ?_, ?_⟩
      · rw [List.length_append, length]
        omega
      · rw [split, further, List.append_assoc]
  | case4 want reader positive byte got after read _ error last tail induction =>
      rcases read_cases positive read with
        ⟨_, ⟨⟩, _⟩ | ⟨_, ⟨⟩, split, _, _⟩
      rw [tail] at induction
      rcases induction with ⟨_, _, ⟨⟩, _⟩ | ⟨_, ⟨⟩, fewer, empty⟩
      refine .inr ⟨last, rfl, ?_, empty⟩
      rw [split, List.length_append]
      omega
  | case5 want reader positive error after read _ interrupted induction =>
      rcases read_cases positive read with
        ⟨_, ⟨⟩, _, same⟩ | ⟨_, ⟨⟩, _⟩
      rwa [same] at induction
  | case6 want reader positive error after read _ other =>
      rcases read_cases positive read with
        ⟨_, ⟨⟩, interrupted, _⟩ | ⟨_, ⟨⟩, _⟩
      exact absurd interrupted other

theorem readExact_append {front rest : Bytes} {reader : Reader}
    (start : reader.bytes = front ++ rest) :
    ∃ after, readExact front.length reader = (.ok front, after) ∧
      after.bytes = rest := by
  rcases readExact_cases front.length reader with
    ⟨got, after, read, length, split⟩ | ⟨_, _, fewer, _⟩
  · obtain ⟨rfl, rfl⟩ := List.append_inj (start.symm.trans split) length.symm
    exact ⟨after, read, rfl⟩
  · rw [start, List.length_append] at fewer
    omega

theorem readExact_short {want : Nat} {reader : Reader}
    (fewer : reader.bytes.length < want) :
    ∃ after, readExact want reader = (.error readExactEof, after) ∧
      after.bytes = [] := by
  rcases readExact_cases want reader with
    ⟨got, after, read, length, split⟩ | ⟨after, read, _, empty⟩
  · rw [split, List.length_append] at fewer
    omega
  · exact ⟨after, read, empty⟩

end Reader

/-- A message on the wire: its kind and its payload. -/
abbrev Message := UInt8 × Bytes

namespace Proto

def implausibleLength (length : UInt32) : IoError :=
  ⟨.invalidData, lit "implausible message length " ++
    NvHttp.decimal length.toNat ++ lit " — stream desynchronised"⟩

/-- `read_message`: an end of the stream where a length is due is the end of
the messages, not an error. -/
def readMessage (reader : Reader) : Except IoError (Option Message) × Reader :=
  match reader.readExact 4 with
  | (.error error, after) =>
      if error.kind = .unexpectedEof then (.ok none, after)
      else (.error error, after)
  | (.ok lenBuf, after) =>
      let length := LittleEndian.toU32 lenBuf
      if length < 1 ∨ maxFrameBytes < length then
        (.error (implausibleLength length), after)
      else
        match after.readExact 1 with
        | (.error error, last) => (.error error, last)
        | (.ok kind, later) =>
            match later.readExact (length - 1).toNat with
            | (.error error, last) => (.error error, last)
            | (.ok payload, last) => (.ok (some (kind.getD 0 0, payload)), last)

/-- How reading message after message ends. -/
inductive Stop where
  | closed
  | failed (error : IoError)
deriving DecidableEq

/-- `read_message` repeatedly until it stops. -/
inductive Yields : Reader → List Message → Stop → Prop where
  | message {reader after : Reader} {message : Message}
      {later : List Message} {stop : Stop} :
      readMessage reader = (.ok (some message), after) →
      Yields after later stop →
      Yields reader (message :: later) stop
  | closed {reader after : Reader} :
      readMessage reader = (.ok none, after) → Yields reader [] .closed
  | failed {reader after : Reader} {error : IoError} :
      readMessage reader = (.error error, after) →
      Yields reader [] (.failed error)

/-- The bytes `raw` writes for a message. -/
def encode (message : Message) : Bytes :=
  LittleEndian.u32 (UInt32.ofNat message.2.length + 1) ++
    (message.1 :: message.2)

/-- The message is within the cap on its length field. -/
def Fits (message : Message) : Prop :=
  1 + message.2.length ≤ maxFrameBytes.toNat

instance (message : Message) : Decidable (Fits message) :=
  inferInstanceAs (Decidable (_ ≤ _))

theorem toNat_ofNat_of_fits {message : Message} (fits : Fits message) :
    (UInt32.ofNat message.2.length).toNat = message.2.length := by
  have cap : maxFrameBytes.toNat = 33554432 := rfl
  rw [Fits, cap] at fits
  rw [UInt32.toNat_ofNat']
  omega

theorem toNat_length_of_fits {message : Message} (fits : Fits message) :
    (UInt32.ofNat message.2.length + 1).toNat = 1 + message.2.length := by
  have cap : maxFrameBytes.toNat = 33554432 := rfl
  have one : (1 : UInt32).toNat = 1 := rfl
  rw [UInt32.toNat_add, toNat_ofNat_of_fits fits, one]
  rw [Fits, cap] at fits
  omega

theorem not_implausible {message : Message} (fits : Fits message) :
    ¬ (UInt32.ofNat message.2.length + 1 < 1 ∨
      maxFrameBytes < UInt32.ofNat message.2.length + 1) := by
  have counted := toNat_length_of_fits fits
  simp only [UInt32.lt_iff_toNat_lt, counted]
  have one : (1 : UInt32).toNat = 1 := rfl
  unfold Fits at fits
  omega

/-- A framed message at the front of the stream is read back. -/
theorem readMessage_encode {message : Message} (fits : Fits message)
    {reader : Reader} {rest : Bytes}
    (start : reader.bytes = encode message ++ rest) :
    ∃ after, readMessage reader = (.ok (some message), after) ∧
      after.bytes = rest := by
  obtain ⟨kind, payload⟩ := message
  obtain ⟨first, readLength, atKind⟩ := Reader.readExact_append
    (start.trans (List.append_assoc ..))
  obtain ⟨second, readKind, atPayload⟩ := @Reader.readExact_append [kind] _ _
    atKind
  obtain ⟨third, readPayload, atRest⟩ := Reader.readExact_append atPayload
  refine ⟨third, ?_, atRest⟩
  have credible := not_implausible fits
  have length : (UInt32.ofNat payload.length + 1 - 1).toNat =
      payload.length := by
    rw [UInt32.add_sub_cancel]
    exact toNat_ofNat_of_fits fits
  rw [LittleEndian.length_u32] at readLength
  rw [List.length_singleton] at readKind
  simp only [readMessage, readLength, LittleEndian.toU32_u32, if_neg credible,
    readKind, length, readPayload]
  rfl

/-- Framed messages are read back one after the other, and then the stream
ends. -/
theorem yields_encode {messages : List Message}
    (fits : ∀ message ∈ messages, Fits message) {reader : Reader}
    (start : reader.bytes = messages.flatMap encode) :
    Yields reader messages .closed := by
  induction messages generalizing reader with
  | nil =>
      have fewer : reader.bytes.length < 4 := by simp [start]
      obtain ⟨after, read, _⟩ := Reader.readExact_short fewer
      apply Yields.closed
      · simp only [readMessage, read]
        rfl
  | cons message messages induction =>
      obtain ⟨after, read, rest⟩ := readMessage_encode
        (fits message List.mem_cons_self) start
      apply Yields.message read
      apply induction _ rest
      intro later member
      exact fits later (List.mem_cons_of_mem _ member)

end Proto

end MoonlightAddon
