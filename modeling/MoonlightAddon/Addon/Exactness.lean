import MoonlightAddon.Addon.Framing

/-!
# What the reader makes of a stream

Reading message after message takes the framed messages off the front of the
stream, however the bytes arrive.  Where no framed message follows, fewer than
four bytes pass for the end of the stream and anything longer is an error.
-/

namespace MoonlightAddon

namespace Proto

/-- Everything one call can do. -/
inductive ReadCase (reader : Reader) :
    Except IoError (Option Message) × Reader → Prop where
  | message {message : Message} {after : Reader} (fits : Fits message)
      (split : reader.bytes = encode message ++ after.bytes) :
      ReadCase reader (.ok (some message), after)
  | ended {after : Reader} (fewer : reader.bytes.length < 4) :
      ReadCase reader (.ok none, after)
  | broken {error : IoError} {after : Reader}
      (enough : 4 ≤ reader.bytes.length) :
      ReadCase reader (.error error, after)

theorem encode_of_length {length : UInt32} {payload : Bytes} (kind : UInt8)
    (counted : payload.length = (length - 1).toNat) :
    encode (kind, payload) = LittleEndian.u32 length ++ (kind :: payload) := by
  rw [encode, counted, UInt32.ofNat_toNat, UInt32.sub_add_cancel]

theorem fits_of_length {length : UInt32} {payload : Bytes} (kind : UInt8)
    (credible : ¬ (length < 1 ∨ maxFrameBytes < length))
    (counted : payload.length = (length - 1).toNat) :
    Fits (kind, payload) := by
  rw [not_or, UInt32.not_lt, UInt32.not_lt] at credible
  obtain ⟨positive, capped⟩ := credible
  rw [UInt32.toNat_sub_of_le _ _ positive] at counted
  rw [UInt32.le_iff_toNat_le] at positive capped
  have one : (1 : UInt32).toNat = 1 := rfl
  change 1 + payload.length ≤ maxFrameBytes.toNat
  omega

theorem readMessage_case (reader : Reader) :
    ReadCase reader (readMessage reader) := by
  rcases reader.readExact_cases 4 with
    ⟨lenBuf, after, readLength, four, atKind⟩ | ⟨after, readLength, fewer, _⟩
  · have enough : 4 ≤ reader.bytes.length := by
      rw [atKind, List.length_append]
      omega
    simp only [readMessage, readLength]
    split
    · exact .broken enough
    · rename_i credible
      rcases after.readExact_cases 1 with
        ⟨kind, later, readKind, one, atPayload⟩ | ⟨last, readKind, _⟩
      · obtain ⟨kind, rfl⟩ := List.length_eq_one_iff.mp one
        rcases later.readExact_cases (LittleEndian.toU32 lenBuf - 1).toNat with
          ⟨payload, last, readPayload, counted, atRest⟩ |
          ⟨last, readPayload, _⟩
        · simp only [readKind, readPayload]
          apply ReadCase.message
          · exact fits_of_length kind credible counted
          · change reader.bytes = encode (kind, payload) ++ last.bytes
            rw [encode_of_length kind counted,
              LittleEndian.u32_toU32 four, atKind, atPayload, atRest]
            simp
        · simp only [readKind, readPayload]
          exact .broken enough
      · simp only [readKind]
        exact .broken enough
  · simp only [readMessage, readLength]
    exact .ended fewer

theorem Yields.unique {reader : Reader} {first second : List Message}
    {stop last : Stop} (one : Yields reader first stop)
    (other : Yields reader second last) : first = second ∧ stop = last := by
  induction one generalizing second with
  | message read _ induction =>
      cases other with
      | message again later =>
          rw [read, Prod.mk.injEq, Except.ok.injEq, Option.some.injEq] at again
          obtain ⟨rfl, rfl⟩ := again
          obtain ⟨rfl, same⟩ := induction later
          exact ⟨rfl, same⟩
      | closed again =>
          rw [read] at again
          cases again
      | failed again =>
          rw [read] at again
          cases again
  | closed read =>
      cases other with
      | closed again => exact ⟨rfl, rfl⟩
      | message again _ | failed again =>
          rw [read] at again
          cases again
  | failed read =>
      cases other with
      | failed again =>
          rw [read, Prod.mk.injEq, Except.error.injEq] at again
          exact ⟨rfl, congrArg Stop.failed again.1⟩
      | message again _ | closed again =>
          rw [read] at again
          cases again

/-- The stream is framed messages and nothing else. -/
def Framed (bytes : Bytes) (messages : List Message) : Prop :=
  (∀ message ∈ messages, Fits message) ∧ bytes = messages.flatMap encode

/-- The maximal complete part of a stream, and the bytes after it, which no
framed message begins. -/
structure Splits (bytes : Bytes) (messages : List Message) (rest : Bytes) :
    Prop where
  fits : ∀ message ∈ messages, Fits message
  bytes : bytes = messages.flatMap encode ++ rest
  maximal : ∀ message more, Fits message → rest ≠ encode message ++ more

theorem length_encode (message : Message) :
    (encode message).length = 5 + message.2.length := by
  simp only [encode, List.length_append, LittleEndian.length_u32,
    List.length_cons]
  omega

theorem exists_splits (bytes : Bytes) :
    ∃ messages rest, Splits bytes messages rest := by
  induction counted : bytes.length using Nat.strong_induction_on
    generalizing bytes with
  | _ count induction =>
      by_cases starts : ∃ message more,
          Fits message ∧ bytes = encode message ++ more
      · obtain ⟨message, more, fits, rfl⟩ := starts
        have shorter : more.length < count := by
          rw [← counted, List.length_append, length_encode]
          omega
        obtain ⟨messages, rest, splits⟩ := induction _ shorter more rfl
        refine ⟨message :: messages, rest, ?_, ?_, splits.maximal⟩
        · exact List.forall_mem_cons.mpr ⟨fits, splits.fits⟩
        · rw [List.flatMap_cons, List.append_assoc, ← splits.bytes]
      · refine ⟨[], bytes, by simp, rfl, ?_⟩
        intro message more fits split
        exact starts ⟨message, more, fits, split⟩

/-- Message after message, the reader takes the complete part of the stream;
then it stops, and calls it an end if fewer than four bytes are left. -/
theorem yields_of_splits {messages : List Message} {rest : Bytes}
    {reader : Reader} (splits : Splits reader.bytes messages rest) :
    (rest.length < 4 ∧ Yields reader messages .closed) ∨
      (4 ≤ rest.length ∧ ∃ error, Yields reader messages (.failed error)) := by
  obtain ⟨fits, bytes, maximal⟩ := splits
  induction messages generalizing reader with
  | nil =>
      rw [List.flatMap_nil, List.nil_append] at bytes
      have turn := readMessage_case reader
      generalize read : readMessage reader = result at turn
      cases turn with
      | message fits split =>
          exact absurd (bytes.symm.trans split) (maximal _ _ fits)
      | ended fewer => exact .inl ⟨bytes ▸ fewer, .closed read⟩
      | broken enough => exact .inr ⟨bytes ▸ enough, _, .failed read⟩
  | cons message messages induction =>
      rw [List.flatMap_cons, List.append_assoc] at bytes
      obtain ⟨fit, fits⟩ := List.forall_mem_cons.mp fits
      obtain ⟨after, read, remaining⟩ := readMessage_encode fit bytes
      rcases induction fits remaining with
        ⟨fewer, yields⟩ | ⟨enough, error, yields⟩
      · exact .inl ⟨fewer, .message read yields⟩
      · exact .inr ⟨enough, error, .message read yields⟩

/-- The reader stops for an end exactly after a stream of framed messages, and
for an error, after the maximal complete part, on every other stream. -/
def Exact (reader : Reader) : Prop :=
  (∀ messages, Yields reader messages .closed ↔
    Framed reader.bytes messages) ∧
  ((∀ messages, ¬ Framed reader.bytes messages) →
    ∃ messages rest error, Splits reader.bytes messages rest ∧
      Yields reader messages (.failed error))

/-- The stream ends inside a length field, one to three bytes into it. -/
def CutInLength (bytes : Bytes) : Prop :=
  ∃ messages rest, Splits bytes messages rest ∧ rest ≠ [] ∧ rest.length < 4

theorem stream_exactness (reader : Reader) :
    Exact reader ↔ ¬ CutInLength reader.bytes := by
  obtain ⟨messages, rest, splits⟩ := exists_splits reader.bytes
  constructor
  · rintro ⟨closes, _⟩ ⟨messages, rest, splits, some, fewer⟩
    rcases yields_of_splits splits with ⟨_, yields⟩ | ⟨enough, _⟩
    · have framed := (closes messages).mp yields
      have bytes := splits.bytes
      rw [framed.2] at bytes
      exact some (List.self_eq_append_right.mp bytes)
    · omega
  · intro whole
    rcases yields_of_splits splits with ⟨fewer, yields⟩ | ⟨_, error, yields⟩
    · have empty : rest = [] := by
        by_contra some
        exact whole ⟨messages, rest, splits, some, fewer⟩
      subst empty
      have framed : Framed reader.bytes messages :=
        ⟨splits.fits, by rw [splits.bytes, List.append_nil]⟩
      constructor
      · intro others
        constructor
        · intro closes
          obtain ⟨rfl, _⟩ := yields.unique closes
          exact framed
        · intro same
          exact yields_encode same.1 same.2
      · intro unframed
        exact absurd framed (unframed messages)
    · constructor
      · intro others
        constructor
        · intro closes
          obtain ⟨_, same⟩ := yields.unique closes
          cases same
        · intro same
          obtain ⟨_, same⟩ := yields.unique (yields_encode same.1 same.2)
          cases same
      · intro _
        exact ⟨messages, rest, error, splits, yields⟩

/-- Two bytes of a length field, and no more. -/
theorem stream_cut_in_length : ¬ Exact ⟨[1, 0], []⟩ := by
  rintro ⟨closes, _⟩
  have closed : Yields ⟨[1, 0], []⟩ [] .closed := by
    obtain ⟨after, read, _⟩ :=
      @Reader.readExact_short 4 ⟨[1, 0], []⟩ (by decide)
    apply Yields.closed
    · simp only [readMessage, read]
      rfl
  have framed := (closes []).mp closed
  cases framed.2

end Proto

end MoonlightAddon
