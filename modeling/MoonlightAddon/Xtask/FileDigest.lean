import MoonlightAddon.Addon.Framing
import MoonlightAddon.Xtask.Streaming

/-!
# The digest of a file

`sha256_hex` reads a file in pieces of whatever size the calls return, and
prints the standard's digest of the whole of it.
-/

namespace MoonlightAddon

/-- A call that returns bytes leaves less of the reader. -/
theorem Reader.length_read {capacity : Nat} {reader after : Reader}
    {byte : UInt8} {got : Bytes}
    (read : reader.read capacity = (.ok (byte :: got), after)) :
    after.schedule.length + after.bytes.length <
      reader.schedule.length + reader.bytes.length := by
  obtain ⟨bytes, schedule⟩ := reader
  match schedule with
  | .interrupted :: later => simp [Reader.read] at read
  | .upTo limit :: later =>
      simp only [Reader.read, Prod.mk.injEq, Except.ok.injEq] at read
      obtain ⟨_, rfl⟩ := read
      simp only [List.length_cons, List.length_drop]
      omega
  | [] =>
      simp only [Reader.read, Prod.mk.injEq, Except.ok.injEq] at read
      obtain ⟨front, rfl⟩ := read
      have taken := congrArg List.length front
      simp only [List.length_take, List.length_cons, List.length_drop,
        List.length_nil] at taken ⊢
      omega

/-- A call fails only where the pace says that it is interrupted. -/
theorem Reader.interrupted_of_read {capacity : Nat} {reader after : Reader}
    {error : IoError} (read : reader.read capacity = (.error error, after)) :
    error.kind = .interrupted ∧ .interrupted ∈ reader.schedule := by
  obtain ⟨bytes, schedule⟩ := reader
  match schedule with
  | .interrupted :: later =>
      simp only [Reader.read, Prod.mk.injEq, Except.error.injEq] at read
      obtain ⟨rfl, _⟩ := read
      exact ⟨rfl, List.mem_cons_self⟩
  | .upTo limit :: later => simp [Reader.read] at read
  | [] => simp [Reader.read] at read

/-- The calls still to come keep the pace that was left. -/
theorem Reader.mem_schedule_of_read {capacity : Nat} {reader after : Reader}
    {result : Except IoError Bytes} {pace : Pace}
    (read : reader.read capacity = (result, after))
    (member : pace ∈ after.schedule) : pace ∈ reader.schedule := by
  obtain ⟨bytes, schedule⟩ := reader
  match schedule with
  | .interrupted :: later | .upTo limit :: later =>
      simp only [Reader.read, Prod.mk.injEq] at read
      obtain ⟨_, rfl⟩ := read
      exact List.mem_cons_of_mem _ member
  | [] =>
      simp only [Reader.read, Prod.mk.injEq] at read
      obtain ⟨_, rfl⟩ := read
      exact member

namespace Xtask

open Sha256

/-- What `finish` returns for the bytes that were fed. -/
theorem Sha256.Fed.finish {h : Sha256} {message : Bytes} (fed : Fed h message)
    (counted : h.len = UInt64.ofNat message.length)
    (short : message.length < 2 ^ 61) :
    h.finish = SecureHash.sha256 message := by
  have complete := fed.complete counted short
  have cut : SecureHash.messageBlocks message = _ := complete.blocks
  rw [Sha256.finish, ← digest_hashOf, complete.state, hashOf_foldl, hashOf_new,
    SecureHash.sha256, cut]

/-- The loop of `sha256_hex`.  An interrupted call ends it like any other
error: there is no `read_exact` here to make the call again. -/
def hashReader (h : Sha256) (f : Reader) : Except IoError Sha256 :=
  match read : f.read (64 * 1024) with
  | (.ok [], _) => .ok h
  | (.ok (byte :: got), after) =>
      have := Reader.length_read read
      hashReader (h.update (byte :: got)) after
  | (.error error, _) => .error error
termination_by f.schedule.length + f.bytes.length

/-- `sha256_hex`, with what `File::open` makes of the path. -/
def sha256Hex (opened : Except IoError Reader) : Except IoError Text := do
  let f ← opened
  let h ← hashReader new f
  return h.finish.flatMap NvHttp.hexByteLower

/-- The loop stops before the end of the file only at an interrupted call, and
otherwise the hasher stands where the whole of it leads. -/
theorem hashReader_cases (h : Sha256) (f : Reader) {stream : Bytes}
    (fed : Fed h stream) (counted : h.len = UInt64.ofNat stream.length) :
    (∃ last, hashReader h f = .ok last ∧ Fed last (stream ++ f.bytes) ∧
        last.len = UInt64.ofNat (stream ++ f.bytes).length) ∨
      ∃ error, hashReader h f = .error error ∧ error.kind = .interrupted ∧
        .interrupted ∈ f.schedule := by
  fun_induction hashReader h f generalizing stream with
  | case1 h f after read =>
      obtain ⟨_, failed, _⟩ | ⟨got, result, _, _, atEnd⟩ :=
        Reader.read_cases (by decide) read
      · cases failed
      · cases result
        rw [← List.append_nil stream, ← atEnd rfl] at fed counted
        exact .inl ⟨h, rfl, fed, counted⟩
  | case2 h f byte got after read _ induction =>
      obtain ⟨_, failed, _⟩ | ⟨piece, result, bytes, _⟩ :=
        Reader.read_cases (by decide) read
      · cases failed
      · cases result
        -- What the piece leads to is where the rest of the file goes on.
        have grown : (h.update (byte :: got)).len =
            UInt64.ofNat (stream ++ byte :: got).length := by
          rw [Sha256.update, absorb_len, counted, List.length_append,
            UInt64.ofNat_add]
        obtain ⟨last, same, fedLast, countedLast⟩ | ⟨error, same, kind, member⟩ :=
          induction (fed.update (byte :: got)) grown
        · rw [List.append_assoc, ← bytes] at fedLast countedLast
          exact .inl ⟨last, same, fedLast, countedLast⟩
        · exact .inr ⟨error, same, kind,
            Reader.mem_schedule_of_read read member⟩
  | case3 h f error after read =>
      obtain ⟨kind, member⟩ := Reader.interrupted_of_read read
      exact .inr ⟨error, rfl, kind, member⟩

/-- A file of less than 2^61 bytes, however the calls hand it out: the digest
printed is the standard's of all of it, in lowercase digits, and none is printed
only if a call was interrupted.  An interruption is the only error this reader
knows; the disk never fails. -/
theorem sha256Hex_file (bytes : Bytes) (schedule : List Pace)
    (short : bytes.length < 2 ^ 61) :
    sha256Hex (.ok ⟨bytes, schedule⟩) =
        .ok ((SecureHash.sha256 bytes).flatMap NvHttp.hexByteLower) ∨
      ∃ error, sha256Hex (.ok ⟨bytes, schedule⟩) = .error error ∧
        error.kind = .interrupted ∧ .interrupted ∈ schedule := by
  obtain ⟨last, same, fed, counted⟩ | ⟨error, same, kind, member⟩ :=
    hashReader_cases new ⟨bytes, schedule⟩ fed_new rfl
  · left
    rw [List.nil_append] at fed counted
    have digest := fed.finish counted short
    simp only [sha256Hex, same, bind, Except.bind, digest, pure, Except.pure]
  · right
    refine ⟨error, ?_, kind, member⟩
    simp only [sha256Hex, same, bind, Except.bind]

/-- "abc", the first byte of it alone. -/
theorem sha256Hex_file_abc :
    sha256Hex (.ok ⟨[0x61, 0x62, 0x63], [.upTo 1]⟩) =
        .ok ((SecureHash.sha256 [0x61, 0x62, 0x63]).flatMap
          NvHttp.hexByteLower) ∨
      ∃ error, sha256Hex (.ok ⟨[0x61, 0x62, 0x63], [.upTo 1]⟩) =
          .error error ∧
        error.kind = .interrupted ∧ .interrupted ∈ [Pace.upTo 1] :=
  sha256Hex_file [0x61, 0x62, 0x63] [.upTo 1] (by decide)

end Xtask

end MoonlightAddon
