import MoonlightAddon.Xtask.Compression

/-!
# Hashing a message in pieces

However a message is cut into slices, the hasher compresses the blocks of the
padded message one after the other, and its digest is the standard's.
-/

namespace MoonlightAddon

namespace Xtask

namespace Sha256

open SecureHash

/-- The bytes the hasher has taken in: the blocks it compressed, and the ones
that wait in the buffer. -/
def taken (hasher : Sha256) : Bytes :=
  (hasher.compressed.map Vector.toList).flatten ++
    hasher.buf.toList.take hasher.buffered

/-- The hasher stands where the bytes of `stream` lead. -/
structure Fed (hasher : Sha256) (stream : Bytes) : Prop where
  taken : hasher.taken = stream
  state : hasher.state = hasher.compressed.foldl compressState new.state

section Blocks

variable {hasher : Sha256} {stream : Bytes}

theorem fed_new : Fed new [] := by
  constructor <;> rfl

theorem length_compressed {hasher : Sha256} :
    ∀ block ∈ hasher.compressed.map Vector.toList, block.length = 64 := by
  intro block member
  obtain ⟨_, _, rfl⟩ := List.mem_map.mp member
  exact Vector.length_toList

theorem length_buffer {hasher : Sha256} :
    (hasher.buf.toList.take hasher.buffered).length = hasher.buffered := by
  have room := hasher.room
  rw [List.length_take, Vector.length_toList]
  omega

theorem Fed.blocks (fed : Fed hasher stream) :
    blocks 64 stream = hasher.compressed.map Vector.toList := by
  rw [← fed.taken, Sha256.taken]
  apply blocks_flatten (by decide) length_compressed
  rw [length_buffer]
  exact hasher.room

theorem Fed.buffered (fed : Fed hasher stream) :
    hasher.buffered = stream.length % 64 := by
  have room := hasher.room
  rw [← fed.taken, Sha256.taken, List.length_append, length_buffer,
    length_flatten length_compressed]
  omega

end Blocks

section Feeding

variable {hasher : Sha256} {stream : Bytes}

theorem take_copyFromSlice {buf : Block} {start : Nat} {part : Bytes}
    (fits : start + part.length ≤ 64) :
    (copyFromSlice buf start part fits).toList.take (start + part.length) =
      buf.toList.take start ++ part := by
  have size : (buf.toList.take start ++ part).length = start + part.length := by
    rw [List.length_append, List.length_take, Vector.length_toList]
    omega
  exact List.take_left' size

/-- Copying bytes into the buffer takes them in. -/
theorem Fed.copy (fed : Fed hasher stream) {part : Bytes} {count : Nat}
    (size : part.length = count) (fits : hasher.buffered + part.length ≤ 64)
    (room : hasher.buffered + count < 64) :
    Fed { hasher with
      buf := copyFromSlice hasher.buf hasher.buffered part fits
      buffered := hasher.buffered + count
      room } (stream ++ part) := by
  subst size
  constructor
  · rw [← fed.taken]
    simp only [Sha256.taken, take_copyFromSlice, List.append_assoc]
  · exact fed.state

/-- A buffer that the bytes fill is compressed. -/
theorem Fed.compress (fed : Fed hasher stream) {part : Bytes} {count : Nat}
    (size : part.length = count) (fits : hasher.buffered + part.length ≤ 64)
    (full : hasher.buffered + count = 64) (room : 0 < 64) :
    let buf := copyFromSlice hasher.buf hasher.buffered part fits
    Fed (Sha256.compress { hasher with buf, buffered := 0, room } buf)
      (stream ++ part) := by
  subst size
  intro buf
  have whole : buf.toList = hasher.buf.toList.take hasher.buffered ++ part := by
    have filled := @take_copyFromSlice hasher.buf _ _ fits
    rwa [full, List.take_of_length_le (by simp)] at filled
  constructor
  · rw [← fed.taken]
    simp only [Sha256.taken, Sha256.compress, List.map_append, List.map_cons,
      List.map_nil, List.flatten_append, List.flatten_singleton, whole,
      List.take_zero, List.append_nil, List.append_assoc]
  · simp only [Sha256.compress, List.foldl_append, List.foldl_cons,
      List.foldl_nil, ← fed.state]

theorem Fed.absorb (fed : Fed hasher stream) (data : Bytes) :
    Fed (hasher.absorb data) (stream ++ data) := by
  fun_induction Sha256.absorb hasher data generalizing stream with
  | case1 hasher => simpa using fed
  | case2 hasher data nonempty room left n buf full =>
      rename_i induction
      have size : (data.take n).length = n :=
        List.length_take_of_le (Nat.min_le_right ..)
      have later := induction (fed.compress size _ full _)
      rwa [List.append_assoc, List.take_append_drop] at later
  | case3 hasher data nonempty room left n buf partly =>
      rename_i induction
      have size : (data.take n).length = n :=
        List.length_take_of_le (Nat.min_le_right ..)
      have later := induction (fed.copy size _ _)
      rwa [List.append_assoc, List.take_append_drop] at later

theorem Fed.update (fed : Fed hasher stream) (data : Bytes) :
    Fed (hasher.update data) (stream ++ data) := by
  apply Fed.absorb
  exact ⟨fed.taken, fed.state⟩

/-- The padding loop adds zeros until eight bytes are left in the block. -/
theorem Fed.fill (fed : Fed hasher stream) :
    Fed hasher.fill
        (stream ++ List.replicate ((120 - hasher.buffered) % 64) 0) ∧
      hasher.fill.buffered = 56 := by
  fun_induction Sha256.fill hasher generalizing stream with
  | case1 hasher done =>
      refine ⟨?_, done⟩
      rw [done]
      simpa using fed
  | case2 hasher going induction =>
      have room := hasher.room
      have later := induction (fed.update [0])
      have one : (120 - hasher.buffered) % 64 =
          (120 - (hasher.buffered + 1) % 64) % 64 + 1 := by
        omega
      rw [buffered_update_singleton, List.append_assoc] at later
      rw [one, List.replicate_succ]
      exact later

theorem absorb_len (hasher : Sha256) (data : Bytes) :
    (hasher.absorb data).len = hasher.len := by
  fun_induction Sha256.absorb hasher data with
  | case1 hasher => rfl
  | case2 => assumption
  | case3 => assumption

/-- After any number of slices the hasher stands where their bytes lead, and
has counted them. -/
theorem fed_foldl (chunks : List Bytes) {hasher : Sha256} {stream : Bytes}
    (fed : Fed hasher stream)
    (counted : hasher.len = UInt64.ofNat stream.length) :
    Fed (chunks.foldl update hasher) (stream ++ chunks.flatten) ∧
      (chunks.foldl update hasher).len =
        UInt64.ofNat (stream ++ chunks.flatten).length := by
  induction chunks generalizing hasher stream with
  | nil => simpa using ⟨fed, counted⟩
  | cons chunk chunks induction =>
      rw [List.flatten_cons, ← List.append_assoc]
      apply induction (fed.update chunk)
      rw [Sha256.update, absorb_len, List.length_append, UInt64.ofNat_add,
        counted]

end Feeding

section Finishing

variable {hasher : Sha256} {message : Bytes}

theorem u64_eq (value : UInt64) : BigEndian.u64 value = be64 value.toNat := by
  have bound := value.toNat_lt
  have upper : (value >>> 32).toUInt32.toNat = value.toNat / 2 ^ 32 := by
    simp [UInt64.toNat_shiftRight, Nat.shiftRight_eq_div_pow]
    omega
  have lower : value.toUInt32.toNat = value.toNat % 2 ^ 32 := by simp
  simp only [BigEndian.u64, BigEndian.u32, LittleEndian.u32, upper, lower,
    be64, List.range_succ, List.range_zero, List.reverse_cons,
    List.reverse_nil, List.nil_append, List.cons_append, List.map_cons,
    List.map_nil, List.cons.injEq, and_true, ← UInt8.toNat_inj,
    UInt8.toNat_ofNat']
  omega

/-- What `finish` feeds completes the padded message. -/
theorem Fed.complete (fed : Fed hasher message)
    (counted : hasher.len = UInt64.ofNat message.length)
    (short : message.length < 2 ^ 61) : Fed hasher.complete (pad message) := by
  have bits : BigEndian.u64 (hasher.len * 8) = be64 (8 * message.length) := by
    have eight : (8 : UInt64).toNat = 8 := rfl
    rw [u64_eq, counted, UInt64.toNat_mul, UInt64.toNat_ofNat', eight]
    congr 1
    omega
  have started := fed.update [0x80]
  obtain ⟨filled, _⟩ := started.fill
  have count : (120 - (hasher.update [0x80]).buffered) % 64 =
      zeros message.length := by
    symm
    apply zeros_eq
    · rw [started.buffered, List.length_append, List.length_singleton]
      omega
    · exact Nat.mod_lt _ (by decide)
  rw [count] at filled
  have last := filled.update (BigEndian.u64 (hasher.len * 8))
  rw [bits] at last
  rw [Sha256.complete, bits]
  exact last

theorem hashOf_foldl (blocks : List Block) (state : Vector UInt32 8) :
    hashOf (blocks.foldl compressState state) =
      (blocks.map Vector.toList).foldl SecureHash.compress (hashOf state) := by
  induction blocks generalizing state with
  | nil => rfl
  | cons block blocks induction =>
      rw [List.foldl_cons, induction, hashOf_compressState, List.map_cons,
        List.foldl_cons]

/-- For every way to cut a message of less than 2^61 bytes into slices: the
hasher compresses the blocks of the padded message, each once and in order, and
`finish` returns its digest; `compress` is the compression function. -/
theorem streaming_digest (chunks : List Bytes)
    (short : chunks.flatten.length < 2 ^ 61) :
    let hasher := chunks.foldl update new
    hasher.complete.compressed.map Vector.toList =
        messageBlocks chunks.flatten ∧
      hasher.finish = sha256 chunks.flatten ∧
      ∀ state block, hashOf (compressState state block) =
        SecureHash.compress (hashOf state) block.toList := by
  obtain ⟨fed, counted⟩ := fed_foldl chunks fed_new rfl
  rw [List.nil_append] at fed counted
  have complete := fed.complete counted short
  have cut : messageBlocks chunks.flatten = _ := complete.blocks
  refine ⟨cut.symm, ?_, hashOf_compressState⟩
  rw [finish, ← digest_hashOf, complete.state, hashOf_foldl, hashOf_new,
    sha256, cut]

/-- "abc" in three slices, one of them empty. -/
theorem streaming_digest_abc :
    let hasher := [[0x61], [], [0x62, 0x63]].foldl update new
    hasher.complete.compressed.map Vector.toList =
        messageBlocks [0x61, 0x62, 0x63] ∧
      hasher.finish = sha256 [0x61, 0x62, 0x63] ∧
      ∀ state block, hashOf (compressState state block) =
        SecureHash.compress (hashOf state) block.toList :=
  streaming_digest [[0x61], [], [0x62, 0x63]] (by decide)

end Finishing

end Sha256

end Xtask

end MoonlightAddon
