import MoonlightAddon.Xtask.Sha256

/-!
# The compression function

`compress` of `xtask` on 32-bit machine words computes the compression
function of the standard.
-/

namespace MoonlightAddon

namespace Xtask

namespace Sha256

open SecureHash

section Words

theorem toBitVec_rotateRight (value : UInt32) {count : Nat}
    (small : count < 32) :
    (rotateRight value count).toBitVec = rotr value.toBitVec count := by
  rw [rotateRight, UInt32.toBitVec_ofBitVec,
    BitVec.rotateRight_eq_rotateRightAux_of_lt small]
  rfl

/-- Taking one more byte into a word. -/
theorem toNat_shift_or (word : Word) (byte : UInt8) :
    (word <<< 8 ||| byte.toBitVec.setWidth 32).toNat =
      256 * word.toNat % 2 ^ 32 + byte.toNat := by
  have small : byte.toNat < 2 ^ 8 := byte.toNat_lt
  have shifted : word.toNat <<< 8 % 2 ^ 32 = (word.toNat % 2 ^ 24) <<< 8 := by
    rw [Nat.shiftLeft_eq, Nat.shiftLeft_eq]
    omega
  have width : byte.toNat % 2 ^ 32 = byte.toNat :=
    Nat.mod_eq_of_lt (Nat.lt_trans small (by decide))
  rw [BitVec.toNat_or, BitVec.toNat_shiftLeft, BitVec.toNat_setWidth,
    UInt8.toNat_toBitVec, width, shifted, ← Nat.shiftLeft_add_eq_or_of_lt small,
    Nat.shiftLeft_eq]
  omega

theorem toBitVec_toU32 (first second third fourth : UInt8) :
    (BigEndian.toU32 [first, second, third, fourth]).toBitVec =
      wordOf [first, second, third, fourth] := by
  apply BitVec.eq_of_toNat_eq
  have bounds := And.intro first.toNat_lt
    (And.intro second.toNat_lt (And.intro third.toNat_lt fourth.toNat_lt))
  simp only [wordOf, List.foldl_cons, List.foldl_nil, toNat_shift_or]
  simp only [BigEndian.toU32, LittleEndian.toU32, List.reverse_cons,
    List.reverse_nil, List.nil_append, List.cons_append,
    UInt32.toNat_toBitVec, UInt32.toNat_ofNat']
  omega

theorem toBitVec_lowerSigma0 (value : UInt32) :
    (rotateRight value 7 ^^^ rotateRight value 18 ^^^ (value >>> 3)).toBitVec =
      lowerSigma0 value.toBitVec := by
  rw [lowerSigma0, ← toBitVec_rotateRight value (by decide),
    ← toBitVec_rotateRight value (by decide)]
  rfl

theorem toBitVec_lowerSigma1 (value : UInt32) :
    (rotateRight value 17 ^^^ rotateRight value 19 ^^^
      (value >>> 10)).toBitVec = lowerSigma1 value.toBitVec := by
  rw [lowerSigma1, ← toBitVec_rotateRight value (by decide),
    ← toBitVec_rotateRight value (by decide)]
  rfl

theorem toBitVec_upperSigma0 (value : UInt32) :
    (rotateRight value 2 ^^^ rotateRight value 13 ^^^
      rotateRight value 22).toBitVec = upperSigma0 value.toBitVec := by
  rw [upperSigma0, ← toBitVec_rotateRight value (by decide),
    ← toBitVec_rotateRight value (by decide),
    ← toBitVec_rotateRight value (by decide)]
  rfl

theorem toBitVec_upperSigma1 (value : UInt32) :
    (rotateRight value 6 ^^^ rotateRight value 11 ^^^
      rotateRight value 25).toBitVec = upperSigma1 value.toBitVec := by
  rw [upperSigma1, ← toBitVec_rotateRight value (by decide),
    ← toBitVec_rotateRight value (by decide),
    ← toBitVec_rotateRight value (by decide)]
  rfl

theorem bytesOf_toBitVec (word : UInt32) :
    bytesOf word.toBitVec = BigEndian.u32 word := by
  have byteAt (shift : Nat) : UInt8.ofBitVec ((word.toBitVec >>> shift).setWidth 8)
      = UInt8.ofNat (word.toNat / 2 ^ shift) := by
    apply UInt8.toNat_inj.mp
    simp [Nat.shiftRight_eq_div_pow]
  simp [bytesOf, byteAt, BigEndian.u32, LittleEndian.u32]

end Words

section Schedule

/-- The array under construction agrees with the schedule below an index. -/
def FilledTo (block : Block) (index : Nat) (w : Vector UInt32 64) : Prop :=
  ∀ earlier (_ : earlier < 64), earlier < index →
    w[earlier].toBitVec = SecureHash.schedule block.toList earlier

theorem FilledTo.set {block : Block} {index : Nat} {w : Vector UInt32 64}
    (filled : FilledTo block index w) (below : index < 64) {word : UInt32}
    (agrees : word.toBitVec = SecureHash.schedule block.toList index) :
    FilledTo block (index + 1) (w.set index word) := by
  intro earlier inside before
  by_cases same : index = earlier
  · subst same
    rw [Vector.getElem_set_self]
    exact agrees
  · rw [Vector.getElem_set_ne _ _ same]
    exact filled earlier inside (by omega)

theorem messageWord_toList (block : Block) {index : Nat} (below : index < 16) :
    messageWord block.toList index = wordOf [block[index * 4],
      block[index * 4 + 1], block[index * 4 + 2], block[index * 4 + 3]] := by
  have size : block.toList.length = 64 := by simp
  rw [messageWord, Nat.mul_comm]
  rw [List.drop_eq_getElem_cons (by omega), List.drop_eq_getElem_cons (by omega),
    List.drop_eq_getElem_cons (by omega), List.drop_eq_getElem_cons (by omega)]
  simp [Vector.getElem_toList]

theorem schedule_agrees (block : Block) : FilledTo block 64 (schedule block) := by
  unfold schedule
  apply forRange_invariant (FilledTo block) (by decide)
  · apply forRange_invariant (FilledTo block) (by decide)
    · intro earlier _ impossible
      omega
    · intro index _ below w filled
      apply filled.set (by omega)
      rw [toBitVec_toU32, SecureHash.schedule, if_pos below,
        messageWord_toList block below]
  · intro index from16 below w filled
    have late : ¬ index < 16 := by omega
    apply filled.set below
    rw [SecureHash.schedule, if_neg late,
      ← filled (index - 2) (by omega) (by omega),
      ← filled (index - 7) (by omega) (by omega),
      ← filled (index - 15) (by omega) (by omega),
      ← filled (index - 16) (by omega) (by omega)]
    rw [UInt32.toBitVec_add, UInt32.toBitVec_add, UInt32.toBitVec_add,
      toBitVec_lowerSigma0, toBitVec_lowerSigma1]
    ac_rfl

end Schedule

section Rounds

theorem k_agrees : ∀ index (_ : index < 64),
    k[index].toBitVec = roundConstant index := by
  decide +kernel

theorem round_agrees (constant word : UInt32) (now : Registers UInt32) :
    (round constant word now).map UInt32.toBitVec =
      SecureHash.round constant.toBitVec word.toBitVec
        (now.map UInt32.toBitVec) := by
  obtain ⟨a, b, c, d, e, f, g, h⟩ := now
  simp only [round, SecureHash.round, Registers.map, UInt32.toBitVec_add,
    toBitVec_upperSigma0, toBitVec_upperSigma1, ch, maj]
  rfl

theorem rounds_agrees {block : Block} {hash : Registers Word}
    {start : Registers UInt32} (same : start.map UInt32.toBitVec = hash) :
    (rounds (schedule block) start).map UInt32.toBitVec =
      SecureHash.rounds block.toList hash 64 := by
  unfold rounds
  apply forRange_invariant
    (fun index (now : Registers UInt32) => now.map UInt32.toBitVec =
      SecureHash.rounds block.toList hash index) (by decide)
  · exact same
  · intro index _ below now agrees
    rw [round_agrees, k_agrees index below, agrees,
      schedule_agrees block index below below]
    rfl

theorem hashOf_new : hashOf new.state = initialHash := by
  decide +kernel

/-- Adding the last working variables to the state. -/
theorem hashOf_zipWith (state : Vector UInt32 8) (last : Registers UInt32) :
    hashOf (state.zipWith (· + ·) #v[last.a, last.b, last.c, last.d, last.e,
      last.f, last.g, last.h]) =
        (last.map UInt32.toBitVec).zipWith (· + ·) (hashOf state) := by
  simp [hashOf, Registers.map, Registers.zipWith, BitVec.add_comm]

/-- One call of `compress` is one step of the standard. -/
theorem hashOf_compressState (state : Vector UInt32 8) (block : Block) :
    hashOf (compressState state block) =
      SecureHash.compress (hashOf state) block.toList := by
  rw [compressState, hashOf_zipWith, rounds_agrees rfl]
  rfl

theorem digest_hashOf (state : Vector UInt32 8) :
    digest (hashOf state) = state.toList.flatMap BigEndian.u32 := by
  obtain ⟨⟨words⟩, size⟩ := state
  match words, size with
  | [_, _, _, _, _, _, _, _], _ =>
      simp only [digest, hashOf, Registers.map, Registers.toList,
        List.flatMap_cons, List.flatMap_nil, bytesOf_toBitVec]
      rfl

end Rounds

end Sha256

end Xtask

end MoonlightAddon
