import MoonlightAddon.SecureHash

/-!
# The digest of the packaging tool

`Sha256` of `xtask`: a hasher that is fed any number of slices and finished
once.
-/

namespace MoonlightAddon

namespace BigEndian

/-- `u32::from_be_bytes`. -/
def toU32 (bytes : Bytes) : UInt32 := LittleEndian.toU32 bytes.reverse

/-- `u32::to_be_bytes`. -/
def u32 (value : UInt32) : Bytes := (LittleEndian.u32 value).reverse

/-- `u64::to_be_bytes`. -/
def u64 (value : UInt64) : Bytes :=
  u32 (value >>> 32).toUInt32 ++ u32 value.toUInt32

end BigEndian

namespace Xtask

open SecureHash (Registers)

/-- `u32::rotate_right`. -/
def rotateRight (value : UInt32) (count : Nat) : UInt32 :=
  UInt32.ofBitVec (value.toBitVec.rotateRight count)

abbrev Block := Vector UInt8 64

def k : Vector UInt32 64 := #v[
  0x428a2f98, 0x71374491, 0xb5c0fbcf, 0xe9b5dba5, 0x3956c25b, 0x59f111f1,
  0x923f82a4, 0xab1c5ed5, 0xd807aa98, 0x12835b01, 0x243185be, 0x550c7dc3,
  0x72be5d74, 0x80deb1fe, 0x9bdc06a7, 0xc19bf174, 0xe49b69c1, 0xefbe4786,
  0x0fc19dc6, 0x240ca1cc, 0x2de92c6f, 0x4a7484aa, 0x5cb0a9dc, 0x76f988da,
  0x983e5152, 0xa831c66d, 0xb00327c8, 0xbf597fc7, 0xc6e00bf3, 0xd5a79147,
  0x06ca6351, 0x14292967, 0x27b70a85, 0x2e1b2138, 0x4d2c6dfc, 0x53380d13,
  0x650a7354, 0x766a0abb, 0x81c2c92e, 0x92722c85, 0xa2bfe8a1, 0xa81a664b,
  0xc24b8b70, 0xc76c51a3, 0xd192e819, 0xd6990624, 0xf40e3585, 0x106aa070,
  0x19a4c116, 0x1e376c08, 0x2748774c, 0x34b0bcb5, 0x391c0cb3, 0x4ed8aa4a,
  0x5b9cca4f, 0x682e6ff3, 0x748f82ee, 0x78a5636f, 0x84c87814, 0x8cc70208,
  0x90befffa, 0xa4506ceb, 0xbef9a3f7, 0xc67178f2]

/-- The hasher.  Between two statements of a loop `buffered` is below 64. -/
structure Sha256 where
  state : Vector UInt32 8
  buf : Block
  buffered : Nat
  len : UInt64
  room : buffered < 64
  /-- Ghost: the blocks handed to `compress` so far.  Nothing reads it. -/
  compressed : List Block

namespace Sha256

def new : Sha256 where
  state := #v[0x6a09e667, 0xbb67ae85, 0x3c6ef372, 0xa54ff53a, 0x510e527f,
    0x9b05688c, 0x1f83d9ab, 0x5be0cd19]
  buf := Vector.replicate 64 0
  buffered := 0
  len := 0
  room := by decide
  compressed := []

/-- The two loops that fill `w`. -/
def schedule (block : Block) : Vector UInt32 64 :=
  let w : Vector UInt32 64 := Vector.replicate 64 0
  let w := forRange 0 16 (fun i _ _ w =>
    w.set i (BigEndian.toU32 [block[i * 4], block[i * 4 + 1],
      block[i * 4 + 2], block[i * 4 + 3]])) w
  forRange 16 64 (fun i _ _ w =>
    let s0 := rotateRight w[i - 15] 7 ^^^ rotateRight w[i - 15] 18 ^^^
      (w[i - 15] >>> 3)
    let s1 := rotateRight w[i - 2] 17 ^^^ rotateRight w[i - 2] 19 ^^^
      (w[i - 2] >>> 10)
    w.set i (w[i - 16] + s0 + w[i - 7] + s1)) w

/-- The body of the loop over the rounds. -/
def round (k w : UInt32) (now : Registers UInt32) : Registers UInt32 :=
  let ⟨a, b, c, d, e, f, g, h⟩ := now
  let s1 := rotateRight e 6 ^^^ rotateRight e 11 ^^^ rotateRight e 25
  let ch := (e &&& f) ^^^ (~~~ e &&& g)
  let t1 := h + s1 + ch + k + w
  let s0 := rotateRight a 2 ^^^ rotateRight a 13 ^^^ rotateRight a 22
  let maj := (a &&& b) ^^^ (a &&& c) ^^^ (b &&& c)
  let t2 := s0 + maj
  ⟨t1 + t2, a, b, c, d + t1, e, f, g⟩

def rounds (w : Vector UInt32 64) (start : Registers UInt32) :
    Registers UInt32 :=
  forRange 0 64 (fun i _ _ now => round k[i] w[i] now) start

/-- What `compress` makes of the state. -/
def compressState (state : Vector UInt32 8) (block : Block) :
    Vector UInt32 8 :=
  let last := rounds (schedule block) ⟨state[0], state[1], state[2], state[3],
    state[4], state[5], state[6], state[7]⟩
  state.zipWith (· + ·) #v[last.a, last.b, last.c, last.d, last.e, last.f,
    last.g, last.h]

-- The one block of the padded message "abc".
example : (compressState new.state ((#v[0x61, 0x62, 0x63, 0x80] : Vector UInt8 4)
    ++ (Vector.replicate 59 0 : Vector UInt8 59) ++
      (#v[24] : Vector UInt8 1))).toList =
    [0xba7816bf, 0x8f01cfea, 0x414140de, 0x5dae2223, 0xb00361a3, 0x96177a9c,
      0xb410ff61, 0xf20015ad] := by
  decide +kernel

/-- The words of a state. -/
def hashOf (state : Vector UInt32 8) : Registers SecureHash.Word :=
  (Registers.mk state[0] state[1] state[2] state[3] state[4] state[5] state[6]
    state[7]).map UInt32.toBitVec

def compress (hasher : Sha256) (block : Block) : Sha256 :=
  { hasher with
    state := compressState hasher.state block
    compressed := hasher.compressed ++ [block] }

/-- `buf[start..start + part.len()].copy_from_slice(part)`. -/
def copyFromSlice (buf : Block) (start : Nat) (part : Bytes)
    (fits : start + part.length ≤ 64) : Block :=
  ⟨(buf.toList.take start ++ part ++
    buf.toList.drop (start + part.length)).toArray, by simp; omega⟩

/-- The `while` loop of `update`. -/
def absorb (hasher : Sha256) (data : Bytes) : Sha256 :=
  if empty : data = [] then
    hasher
  else
    have room := hasher.room
    have left := List.length_pos_iff.mpr empty
    let n := min (64 - hasher.buffered) data.length
    let buf := copyFromSlice hasher.buf hasher.buffered (data.take n)
      (by rw [List.length_take]; omega)
    if full : hasher.buffered + n = 64 then
      absorb (compress { hasher with buf, buffered := 0, room := by decide }
        buf) (data.drop n)
    else
      absorb { hasher with
        buf, buffered := hasher.buffered + n, room := by omega } (data.drop n)
termination_by data.length
decreasing_by all_goals (rw [List.length_drop]; omega)

def update (hasher : Sha256) (data : Bytes) : Sha256 :=
  absorb { hasher with len := hasher.len + UInt64.ofNat data.length } data

theorem absorb_nil (hasher : Sha256) : absorb hasher [] = hasher := by
  rw [absorb]
  rfl

theorem buffered_update_singleton (hasher : Sha256) (byte : UInt8) :
    (hasher.update [byte]).buffered = (hasher.buffered + 1) % 64 := by
  have room := hasher.room
  have one : min (64 - hasher.buffered) 1 = 1 := by omega
  rw [update, absorb]
  simp only [List.cons_ne_nil, ↓reduceDIte, List.length_singleton, one,
    List.drop_one, List.tail_cons, absorb_nil]
  split
  · simp only [compress]
    omega
  · simp only
    omega

/-- `while self.buffered != 56 { self.update(&[0]); }`. -/
def fill (hasher : Sha256) : Sha256 :=
  if hasher.buffered = 56 then hasher else fill (hasher.update [0])
termination_by (120 - hasher.buffered) % 64
decreasing_by
  have room := hasher.room
  rw [buffered_update_singleton]
  omega

/-- What `finish` feeds to the hasher before it reads the state. -/
def complete (hasher : Sha256) : Sha256 :=
  let bits := hasher.len * 8
  ((hasher.update [0x80]).fill).update (BigEndian.u64 bits)

def finish (hasher : Sha256) : Bytes :=
  hasher.complete.state.toList.flatMap BigEndian.u32

end Sha256

end Xtask

end MoonlightAddon
