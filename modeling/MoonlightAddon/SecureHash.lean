import MoonlightAddon.Blocks
import MoonlightAddon.LittleEndian
import Mathlib.Data.Nat.Find
import Mathlib.Data.Nat.NthRoot.Defs
import Mathlib.Data.Nat.Prime.Basic

/-!
# The secure hash standard

SHA-256 as FIPS 180-4 defines it, for messages of whole bytes: functions and
constants (4.1.2, 4.2.2), padding (5.1.1), the initial hash value (5.3.3) and
the computation (6.2.2).
-/

namespace MoonlightAddon

namespace SecureHash

abbrev Word := BitVec 32

section Functions

variable (x y z : Word)

def rotr (count : Nat) : Word := (x >>> count) ||| (x <<< (32 - count))

def shr (count : Nat) : Word := x >>> count

def ch : Word := (x &&& y) ^^^ (~~~ x &&& z)

def maj : Word := (x &&& y) ^^^ (x &&& z) ^^^ (y &&& z)

/-- Σ₀ and Σ₁. -/
def upperSigma0 : Word := rotr x 2 ^^^ rotr x 13 ^^^ rotr x 22

def upperSigma1 : Word := rotr x 6 ^^^ rotr x 11 ^^^ rotr x 25

/-- σ₀ and σ₁. -/
def lowerSigma0 : Word := rotr x 7 ^^^ rotr x 18 ^^^ shr x 3

def lowerSigma1 : Word := rotr x 17 ^^^ rotr x 19 ^^^ shr x 10

end Functions

/-- The first sixty-four primes. -/
def primes : List Nat := (List.range 312).filter fun number => number.Prime

/-- The first 32 bits of the fractional part of a root. -/
def rootFraction (degree number : Nat) : Word :=
  BitVec.ofNat 32 (Nat.nthRoot degree (number * 2 ^ (32 * degree)))

/-- The constant of round `index`, from the cube root of a prime. -/
def roundConstant (index : Nat) : Word :=
  rootFraction 3 (primes.getD index 0)

/-- The eight working variables, and the words of a hash value. -/
structure Registers (α : Type) where
  a : α
  b : α
  c : α
  d : α
  e : α
  f : α
  g : α
  h : α
deriving DecidableEq

namespace Registers

variable {α β γ : Type}

def map (function : α → β) (registers : Registers α) : Registers β where
  a := function registers.a
  b := function registers.b
  c := function registers.c
  d := function registers.d
  e := function registers.e
  f := function registers.f
  g := function registers.g
  h := function registers.h

def zipWith (function : α → β → γ) (first : Registers α)
    (second : Registers β) : Registers γ where
  a := function first.a second.a
  b := function first.b second.b
  c := function first.c second.c
  d := function first.d second.d
  e := function first.e second.e
  f := function first.f second.f
  g := function first.g second.g
  h := function first.h second.h

def toList (registers : Registers α) : List α :=
  [registers.a, registers.b, registers.c, registers.d, registers.e,
    registers.f, registers.g, registers.h]

end Registers

/-- The initial hash value, from the square roots of the first primes. -/
def initialHash : Registers Word :=
  (Registers.mk 2 3 5 7 11 13 17 19).map (rootFraction 2)

/-- The big-endian word of four bytes. -/
def wordOf (bytes : Bytes) : Word :=
  bytes.foldl (fun word byte => word <<< 8 ||| byte.toBitVec.setWidth 32) 0

/-- The word `M` of a block at an index below 16. -/
def messageWord (block : Bytes) (index : Nat) : Word :=
  wordOf ((block.drop (4 * index)).take 4)

/-- The message schedule. -/
def schedule (block : Bytes) (index : Nat) : Word :=
  if index < 16 then
    messageWord block index
  else
    lowerSigma1 (schedule block (index - 2)) + schedule block (index - 7) +
      lowerSigma0 (schedule block (index - 15)) + schedule block (index - 16)

/-- One round of the compression. -/
def round (constant word : Word) (now : Registers Word) : Registers Word :=
  let t1 := now.h + upperSigma1 now.e + ch now.e now.f now.g + constant + word
  let t2 := upperSigma0 now.a + maj now.a now.b now.c
  ⟨t1 + t2, now.a, now.b, now.c, now.d + t1, now.e, now.f, now.g⟩

/-- The working variables after so many rounds. -/
def rounds (block : Bytes) (hash : Registers Word) : Nat → Registers Word
  | 0 => hash
  | index + 1 =>
      round (roundConstant index) (schedule block index)
        (rounds block hash index)

/-- The next intermediate hash value. -/
def compress (hash : Registers Word) (block : Bytes) : Registers Word :=
  (rounds block hash 64).zipWith (· + ·) hash

theorem exists_zeros (length : Nat) :
    ∃ count, 64 ∣ length + 1 + count + 8 := by
  refine ⟨(64 - (length + 9) % 64) % 64, ?_⟩
  omega

/-- The least number of zero bytes that completes the last block. -/
def zeros (length : Nat) : Nat := Nat.find (exists_zeros length)

/-- A number as eight bytes, the most significant first. -/
def be64 (value : Nat) : Bytes :=
  (List.range 8).reverse.map fun index => UInt8.ofNat (value / 256 ^ index)

/-- The padded message: the bit 1, zeros, and the length in bits. -/
def pad (message : Bytes) : Bytes :=
  message ++ [0x80] ++ List.replicate (zeros message.length) 0 ++
    be64 (8 * message.length)

/-- The blocks of the padded message. -/
def messageBlocks (message : Bytes) : List Bytes := blocks 64 (pad message)

/-- The bytes of a word, the most significant first. -/
def bytesOf (word : Word) : Bytes :=
  [24, 16, 8, 0].map fun shift => UInt8.ofBitVec ((word >>> shift).setWidth 8)

def digest (hash : Registers Word) : Bytes :=
  hash.toList.flatMap bytesOf

/-- SHA-256. -/
def sha256 (message : Bytes) : Bytes :=
  digest ((messageBlocks message).foldl compress initialHash)

theorem length_sha256 (message : Bytes) : (sha256 message).length = 32 := rfl

section Padding

/-- What is known of a number of zeros is that it is the least. -/
theorem zeros_eq {length count : Nat}
    (completes : 64 ∣ length + 1 + count + 8) (small : count < 64) :
    zeros length = count := by
  have found := Nat.find_spec (exists_zeros length)
  have least : zeros length ≤ count := Nat.find_min' _ completes
  change 64 ∣ length + 1 + zeros length + 8 at found
  omega

end Padding

end SecureHash

end MoonlightAddon
