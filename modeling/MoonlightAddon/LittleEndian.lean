import Mathlib.Data.List.Basic

/-!
# Fixed-width integers as bytes

`to_le_bytes`, `from_le_bytes` and `to_be_bytes` on lists of bytes.
-/

namespace MoonlightAddon

abbrev Bytes := List UInt8

namespace LittleEndian

def u16 (value : UInt16) : Bytes :=
  [UInt8.ofNat value.toNat, UInt8.ofNat (value.toNat / 256)]

def u32 (value : UInt32) : Bytes :=
  [UInt8.ofNat value.toNat, UInt8.ofNat (value.toNat / 256),
    UInt8.ofNat (value.toNat / 65536), UInt8.ofNat (value.toNat / 16777216)]

/-- `u32::from_le_bytes` on the first four bytes. -/
def toU32 : Bytes → UInt32
  | [first, second, third, fourth] =>
      UInt32.ofNat (first.toNat + 256 * second.toNat + 65536 * third.toNat +
        16777216 * fourth.toNat)
  | _ => 0

@[simp] theorem length_u16 (value : UInt16) : (u16 value).length = 2 := rfl

@[simp] theorem length_u32 (value : UInt32) : (u32 value).length = 4 := rfl

@[simp] theorem toU32_u32 (value : UInt32) : toU32 (u32 value) = value := by
  apply UInt32.toNat_inj.mp
  have bound := value.toNat_lt
  simp only [toU32, u32, UInt8.toNat_ofNat', UInt32.toNat_ofNat']
  omega

theorem u32_toU32 {bytes : Bytes} (four : bytes.length = 4) :
    u32 (toU32 bytes) = bytes := by
  match bytes, four with
  | [first, second, third, fourth], _ =>
      have bounds := And.intro first.toNat_lt
        (And.intro second.toNat_lt (And.intro third.toNat_lt fourth.toNat_lt))
      simp only [toU32, u32, UInt32.toNat_ofNat', List.cons.injEq, and_true,
        ← UInt8.toNat_inj, UInt8.toNat_ofNat']
      omega

end LittleEndian

namespace BigEndian

def i32 (value : Int32) : Bytes :=
  (LittleEndian.u32 value.toUInt32).reverse

/-- `i32::from_be_bytes`. -/
def toI32 (bytes : Bytes) : Int32 :=
  (LittleEndian.toU32 bytes.reverse).toInt32

@[simp] theorem length_i32 (value : Int32) : (i32 value).length = 4 := rfl

end BigEndian

end MoonlightAddon
