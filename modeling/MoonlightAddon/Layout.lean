import MoonlightAddon.LittleEndian

/-!
# Fixed layouts

A layout puts a value at the front of a string of bytes, always in the same
number of bytes, and takes it off again.  Layouts are put one after the other
with `pair`.
-/

namespace MoonlightAddon

structure Layout (α : Type) where
  width : Nat
  encode : α → Bytes
  /-- The value at the front, and the bytes after it. -/
  decode : Bytes → Option (α × Bytes)
  length_encode : ∀ value, (encode value).length = width
  decode_encode : ∀ value rest,
    decode (encode value ++ rest) = some (value, rest)

namespace Layout

variable {α β : Type}

def u8 : Layout UInt8 where
  width := 1
  encode value := [value]
  decode
    | value :: rest => some (value, rest)
    | [] => none
  length_encode _ := rfl
  decode_encode _ _ := rfl

def u16 : Layout UInt16 where
  width := 2
  encode := LittleEndian.u16
  decode
    | low :: high :: rest =>
        some (UInt16.ofNat (low.toNat + 256 * high.toNat), rest)
    | _ => none
  length_encode _ := rfl
  decode_encode value rest := by
    have bound := value.toNat_lt
    simp only [LittleEndian.u16, List.cons_append, List.nil_append,
      Option.some.injEq, Prod.mk.injEq, and_true, ← UInt16.toNat_inj,
      UInt8.toNat_ofNat', UInt16.toNat_ofNat']
    omega

def u32 : Layout UInt32 where
  width := 4
  encode := LittleEndian.u32
  decode
    | first :: second :: third :: fourth :: rest =>
        some (LittleEndian.toU32 [first, second, third, fourth], rest)
    | _ => none
  length_encode _ := rfl
  decode_encode value rest := by
    have read := LittleEndian.toU32_u32 value
    simp only [LittleEndian.u32] at read
    simp only [LittleEndian.u32, List.cons_append, List.nil_append, read]

def pair (first : Layout α) (second : Layout β) : Layout (α × β) where
  width := first.width + second.width
  encode value := first.encode value.1 ++ second.encode value.2
  decode bytes :=
    (first.decode bytes).bind fun (value, later) =>
      (second.decode later).map fun (other, rest) => ((value, other), rest)
  length_encode value := by
    rw [List.length_append, first.length_encode, second.length_encode]
  decode_encode value rest := by
    simp only [List.append_assoc, first.decode_encode, Option.bind_some,
      second.decode_encode, Option.map_some]

variable (layout : Layout α)

theorem drop_encode (value : α) (rest : Bytes) :
    (layout.encode value ++ rest).drop layout.width = rest := by
  rw [← layout.length_encode value]
  exact List.drop_left

end Layout

end MoonlightAddon
