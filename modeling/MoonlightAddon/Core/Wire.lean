import MoonlightAddon.Effect
import MoonlightAddon.LittleEndian

/-!
# Hexadecimal and XML helpers

The string helpers of `nvhttp.rs`.  Slicing a `str` panics off a character
boundary, so `fromHex` and `xmlTag` are outcomes; `xmlTag` never uses that
exit, while `fromHex` can.
-/

namespace MoonlightAddon

/-- A string literal as text. -/
abbrev lit (literal : String) : Text := literal.toList

def hexDigitUpper (value : Nat) : Char :=
  (lit "0123456789ABCDEF").getD value '0'

/-- `{byte:02X}`. -/
def hexByteUpper (byte : UInt8) : Text :=
  [hexDigitUpper (byte.toNat / 16), hexDigitUpper (byte.toNat % 16)]

def toHex (bytes : Bytes) : Text :=
  bytes.flatMap hexByteUpper

/-- `char::to_digit(16)`. -/
def hexDigitValue (char : Char) : Option Nat :=
  let code := char.toNat
  if 48 ≤ code ∧ code ≤ 57 then some (code - 48)
  else if 65 ≤ code ∧ code ≤ 70 then some (code - 55)
  else if 97 ≤ code ∧ code ≤ 102 then some (code - 87)
  else none

def invalidDigit : Text := lit "invalid digit found in string"

def positiveOverflow : Text := lit "number too large to fit in target type"

/-- The digit loop of `from_str_radix` for an unsigned type below `bound`. -/
def digitsValue (digit : Char → Option Nat) (radix bound : Nat) :
    Nat → Text → Except Text Nat
  | value, [] => .ok value
  | value, char :: rest =>
      match digit char with
      | none => .error invalidDigit
      | some next =>
          if value * radix + next < bound then
            digitsValue digit radix bound (value * radix + next) rest
          else
            .error positiveOverflow

/-- `from_str_radix` for an unsigned type: a leading `+` is accepted. -/
def fromStrRadix (digit : Char → Option Nat) (radix bound : Nat) (text : Text) :
    Except Text Nat :=
  match text with
  | [] => .error (lit "cannot parse integer from empty string")
  | ['+'] | ['-'] => .error invalidDigit
  | '+' :: rest => digitsValue digit radix bound 0 rest
  | _ => digitsValue digit radix bound 0 text

/-- `u8::from_str_radix(_, 16)`. -/
def u8FromHex (text : Text) : Except Text UInt8 :=
  (fromStrRadix hexDigitValue 16 256 text).map UInt8.ofNat

def decimalDigit (char : Char) : Option Nat :=
  if char.isDigit then some (char.toNat - 48) else none

/-- `str::parse` for an unsigned type with values below `bound`. -/
def parseUnsigned (bound : Nat) (text : Text) : Option Nat :=
  (fromStrRadix decimalDigit 10 bound text).toOption

theorem le_ofDigitChars (text : Text) (value : Nat) :
    value ≤ Nat.ofDigitChars 10 text value := by
  rw [Nat.ofDigitChars_eq_ofDigitChars_zero]
  have scaled : value ≤ 10 ^ text.length * value :=
    Nat.le_mul_of_pos_left value (Nat.pow_pos (by decide))
  omega

/-- The digit loop reads decimal digits, if the number fits. -/
theorem digitsValue_decimal {bound value : Nat} {text : Text}
    (digits : ∀ char ∈ text, char.isDigit = true)
    (small : Nat.ofDigitChars 10 text value < bound) :
    digitsValue decimalDigit 10 bound value text =
      .ok (Nat.ofDigitChars 10 text value) := by
  induction text generalizing value with
  | nil => rfl
  | cons char rest induction =>
      obtain ⟨digit, others⟩ := List.forall_mem_cons.mp digits
      rw [Nat.ofDigitChars_cons, Nat.mul_comm 10 value] at small ⊢
      have fits : value * 10 + (char.toNat - 48) < bound :=
        Nat.lt_of_le_of_lt (le_ofDigitChars rest _) small
      rw [digitsValue, decimalDigit, if_pos digit]
      simp only [fits, ↓reduceIte]
      exact induction others small

theorem parseUnsigned_toDigits {bound value : Nat} (small : value < bound) :
    parseUnsigned bound (Nat.toDigits 10 value) = some value := by
  have digits : ∀ char ∈ Nat.toDigits 10 value, char.isDigit = true :=
    fun _ member => Nat.isDigit_of_mem_toDigits (by decide) (by decide) member
  have read : fromStrRadix decimalDigit 10 bound (Nat.toDigits 10 value) =
      digitsValue decimalDigit 10 bound 0 (Nat.toDigits 10 value) := by
    cases shape : Nat.toDigits 10 value with
    | nil => exact absurd shape Nat.toDigits_ne_nil
    | cons first rest =>
        have digit : first.isDigit = true := by
          apply digits
          rw [shape]
          exact List.mem_cons_self
        unfold fromStrRadix
        split <;> simp_all
  rw [parseUnsigned, read, digitsValue_decimal digits]
  · simp [Except.toOption]
  · simpa using small

/-- Stands for the message of a slice off a character boundary.  The standard
library's own also quotes the character and the text. -/
def sliceError (start stop : Nat) : Text :=
  lit "byte range " ++ Nat.toDigits 10 start ++ lit ".." ++
    Nat.toDigits 10 stop ++ lit " is not on a char boundary"

/-- The pairs of `text` from byte `start` on, stopping at the first bad one. -/
def fromHexPairs (text : Text) : (count start : Nat) → Outcome Bytes
  | 0, _ => .ok []
  | count + 1, start =>
      match Text.slice text start (start + 2) with
      | none => .panicked (sliceError start (start + 2))
      | some pair =>
          match u8FromHex pair with
          | .error error => .err (lit "bad hex: " ++ error)
          | .ok byte => do
              let rest ← fromHexPairs text count (start + 2)
              return byte :: rest

def fromHex (text : Text) : Outcome Bytes :=
  let text := Text.trim text
  if Text.byteLen text % 2 ≠ 0 then
    .err (lit "odd-length hex")
  else
    fromHexPairs text (Text.byteLen text / 2) 0

theorem u8FromHex_hexByteUpper (byte : UInt8) :
    u8FromHex (hexByteUpper byte) = .ok byte := by
  have table : ∀ value < 256, u8FromHex
      (hexByteUpper (UInt8.ofNat value)) = .ok (UInt8.ofNat value) := by
    decide +kernel
  have found := table byte.toNat byte.toNat_lt
  rwa [UInt8.ofNat_toNat] at found

theorem hexDigitUpper_mem (value : Nat) :
    hexDigitUpper value ∈ lit "0123456789ABCDEF" := by
  unfold hexDigitUpper
  rw [List.getD_eq_getElem?_getD]
  cases found : (lit "0123456789ABCDEF")[value]? with
  | none => decide
  | some digit => exact List.mem_of_getElem? found

theorem hexDigitUpper_plain (value : Nat) :
    (hexDigitUpper value).utf8Size = 1 ∧
      Text.isWhitespace (hexDigitUpper value) = false ∧
      hexDigitUpper value ≠ '<' := by
  have table : (lit "0123456789ABCDEF").all (fun char => char.utf8Size = 1 ∧
      Text.isWhitespace char = false ∧ char ≠ '<') = true := by
    decide
  exact of_decide_eq_true
    (List.all_eq_true.mp table _ (hexDigitUpper_mem value))

/-- Every character of hexadecimal text is one of the digits. -/
theorem plain_of_toHex {bytes : Bytes} {char : Char}
    (member : char ∈ toHex bytes) :
    char.utf8Size = 1 ∧ Text.isWhitespace char = false ∧ char ≠ '<' := by
  obtain ⟨byte, _, digit⟩ := List.mem_flatMap.mp member
  simp only [hexByteUpper, List.mem_cons, List.not_mem_nil, or_false] at digit
  obtain rfl | rfl := digit
  · exact hexDigitUpper_plain _
  · exact hexDigitUpper_plain _

@[simp] theorem byteLen_hexByteUpper (byte : UInt8) :
    Text.byteLen (hexByteUpper byte) = 2 := by
  simp [hexByteUpper, (hexDigitUpper_plain _).1]

@[simp] theorem byteLen_toHex (bytes : Bytes) :
    Text.byteLen (toHex bytes) = 2 * bytes.length := by
  induction bytes with
  | nil => rfl
  | cons byte bytes induction =>
      have unfolded : toHex (byte :: bytes) =
          hexByteUpper byte ++ toHex bytes := rfl
      rw [unfolded, Text.byteLen_append, induction]
      simp only [byteLen_hexByteUpper, List.length_cons]
      omega

@[simp] theorem trim_toHex (bytes : Bytes) :
    Text.trim (toHex bytes) = toHex bytes := by
  apply Text.trim_eq_self
  intro char member
  exact (plain_of_toHex member).2.1

theorem fromHexPairs_toHex (before : Text) (bytes : Bytes) :
    fromHexPairs (before ++ toHex bytes) bytes.length (Text.byteLen before) =
      .ok bytes := by
  induction bytes generalizing before with
  | nil => rfl
  | cons byte bytes induction =>
      have unfolded : toHex (byte :: bytes) =
          hexByteUpper byte ++ toHex bytes := rfl
      have cut : Text.splitAtByte (hexByteUpper byte ++ toHex bytes) 2 =
          some (hexByteUpper byte, toHex bytes) :=
        Text.splitAtByte_eq_some_iff.mpr ⟨rfl, byteLen_hexByteUpper byte⟩
      have tail := induction (before ++ hexByteUpper byte)
      rw [List.append_assoc, Text.byteLen_append,
        byteLen_hexByteUpper] at tail
      rw [unfolded, List.length_cons, fromHexPairs, Text.slice_suffix, cut]
      simp only [Option.map_some, u8FromHex_hexByteUpper, tail,
        Outcome.ok_bind, Outcome.pure_eq]

/-- Decoding undoes encoding. -/
@[simp] theorem fromHex_toHex (bytes : Bytes) :
    fromHex (toHex bytes) = .ok bytes := by
  have pairs := fromHexPairs_toHex [] bytes
  have even : ¬ Text.byteLen (toHex bytes) % 2 ≠ 0 := by
    rw [byteLen_toHex]
    omega
  have half : Text.byteLen (toHex bytes) / 2 = bytes.length := by
    rw [byteLen_toHex]
    omega
  unfold fromHex
  rw [trim_toHex, if_neg even, half]
  exact pairs

def openTag (tag : Text) : Text := lit "<" ++ tag ++ lit ">"

def closeTag (tag : Text) : Text := lit "</" ++ tag ++ lit ">"

def xmlTag (xml tag : Text) : Outcome (Option Text) :=
  match Text.find (openTag tag) xml with
  | none => .ok none
  | some found =>
      let start := found + Text.byteLen (openTag tag)
      match Text.sliceFrom xml start with
      | none => .panicked (sliceError start (Text.byteLen xml))
      | some rest =>
          match Text.find (closeTag tag) rest with
          | none => .ok none
          | some offset =>
              match Text.slice xml start (offset + start) with
              | none => .panicked (sliceError start (offset + start))
              | some value => .ok (some value)

/-- The text of the first element `tag`, without byte offsets. -/
def element (xml tag : Text) : Option Text :=
  (Text.splitFirst (openTag tag) xml).bind fun (_, rest) =>
    (Text.splitFirst (closeTag tag) rest).map Prod.fst

/-- An element that is opened in a known beginning of the document. -/
theorem element_of_opened {opening before tag value : Text}
    (opened : Text.splitFirst (openTag tag) opening = some (before, []))
    (plain : '<' ∉ value) (rest : Text) :
    element (opening ++ (value ++ closeTag tag ++ rest)) tag = some value := by
  have start := Text.splitFirst_append opened (value ++ closeTag tag ++ rest)
  have closing : Text.splitFirst (closeTag tag) (value ++ closeTag tag ++ rest)
      = some (value, rest) := by
    apply Text.splitFirst_of_first
    exact Text.firstAt_of_notMem plain
  simp only [element, start, List.nil_append, Option.bind_some, closing,
    Option.map_some]

/-- A text that ends at its first `>`. -/
theorem eq_of_append_close {first second rest more : Text}
    (plain : '>' ∉ first) (other : '>' ∉ second)
    (same : first ++ lit ">" ++ rest = second ++ lit ">" ++ more) :
    first = second := by
  have read : Text.splitFirst ['>'] (first ++ ['>'] ++ rest) =
      some (first, rest) :=
    Text.splitFirst_of_first (Text.firstAt_of_notMem plain)
  have again : Text.splitFirst ['>'] (second ++ ['>'] ++ more) =
      some (second, more) :=
    Text.splitFirst_of_first (Text.firstAt_of_notMem other)
  have whole : first ++ ['>'] ++ rest = second ++ ['>'] ++ more := same
  rw [whole, again] at read
  exact (Prod.mk.inj (Option.some.inj read)).1.symm

/-- A tag that is not the one looked for. -/
theorem passes_openTag {name tag : Text} (different : name ≠ tag)
    (plain : '<' ∉ name ∧ '>' ∉ name) (plainTag : '>' ∉ tag) :
    Text.Passes (openTag tag) (openTag name) := by
  have parts : ∀ tag, openTag tag = '<' :: (tag ++ lit ">") := fun _ => rfl
  rw [parts name, parts tag]
  apply Text.passes_cons
  · intro more starts
    obtain ⟨rest, same⟩ := (List.cons_prefix_cons.mp starts).2
    exact different (eq_of_append_close plain.2 plainTag same.symm)
  · apply Text.passes_of_notMem
    simp [plain.1, lit]

theorem passes_closeTag {name tag : Text} (different : '/' :: name ≠ tag)
    (plain : '<' ∉ name ∧ '>' ∉ name) (plainTag : '>' ∉ tag) :
    Text.Passes (openTag tag) (closeTag name) := by
  have asOpen : closeTag name = openTag ('/' :: name) := rfl
  rw [asOpen]
  apply passes_openTag different _ plainTag
  simp [plain]

theorem element_of_passes {block tag : Text}
    (passes : Text.Passes (openTag tag) block) (rest : Text) :
    element (block ++ rest) tag = element rest tag := by
  rw [element, passes, element]
  cases Text.splitFirst (openTag tag) rest with
  | none => rfl
  | some pair => rfl

/-- Offsets found by searching are on character boundaries, so `xmlTag` never
panics. -/
@[simp] theorem xmlTag_eq (xml tag : Text) :
    xmlTag xml tag = .ok (element xml tag) := by
  cases opened : Text.splitFirst (openTag tag) xml with
  | none => simp [xmlTag, element, Text.find_eq_splitFirst, opened]
  | some pair =>
      obtain ⟨before, rest⟩ := pair
      have split := Text.splitFirst_split opened
      have boundary : Text.sliceFrom xml
          (Text.byteLen before + Text.byteLen (openTag tag)) = some rest := by
        rw [split, ← Text.byteLen_append]
        exact Text.sliceFrom_append _ _
      cases closed : Text.splitFirst (closeTag tag) rest with
      | none =>
          simp [xmlTag, element, Text.find_eq_splitFirst, opened, closed,
            boundary]
      | some inner =>
          obtain ⟨value, after⟩ := inner
          have innerSplit := Text.splitFirst_split closed
          have cut : Text.slice xml
              (Text.byteLen before + Text.byteLen (openTag tag))
              (Text.byteLen value + (Text.byteLen before +
                Text.byteLen (openTag tag))) = some value := by
            rw [split, innerSplit, List.append_assoc value]
            exact Text.slice_append _ _ _ (by simp) (Nat.add_comm _ _)
          simp [xmlTag, element, Text.find_eq_splitFirst, opened, closed,
            boundary, cut]

/-- `xml_tag(..).map(|s| s.trim()) == Some(expected)`. -/
def tagIs (xml tag expected : Text) : Outcome Bool := do
  let value ← xmlTag xml tag
  return value.map Text.trim == some expected

end MoonlightAddon
