import Mathlib.Algebra.Group.Nat.Defs
import Mathlib.Data.List.Basic
import Mathlib.Data.List.TakeWhile

/-!
# UTF-8 text with byte offsets

Rust's `str` as a list of Unicode scalar values.  Offsets are byte offsets
into the UTF-8 form, so slicing can miss a character boundary; searching never
does.  The lemmas relate the byte-level operations to splitting the list.
-/

namespace MoonlightAddon

/-- Rust text as its sequence of Unicode scalar values. -/
abbrev Text := List Char

namespace Text

/-- `str::len`. -/
def byteLen : Text → Nat
  | [] => 0
  | char :: rest => char.utf8Size + byteLen rest

@[simp] theorem byteLen_nil : byteLen [] = 0 := rfl

@[simp] theorem byteLen_cons (char : Char) (rest : Text) :
    byteLen (char :: rest) = char.utf8Size + byteLen rest := rfl

@[simp] theorem byteLen_append (first second : Text) :
    byteLen (first ++ second) = byteLen first + byteLen second := by
  induction first with
  | nil => simp
  | cons char rest induction => simp [induction, Nat.add_assoc]

/-- Cut the text at a byte offset; `none` when the offset is past the end or
inside a character. -/
def splitAtByte : Text → Nat → Option (Text × Text)
  | text, 0 => some ([], text)
  | [], _ + 1 => none
  | char :: rest, offset + 1 =>
      if char.utf8Size ≤ offset + 1 then
        (splitAtByte rest (offset + 1 - char.utf8Size)).map
          fun (before, after) => (char :: before, after)
      else
        none

@[simp] theorem splitAtByte_zero (text : Text) :
    splitAtByte text 0 = some ([], text) := by
  cases text <;> rfl

theorem splitAtByte_cons {char : Char} {rest : Text} {offset : Nat}
    (fits : char.utf8Size ≤ offset) :
    splitAtByte (char :: rest) offset =
      (splitAtByte rest (offset - char.utf8Size)).map
        fun (before, after) => (char :: before, after) := by
  have positive := char.utf8Size_pos
  cases offset with
  | zero => omega
  | succ offset => simp [splitAtByte, fits]

theorem splitAtByte_eq_some_iff {text before after : Text} {offset : Nat} :
    splitAtByte text offset = some (before, after) ↔
      text = before ++ after ∧ byteLen before = offset := by
  induction text generalizing offset before with
  | nil =>
      cases offset with
      | zero =>
          simp only [splitAtByte_zero, Option.some.injEq, Prod.mk.injEq]
          constructor
          · rintro ⟨rfl, rfl⟩
            simp
          · rintro ⟨split, _⟩
            simp_all
      | succ offset =>
          simp only [splitAtByte, reduceCtorEq, false_iff, not_and]
          intro split
          have emptyBefore : before = [] := by
            cases before with
            | nil => rfl
            | cons => simp at split
          simp [emptyBefore]
  | cons char rest induction =>
      have positive := char.utf8Size_pos
      by_cases fits : char.utf8Size ≤ offset
      · rw [splitAtByte_cons fits, Option.map_eq_some_iff]
        constructor
        · rintro ⟨⟨tail, later⟩, tailSplit, pair⟩
          simp only [Prod.mk.injEq] at pair
          obtain ⟨rfl, rfl⟩ := pair
          obtain ⟨rfl, size⟩ := induction.mp tailSplit
          refine ⟨rfl, ?_⟩
          simp only [byteLen_cons, size]
          omega
        · rintro ⟨split, size⟩
          cases before with
          | nil =>
              simp only [byteLen_nil] at size
              omega
          | cons head tail =>
              simp only [List.cons_append, List.cons.injEq] at split
              obtain ⟨rfl, split⟩ := split
              refine ⟨(tail, after), induction.mpr ⟨split, ?_⟩, rfl⟩
              simp only [byteLen_cons] at size
              omega
      · cases offset with
        | zero =>
            simp only [splitAtByte_zero, Option.some.injEq, Prod.mk.injEq]
            constructor
            · rintro ⟨rfl, rfl⟩
              simp
            · rintro ⟨split, size⟩
              cases before with
              | nil => simpa using split
              | cons head tail =>
                  have headPositive := head.utf8Size_pos
                  simp only [byteLen_cons] at size
                  omega
        | succ offset =>
            simp only [splitAtByte, fits, ↓reduceIte, reduceCtorEq, false_iff,
              not_and]
            intro split
            cases before with
            | nil => simp
            | cons head tail =>
                simp only [List.cons_append, List.cons.injEq] at split
                obtain ⟨rfl, _⟩ := split
                simp only [byteLen_cons]
                omega

@[simp] theorem splitAtByte_append (before after : Text) :
    splitAtByte (before ++ after) (byteLen before) = some (before, after) :=
  splitAtByte_eq_some_iff.mpr ⟨rfl, rfl⟩

/-- `&text[start..]`; `none` where Rust panics. -/
def sliceFrom (text : Text) (start : Nat) : Option Text :=
  (splitAtByte text start).map Prod.snd

/-- `&text[start..stop]`; `none` where Rust panics. -/
def slice (text : Text) (start stop : Nat) : Option Text :=
  if start ≤ stop then
    (sliceFrom text start).bind fun rest =>
      (splitAtByte rest (stop - start)).map Prod.fst
  else
    none

@[simp] theorem sliceFrom_append (before after : Text) :
    sliceFrom (before ++ after) (byteLen before) = some after := by
  simp [sliceFrom]

theorem slice_suffix (before rest : Text) (count : Nat) :
    slice (before ++ rest) (byteLen before) (byteLen before + count) =
      (splitAtByte rest count).map Prod.fst := by
  simp [slice]

theorem slice_append (before middle after : Text) {start stop : Nat}
    (atStart : byteLen before = start)
    (atStop : start + byteLen middle = stop) :
    slice (before ++ (middle ++ after)) start stop = some middle := by
  subst atStart atStop
  simp [slice]

/-- The text before and after the first occurrence of `needle`. -/
def splitFirst (needle : Text) : Text → Option (Text × Text)
  | [] => if needle = [] then some ([], []) else none
  | char :: rest =>
      if needle <+: char :: rest then
        some ([], (char :: rest).drop needle.length)
      else
        (splitFirst needle rest).map
          fun (before, after) => (char :: before, after)

/-- `str::find`: the byte offset of the first occurrence. -/
def find (needle : Text) : Text → Option Nat
  | [] => if needle = [] then some 0 else none
  | char :: rest =>
      if needle <+: char :: rest then
        some 0
      else
        (find needle rest).map fun offset => char.utf8Size + offset

theorem find_eq_splitFirst (needle text : Text) :
    find needle text =
      (splitFirst needle text).map fun (before, _) => byteLen before := by
  induction text with
  | nil =>
      by_cases empty : needle = [] <;> simp [find, splitFirst, empty]
  | cons char rest induction =>
      by_cases here : needle <+: char :: rest
      · simp [find, splitFirst, here]
      · simp [find, splitFirst, here, induction, Option.map_map,
          Function.comp_def]

/-- `needle` occurs in `text` only from position `before.length` on. -/
def FirstAt (needle before after : Text) : Prop :=
  ∀ earlier later, before ++ needle ++ after = earlier ++ needle ++ later →
    before.length ≤ earlier.length

theorem splitFirst_split {needle text before after : Text}
    (found : splitFirst needle text = some (before, after)) :
    text = before ++ needle ++ after := by
  induction text generalizing before with
  | nil =>
      by_cases empty : needle = []
      · simp only [splitFirst, empty, ↓reduceIte, Option.some.injEq,
          Prod.mk.injEq] at found
        obtain ⟨rfl, rfl⟩ := found
        simp [empty]
      · simp [splitFirst, empty] at found
  | cons char rest induction =>
      by_cases here : needle <+: char :: rest
      · simp only [splitFirst, here, ↓reduceIte, Option.some.injEq,
          Prod.mk.injEq] at found
        obtain ⟨rfl, rfl⟩ := found
        obtain ⟨tail, split⟩ := here
        simp [← split]
      · simp only [splitFirst, here, ↓reduceIte, Option.map_eq_some_iff,
          Prod.mk.injEq] at found
        obtain ⟨⟨tail, later⟩, tailFound, rfl, rfl⟩ := found
        simp [induction tailFound]

theorem splitFirst_first {needle text before after : Text}
    (found : splitFirst needle text = some (before, after))
    {earlier later : Text} (other : text = earlier ++ needle ++ later) :
    before.length ≤ earlier.length := by
  induction text generalizing before earlier with
  | nil =>
      by_cases empty : needle = []
      · simp only [splitFirst, empty, ↓reduceIte, Option.some.injEq,
          Prod.mk.injEq] at found
        simp [← found.1]
      · simp [splitFirst, empty] at found
  | cons char rest induction =>
      by_cases here : needle <+: char :: rest
      · simp only [splitFirst, here, ↓reduceIte, Option.some.injEq,
          Prod.mk.injEq] at found
        simp [← found.1]
      · simp only [splitFirst, here, ↓reduceIte, Option.map_eq_some_iff,
          Prod.mk.injEq] at found
        obtain ⟨⟨tail, after⟩, tailFound, rfl, rfl⟩ := found
        cases earlier with
        | nil =>
            refine absurd ⟨later, ?_⟩ here
            simpa using other.symm
        | cons head earlier =>
            simp only [List.cons_append, List.cons.injEq] at other
            have bound := induction tailFound other.2
            simpa using bound

theorem splitFirst_none {needle text : Text}
    (missing : splitFirst needle text = none) (earlier later : Text) :
    text ≠ earlier ++ needle ++ later := by
  induction text generalizing earlier with
  | nil =>
      by_cases empty : needle = []
      · simp [splitFirst, empty] at missing
      · intro split
        simp_all
  | cons char rest induction =>
      by_cases here : needle <+: char :: rest
      · simp [splitFirst, here] at missing
      · simp only [splitFirst, here, ↓reduceIte, Option.map_eq_none_iff]
          at missing
        intro split
        cases earlier with
        | nil => exact here ⟨later, by simpa using split.symm⟩
        | cons head earlier =>
            simp only [List.cons_append, List.cons.injEq] at split
            exact induction missing earlier split.2

/-- The first occurrence is found wherever it is. -/
theorem splitFirst_of_first {needle before after : Text}
    (first : FirstAt needle before after) :
    splitFirst needle (before ++ needle ++ after) = some (before, after) := by
  cases found : splitFirst needle (before ++ needle ++ after) with
  | none => exact absurd rfl (splitFirst_none found before after)
  | some pair =>
      obtain ⟨start, rest⟩ := pair
      have split := splitFirst_split found
      have lower : start.length ≤ before.length := splitFirst_first found rfl
      have upper := first start rest split
      have sameLength : before.length = start.length :=
        Nat.le_antisymm upper lower
      simp only [List.append_assoc] at split
      obtain ⟨rfl, tails⟩ := List.append_inj split sameLength
      rw [List.append_cancel_left tails]

/-- What the search finds is the first occurrence. -/
theorem splitFirst_eq_some_iff {needle text before after : Text} :
    splitFirst needle text = some (before, after) ↔
      text = before ++ needle ++ after ∧ FirstAt needle before after := by
  constructor
  · intro found
    have split := splitFirst_split found
    refine ⟨split, ?_⟩
    intro earlier later other
    exact splitFirst_first found (split.trans other)
  · rintro ⟨rfl, first⟩
    exact splitFirst_of_first first

theorem splitFirst_eq_none_iff {needle text : Text} :
    splitFirst needle text = none ↔ ¬ needle <:+: text := by
  constructor
  · rintro missing ⟨before, after, split⟩
    exact splitFirst_none missing before after split.symm
  · intro absent
    cases found : splitFirst needle text with
    | none => rfl
    | some pair => exact absurd ⟨_, _, (splitFirst_split found).symm⟩ absent

/-- An earlier occurrence would end before this one does, so what stands behind
it does not matter. -/
theorem firstAt_iff {needle before after : Text} :
    FirstAt needle before after ↔ FirstAt needle before [] := by
  constructor
  · intro first earlier later same
    rw [List.append_nil] at same
    apply first earlier (later ++ after)
    rw [same, List.append_assoc]
  · intro first earlier later same
    by_contra shorter
    have inside : (earlier ++ needle).length ≤ (before ++ needle).length := by
      simp only [List.length_append]
      omega
    have starts : earlier ++ needle <+: before ++ needle := by
      apply List.prefix_of_prefix_length_le ⟨later, same.symm⟩ _ inside
      exact List.prefix_append _ _
    obtain ⟨rest, split⟩ := starts
    apply shorter
    apply first earlier rest
    rw [List.append_nil, split]

/-- Nothing can match before the first character of the needle appears. -/
theorem firstAt_of_notMem {head : Char} {tail before after : Text}
    (absent : head ∉ before) : FirstAt (head :: tail) before after := by
  intro earlier later same
  by_contra shorter
  have inside : earlier.length < before.length := Nat.lt_of_not_le shorter
  have left : (before ++ (head :: tail) ++ after)[earlier.length]? =
      before[earlier.length]? := by
    rw [List.append_assoc, List.getElem?_append_left inside]
  have right : (earlier ++ (head :: tail) ++ later)[earlier.length]? =
      some head := by
    simp
  rw [same, right] at left
  exact absent (List.mem_of_getElem? left.symm)

theorem splitFirst_append {needle text before after : Text}
    (found : splitFirst needle text = some (before, after)) (more : Text) :
    splitFirst needle (text ++ more) = some (before, after ++ more) := by
  have split := splitFirst_split found
  rw [split, List.append_assoc]
  apply splitFirst_of_first
  intro earlier later same
  by_contra shorter
  have bound : (earlier ++ needle).length ≤ text.length := by
    have lengths := congrArg List.length split
    simp only [List.length_append] at lengths ⊢
    omega
  have whole : text ++ more = earlier ++ needle ++ later := by
    rw [← same, split]
    simp
  have starts : earlier ++ needle <+: text :=
    List.prefix_of_prefix_length_le ⟨later, whole.symm⟩
      (List.prefix_append text more) bound
  obtain ⟨rest, restSplit⟩ := starts
  exact shorter (splitFirst_first found restSplit.symm)

/-- `str::contains`. -/
def contains (text needle : Text) : Bool :=
  (splitFirst needle text).isSome

theorem contains_append (before needle after : Text) :
    contains (before ++ needle ++ after) needle = true := by
  cases found : splitFirst needle (before ++ needle ++ after) with
  | none => exact absurd rfl (splitFirst_none found before after)
  | some pair => rw [contains, found]; rfl

theorem splitFirst_eq_none {needle text : Text}
    (absent : contains text needle = false) : splitFirst needle text = none := by
  rwa [contains, Option.isSome_eq_false_iff, Option.isNone_iff_eq_none]
    at absent

theorem contains_eq_false_iff {needle text : Text} :
    contains text needle = false ↔ ¬ needle <:+: text := by
  rw [contains, Option.isSome_eq_false_iff, Option.isNone_iff_eq_none,
    splitFirst_eq_none_iff]

/-- No occurrence of `needle` begins in `block`, whatever follows it. -/
def Passes (needle block : Text) : Prop :=
  ∀ rest, splitFirst needle (block ++ rest) =
    (splitFirst needle rest).map fun (before, after) => (block ++ before, after)

theorem passes_nil (needle : Text) : Passes needle [] := by
  intro rest
  simp

theorem Passes.append {needle first second : Text}
    (before : Passes needle first) (after : Passes needle second) :
    Passes needle (first ++ second) := by
  intro rest
  rw [List.append_assoc, before, after, Option.map_map]
  simp only [Function.comp_def, List.append_assoc]

theorem passes_cons {needle rest : Text} {char : Char}
    (elsewhere : ∀ more, ¬ needle <+: char :: (rest ++ more))
    (passes : Passes needle rest) : Passes needle (char :: rest) := by
  intro more
  rw [List.cons_append, splitFirst, if_neg (elsewhere more), passes,
    Option.map_map]
  rfl

theorem passes_of_notMem {head : Char} {tail block : Text}
    (absent : head ∉ block) : Passes (head :: tail) block := by
  induction block with
  | nil => exact passes_nil _
  | cons char rest induction =>
      rw [List.mem_cons, not_or] at absent
      apply passes_cons _ (induction absent.2)
      intro more starts
      exact absent.1 (List.cons_prefix_cons.mp starts).1

theorem splitFirst_of_passes {needle block : Text}
    (passes : Passes needle block) (rest : Text) :
    splitFirst needle (block ++ (needle ++ rest)) = some (block, rest) := by
  have here : splitFirst needle (needle ++ rest) = some ([], rest) := by
    have first : FirstAt needle [] rest := fun _ _ _ => Nat.zero_le _
    exact splitFirst_of_first first
  rw [passes, here]
  simp

/-- A needle whose first character does not come again cannot begin in one text
and end in the copy of itself after it. -/
theorem splitFirst_of_absent {head : Char} {tail before : Text}
    (single : head ∉ tail)
    (absent : contains before (head :: tail) = false) (rest : Text) :
    splitFirst (head :: tail) (before ++ (head :: tail ++ rest)) =
      some (before, rest) := by
  have missing := splitFirst_eq_none absent
  rw [← List.append_assoc]
  apply splitFirst_of_first
  intro earlier later same
  by_contra shorter
  by_cases inside : (earlier ++ (head :: tail)).length ≤ before.length
  · have starts : earlier ++ (head :: tail) <+: before := by
      apply List.prefix_of_prefix_length_le ⟨later, same.symm⟩ _ inside
      rw [List.append_assoc]
      exact List.prefix_append _ _
    obtain ⟨more, split⟩ := starts
    exact splitFirst_none missing earlier more split.symm
  · obtain ⟨offset, further⟩ : ∃ offset,
        before.length = earlier.length + (offset + 1) :=
      ⟨before.length - earlier.length - 1, by omega⟩
    have copy : (before ++ (head :: tail) ++ rest)[before.length]? =
        some head := by
      simp
    rw [same, List.append_assoc, further,
      List.getElem?_append_right (Nat.le_add_right _ _), Nat.add_sub_cancel_left,
      List.cons_append, List.getElem?_cons_succ,
      List.getElem?_append_left] at copy
    · exact single (List.mem_of_getElem? copy)
    · simp only [List.length_append, List.length_cons] at inside
      omega

/-- `char::is_whitespace`: the Unicode property White_Space. -/
def isWhitespace (char : Char) : Bool :=
  let code := char.toNat
  (9 ≤ code && code ≤ 13) || code == 0x20 || code == 0x85 || code == 0xA0 ||
    code == 0x1680 || (0x2000 ≤ code && code ≤ 0x200A) || code == 0x2028 ||
    code == 0x2029 || code == 0x202F || code == 0x205F || code == 0x3000

/-- `str::trim`. -/
def trim (text : Text) : Text :=
  ((text.dropWhile isWhitespace).reverse.dropWhile isWhitespace).reverse

theorem trim_eq_self {text : Text}
    (plain : ∀ char ∈ text, isWhitespace char = false) : trim text = text := by
  have front : text.dropWhile isWhitespace = text := by
    rw [List.dropWhile_eq_self_iff]
    intro nonempty
    simp [plain _ (List.getElem_mem nonempty)]
  have back : text.reverse.dropWhile isWhitespace = text.reverse := by
    rw [List.dropWhile_eq_self_iff]
    intro nonempty
    have member := List.mem_reverse.mp (List.getElem_mem nonempty)
    rw [plain _ member]
    exact Bool.false_ne_true
  simp [trim, front, back]

/-- White space around a text without any is what `trim` takes off. -/
theorem trim_surrounded {before text after : Text}
    (opens : ∀ char ∈ before, isWhitespace char = true)
    (closes : ∀ char ∈ after, isWhitespace char = true)
    (plain : ∀ char ∈ text, isWhitespace char = false) :
    trim (before ++ text ++ after) = text := by
  by_cases empty : text = []
  · subst empty
    have blank : (before ++ [] ++ after).dropWhile isWhitespace = [] := by
      apply List.dropWhile_eq_nil_iff.mpr
      intro char member
      rw [List.append_nil, List.mem_append] at member
      exact member.elim (opens char) (closes char)
    rw [trim, blank]
    rfl
  · have nonempty := List.length_pos_iff.mpr empty
    have front : (before ++ text ++ after).dropWhile isWhitespace =
        text ++ after := by
      rw [List.append_assoc, List.dropWhile_append_of_pos opens,
        List.dropWhile_eq_self_iff]
      intro _
      rw [List.getElem_append_left nonempty, plain _ (List.getElem_mem _)]
      exact Bool.false_ne_true
    have back : (text ++ after).reverse.dropWhile isWhitespace =
        text.reverse := by
      rw [List.reverse_append, List.dropWhile_append_of_pos,
        List.dropWhile_eq_self_iff]
      · intro inside
        rw [plain _ (List.mem_reverse.mp (List.getElem_mem inside))]
        exact Bool.false_ne_true
      · exact fun char member => closes char (List.mem_reverse.mp member)
    rw [trim, front, back, List.reverse_reverse]

/-- `str::as_bytes`. -/
def asBytes (text : Text) : List UInt8 :=
  text.flatMap String.utf8EncodeChar

def replacement : Char := Char.ofNat 0xFFFD

def isContinuation (byte : UInt8) : Bool :=
  0x80 ≤ byte.toNat && byte.toNat ≤ 0xBF

/-- The continuation bytes a leading byte allows right after it, and how many
follow it in total; `none` for a byte that starts no sequence. -/
def sequenceShape (lead : Nat) : Option (Nat × Nat × Nat) :=
  if 0xC2 ≤ lead ∧ lead ≤ 0xDF then some (1, 0x80, 0xBF)
  else if lead = 0xE0 then some (2, 0xA0, 0xBF)
  else if lead = 0xED then some (2, 0x80, 0x9F)
  else if 0xE1 ≤ lead ∧ lead ≤ 0xEF then some (2, 0x80, 0xBF)
  else if lead = 0xF0 then some (3, 0x90, 0xBF)
  else if 0xF1 ≤ lead ∧ lead ≤ 0xF3 then some (3, 0x80, 0xBF)
  else if lead = 0xF4 then some (3, 0x80, 0x8F)
  else none

/-- Read `count` further continuation bytes of a sequence worth `value` so
far.  A sequence that breaks off becomes one replacement character. -/
def continueSequence : (count value : Nat) → List UInt8 → Char × List UInt8
  | 0, value, bytes => (Char.ofNat value, bytes)
  | _ + 1, _, [] => (replacement, [])
  | count + 1, value, byte :: rest =>
      if isContinuation byte then
        continueSequence count (value * 64 + byte.toNat % 64) rest
      else
        (replacement, byte :: rest)

/-- The first character of a lossy decoding and the bytes after it. -/
def nextLossy (lead : UInt8) (rest : List UInt8) : Char × List UInt8 :=
  if lead.toNat < 0x80 then (Char.ofNat lead.toNat, rest)
  else
    match sequenceShape lead.toNat, rest with
    | some (count, low, high), second :: after =>
        if low ≤ second.toNat ∧ second.toNat ≤ high then
          continueSequence (count - 1)
            (lead.toNat % 2 ^ (6 - count) * 64 + second.toNat % 64) after
        else
          (replacement, rest)
    | _, _ => (replacement, rest)

def lossyLoop : (fuel : Nat) → List UInt8 → Text
  | 0, _ => []
  | _ + 1, [] => []
  | fuel + 1, lead :: rest =>
      let (char, after) := nextLossy lead rest
      char :: lossyLoop fuel after

/-- `String::from_utf8_lossy`: every maximal ill-formed part becomes U+FFFD. -/
def fromUtf8Lossy (bytes : List UInt8) : Text :=
  lossyLoop bytes.length bytes

/-- ASCII text is decoded as it is. -/
theorem fromUtf8Lossy_ascii {bytes : List UInt8}
    (ascii : ∀ byte ∈ bytes, byte.toNat < 0x80) :
    fromUtf8Lossy bytes = bytes.map fun byte => Char.ofNat byte.toNat := by
  unfold fromUtf8Lossy
  induction bytes with
  | nil => rfl
  | cons lead rest induction =>
      have small : lead.toNat < 0x80 := ascii lead (by simp)
      have tail := induction fun byte member => ascii byte (by simp [member])
      simp [lossyLoop, nextLossy, small, tail]

end Text

end MoonlightAddon
