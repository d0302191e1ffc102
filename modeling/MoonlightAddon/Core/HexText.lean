import MoonlightAddon.Core.HexPanic

/-!
# Hexadecimal text

Which texts `from_hex` accepts, and what it makes of the output of `to_hex`.
The integer parser it hands each pair to takes a sign for the first digit.
-/

namespace MoonlightAddon

/-- `0-9`, `A-F`, `a-f`. -/
def isHexDigit (char : Char) : Bool :=
  ('0' ≤ char && char ≤ '9') || ('A' ≤ char && char ≤ 'F') ||
    ('a' ≤ char && char ≤ 'f')

/-- Hexadecimal text: two digits for each byte. -/
def IsHex (text : Text) : Prop :=
  text.length % 2 = 0 ∧ ∀ char ∈ text, isHexDigit char = true

/-- `from_hex` accepts a text exactly if it is hexadecimal, reads it as it is
written, and otherwise returns an error. -/
structure ReadsHex (text : Text) : Prop where
  returns : ∀ message, fromHex text ≠ .panicked message
  accepts : (∃ bytes, fromHex text = .ok bytes) ↔ IsHex (Text.trim text)
  spells : ∀ bytes, fromHex text = .ok bytes →
    toHex bytes = (Text.trim text).map Char.toUpper

/-- Pairs as the integer parser takes them: a `+` may stand in front of a
single digit. -/
inductive Pairs : Text → Prop where
  | nil : Pairs []
  | cons {first second : Char} {rest : Text} :
      isHexDigit first = true ∨ first = '+' → isHexDigit second = true →
      Pairs rest → Pairs (first :: second :: rest)

/-- A text that cannot be cut after two bytes. -/
inductive Uncut : Text → Prop where
  | wide {char : Char} {rest : Text} :
      2 < char.utf8Size → Uncut (char :: rest)
  | across {first second : Char} {rest : Text} :
      first.utf8Size = 1 → second.utf8Size ≠ 1 →
      Uncut (first :: second :: rest)

/-- After some pairs, the next cut is inside a character. -/
def Torn (text : Text) : Prop :=
  Text.byteLen text % 2 = 0 ∧
    ∃ taken rest, text = taken ++ rest ∧ Pairs taken ∧ Uncut rest

/-- Nothing but pairs, and one of them with a sign. -/
def Signed (text : Text) : Prop :=
  Pairs text ∧ '+' ∈ text

/-- The digit that a character of a pair stands for. -/
def spelled (char : Char) : Char :=
  if char = '+' then '0' else char.toUpper

section Digits

/-- All that is to know about the digits, one character after the other. -/
theorem digit_table {code : Nat} (ascii : code < 128) :
    match hexDigitValue (Char.ofNat code) with
    | some value => isHexDigit (Char.ofNat code) = true ∧ value < 16 ∧
        hexDigitUpper value = (Char.ofNat code).toUpper ∧
        (Char.ofNat code).utf8Size = 1 ∧ Char.ofNat code ≠ '+'
    | none => isHexDigit (Char.ofNat code) = false := by
  have table : ∀ code < 128,
      (match hexDigitValue (Char.ofNat code) with
        | some value => isHexDigit (Char.ofNat code) &&
            decide (value < 16 ∧
              hexDigitUpper value = (Char.ofNat code).toUpper ∧
              (Char.ofNat code).utf8Size = 1 ∧ Char.ofNat code ≠ '+')
        | none => !isHexDigit (Char.ofNat code)) = true := by
    decide +kernel
  have found := table code ascii
  revert found
  cases hexDigitValue (Char.ofNat code) with
  | none => simp
  | some value => simp

theorem isHexDigit_wide {char : Char} (wide : ¬ char.toNat < 128) :
    isHexDigit char = false ∧ hexDigitValue char = none := by
  have above (bound : Char) (ascii : bound.toNat < 128) : ¬ char ≤ bound := by
    intro below
    have order := UInt32.le_iff_toNat_le.mp (Char.le_def.mp below)
    exact wide (Nat.lt_of_le_of_lt order ascii)
  constructor
  · unfold isHexDigit
    simp only [decide_eq_false (above '9' (by decide)),
      decide_eq_false (above 'F' (by decide)),
      decide_eq_false (above 'f' (by decide)), Bool.and_false, Bool.or_false]
  · unfold hexDigitValue
    simp only
    rw [if_neg (by omega), if_neg (by omega), if_neg (by omega)]

/-- What a character that counts as a digit is. -/
structure Digit (char : Char) (value : Nat) : Prop where
  isHex : isHexDigit char = true
  small : value < 16
  upper : hexDigitUpper value = char.toUpper
  narrow : char.utf8Size = 1
  unsigned : char ≠ '+'

theorem digit_of_value {char : Char} {value : Nat}
    (read : hexDigitValue char = some value) : Digit char value := by
  by_cases ascii : char.toNat < 128
  · have row := digit_table ascii
    rw [Char.ofNat_toNat, read] at row
    obtain ⟨isHex, small, upper, narrow, unsigned⟩ := row
    exact ⟨isHex, small, upper, narrow, unsigned⟩
  · rw [(isHexDigit_wide ascii).2] at read
    cases read

theorem value_of_isHexDigit {char : Char} (isHex : isHexDigit char = true) :
    ∃ value, hexDigitValue char = some value ∧ Digit char value := by
  cases read : hexDigitValue char with
  | some value => exact ⟨value, rfl, digit_of_value read⟩
  | none =>
      by_cases ascii : char.toNat < 128
      · have row := digit_table ascii
        rw [Char.ofNat_toNat, read] at row
        rw [row] at isHex
        cases isHex
      · rw [(isHexDigit_wide ascii).1] at isHex
        cases isHex

end Digits

section Reading

theorem u8FromHex_signed (second : Char) :
    u8FromHex ['+', second] =
      (digitsValue hexDigitValue 16 256 0 [second]).map UInt8.ofNat :=
  rfl

theorem u8FromHex_unsigned {first : Char} (unsigned : first ≠ '+')
    (second : Char) :
    u8FromHex [first, second] =
      (digitsValue hexDigitValue 16 256 0 [first, second]).map UInt8.ofNat := by
  unfold u8FromHex fromStrRadix
  split
  · simp at *
  · simp_all
  · simp_all
  · simp_all
  · rfl

theorem hexByteUpper_ofNat {high low : Nat} (small : high < 16)
    (lowSmall : low < 16) :
    hexByteUpper (UInt8.ofNat (high * 16 + low)) =
      [hexDigitUpper high, hexDigitUpper low] := by
  have value : (UInt8.ofNat (high * 16 + low)).toNat = high * 16 + low := by
    rw [UInt8.toNat_ofNat']
    omega
  have upper : (high * 16 + low) / 16 = high := by omega
  have lower : (high * 16 + low) % 16 = low := by omega
  rw [hexByteUpper, value, upper, lower]

/-- What a pair that is read is made of. -/
theorem pair_of_read {first second : Char} {byte : UInt8}
    (read : u8FromHex [first, second] = .ok byte) :
    (isHexDigit first = true ∨ first = '+') ∧ isHexDigit second = true ∧
      hexByteUpper byte = [spelled first, spelled second] := by
  by_cases signed : first = '+'
  · subst signed
    rw [u8FromHex_signed] at read
    cases low : hexDigitValue second with
    | none => simp [digitsValue, low, Except.map] at read
    | some value =>
        have digit := digit_of_value low
        have fits : value < 256 := Nat.lt_trans digit.small (by decide)
        simp only [digitsValue, low, Nat.zero_mul, Nat.zero_add, fits,
          ↓reduceIte, Except.map, Except.ok.injEq] at read
        subst read
        refine ⟨.inr rfl, digit.isHex, ?_⟩
        have spells := hexByteUpper_ofNat (by decide : 0 < 16) digit.small
        rw [Nat.zero_mul, Nat.zero_add] at spells
        have zero : hexDigitUpper 0 = '0' := rfl
        rw [spells, digit.upper, zero]
        simp [spelled, digit.unsigned]
  · rw [u8FromHex_unsigned signed] at read
    cases high : hexDigitValue first with
    | none => simp [digitsValue, high, Except.map] at read
    | some upper =>
        have leading := digit_of_value high
        have fits : upper < 256 := Nat.lt_trans leading.small (by decide)
        cases low : hexDigitValue second with
        | none =>
            simp [digitsValue, high, low, fits, Except.map] at read
        | some value =>
            have digit := digit_of_value low
            have both : upper * 16 + value < 256 := by
              have upperSmall := leading.small
              have valueSmall := digit.small
              omega
            simp only [digitsValue, high, low, Nat.zero_mul, Nat.zero_add,
              fits, both, ↓reduceIte, Except.map, Except.ok.injEq] at read
            subst read
            refine ⟨.inl leading.isHex, digit.isHex, ?_⟩
            rw [hexByteUpper_ofNat leading.small digit.small, leading.upper,
              digit.upper]
            simp [spelled, leading.unsigned, digit.unsigned]

theorem read_of_pair {first second : Char}
    (leads : isHexDigit first = true ∨ first = '+')
    (isHex : isHexDigit second = true) :
    ∃ byte, u8FromHex [first, second] = .ok byte := by
  obtain ⟨value, low, digit⟩ := value_of_isHexDigit isHex
  have valueSmall := digit.small
  have fits : value < 256 := by omega
  by_cases signed : first = '+'
  · subst signed
    rw [u8FromHex_signed]
    simp [digitsValue, low, fits, Except.map]
  · obtain ⟨upper, high, leading⟩ :=
      value_of_isHexDigit (leads.resolve_right signed)
    have upperSmall := leading.small
    have both : upper * 16 + value < 256 := by omega
    have alone : upper < 256 := by omega
    rw [u8FromHex_unsigned signed]
    simp [digitsValue, high, low, alone, both, Except.map]

theorem narrow_of_leads {char : Char}
    (leads : isHexDigit char = true ∨ char = '+') : char.utf8Size = 1 := by
  obtain isHex | rfl := leads
  · obtain ⟨_, _, digit⟩ := value_of_isHexDigit isHex
    exact digit.narrow
  · rfl

end Reading

section Texts

theorem byteLen_of_pairs {text : Text} (pairs : Pairs text) :
    Text.byteLen text = text.length ∧ text.length % 2 = 0 := by
  induction pairs with
  | nil => exact ⟨rfl, rfl⟩
  | cons leads isHex pairs induction =>
      have first := narrow_of_leads leads
      have second := narrow_of_leads (.inl isHex)
      simp only [Text.byteLen_cons, List.length_cons, first, second,
        induction.1]
      have even := induction.2
      omega

theorem toHex_cons (byte : UInt8) (bytes : Bytes) :
    toHex (byte :: bytes) = hexByteUpper byte ++ toHex bytes := rfl

/-- The two characters, or the one wide character, of two bytes. -/
theorem two_bytes {text : Text} (size : Text.byteLen text = 2) :
    (∃ first second, text = [first, second]) ∨
      ∃ char, text = [char] ∧ char.utf8Size ≠ 1 := by
  match text with
  | [] => cases size
  | [char] =>
      refine .inr ⟨char, rfl, ?_⟩
      simp only [Text.byteLen_cons, Text.byteLen_nil] at size
      omega
  | [first, second] => exact .inl ⟨first, second, rfl⟩
  | first :: second :: third :: rest =>
      have one := first.utf8Size_pos
      have two := second.utf8Size_pos
      have three := third.utf8Size_pos
      simp only [Text.byteLen_cons] at size
      omega

/-- What is accepted are pairs, and the bytes spell them. -/
theorem pairs_of_fromHexPairs {before rest : Text} {count : Nat}
    {bytes : Bytes} (size : Text.byteLen rest = 2 * count)
    (read : fromHexPairs (before ++ rest) count (Text.byteLen before) =
      .ok bytes) : Pairs rest ∧ toHex bytes = rest.map spelled := by
  induction count generalizing before rest bytes with
  | zero =>
      cases rest with
      | nil =>
          obtain rfl := Outcome.ok.inj read
          exact ⟨.nil, rfl⟩
      | cons char rest =>
          have positive := char.utf8Size_pos
          simp only [Text.byteLen_cons] at size
          omega
  | succ count induction =>
      rw [fromHexPairs, Text.slice_suffix] at read
      cases cut : Text.splitAtByte rest 2 with
      | none =>
          rw [cut] at read
          cases read
      | some parts =>
          obtain ⟨pair, rest⟩ := parts
          obtain ⟨rfl, two⟩ := Text.splitAtByte_eq_some_iff.mp cut
          rw [Text.byteLen_append, two] at size
          simp only [cut, Option.map_some] at read
          cases value : u8FromHex pair with
          | error error =>
              rw [value] at read
              cases read
          | ok byte =>
              rw [value] at read
              obtain ⟨others, later, returned⟩ := Outcome.bind_eq_ok read
              obtain rfl := Outcome.ok.inj returned
              rw [← List.append_assoc, ← two, ← Text.byteLen_append] at later
              obtain ⟨pairs, spells⟩ := induction (by omega) later
              obtain ⟨first, second, rfl⟩ | ⟨char, rfl, wide⟩ := two_bytes two
              · obtain ⟨leads, isHex, spelling⟩ := pair_of_read value
                refine ⟨.cons leads isHex pairs, ?_⟩
                rw [toHex_cons, spelling, spells]
                rfl
              · obtain ⟨error, failed⟩ := u8FromHex_wide wide
                cases value.symm.trans failed

/-- Pairs are accepted. -/
theorem fromHexPairs_of_pairs {rest : Text} (pairs : Pairs rest)
    (before : Text) :
    ∃ bytes, fromHexPairs (before ++ rest) (Text.byteLen rest / 2)
      (Text.byteLen before) = .ok bytes := by
  induction pairs generalizing before with
  | nil => exact ⟨[], rfl⟩
  | @cons first second rest leads isHex pairs induction =>
      have narrow : first.utf8Size + second.utf8Size = 2 := by
        rw [narrow_of_leads leads, narrow_of_leads (.inl isHex)]
      have size : Text.byteLen [first, second] = 2 := by simpa using narrow
      have half : Text.byteLen (first :: second :: rest) / 2 =
          Text.byteLen rest / 2 + 1 := by
        simp only [Text.byteLen_cons]
        omega
      have cut : Text.splitAtByte (first :: second :: rest) 2 =
          some ([first, second], rest) :=
        Text.splitAtByte_eq_some_iff.mpr ⟨rfl, size⟩
      obtain ⟨byte, value⟩ := read_of_pair leads isHex
      obtain ⟨bytes, later⟩ := induction (before ++ [first, second])
      rw [List.append_assoc, Text.byteLen_append, size] at later
      refine ⟨byte :: bytes, ?_⟩
      rw [half, fromHexPairs, Text.slice_suffix, cut]
      simp only [Option.map_some, value]
      change (fromHexPairs (before ++ ([first, second] ++ rest)) _ _ >>=
        fun rest => pure (byte :: rest)) = _
      rw [later]
      rfl

/-- What `from_hex` accepts, and what it makes of it. -/
theorem fromHex_ok {text : Text} {bytes : Bytes}
    (read : fromHex text = .ok bytes) :
    Pairs (Text.trim text) ∧ toHex bytes = (Text.trim text).map spelled := by
  unfold fromHex at read
  by_cases odd : Text.byteLen (Text.trim text) % 2 ≠ 0
  · rw [if_pos odd] at read
    cases read
  · rw [if_neg odd] at read
    exact @pairs_of_fromHexPairs [] _ _ _ (by omega) read

theorem fromHex_of_pairs {text : Text} (pairs : Pairs (Text.trim text)) :
    ∃ bytes, fromHex text = .ok bytes := by
  obtain ⟨bytes, read⟩ := fromHexPairs_of_pairs pairs []
  obtain ⟨size, even⟩ := byteLen_of_pairs pairs
  refine ⟨bytes, ?_⟩
  have whole : ¬ Text.byteLen (Text.trim text) % 2 ≠ 0 := by
    rw [size]
    omega
  unfold fromHex
  rw [if_neg whole]
  exact read

end Texts

section Tearing

theorem straddles_of_uncut {text : Text} (uncut : Uncut text) :
    straddles text = true := by
  cases uncut with
  | @wide char rest wide =>
      cases rest with
      | nil => simpa [straddles] using wide
      | cons second rest =>
          have notOne : char.utf8Size ≠ 1 := by omega
          simpa [straddles, notOne] using wide
  | across narrow wide => simp [straddles, narrow, wide]

theorem straddles_of_pairs {taken rest : Text} (pairs : Pairs taken)
    (uncut : Uncut rest) : straddles (taken ++ rest) = true := by
  induction pairs with
  | nil => exact straddles_of_uncut uncut
  | cons leads isHex pairs induction =>
      obtain ⟨byte, read⟩ := read_of_pair leads isHex
      simp only [List.cons_append, straddles, narrow_of_leads leads,
        narrow_of_leads (.inl isHex), ↓reduceIte, read]
      exact induction

theorem pairs_of_straddles {text : Text} (torn : straddles text = true) :
    ∃ taken rest, text = taken ++ rest ∧ Pairs taken ∧ Uncut rest := by
  fun_induction straddles text with
  | case1 => cases torn
  | case2 char => exact ⟨[], _, rfl, .nil, .wide (of_decide_eq_true torn)⟩
  | case3 first second rest narrow secondNarrow byte read induction =>
      obtain ⟨taken, more, rfl, pairs, uncut⟩ := induction torn
      obtain ⟨leads, isHex, _⟩ := pair_of_read read
      exact ⟨first :: second :: taken, more, rfl, .cons leads isHex pairs,
        uncut⟩
  | case4 => cases torn
  | case5 first second rest narrow wide =>
      exact ⟨[], _, rfl, .nil, .across narrow wide⟩
  | case6 first second rest wide =>
      exact ⟨[], _, rfl, .nil, .wide (of_decide_eq_true torn)⟩

theorem hexPanics_iff {text : Text} :
    hexPanics text = true ↔ Torn (Text.trim text) := by
  rw [hexPanics, Bool.and_eq_true, beq_iff_eq, Torn]
  apply and_congr_right
  intro _
  constructor
  · exact pairs_of_straddles
  · rintro ⟨taken, rest, split, pairs, uncut⟩
    rw [split]
    exact straddles_of_pairs pairs uncut

end Tearing

section Exactness

theorem pairs_of_digits : ∀ {text : Text}, text.length % 2 = 0 →
    (∀ char ∈ text, isHexDigit char = true) → Pairs text
  | [], _, _ => .nil
  | [_], even, _ => by cases even
  | first :: second :: rest, even, digits => by
      obtain ⟨leading, digits⟩ := List.forall_mem_cons.mp digits
      obtain ⟨digit, digits⟩ := List.forall_mem_cons.mp digits
      apply Pairs.cons (.inl leading) digit
      apply pairs_of_digits _ digits
      simp only [List.length_cons] at even
      omega

theorem unsigned_of_isHex {text : Text} (isHex : IsHex text) :
    '+' ∉ text := by
  intro signed
  exact absurd (isHex.2 _ signed) (by decide)

theorem isHex_of_pairs {text : Text} (pairs : Pairs text)
    (unsigned : '+' ∉ text) : IsHex text := by
  refine ⟨(byteLen_of_pairs pairs).2, ?_⟩
  induction pairs with
  | nil => exact fun char member => absurd member List.not_mem_nil
  | @cons first second rest leads isHex pairs induction =>
      simp only [List.mem_cons, not_or] at unsigned
      have leading : isHexDigit first = true :=
        leads.resolve_right (Ne.symm unsigned.1)
      have others := induction unsigned.2.2
      exact List.forall_mem_cons.mpr
        ⟨leading, List.forall_mem_cons.mpr ⟨isHex, others⟩⟩

theorem readsHex_of_plain {text : Text} (whole : ¬ Torn (Text.trim text))
    (unsigned : ¬ Signed (Text.trim text)) : ReadsHex text := by
  have plain {bytes : Bytes} (read : fromHex text = .ok bytes) :
      '+' ∉ Text.trim text := by
    intro signed
    exact unsigned ⟨(fromHex_ok read).1, signed⟩
  constructor
  · intro message panicked
    apply whole
    rw [← hexPanics_iff, ← fromHex_isPanic, panicked]
    rfl
  · constructor
    · rintro ⟨bytes, read⟩
      exact isHex_of_pairs (fromHex_ok read).1 (plain read)
    · intro isHex
      exact fromHex_of_pairs (pairs_of_digits isHex.1 isHex.2)
  · intro bytes read
    rw [(fromHex_ok read).2]
    apply List.map_congr_left
    intro char member
    exact if_neg (ne_of_mem_of_not_mem member (plain read))

/-- `from_hex` accepts exactly hexadecimal text, unless pairs lead up to a
character that the cut would tear, or a sign stands for a digit. -/
theorem from_hex_accepts (text : Text) :
    ReadsHex text ↔ ¬ Torn (Text.trim text) ∧ ¬ Signed (Text.trim text) := by
  constructor
  · intro reads
    constructor
    · intro torn
      have panics := fromHex_isPanic text
      rw [hexPanics_iff.mpr torn] at panics
      cases read : fromHex text with
      | ok bytes => simp [read] at panics
      | err error => simp [read] at panics
      | panicked message => exact reads.returns message read
    · rintro ⟨pairs, signed⟩
      have accepted := reads.accepts.mp (fromHex_of_pairs pairs)
      exact unsigned_of_isHex accepted signed
  · rintro ⟨whole, unsigned⟩
    exact readsHex_of_plain whole unsigned

/-- A sign in front of a digit. -/
theorem from_hex_accepts_sign : ¬ ReadsHex (lit "+F") := by
  intro reads
  have accepted := reads.accepts.mp ⟨[15], by decide⟩
  exact unsigned_of_isHex accepted (by decide)

end Exactness

section RoundTrip

theorem toHex_injective : Function.Injective toHex := by
  intro first second same
  have decoded := fromHex_toHex first
  rw [same, fromHex_toHex] at decoded
  exact (Outcome.ok.inj decoded).symm

theorem length_toHex (bytes : Bytes) :
    (toHex bytes).length = 2 * bytes.length := by
  induction bytes with
  | nil => rfl
  | cons byte bytes induction =>
      rw [toHex_cons, List.length_append, induction, List.length_cons]
      change 2 + 2 * bytes.length = _
      omega

theorem fromHex_surrounded {before after : Text} (bytes : Bytes)
    (opens : ∀ char ∈ before, Text.isWhitespace char = true)
    (closes : ∀ char ∈ after, Text.isWhitespace char = true) :
    fromHex (before ++ toHex bytes ++ after) = .ok bytes := by
  have trimmed : Text.trim (before ++ toHex bytes ++ after) =
      Text.trim (toHex bytes) := by
    rw [trim_toHex]
    apply Text.trim_surrounded opens closes
    exact fun char member => (plain_of_toHex member).2.1
  have read := fromHex_toHex bytes
  unfold fromHex at read ⊢
  rwa [trimmed]

/-- `from_hex` undoes `to_hex`, also within white space, and so no two byte
strings have one text. -/
theorem hex_round_trip (before after : Text)
    (opens : ∀ char ∈ before, Text.isWhitespace char = true)
    (closes : ∀ char ∈ after, Text.isWhitespace char = true) :
    (∀ bytes, fromHex (toHex bytes) = .ok bytes ∧
      fromHex (before ++ toHex bytes ++ after) = .ok bytes ∧
      (toHex bytes).length = 2 * bytes.length ∧
      Text.byteLen (toHex bytes) = 2 * bytes.length) ∧
    (∀ identity : MoonlightIdentity,
      fromHex identity.certHex = .ok identity.certPem) ∧
    Function.Injective toHex := by
  refine ⟨?_, ?_, toHex_injective⟩
  · intro bytes
    exact ⟨fromHex_toHex bytes, fromHex_surrounded bytes opens closes,
      length_toHex bytes, byteLen_toHex bytes⟩
  · intro identity
    exact fromHex_toHex identity.certPem

/-- The text of an XML element, on a line of its own. -/
theorem hex_round_trip_element :
    (∀ bytes, fromHex (toHex bytes) = .ok bytes ∧
      fromHex (lit "\r\n\t " ++ toHex bytes ++ lit "\n") = .ok bytes ∧
      (toHex bytes).length = 2 * bytes.length ∧
      Text.byteLen (toHex bytes) = 2 * bytes.length) ∧
    (∀ identity : MoonlightIdentity,
      fromHex identity.certHex = .ok identity.certPem) ∧
    Function.Injective toHex :=
  hex_round_trip (lit "\r\n\t ") (lit "\n")
    (List.all_eq_true.mp (by decide)) (List.all_eq_true.mp (by decide))

end RoundTrip

end MoonlightAddon
