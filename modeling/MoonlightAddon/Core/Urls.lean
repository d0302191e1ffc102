import MoonlightAddon.Confined
import MoonlightAddon.Core.Identity
import MoonlightAddon.Query

/-!
# The URLs of the requests

The text each request of `nvhttp.rs` asks for, and the parameters it is meant
to carry.
-/

namespace MoonlightAddon

open NvHttp Query

namespace HttpRequest

/-- The text handed to `reqwest`, whose URL parser drops tabs and line breaks
(`stripped`) and percent-encodes what a URL may not contain. -/
def url : HttpRequest → Text
  | .serverInfo host httpPort uniqueId uuid =>
      lit "http://" ++ host ++ lit ":" ++ decimal httpPort.toNat ++
        lit "/serverinfo?uniqueid=" ++ uniqueId ++ lit "&uuid=" ++ uuid
  | .serverInfoHttps host httpsPort uniqueId uuid =>
      lit "https://" ++ host ++ lit ":" ++ decimal httpsPort.toNat ++
        lit "/serverinfo?uniqueid=" ++ uniqueId ++ lit "&uuid=" ++ uuid
  | .appList host httpsPort uniqueId uuid =>
      lit "https://" ++ host ++ lit ":" ++ decimal httpsPort.toNat ++
        lit "/applist?uniqueid=" ++ uniqueId ++ lit "&uuid=" ++ uuid
  | .launch host httpsPort uniqueId uuid appId width height fps rikey rikeyId =>
      lit "https://" ++ host ++ lit ":" ++ decimal httpsPort.toNat ++
        lit "/launch?uniqueid=" ++ uniqueId ++ lit "&uuid=" ++ uuid ++
        lit "&appid=" ++ decimal appId.toNat ++
        lit "&mode=" ++ decimal width.toNat ++ lit "x" ++
        decimal height.toNat ++ lit "x" ++ decimal fps.toNat ++
        lit "&additionalStates=1&sops=0&rikey=" ++ rikey ++
        lit "&rikeyid=" ++ decimalInt rikeyId.toInt ++
        lit "&localAudioPlayMode=0&surroundAudioInfo=196610" ++
        lit "&remoteControllersBitmap=0&gcmap=0&hdrMode=0"
  | .cancel host httpsPort uniqueId uuid =>
      lit "https://" ++ host ++ lit ":" ++ decimal httpsPort.toNat ++
        lit "/cancel?uniqueid=" ++ uniqueId ++ lit "&uuid=" ++ uuid
  | .pair host httpPort query =>
      lit "http://" ++ host ++ lit ":" ++ decimal httpPort.toNat ++
        lit "/pair?" ++
        (lit "&").intercalate (query.map fun (k, v) => k ++ lit "=" ++ v)

/-- The parameters the code puts in, in order. -/
def parameters : HttpRequest → List (Text × Text)
  | .serverInfo _ _ uniqueId uuid
  | .serverInfoHttps _ _ uniqueId uuid
  | .appList _ _ uniqueId uuid
  | .cancel _ _ uniqueId uuid =>
      [(lit "uniqueid", uniqueId), (lit "uuid", uuid)]
  | .launch _ _ uniqueId uuid appId width height fps rikey rikeyId =>
      [(lit "uniqueid", uniqueId), (lit "uuid", uuid),
        (lit "appid", decimal appId.toNat),
        (lit "mode", decimal width.toNat ++ lit "x" ++
          decimal height.toNat ++ lit "x" ++ decimal fps.toNat),
        (lit "additionalStates", lit "1"), (lit "sops", lit "0"),
        (lit "rikey", rikey), (lit "rikeyid", decimalInt rikeyId.toInt),
        (lit "localAudioPlayMode", lit "0"),
        (lit "surroundAudioInfo", lit "196610"),
        (lit "remoteControllersBitmap", lit "0"), (lit "gcmap", lit "0"),
        (lit "hdrMode", lit "0")]
  | .pair _ _ query => query

/-- The URL in front of its query. -/
def address : HttpRequest → Text
  | .serverInfo host httpPort _ _ =>
      lit "http://" ++ host ++ lit ":" ++ decimal httpPort.toNat ++
        lit "/serverinfo"
  | .serverInfoHttps host httpsPort _ _ =>
      lit "https://" ++ host ++ lit ":" ++ decimal httpsPort.toNat ++
        lit "/serverinfo"
  | .appList host httpsPort _ _ =>
      lit "https://" ++ host ++ lit ":" ++ decimal httpsPort.toNat ++
        lit "/applist"
  | .launch host httpsPort _ _ _ _ _ _ _ _ =>
      lit "https://" ++ host ++ lit ":" ++ decimal httpsPort.toNat ++
        lit "/launch"
  | .cancel host httpsPort _ _ =>
      lit "https://" ++ host ++ lit ":" ++ decimal httpsPort.toNat ++
        lit "/cancel"
  | .pair host httpPort _ =>
      lit "http://" ++ host ++ lit ":" ++ decimal httpPort.toNat ++
        lit "/pair"

theorem url_eq (request : HttpRequest) :
    request.url =
      request.address ++ '?' :: urlSeparators.render request.parameters := by
  cases request with
  | pair host httpPort query =>
      unfold url address parameters
      simp only [lit, String.reduceToList, List.append_assoc, List.cons_append,
        List.nil_append]
      rfl
  | _ =>
      unfold url address parameters
      simp only [Separators.render, Separators.renderParameter, urlSeparators,
        lit, String.reduceToList, List.map_cons, List.map_nil,
        List.intercalate_cons_cons, List.intercalate_singleton,
        List.append_assoc, List.cons_append, List.nil_append]

end HttpRequest

/-- The characters of the values the code itself puts into a URL. -/
def urlSafe (char : Char) : Bool :=
  char.isAlphanum || char == '-'

abbrev UrlSafe (text : Text) : Prop :=
  text.all urlSafe = true

theorem UrlSafe.notMem {text : Text} (safe : UrlSafe text) {mark : Char}
    (isMark : urlSafe mark = false) : mark ∉ text := by
  intro inside
  rw [List.all_eq_true.mp safe mark inside] at isMark
  cases isMark

theorem urlSafe_append {first second : Text} (before : UrlSafe first)
    (after : UrlSafe second) : UrlSafe (first ++ second) := by
  rw [UrlSafe, List.all_append, before, after]
  rfl

theorem urlSafe_decimal (value : Nat) : UrlSafe (decimal value) := by
  rw [UrlSafe, List.all_eq_true]
  intro char member
  have digit := Nat.isDigit_of_mem_toDigits (by decide) (by decide) member
  simp [urlSafe, Char.isAlphanum, digit]

theorem urlSafe_decimalInt (value : Int) : UrlSafe (decimalInt value) := by
  unfold decimalInt
  by_cases negative : value < 0
  · rw [if_pos negative]
    rw [UrlSafe, List.all_cons, urlSafe_decimal]
    rfl
  · rw [if_neg negative]
    exact urlSafe_decimal _

theorem urlSafe_hexDigit (value : Nat) :
    urlSafe (hexDigitUpper value) = true ∧
      urlSafe (hexDigitUpper value).toLower = true := by
  have table : (lit "0123456789ABCDEF").all (fun char =>
      urlSafe char && urlSafe char.toLower) = true := by
    decide
  have found := List.all_eq_true.mp table _ (hexDigitUpper_mem value)
  rwa [Bool.and_eq_true] at found

theorem urlSafe_toHex (bytes : Bytes) : UrlSafe (toHex bytes) := by
  rw [UrlSafe, List.all_eq_true]
  intro char member
  obtain ⟨byte, _, digit⟩ := List.mem_flatMap.mp member
  simp only [hexByteUpper, List.mem_cons, List.not_mem_nil, or_false] at digit
  obtain rfl | rfl := digit <;> exact (urlSafe_hexDigit _).1

theorem urlSafe_hexBytesLower (bytes : Bytes) :
    UrlSafe (bytes.flatMap hexByteLower) := by
  rw [UrlSafe, List.all_eq_true]
  intro char member
  obtain ⟨byte, _, digit⟩ := List.mem_flatMap.mp member
  simp only [hexByteLower, hexByteUpper, List.map_cons, List.map_nil,
    List.mem_cons, List.not_mem_nil, or_false] at digit
  obtain rfl | rfl := digit <;> exact (urlSafe_hexDigit _).2

theorem urlSafe_take {text : Text} (safe : UrlSafe text) (count : Nat) :
    UrlSafe (text.take count) := by
  rw [UrlSafe, List.all_eq_true] at safe ⊢
  exact fun char member => safe char (List.mem_of_mem_take member)

theorem urlSafe_drop {text : Text} (safe : UrlSafe text) (count : Nat) :
    UrlSafe (text.drop count) := by
  rw [UrlSafe, List.all_eq_true] at safe ⊢
  exact fun char member => safe char (List.mem_of_mem_drop member)

theorem urlSafe_formatUuid (bytes : Bytes) : UrlSafe (formatUuid bytes) := by
  have dash : UrlSafe (lit "-") := by decide
  unfold formatUuid
  apply_rules [urlSafe_append, urlSafe_take, urlSafe_drop, dash,
    urlSafe_hexBytesLower]

/-- What a URL parser drops wherever it stands. -/
def dropped (char : Char) : Bool :=
  char == '\t' || char == '\n' || char == '\r'

/-- What is sent of the text of a URL. -/
def stripped (url : Text) : Text :=
  url.filter fun char => !dropped char

theorem mem_stripped {char : Char} {url : Text} (kept : dropped char = false) :
    char ∈ stripped url ↔ char ∈ url := by
  simp [stripped, kept]

theorem stripped_append (first second : Text) :
    stripped (first ++ second) = stripped first ++ stripped second :=
  List.filter_append ..

theorem stripped_cons {char : Char} (kept : dropped char = false)
    (text : Text) : stripped (char :: text) = char :: stripped text :=
  List.filter_cons_of_pos (by rw [kept]; rfl)

theorem stripped_eq_self {text : Text}
    (kept : ∀ char ∈ text, dropped char = false) : stripped text = text := by
  apply List.filter_eq_self.mpr
  intro char member
  rw [kept char member]
  rfl

theorem dropped_of_urlSafe {char : Char} (safe : urlSafe char = true) :
    dropped char = false := by
  cases gone : dropped char with
  | false => rfl
  | true =>
      simp only [dropped, Bool.or_eq_true, beq_iff_eq] at gone
      obtain (rfl | rfl) | rfl := gone <;> cases safe

/-- A parameter that is read as it was written, in any URL. -/
structure ReadsBack (parameter : Text × Text) : Prop where
  plain : urlSeparators.Plain parameter
  unbroken : '#' ∉ parameter.1 ∧ '#' ∉ parameter.2

theorem readsBack_of_urlSafe {parameter : Text × Text}
    (name : UrlSafe parameter.1) (value : UrlSafe parameter.2) :
    ReadsBack parameter where
  plain := {
    name := ⟨name.notMem (by decide), name.notMem (by decide)⟩
    value := value.notMem (by decide) }
  unbroken := ⟨name.notMem (by decide), value.notMem (by decide)⟩

theorem fragment_notMem_render {parameters : List (Text × Text)}
    (unbroken : ∀ parameter ∈ parameters,
      '#' ∉ parameter.1 ∧ '#' ∉ parameter.2) :
    '#' ∉ urlSeparators.render parameters := by
  intro inside
  obtain between | within | ⟨parameter, member, found⟩ :=
    Separators.mem_render inside
  · exact absurd between (by decide)
  · exact absurd within (by decide)
  · exact found.elim (unbroken parameter member).1 (unbroken parameter member).2

theorem stripped_render {parameters : List (Text × Text)}
    (safe : ∀ parameter ∈ parameters,
      UrlSafe parameter.1 ∧ UrlSafe parameter.2) :
    stripped (urlSeparators.render parameters) =
      urlSeparators.render parameters := by
  apply stripped_eq_self
  intro char inside
  obtain rfl | rfl | ⟨parameter, member, found⟩ := Separators.mem_render inside
  · rfl
  · rfl
  · obtain ⟨name, value⟩ := safe parameter member
    apply dropped_of_urlSafe
    obtain found | found := found
    · exact List.all_eq_true.mp name char found
    · exact List.all_eq_true.mp value char found

namespace HttpRequest

/-- The parameters are read back from the URL. -/
def Faithful (request : HttpRequest) : Prop :=
  urlSeparators.parse (part request.url) = request.parameters

variable {request : HttpRequest}

theorem faithful_of_readsBack
    (address : '?' ∉ request.address ∧ '#' ∉ request.address)
    (nonempty : request.parameters ≠ [])
    (readsBack : ∀ parameter ∈ request.parameters, ReadsBack parameter) :
    request.Faithful := by
  have unbroken := fragment_notMem_render fun parameter member =>
    (readsBack parameter member).unbroken
  rw [Faithful, url_eq, part_append_cons address unbroken]
  exact Separators.parse_render nonempty fun parameter member =>
    (readsBack parameter member).plain

/-- A value that is read back contains neither `&` nor `#`. -/
theorem Faithful.value (faithful : request.Faithful)
    {parameter : Text × Text} (member : parameter ∈ request.parameters) :
    '&' ∉ parameter.2 ∧ '#' ∉ parameter.2 := by
  rw [← faithful] at member
  constructor
  · exact Separators.between_notMem_of_parse member
  · intro inside
    exact fragment_notMem_part _ (Separators.mem_of_parse member inside)

/-- With a `?` in front of its own, the query begins too early. -/
theorem not_faithful_of_early {front rest : Text}
    (address : request.address = front ++ rest) (early : '?' ∈ front)
    (unbroken : '#' ∉ request.address)
    (further : '#' ∉ urlSeparators.render request.parameters) :
    ¬ request.Faithful := by
  intro faithful
  rw [address, List.mem_append, not_or] at unbroken
  have query : part request.url = part front ++
      (rest ++ '?' :: urlSeparators.render request.parameters) := by
    rw [url_eq, address, List.append_assoc]
    apply part_append early unbroken.1
    simp [unbroken.2, further]
  have bound := @Separators.length_le_render_parse _ _ urlSeparators
    (part request.url)
  rw [faithful, query] at bound
  simp only [List.length_append, List.length_cons] at bound
  omega

end HttpRequest

end MoonlightAddon
