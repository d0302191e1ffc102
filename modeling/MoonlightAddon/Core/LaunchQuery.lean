import MoonlightAddon.Core.Requests
import MoonlightAddon.Recorder

/-!
# What `/launch` tells the host

The session key, its id and the video mode reach the host in the query of
`/launch`, and the C core in a `STREAM_CONFIGURATION`.
-/

namespace MoonlightAddon

namespace NvHttp

open HttpRequest Query Session

/-- What the host reads off the query. -/
structure Told where
  rikey : Bytes
  rikeyId : Int32
  width : Nat
  height : Nat
  fps : Nat

/-- `str::parse::<i32>`. -/
def parseInt32 (text : Text) : Option Int32 :=
  match text with
  | ['-'] => none
  | '-' :: digits =>
      (digitsValue decimalDigit 10 (2 ^ 31 + 1) 0 digits).toOption.map
        fun value => Int32.ofInt (-value)
  | _ => (parseUnsigned (2 ^ 31) text).map fun value => Int32.ofNat value

def hexValue (text : Text) : Option Bytes :=
  match fromHex text with
  | .ok bytes => some bytes
  | _ => none

/-- `WxHxF`. -/
def modeValue (text : Text) : Option (Nat × Nat × Nat) :=
  match text.splitOn 'x' with
  | [width, height, fps] => do
      let width ← parseUnsigned (2 ^ 32) width
      let height ← parseUnsigned (2 ^ 32) height
      let fps ← parseUnsigned (2 ^ 32) fps
      return (width, height, fps)
  | _ => none

def toldBy (parameters : List (Text × Text)) : Option Told := do
  let rikey ← (only (lit "rikey") parameters).bind hexValue
  let rikeyId ← (only (lit "rikeyid") parameters).bind parseInt32
  let (width, height, fps) ← (only (lit "mode") parameters).bind modeValue
  return { rikey, rikeyId, width, height, fps }

/-- How a host reads a name or a value.  What is safe in a URL it leaves alone;
percent-decoding is an example. -/
structure Decoding where
  decode : Text → Text
  plain : ∀ text, UrlSafe text → decode text = text

/-- Reading each as it stands. -/
instance : Inhabited Decoding where
  default := { decode := id, plain := fun _ _ => rfl }

def Decoding.parameters (decoding : Decoding) (query : Text) :
    List (Text × Text) :=
  (urlSeparators.parse query).map (Prod.map decoding.decode decoding.decode)

theorem Decoding.parameters_append (decoding : Decoding)
    (first second : Text) :
    decoding.parameters (first ++ '&' :: second) =
      decoding.parameters first ++ decoding.parameters second := by
  have split : urlSeparators.parse (first ++ '&' :: second) =
      urlSeparators.parse first ++ urlSeparators.parse second :=
    Separators.parse_append_cons first second
  rw [parameters, split, List.map_append]
  rfl

/-- A parameter that is missing, occurs twice or is malformed tells nothing. -/
def decodeLaunch (decoding : Decoding) (url : Text) : Option Told :=
  toldBy (decoding.parameters (part (stripped url)))

/-- Host and C core are told the same session. -/
structure Agrees (told : Told) (config : StreamConfiguration) : Prop where
  key : told.rikey = config.remoteInputAesKey.map Int8.toUInt8
  id : 1 ≤ told.rikeyId.toInt ∧ told.rikeyId.toInt ≤ 0x7fffffff
  iv : BigEndian.i32 told.rikeyId ++ List.replicate 12 0 =
    config.remoteInputAesIv.map Int8.toUInt8
  width : (told.width : Int) = config.width.toInt
  height : (told.height : Int) = config.height.toInt
  fps : (told.fps : Int) = config.fps.toInt
  refresh : config.clientRefreshRateX100.toInt = 100 * config.fps.toInt

/-- The requests sent along a trace. -/
def requestsOf (trace : List (Event sidecar)) : List HttpRequest :=
  trace.filterMap fun event =>
    match event.command with
    | .request request => some request
    | _ => none

section Decoding

theorem hexValue_toHex (bytes : Bytes) : hexValue (toHex bytes) = some bytes := by
  rw [hexValue, fromHex_toHex]

theorem parseInt32_unsigned {text : Text} (unsigned : '-' ∉ text) :
    parseInt32 text =
      (parseUnsigned (2 ^ 31) text).map fun value => Int32.ofNat value := by
  unfold parseInt32
  split
  · simp at unsigned
  · simp at unsigned
  · rfl

theorem notMem_decimal {mark : Char} (isMark : mark.isDigit = false)
    (value : Nat) : mark ∉ decimal value := by
  intro inside
  rw [Nat.isDigit_of_mem_toDigits (by decide) (by decide) inside] at isMark
  cases isMark

theorem parseInt32_decimalInt {value : Int32} (positive : 1 ≤ value.toInt) :
    parseInt32 (decimalInt value.toInt) = some value := by
  have bound := value.toInt_lt
  have unsigned : decimalInt value.toInt = decimal value.toInt.toNat := by
    rw [decimalInt, if_neg (by omega)]
    congr 1
    omega
  have same : Int32.ofNat value.toInt.toNat = value := by
    apply Int32.toInt_inj.mp
    rw [Int32.toInt_ofNat_of_lt (by omega)]
    omega
  rw [unsigned, parseInt32_unsigned (notMem_decimal (by decide) _), decimal,
    parseUnsigned_toDigits (by omega), Option.map_some, same]

theorem modeValue_mode {width height fps : Nat} (small : width < 2 ^ 32 ∧
      height < 2 ^ 32 ∧ fps < 2 ^ 32) :
    modeValue (decimal width ++ lit "x" ++ decimal height ++ lit "x" ++
      decimal fps) = some (width, height, fps) := by
  have plain : ∀ value, 'x' ∉ decimal value := notMem_decimal (by decide)
  have pieces : (decimal width ++ lit "x" ++ decimal height ++ lit "x" ++
      decimal fps).splitOn 'x' = [decimal width, decimal height, decimal fps] := by
    simp only [lit, String.reduceToList, List.append_assoc, List.cons_append,
      List.nil_append]
    rw [List.splitOn_append_cons_self_of_not_mem (plain width),
      List.splitOn_append_cons_self_of_not_mem (plain height),
      List.splitOn_eq_singleton (plain fps)]
  rw [modeValue, pieces]
  simp only [decimal, parseUnsigned_toDigits small.1,
    parseUnsigned_toDigits small.2.1, parseUnsigned_toDigits small.2.2]
  rfl

end Decoding

section Casts

/-- A cast to the signed type of the same width keeps the lower half. -/
theorem toInt_eq_toNat_iff {width : Nat} (bits : BitVec width) :
    bits.toInt = (bits.toNat : Int) ↔ 2 * bits.toNat < 2 ^ width := by
  rw [BitVec.toInt_eq_toNat_cond]
  by_cases small : 2 * bits.toNat < 2 ^ width
  · rw [if_pos small]
    exact iff_of_true rfl small
  · rw [if_neg small]
    have bound := bits.isLt
    apply iff_of_false _ small
    omega

theorem toInt_toInt16_iff (value : UInt16) :
    value.toInt16.toInt = (value.toNat : Int) ↔ value.toNat < 2 ^ 15 := by
  apply (toInt_eq_toNat_iff value.toBitVec).trans
  rw [UInt16.toNat_toBitVec]
  omega

theorem toInt_toInt32_iff (value : UInt32) :
    value.toInt32.toInt = (value.toNat : Int) ↔ value.toNat < 2 ^ 31 := by
  apply (toInt_eq_toNat_iff value.toBitVec).trans
  rw [UInt32.toNat_toBitVec]
  omega

end Casts

section Configuration

theorem one_le_rikeyIdOf (bytes : Bytes) : 1 ≤ (rikeyIdOf bytes).toInt := by
  unfold rikeyIdOf
  by_cases less : BigEndian.toI32 bytes &&& 0x7fffffff < 1
  · rw [if_pos less]
    decide
  · rw [if_neg less]
    rw [Int32.lt_iff_toInt_lt] at less
    exact Int.not_lt.mp less

theorem toInt_toInt32 (value : UInt16) :
    value.toUInt32.toInt32.toInt = (value.toNat : Int) := by
  have bound := value.toNat_lt
  have same : value.toUInt32.toNat = value.toNat := value.toNat_toUInt32
  rw [← same]
  apply (toInt_toInt32_iff value.toUInt32).mpr
  omega

/-- What the C core is told about a launched session. -/
theorem agrees_streamConfiguration {doc : MoonlightConnectDoc}
    {info : ServerInfo} {launched : LaunchSession} {idBytes : Bytes}
    (id : launched.aesKeyId = rikeyIdOf idBytes) :
    Agrees {
        rikey := launched.aesKey.1
        rikeyId := launched.aesKeyId
        width := doc.width.toNat
        height := doc.height.toNat
        fps := doc.fps.toNat }
      (Stream.streamConfiguration (streamOptions doc info launched)) where
  key := by
    simp [Stream.streamConfiguration, streamOptions, Function.comp_def]
  id := by
    have upper := launched.aesKeyId.toInt_lt
    have lower := one_le_rikeyIdOf idBytes
    rw [← id] at lower
    exact ⟨lower, Int.le_sub_one_of_lt upper⟩
  iv := by
    simp [Stream.streamConfiguration, streamOptions, LaunchSession.aesIv,
      Function.comp_def]
    rfl
  width := (toInt_toInt32 doc.width).symm
  height := (toInt_toInt32 doc.height).symm
  fps := (toInt_toInt32 doc.fps).symm
  refresh := by
    have bound := doc.fps.toNat_lt
    have fps := toInt_toInt32 doc.fps
    simp only [Stream.streamConfiguration, streamOptions, Int32.toInt_mul, fps]
    rw [show (100 : Int32).toInt = 100 from rfl, Int.bmod_eq_of_le] <;> omega

end Configuration

/-- The URL up to the unique id. -/
def launchFront (host : Text) (httpsPort : UInt16) (uniqueId : Text) : Text :=
  lit "https://" ++ host ++ lit ":" ++ decimal httpsPort.toNat ++
    lit "/launch?uniqueid=" ++ uniqueId

/-- The names that are read. -/
def launchNames : List Text :=
  [lit "rikey", lit "rikeyid", lit "mode"]

section Reading

variable {host : Text} {port : UInt16} {uniqueId uuid : Text}
  {appId width height fps : UInt32} {aesKey : Bytes} {aesKeyId : Int32}

/-- The parameters after the unique id. -/
def launchRest (uuid : Text) (appId width height fps : UInt32) (rikey : Text)
    (rikeyId : Int32) : List (Text × Text) :=
  (HttpRequest.launch [] 0 [] uuid appId width height fps rikey
    rikeyId).parameters.tail

theorem url_launch (host : Text) (port : UInt16)
    (uniqueId uuid : Text) (appId width height fps : UInt32) (rikey : Text)
    (rikeyId : Int32) :
    (HttpRequest.launch host port uniqueId uuid appId width height fps rikey
        rikeyId).url =
      launchFront host port uniqueId ++ '&' :: urlSeparators.render
        (launchRest uuid appId width height fps rikey rikeyId) := by
  rw [url_eq]
  unfold launchFront launchRest address parameters
  simp only [Separators.render, Separators.renderParameter, urlSeparators, lit,
    String.reduceToList, List.map_cons, List.map_nil, List.tail_cons,
    List.intercalate_cons_cons, List.intercalate_singleton, List.append_assoc,
    List.cons_append, List.nil_append]

theorem safe_launchRest (drawn : Bytes) (appId width height fps : UInt32)
    (aesKey : Bytes) (aesKeyId : Int32) :
    ∀ parameter ∈ launchRest (formatUuid drawn) appId width height fps
      (toHex aesKey) aesKeyId, UrlSafe parameter.1 ∧ UrlSafe parameter.2 := by
  obtain ⟨rest, split, safe⟩ := parameters_of_built
    (@Built.launch ⟨[], [], []⟩ [] 0 drawn appId width height fps aesKey
      aesKeyId)
  have same : launchRest (formatUuid drawn) appId width height fps
      (toHex aesKey) aesKeyId = rest := congrArg List.tail split
  rwa [same]

/-- The parameters the code itself adds are read as they are. -/
theorem parameters_launchRest (decoding : Decoding) (drawn : Bytes)
    (appId width height fps : UInt32) (aesKey : Bytes) (aesKeyId : Int32) :
    decoding.parameters (urlSeparators.render (launchRest (formatUuid drawn)
        appId width height fps (toHex aesKey) aesKeyId)) =
      launchRest (formatUuid drawn) appId width height fps (toHex aesKey)
        aesKeyId := by
  have safe := safe_launchRest drawn appId width height fps aesKey aesKeyId
  have nonempty : launchRest (formatUuid drawn) appId width height fps
      (toHex aesKey) aesKeyId ≠ [] := List.cons_ne_nil _ _
  have plain := fun parameter member => (readsBack_of_urlSafe
    (safe parameter member).1 (safe parameter member).2).plain
  have same : ∀ parameter ∈ launchRest (formatUuid drawn) appId width height fps
      (toHex aesKey) aesKeyId,
      Prod.map decoding.decode decoding.decode parameter = id parameter := by
    intro parameter member
    obtain ⟨name, value⟩ := safe parameter member
    exact Prod.ext (decoding.plain _ name) (decoding.plain _ value)
  rw [Decoding.parameters, Separators.parse_render nonempty plain,
    List.map_congr_left same, List.map_id]

theorem parameters_url_launch (decoding : Decoding) {drawn : Bytes}
    (unbroken : '#' ∉ launchFront host port uniqueId) :
    decoding.parameters (part (stripped (HttpRequest.launch host port uniqueId
        (formatUuid drawn) appId width height fps (toHex aesKey)
        aesKeyId).url)) =
      decoding.parameters
          (part (stripped (launchFront host port uniqueId))) ++
        launchRest (formatUuid drawn) appId width height fps (toHex aesKey)
          aesKeyId := by
  have safe := safe_launchRest drawn appId width height fps aesKey aesKeyId
  have begun : '?' ∈ stripped (launchFront host port uniqueId) := by
    rw [mem_stripped rfl]
    unfold launchFront
    simp [lit]
  have uncut : '#' ∉ stripped (launchFront host port uniqueId) := by
    rwa [mem_stripped rfl]
  have further := fragment_notMem_render fun parameter member =>
    (readsBack_of_urlSafe (safe parameter member).1
      (safe parameter member).2).unbroken
  rw [url_launch, stripped_append, stripped_cons rfl, stripped_render safe,
    part_append begun uncut (by simp [further]), decoding.parameters_append,
    parameters_launchRest]

theorem only_launchRest (uuid : Text) (appId width height fps : UInt32)
    (rikey : Text) (rikeyId : Int32) :
    only (lit "rikey")
        (launchRest uuid appId width height fps rikey rikeyId) =
      some rikey ∧
    only (lit "rikeyid")
        (launchRest uuid appId width height fps rikey rikeyId) =
      some (decimalInt rikeyId.toInt) ∧
    only (lit "mode")
        (launchRest uuid appId width height fps rikey rikeyId) =
      some (decimal width.toNat ++ lit "x" ++ decimal height.toNat ++
        lit "x" ++ decimal fps.toNat) :=
  ⟨rfl, rfl, rfl⟩

variable {before : List (Text × Text)}

/-- Read once, the parameters tell what was put in. -/
theorem toldBy_of_absent
    (absent : ∀ parameter ∈ before, parameter.1 ∉ launchNames)
    (positive : 1 ≤ aesKeyId.toInt) :
    toldBy (before ++ launchRest uuid appId width height fps (toHex aesKey)
        aesKeyId) =
      some {
        rikey := aesKey
        rikeyId := aesKeyId
        width := width.toNat
        height := height.toNat
        fps := fps.toNat } := by
  obtain ⟨rikey, rikeyId, mode⟩ := only_launchRest uuid appId width height fps
    (toHex aesKey) aesKeyId
  have others : ∀ name ∈ launchNames, ∀ parameter ∈ before,
      parameter.1 ≠ name := by
    rintro name named parameter member rfl
    exact absent parameter member named
  rw [toldBy, only_append_of_absent (others _ (by decide)),
    only_append_of_absent (others _ (by decide)),
    only_append_of_absent (others _ (by decide)), rikey, rikeyId, mode]
  simp only [Option.bind_some, hexValue_toHex, parseInt32_decimalInt positive,
    modeValue_mode ⟨width.toNat_lt, height.toNat_lt, fps.toNat_lt⟩]
  rfl

/-- A name that came before makes one of them ambiguous. -/
theorem toldBy_of_present {parameter : Text × Text}
    (present : parameter ∈ before) (named : parameter.1 ∈ launchNames) :
    toldBy (before ++ launchRest uuid appId width height fps (toHex aesKey)
      aesKeyId) = none := by
  obtain ⟨rikey, rikeyId, mode⟩ := only_launchRest uuid appId width height fps
    (toHex aesKey) aesKeyId
  simp only [launchNames, List.mem_cons, List.not_mem_nil, or_false] at named
  unfold toldBy
  obtain named | named | named := named
  · rw [only_append_of_present present named rikey]
    rfl
  · rw [only_append_of_present present named rikeyId]
    simp
  · rw [only_append_of_present present named mode]
    simp

end Reading

section Launching

variable {libraries : Libraries} {identity : MoonlightIdentity} {host : Text}
  {port : UInt16} {appId width height fps : UInt32}

/-- The request of a launch, and the session it returns. -/
def Launched (identity : MoonlightIdentity) (host : Text) (port : UInt16)
    (appId width height fps : UInt32) (launched : LaunchSession)
    (request : HttpRequest) : Prop :=
  ∃ uuidBytes idBytes : Bytes,
    launched.aesKeyId = rikeyIdOf idBytes ∧
      request = .launch host port identity.uniqueId (formatUuid uuidBytes)
        appId width height fps (toHex launched.aesKey.1) launched.aesKeyId

/-- What a call has sent when it returns a session. -/
def LaunchedBy (identity : MoonlightIdentity) (host : Text) (port : UInt16)
    (appId width height fps : UInt32) :
    Outcome LaunchSession → List (Event sidecar) → Prop
  | .ok launched, trace => ∃ request, requestsOf trace = [request] ∧
      Launched identity host port appId width height fps launched request
  | _, _ => True

theorem records_newUuid {past : List (Event sidecar)}
    {post : Outcome Text → List (Event sidecar) → Prop}
    (holds : ∀ drawn reply, post (.ok (formatUuid drawn))
      (past ++ [⟨.randBytes 16, reply⟩])) :
    (Typestate.recorder sidecar).Follows newUuid post past := by
  apply Typestate.follows_bind
  apply Typestate.follows_bind
  apply Typestate.records_perform
  intro reply
  cases reply with
  | ok bytes => exact holds bytes.1 _
  | error error => exact holds _ _

theorem records_launch :
    (Typestate.recorder sidecar).Follows
      (launch libraries identity host port appId width height fps)
      (LaunchedBy identity host port appId width height fps)
      ([] : List (Event sidecar)) := by
  apply Typestate.follows_bind
  apply Typestate.records_performResult
  intro keyReply
  cases keyReply with
  | error error => trivial
  | ok aesKey =>
  apply Typestate.follows_bind
  apply Typestate.records_performResult
  intro idReply
  cases idReply with
  | error error => trivial
  | ok idBytes =>
  apply Typestate.follows_bind
  apply records_newUuid
  intro uuidBytes uuidReply
  apply Typestate.follows_bind
  cases httpsClient libraries identity with
  | err error => trivial
  | panicked message => trivial
  | ok client =>
  apply Typestate.follows_bind
  apply Typestate.records_performResult
  intro reply
  cases reply with
  | sendFailed error => trivial
  | readFailed error => trivial
  | body text =>
  apply Typestate.follows_bind
  cases checkLaunch text with
  | err error => trivial
  | panicked message => trivial
  | ok checked => exact ⟨_, rfl, uuidBytes, idBytes.1, rfl, rfl⟩

/-- A host that starts the session. -/
def launchedBody : Text :=
  lit "<root status_code=\"200\"><gamesession>1</gamesession></root>"

/-- Every key can be drawn, with the id 1. -/
theorem run_launch (bodies : (loop : LoopName) → Program sidecar loop.Result)
    (aesKey : Drawn 16) :
    ∃ trace, Program.Run bodies
        (launch default identity host port appId width height fps) trace
        (.ret (.ok { aesKey, aesKeyId := 1 })) ∧
      requestsOf trace = [.launch host port identity.uniqueId
        (formatUuid (drawnOf 0).1) appId width height fps (toHex aesKey.1)
        1] := by
  refine ⟨[⟨.randBytes 16, .ok aesKey⟩,
    ⟨.randBytes 4, .ok ⟨[0, 0, 0, 0], rfl⟩⟩, ⟨.randBytes 16, .ok (drawnOf 0)⟩,
    ⟨.request (.launch host port identity.uniqueId
      (formatUuid (drawnOf 0).1) appId width height fps (toHex aesKey.1) 1),
      .body launchedBody⟩], ?_, rfl⟩
  apply Program.Run.step (.act _)
  apply Program.Run.step (.act _)
  apply Program.Run.step (.act _)
  apply Program.Run.step (.act _)
  have checked : checkLaunch launchedBody = .ok () := by decide +kernel
  change Program.Run bodies
    (do lift (checkLaunch launchedBody); return { aesKey, aesKeyId := 1 } :
      Rust LaunchSession) [] _
  rw [checked]
  exact .refl _

end Launching

/-- Whatever `launch` draws and is answered, its query tells the host what
`start_stream` tells the C core. -/
def SameSession (decoding : Decoding) (identity : MoonlightIdentity)
    (doc : MoonlightConnectDoc) : Prop :=
  ∀ (libraries : Libraries)
    (bodies : (loop : LoopName) → Program sidecar loop.Result)
    (appId : UInt32) (info : ServerInfo) (trace : List (Event sidecar))
    (launched : LaunchSession),
    Program.Run bodies (launch libraries identity doc.host doc.httpsPort appId
      doc.width.toUInt32 doc.height.toUInt32 doc.fps.toUInt32) trace
      (.ret (.ok launched)) →
    ∃ request told, requestsOf trace = [request] ∧
      decodeLaunch decoding request.url = some told ∧
      Agrees told (Stream.streamConfiguration (streamOptions doc info launched))

section Sessions

variable {decoding : Decoding} {identity : MoonlightIdentity}
  {doc : MoonlightConnectDoc}

/-- Nothing but the query itself has a name that is read. -/
structure Unrivalled (decoding : Decoding) (identity : MoonlightIdentity)
    (doc : MoonlightConnectDoc) : Prop where
  host : '#' ∉ doc.host
  uniqueId : '#' ∉ identity.uniqueId
  names : ∀ parameter ∈ decoding.parameters (part (stripped
      (launchFront doc.host doc.httpsPort identity.uniqueId))),
    parameter.1 ∉ launchNames

theorem notMem_launchFront (host : '#' ∉ doc.host)
    (uniqueId : '#' ∉ identity.uniqueId) :
    '#' ∉ launchFront doc.host doc.httpsPort identity.uniqueId := by
  have port : '#' ∉ decimal doc.httpsPort.toNat :=
    (urlSafe_decimal _).notMem (by decide)
  unfold launchFront
  simp [lit, host, uniqueId, port]

theorem sameSession_of_unrivalled
    (unrivalled : Unrivalled decoding identity doc) :
    SameSession decoding identity doc := by
  intro libraries bodies appId info trace launched run
  obtain ⟨request, sent, uuidBytes, idBytes, id, rfl⟩ :=
    Typestate.recorded_of_run run records_launch
  have positive := one_le_rikeyIdOf idBytes
  rw [← id] at positive
  refine ⟨_, _, sent, ?_, agrees_streamConfiguration id⟩
  rw [decodeLaunch, parameters_url_launch decoding (notMem_launchFront
    unrivalled.host unrivalled.uniqueId), toldBy_of_absent unrivalled.names positive]
  simp

/-- Whatever the key is, the query would have to tell it. -/
theorem told_of_sameSession (same : SameSession decoding identity doc)
    (aesKey : Drawn 16) :
    ∃ told, told.rikey = aesKey.1 ∧
      decodeLaunch decoding (HttpRequest.launch doc.host doc.httpsPort
        identity.uniqueId (formatUuid (drawnOf 0).1) 0 doc.width.toUInt32
        doc.height.toUInt32 doc.fps.toUInt32 (toHex aesKey.1) 1).url =
          some told := by
  obtain ⟨trace, run, sent⟩ := @run_launch identity doc.host doc.httpsPort 0
    doc.width.toUInt32 doc.height.toUInt32 doc.fps.toUInt32
    (@Program.repeatLoop sidecar) aesKey
  obtain ⟨request, told, alone, decoded, agrees⟩ :=
    same _ _ _ ⟨[], [], [], 0, 0, [], 0, 0⟩ _ _ run
  obtain rfl := List.singleton_inj.mp (sent.symm.trans alone)
  refine ⟨told, ?_, decoded⟩
  rw [agrees.key]
  simp [Stream.streamConfiguration, streamOptions, Function.comp_def]

theorem fragment_notMem_of_sameSession
    (same : SameSession decoding identity doc) :
    '#' ∉ launchFront doc.host doc.httpsPort identity.uniqueId := by
  intro inside
  rw [← mem_stripped rfl] at inside
  obtain ⟨zero, zeroKey, zeroTold⟩ := told_of_sameSession same (drawnOf 0)
  obtain ⟨one, oneKey, oneTold⟩ := told_of_sameSession same (drawnOf 1)
  rw [decodeLaunch, url_launch, stripped_append,
    part_append_of_fragment inside] at zeroTold oneTold
  obtain rfl := Option.some.inj (zeroTold.symm.trans oneTold)
  exact absurd (zeroKey.symm.trans oneKey) (by decide)

theorem unrivalled_of_sameSession (same : SameSession decoding identity doc) :
    Unrivalled decoding identity doc := by
  have unbroken := fragment_notMem_of_sameSession same
  constructor
  · intro inside
    apply unbroken
    unfold launchFront
    simp [inside]
  · intro inside
    apply unbroken
    unfold launchFront
    simp [inside]
  · intro parameter present named
    obtain ⟨told, _, decoded⟩ := told_of_sameSession same (drawnOf 0)
    rw [decodeLaunch, parameters_url_launch decoding unbroken,
      toldBy_of_present present named] at decoded
    cases decoded

/-- Host and C core are told the same session exactly when neither the host
nor the unique id cuts the query off, and no parameter up to the unique id is
sent under a name that is read. -/
theorem same_session (decoding : Decoding) (identity : MoonlightIdentity)
    (doc : MoonlightConnectDoc) :
    SameSession decoding identity doc ↔
      '#' ∉ doc.host ∧ '#' ∉ identity.uniqueId ∧
        ∀ parameter ∈ urlSeparators.parse (part (stripped
            (launchFront doc.host doc.httpsPort identity.uniqueId))),
          decoding.decode parameter.1 ∉ launchNames := by
  constructor
  · intro same
    have unrivalled := unrivalled_of_sameSession same
    refine ⟨unrivalled.host, unrivalled.uniqueId, ?_⟩
    intro parameter member
    exact unrivalled.names _ (List.mem_map_of_mem member)
  · rintro ⟨host, uniqueId, names⟩
    apply sameSession_of_unrivalled
    refine ⟨host, uniqueId, ?_⟩
    intro parameter member
    obtain ⟨written, inside, rfl⟩ := List.mem_map.mp member
    exact names written inside

/-- A line break hides the name of a parameter from the text, not from the
host. -/
example : ¬ SameSession default ⟨lit "x&ri\tkey=00", [], []⟩ .stored := by
  intro same
  exact (unrivalled_of_sameSession same).names (lit "rikey", lit "00")
    (by decide) (by decide)

/-- A connect document whose unique id ends the query, however it is read. -/
theorem same_session_cut :
    ¬ ∃ decoding, ∀ doc identity, restoreIdentity doc = some identity →
      SameSession decoding identity doc := by
  rintro ⟨decoding, claimed⟩
  have same := claimed { MoonlightConnectDoc.stored with
    clientUniqueId := lit "0123456789abcdef#" } _ rfl
  exact absurd (unrivalled_of_sameSession same).uniqueId (by decide)

end Sessions

end NvHttp

end MoonlightAddon
