import MoonlightAddon.Core.Apps

/-!
# Server information documents

A document of tags and elements in any order, and what both `server_info`
functions read from it.
-/

namespace MoonlightAddon

/-- A tag that stands alone, as of a declaration or of a nesting element, or an
element; with the text after it, white space as a rule. -/
inductive Piece where
  | mark (name space : Text)
  | element (tag text space : Text)
deriving DecidableEq

namespace Piece

def render : Piece → Text
  | .mark name space => openTag name ++ space
  | .element tag text space => openTag tag ++ (text ++ closeTag tag ++ space)

/-- No bracket where it does not belong. -/
def Plain : Piece → Prop
  | .mark name space => ('<' ∉ name ∧ '>' ∉ name) ∧ '<' ∉ space
  | .element tag text space =>
      ('<' ∉ tag ∧ '>' ∉ tag) ∧ '<' ∉ text ∧ '<' ∉ space

instance : DecidablePred Plain
  | .mark _ _ => inferInstanceAs (Decidable (_ ∧ _))
  | .element _ _ _ => inferInstanceAs (Decidable (_ ∧ _))

/-- The tag that opens the piece. -/
def name : Piece → Text
  | .mark name _ => name
  | .element tag _ _ => tag

def isMark : Piece → Bool
  | .mark _ _ => true
  | .element _ _ _ => false

/-- The text of an element with this tag. -/
def textOf (tag : Text) : Piece → Option Text
  | .mark _ _ => none
  | .element other text _ => if other = tag then some text else none

end Piece

/-- The text of the first element with this tag. -/
def valueOf (pieces : List Piece) (tag : Text) : Option Text :=
  pieces.findSome? (Piece.textOf tag)

/-- A name that no closing tag opens. -/
def Searchable (tag : Text) : Prop :=
  '>' ∉ tag ∧ ∀ name : Text, '/' :: name ≠ tag

section Search

variable {tag : Text}

theorem passes_piece {piece : Piece} (plain : piece.Plain)
    (searchable : Searchable tag) (different : piece.name ≠ tag) :
    Text.Passes (openTag tag) piece.render := by
  obtain ⟨free, slash⟩ := searchable
  cases piece with
  | mark name space =>
      obtain ⟨plainName, plainSpace⟩ := plain
      exact (passes_openTag different plainName free).append
        (Text.passes_of_notMem plainSpace)
  | element name text space =>
      obtain ⟨plainName, plainText, plainSpace⟩ := plain
      exact (passes_openTag different plainName free).append
        (((Text.passes_of_notMem plainText).append
          (passes_closeTag (slash _) plainName free)).append
            (Text.passes_of_notMem plainSpace))

/-- In a document of plain pieces, none of which stands alone under the tag,
the first element with the tag is found. -/
theorem element_pieces {pieces : List Piece} (searchable : Searchable tag)
    (plain : ∀ piece ∈ pieces, piece.Plain)
    (unmarked : ∀ piece ∈ pieces, piece.isMark = true → piece.name ≠ tag) :
    element (pieces.flatMap Piece.render) tag = valueOf pieces tag := by
  induction pieces with
  | nil => rfl
  | cons piece rest induction =>
      obtain ⟨plainPiece, plainRest⟩ := List.forall_mem_cons.mp plain
      obtain ⟨unmarkedPiece, unmarkedRest⟩ := List.forall_mem_cons.mp unmarked
      have later := induction plainRest unmarkedRest
      rw [List.flatMap_cons, valueOf, List.findSome?_cons]
      by_cases here : piece.name = tag
      · cases piece with
        | mark name space => exact absurd here (unmarkedPiece rfl)
        | element name text space =>
            obtain rfl : name = tag := here
            have opened : Text.splitFirst (openTag name) (openTag name) =
                some ([], []) := by
              simpa using Text.splitFirst_of_passes (Text.passes_nil _) []
            simp only [Piece.textOf, if_true]
            rw [Piece.render, List.append_assoc, List.append_assoc]
            exact element_of_opened opened plainPiece.2.1 _
      · have none : piece.textOf tag = none := by
          cases piece with
          | mark name space => rfl
          | element name text space => exact if_neg here
        rw [none, element_of_passes (passes_piece plainPiece searchable here)]
        exact later

end Search

namespace NvHttp

/-- The elements that `server_info` reads. -/
def infoTags : List Text :=
  [lit "hostname", lit "appversion", lit "GfeVersion", lit "PairStatus",
    lit "currentgame", lit "state", lit "HttpsPort",
    lit "ServerCodecModeSupport"]

theorem searchable_of_mem {tag : Text} (looked : tag ∈ infoTags) :
    Searchable tag := by
  simp only [infoTags, List.mem_cons, List.not_mem_nil, or_false] at looked
  obtain rfl | rfl | rfl | rfl | rfl | rfl | rfl | rfl := looked <;>
    exact ⟨by decide, fun name same => by simp [lit] at same⟩

/-- A document of status 200.  No tag that is looked for stands alone. -/
structure InfoDocument where
  pieces : List Piece
  plain : ∀ piece ∈ pieces, piece.Plain
  unmarked : ∀ piece ∈ pieces, piece.isMark = true → piece.name ∉ infoTags
  status : Text.contains (pieces.flatMap Piece.render) statusOk = true

namespace InfoDocument

variable (document : InfoDocument)

def text : Text := document.pieces.flatMap Piece.render

def value (tag : Text) : Option Text := valueOf document.pieces tag

def number (tag : Text) (bound fallback : Nat) : Nat :=
  ((document.value tag).bind (parseUnsigned bound)).getD fallback

/-- What the document says of the host; what is missing or no number is empty
or zero, and the port the one that was asked. -/
def info (fallbackPort : UInt16) : ServerInfo where
  hostname := (document.value (lit "hostname")).getD []
  appVersion := (document.value (lit "appversion")).getD []
  gfeVersion := (document.value (lit "GfeVersion")).getD []
  pairStatus := UInt8.ofNat (document.number (lit "PairStatus") (2 ^ 8) 0)
  currentGame := UInt32.ofNat (document.number (lit "currentgame") (2 ^ 32) 0)
  state := (document.value (lit "state")).getD []
  httpsPort := UInt16.ofNat
    (document.number (lit "HttpsPort") (2 ^ 16) fallbackPort.toNat)
  serverCodecModeSupport := UInt32.ofNat
    (document.number (lit "ServerCodecModeSupport") (2 ^ 32) 0)

theorem element_text {tag : Text} (looked : tag ∈ infoTags) :
    element document.text tag = document.value tag := by
  apply element_pieces (searchable_of_mem looked) document.plain
  rintro piece member isMark rfl
  exact document.unmarked piece member isMark looked

theorem tagText_text {tag : Text} (looked : tag ∈ infoTags) :
    tagText document.text tag = .ok ((document.value tag).getD []) := by
  rw [tagText, xmlTag_eq, document.element_text looked]
  rfl

theorem tagNumber_text {tag : Text} (looked : tag ∈ infoTags)
    (bound fallback : Nat) :
    tagNumber document.text tag bound fallback =
      .ok (document.number tag bound fallback) := by
  rw [tagNumber, xmlTag_eq, document.element_text looked]
  rfl

theorem checkStatus_text (label : Text) :
    checkStatus label document.text = .ok () :=
  if_pos document.status

/-- What both functions read. -/
theorem readServerInfo_text (fallbackPort : UInt16) :
    readServerInfo document.text fallbackPort =
      .ok (document.info fallbackPort) := by
  have texts : ∀ tag ∈ infoTags, _ := fun _ => document.tagText_text
  have numbers : ∀ tag ∈ infoTags, ∀ bound fallback, _ :=
    fun _ => document.tagNumber_text
  unfold readServerInfo
  rw [texts (lit "hostname") (by decide), texts (lit "appversion") (by decide),
    texts (lit "GfeVersion") (by decide),
    numbers (lit "PairStatus") (by decide),
    numbers (lit "currentgame") (by decide), texts (lit "state") (by decide),
    numbers (lit "HttpsPort") (by decide),
    numbers (lit "ServerCodecModeSupport") (by decide)]
  rfl

end InfoDocument

/-- The texts a host puts into its elements. -/
def ServerInfo.elements (info : ServerInfo) : List (Text × Text) :=
  [(lit "hostname", info.hostname), (lit "appversion", info.appVersion),
    (lit "GfeVersion", info.gfeVersion),
    (lit "PairStatus", decimal info.pairStatus.toNat),
    (lit "currentgame", decimal info.currentGame.toNat),
    (lit "state", info.state), (lit "HttpsPort", decimal info.httpsPort.toNat),
    (lit "ServerCodecModeSupport",
      decimal info.serverCodecModeSupport.toNat)]

/-- The document says this of the host. -/
def InfoDocument.Describes (document : InfoDocument) (info : ServerInfo) :
    Prop :=
  ∀ part ∈ info.elements, document.value part.1 = some part.2

/-- What was put into a document is read from it, whatever else it holds. -/
theorem info_of_describes {document : InfoDocument} {info : ServerInfo}
    (describes : document.Describes info) (fallbackPort : UInt16) :
    document.info fallbackPort = info := by
  have number : ∀ tag value bound fallback, value < bound →
      (tag, decimal value) ∈ info.elements →
      document.number tag bound fallback = value := by
    intro tag value bound fallback small member
    rw [InfoDocument.number, describes _ member, Option.bind_some, decimal,
      parseUnsigned_toDigits small]
    rfl
  have text : ∀ tag value, (tag, value) ∈ info.elements →
      (document.value tag).getD [] = value := by
    intro tag value member
    rw [describes _ member]
    rfl
  unfold InfoDocument.info
  rw [text (lit "hostname") info.hostname (by simp [ServerInfo.elements]),
    text (lit "appversion") info.appVersion (by simp [ServerInfo.elements]),
    text (lit "GfeVersion") info.gfeVersion (by simp [ServerInfo.elements]),
    text (lit "state") info.state (by simp [ServerInfo.elements]),
    number (lit "PairStatus") info.pairStatus.toNat _ _
      info.pairStatus.toNat_lt (by simp [ServerInfo.elements]),
    number (lit "currentgame") info.currentGame.toNat _ _
      info.currentGame.toNat_lt (by simp [ServerInfo.elements]),
    number (lit "HttpsPort") info.httpsPort.toNat _ _
      info.httpsPort.toNat_lt (by simp [ServerInfo.elements]),
    number (lit "ServerCodecModeSupport") info.serverCodecModeSupport.toNat _ _
      info.serverCodecModeSupport.toNat_lt (by simp [ServerInfo.elements])]
  simp

theorem readServerInfo_ok (body : Text) (fallbackPort : UInt16) :
    ∃ info, readServerInfo body fallbackPort = .ok info := by
  simp only [readServerInfo, tagText, tagNumber, xmlTag_eq, Outcome.ok_bind]
  exact ⟨_, rfl⟩

end NvHttp

end MoonlightAddon
