import MoonlightAddon.Core.LaunchQuery

/-!
# The application list

A document that lists applications, and what `app_list` reads from it.
-/

namespace MoonlightAddon

namespace NvHttp

/-- An element of an entry and the text after it, white space as a rule. -/
structure Field where
  tag : Text
  text : Text
  space : Text
  tagPlain : '<' ∉ tag ∧ '>' ∉ tag
  tagOther : tag ≠ lit "App"
  textPlain : '<' ∉ text
  spacePlain : '<' ∉ space

def Field.render (field : Field) : Text :=
  openTag field.tag ++ (field.text ++ closeTag field.tag ++ field.space)

/-- An application with its fields in any order, and the text after it. -/
structure Entry where
  lead : Text
  fields : List Field
  space : Text
  leadPlain : '<' ∉ lead
  spacePlain : '<' ∉ space

namespace Entry

/-- Everything after the opening tag. -/
def body (entry : Entry) : Text :=
  entry.lead ++ (entry.fields.flatMap Field.render ++
    (closeTag (lit "App") ++ entry.space))

def render (entry : Entry) : Text :=
  openTag (lit "App") ++ entry.body

/-- The text of the field with this tag, the first one if there are several. -/
def value (entry : Entry) (tag : Text) : Option Text :=
  (entry.fields.find? fun field => field.tag = tag).map Field.text

/-- The application, if the entry has both fields and its id is a number. -/
def app (entry : Entry) : Option HostApp := do
  let title ← entry.value (lit "AppTitle")
  let text ← entry.value (lit "ID")
  let id ← parseUnsigned (2 ^ 32) (Text.trim text)
  return { id := UInt32.ofNat id, title }

end Entry

/-- The tags that are looked for. -/
def appTags : List Text :=
  [lit "App", lit "AppTitle", lit "ID"]

/-- A document of status 200 with a list of entries.  No tag that is looked for
opens in front of them or after them. -/
structure AppDocument where
  prolog : Text
  entries : List Entry
  trailer : Text
  status : Text.contains (prolog ++ (entries.flatMap Entry.render ++ trailer))
    statusOk = true
  prologPlain : Text.contains prolog (openTag (lit "App")) = false
  trailerPlain : ∀ tag ∈ appTags, Text.contains trailer (openTag tag) = false

namespace AppDocument

def text (document : AppDocument) : Text :=
  document.prolog ++ (document.entries.flatMap Entry.render ++ document.trailer)

def apps (document : AppDocument) : List HostApp :=
  document.entries.filterMap Entry.app

end AppDocument

/-- A host with two applications, and an entry without an id between them. -/
instance : Inhabited AppDocument where
  default :=
    let title (text : Text) (plain : '<' ∉ text) : Field :=
      ⟨lit "AppTitle", text, [], by decide, by decide, plain, by simp⟩
    let id (text : Text) (plain : '<' ∉ text) : Field :=
      ⟨lit "ID", text, [], by decide, by decide, plain, by simp⟩
    let entry (fields : List Field) : Entry :=
      ⟨[], fields, lit "\n", by simp, by decide⟩
    { prolog := lit "<root status_code=\"200\">"
      entries := [
        entry [title (lit "Steam") (by decide), id (lit "3") (by decide)],
        entry [title (lit "Desktop") (by decide)],
        entry [id (lit " 7 ") (by decide), title (lit "DESKTOP") (by decide)]]
      trailer := lit "</root>"
      status := by decide +kernel
      prologPlain := by decide +kernel
      trailerPlain := by decide +kernel }

example : (default : AppDocument).apps =
    [⟨3, lit "Steam"⟩, ⟨7, lit "DESKTOP"⟩] := by
  decide +kernel

section Reading

/-- The tags that are looked for, as far as their characters matter. -/
theorem plain_of_mem_appTags {tag : Text} (looked : tag ∈ appTags) :
    '>' ∉ tag ∧ ∀ name : Text, '/' :: name ≠ tag := by
  simp only [appTags, List.mem_cons, List.not_mem_nil, or_false] at looked
  obtain rfl | rfl | rfl := looked <;>
    exact ⟨by decide, fun name same => by simp [lit] at same⟩

theorem passes_text {tag block : Text} (plain : '<' ∉ block) :
    Text.Passes (openTag tag) block :=
  Text.passes_of_notMem plain

variable {tag : Text}

theorem Field.passes_render (field : Field) (looked : tag ∈ appTags)
    (different : field.tag ≠ tag) :
    Text.Passes (openTag tag) field.render := by
  obtain ⟨plain, slash⟩ := plain_of_mem_appTags looked
  exact (passes_openTag different field.tagPlain plain).append
    (((passes_text field.textPlain).append
      (passes_closeTag (slash _) field.tagPlain plain)).append
        (passes_text field.spacePlain))

theorem passes_fields {fields : List Field} (looked : tag ∈ appTags)
    (different : ∀ field ∈ fields, field.tag ≠ tag) :
    Text.Passes (openTag tag) (fields.flatMap Field.render) := by
  induction fields with
  | nil => exact Text.passes_nil _
  | cons field rest induction =>
      obtain ⟨first, others⟩ := List.forall_mem_cons.mp different
      rw [List.flatMap_cons]
      exact (field.passes_render looked first).append (induction others)

/-- The end of an entry. -/
theorem Entry.passes_closing (entry : Entry) (looked : tag ∈ appTags) :
    Text.Passes (openTag tag) (closeTag (lit "App") ++ entry.space) := by
  obtain ⟨plain, slash⟩ := plain_of_mem_appTags looked
  exact (passes_closeTag (slash _) (by decide) plain).append
    (passes_text entry.spacePlain)

/-- No entry begins inside of another. -/
theorem Entry.passes_body (entry : Entry) :
    Text.Passes (openTag (lit "App")) entry.body :=
  (passes_text entry.leadPlain).append
    ((passes_fields (by decide) fun field _ => field.tagOther).append
      (entry.passes_closing (by decide)))

theorem element_eq_none {text : Text}
    (absent : Text.contains text (openTag tag) = false) :
    element text tag = none := by
  rw [element, Text.splitFirst_eq_none absent]
  rfl

/-- The first field with the tag is read, wherever it stands. -/
theorem element_fields {fields : List Field} {rest : Text}
    (looked : tag ∈ appTags) (later : element rest tag = none) :
    element (fields.flatMap Field.render ++ rest) tag =
      (fields.find? fun field => field.tag = tag).map Field.text := by
  induction fields with
  | nil => exact later
  | cons field fields induction =>
      rw [List.flatMap_cons, List.append_assoc]
      by_cases here : field.tag = tag
      · subst here
        have opened : Text.splitFirst (openTag field.tag) (openTag field.tag) =
            some ([], []) := by
          simpa using Text.splitFirst_of_passes (Text.passes_nil _) []
        have found : (field :: fields).find? (fun other =>
            other.tag = field.tag) = some field := by
          simp
        rw [found, Option.map_some, Field.render, List.append_assoc,
          List.append_assoc]
        exact element_of_opened opened field.textPlain _
      · rw [element_of_passes (field.passes_render looked here),
          List.find?_cons_of_neg (by simpa using here)]
        exact induction

/-- An entry has no field of a neighbour. -/
theorem Entry.element_body (entry : Entry) {rest : Text}
    (looked : tag ∈ appTags)
    (absent : Text.contains rest (openTag tag) = false) :
    element (entry.body ++ rest) tag = entry.value tag := by
  have closing : element (closeTag (lit "App") ++ entry.space ++ rest) tag =
      none := by
    rw [element_of_passes (entry.passes_closing looked)]
    exact element_eq_none absent
  rw [Entry.body, List.append_assoc,
    element_of_passes (passes_text entry.leadPlain), List.append_assoc]
  exact element_fields looked closing

theorem readApp_body (entry : Entry) {rest : Text}
    (absent : ∀ tag ∈ appTags, Text.contains rest (openTag tag) = false) :
    readApp (entry.body ++ rest) = .ok entry.app := by
  have title := entry.element_body (by decide) (absent (lit "AppTitle") (by decide))
  have id := entry.element_body (by decide) (absent (lit "ID") (by decide))
  simp only [readApp, xmlTag_eq, Outcome.ok_bind, title, id, Entry.app]
  cases entry.value (lit "AppTitle") with
  | none => rfl
  | some title =>
      cases entry.value (lit "ID") with
      | none => rfl
      | some text => exact congrArg Outcome.ok Option.map_eq_bind

theorem readApps_body (entry : Entry) {rest : Text}
    (absent : ∀ tag ∈ appTags, Text.contains rest (openTag tag) = false)
    {chunks : List Text} {apps : List HostApp} (later : readApps chunks = .ok apps) :
    readApps ((entry.body ++ rest) :: chunks) =
      .ok (entry.app.toList ++ apps) := by
  simp only [readApps, readApp_body entry absent, later, Outcome.ok_bind,
    Outcome.pure_eq]

theorem filterMap_app_cons (entry : Entry) (entries : List Entry) :
    (entry :: entries).filterMap Entry.app =
      entry.app.toList ++ entries.filterMap Entry.app := by
  cases found : entry.app with
  | none => rw [List.filterMap_cons_none found]; rfl
  | some app => rw [List.filterMap_cons_some found]; rfl

theorem splitOn_of_none {separator text : Text}
    (absent : Text.splitFirst separator text = none) (fuel : Nat) :
    splitOn separator fuel text = [text] := by
  cases fuel with
  | zero => rfl
  | succ fuel => rw [splitOn, absent]

/-- From the first entry on, there is one chunk for each entry, the last of
them with the rest of the document. -/
theorem readApps_entries {trailer : Text}
    (plain : ∀ tag ∈ appTags, Text.contains trailer (openTag tag) = false)
    (entry : Entry) (entries : List Entry) {fuel : Nat}
    (enough : entries.length ≤ fuel) :
    readApps (splitOn (openTag (lit "App")) fuel
        (entry.body ++ (entries.flatMap Entry.render ++ trailer))) =
      .ok ((entry :: entries).filterMap Entry.app) := by
  induction entries generalizing entry fuel with
  | nil =>
      have last : Text.splitFirst (openTag (lit "App")) (entry.body ++ trailer) =
          none := by
        rw [entry.passes_body, Text.splitFirst_eq_none (plain _ (by decide))]
        rfl
      have read := @readApps_body entry trailer plain [] [] rfl
      rw [List.flatMap_nil, List.nil_append, splitOn_of_none last, read,
        filterMap_app_cons]
      rfl
  | cons next entries induction =>
      obtain ⟨fuel, rfl⟩ : ∃ less, fuel = less + 1 :=
        ⟨fuel - 1, by rw [List.length_cons] at enough; omega⟩
      have cut := Text.splitFirst_of_passes entry.passes_body
        (next.body ++ (entries.flatMap Entry.render ++ trailer))
      have read := @readApps_body entry [] (by decide) _ _
        (induction next (Nat.le_of_succ_le_succ enough))
      rw [List.append_nil] at read
      rw [List.flatMap_cons, Entry.render, List.append_assoc, List.append_assoc,
        splitOn, cut, filterMap_app_cons]
      exact read

theorem length_entries_le (entries : List Entry) :
    entries.length ≤ (entries.flatMap Entry.render).length := by
  induction entries with
  | nil => exact Nat.le_refl 0
  | cons entry entries induction =>
      have opened : 0 < entry.render.length := by
        simp [Entry.render, openTag, lit]
      rw [List.flatMap_cons, List.length_append, List.length_cons]
      omega

/-- Where prolog and trailer meet, a tag may open by accident; what follows is
no application. -/
theorem readApps_unlisted {prolog trailer : Text}
    (prologPlain : Text.contains prolog (openTag (lit "App")) = false)
    (trailerPlain : ∀ tag ∈ appTags,
      Text.contains trailer (openTag tag) = false) (fuel : Nat) :
    readApps ((splitOn (openTag (lit "App")) fuel (prolog ++ trailer)).drop 1) =
      .ok [] := by
  cases fuel with
  | zero => rfl
  | succ fuel =>
      cases found : Text.splitFirst (openTag (lit "App")) (prolog ++ trailer) with
      | none => rw [splitOn_of_none found]; rfl
      | some pair =>
          obtain ⟨before, rest⟩ := pair
          have split := Text.splitFirst_split found
          have suffix : rest <:+ trailer := by
            obtain ⟨middle, _, same⟩ | ⟨middle, same, _⟩ :=
              List.append_eq_append_iff.mp split
            · exact ⟨middle, same.symm⟩
            · rw [Text.contains_eq_false_iff] at prologPlain
              exact absurd ⟨before, middle, same.symm⟩ prologPlain
          have absent (tag : Text) (looked : tag ∈ appTags) :
              Text.contains rest (openTag tag) = false := by
            have plain := trailerPlain tag looked
            rw [Text.contains_eq_false_iff] at plain ⊢
            exact fun inside => plain (inside.trans suffix.isInfix)
          have alone := splitOn_of_none
            (Text.splitFirst_eq_none (absent (lit "App") (by decide))) fuel
          have unread : readApp rest = .ok none := by
            rw [readApp, xmlTag_eq, element_eq_none (absent _ (by decide))]
            rfl
          rw [splitOn, found]
          simp [alone, readApps, unread]

/-- What `app_list` reads. -/
theorem readApps_document (document : AppDocument) :
    readApps ((splitOn (lit "<App>") document.text.length document.text).drop
      1) = .ok document.apps := by
  obtain ⟨prolog, entries, trailer, status, prologPlain, trailerPlain⟩ :=
    document
  simp only [AppDocument.text, AppDocument.apps]
  have enough := length_entries_le entries
  cases entries with
  | nil => exact readApps_unlisted prologPlain trailerPlain _
  | cons entry entries =>
      let rest := entry.body ++ (entries.flatMap Entry.render ++ trailer)
      have cut : Text.splitFirst (lit "<App>") (prolog ++ (lit "<App>" ++ rest)) =
          some (prolog, rest) :=
        Text.splitFirst_of_absent (by decide) prologPlain rest
      have whole : prolog ++ ((entry :: entries).flatMap Entry.render ++ trailer)
          = prolog ++ (lit "<App>" ++ rest) := by
        simp only [List.flatMap_cons, Entry.render, List.append_assoc, rest]
        rfl
      obtain ⟨fuel, length⟩ : ∃ fuel,
          (prolog ++ (lit "<App>" ++ rest)).length = fuel + 1 :=
        Nat.exists_eq_succ_of_ne_zero (by simp [lit])
      have further : entries.length ≤ fuel := by
        rw [← whole, List.length_append, List.length_append] at length
        rw [List.length_cons] at enough
        omega
      rw [whole, length, splitOn, cut]
      exact readApps_entries trailerPlain entry entries further

end Reading

section Listing

variable {libraries : Libraries} {identity : MoonlightIdentity} {host : Text}
  {port : UInt16}

theorem checkStatus_document (document : AppDocument) :
    checkStatus (lit "applist") document.text = .ok () :=
  if_pos document.status

/-- Every request for the list was answered with this document. -/
def AppDocument.AnswersIn (document : AppDocument)
    (trace : List (Event sidecar)) : Prop :=
  ∀ host port uniqueId uuid reply,
    ⟨.request (.appList host port uniqueId uuid), reply⟩ ∈ trace →
      reply = .body document.text

theorem AppDocument.AnswersIn.earlier {document : AppDocument}
    {past own : List (Event sidecar)}
    (answers : document.AnswersIn (past ++ own)) : document.AnswersIn past :=
  fun host port uniqueId uuid reply member =>
    answers host port uniqueId uuid reply (List.mem_append_left own member)

theorem AppDocument.AnswersIn.own {document : AppDocument}
    {past own : List (Event sidecar)}
    (answers : document.AnswersIn (past ++ own)) : document.AnswersIn own :=
  fun host port uniqueId uuid reply member =>
    answers host port uniqueId uuid reply (List.mem_append_right past member)

/-- With a client the host is asked, and its document is returned as the list it
is; without one no list is returned. -/
structure ListedBy (libraries : Libraries) (identity : MoonlightIdentity)
    (host : Text) (port : UInt16) (document : AppDocument)
    (outcome : Outcome (List HostApp)) (trace : List (Event sidecar)) :
    Prop where
  client : ∀ apps, outcome = .ok apps → httpsClient libraries identity = .ok ()
  asked : httpsClient libraries identity = .ok () →
    ∃ uuid, requestsOf trace = [.appList host port identity.uniqueId uuid]
  listed : httpsClient libraries identity = .ok () →
    document.AnswersIn trace → outcome = .ok document.apps

/-- Another answer than the document. -/
theorem listedBy_of_other {document : AppDocument} {outcome : Outcome (List HostApp)}
    {uuid : Text} {draw : Except Text (Drawn 16)} {reply : HttpReply}
    (client : httpsClient libraries identity = .ok ())
    (other : reply ≠ .body document.text) :
    ListedBy libraries identity host port document outcome
      [⟨.randBytes 16, draw⟩,
        ⟨.request (.appList host port identity.uniqueId uuid), reply⟩] where
  client _ _ := client
  asked _ := ⟨uuid, rfl⟩
  listed _ answers := by
    have same := answers host port identity.uniqueId uuid reply (by simp)
    exact absurd same other

theorem records_appList :
    (Typestate.recorder sidecar).Follows
      (appList libraries identity host port)
      (fun outcome trace => ∀ document,
        ListedBy libraries identity host port document outcome trace)
      ([] : List (Event sidecar)) := by
  apply Typestate.follows_bind
  apply records_newUuid
  intro uuidBytes uuidReply
  apply Typestate.follows_bind
  cases client : httpsClient libraries identity with
  | err error =>
      intro document
      constructor <;> simp [client]
  | panicked message =>
      intro document
      constructor <;> simp [client]
  | ok built =>
  apply Typestate.follows_bind
  apply Typestate.records_performResult
  intro reply
  cases reply with
  | sendFailed error => exact fun document => listedBy_of_other client nofun
  | readFailed error => exact fun document => listedBy_of_other client nofun
  | body text =>
  apply Typestate.follows_then
  rw [lift_bind]
  intro document
  by_cases answered : text = document.text
  · subst answered
    exact {
      client := fun _ _ => client
      asked := fun _ => ⟨formatUuid uuidBytes, rfl⟩
      listed := fun _ _ => by
        rw [checkStatus_document, readApps_document]
        rfl }
  · exact listedBy_of_other client fun same =>
      answered (HttpReply.body.inj same)

/-- The host's document is read in some run, whatever it lists. -/
theorem run_appList (document : AppDocument)
    (bodies : (loop : LoopName) → Program sidecar loop.Result)
    (client : httpsClient libraries identity = .ok ()) :
    ∃ trace, Program.Run bodies (appList libraries identity host port) trace
        (.ret (.ok document.apps)) ∧ document.AnswersIn trace := by
  refine ⟨[⟨.randBytes 16, .ok (drawnOf 0)⟩,
    ⟨.request (.appList host port identity.uniqueId
      (formatUuid (drawnOf 0).1)), .body document.text⟩], ?_, ?_⟩
  · apply Program.Run.step (.act _)
    change Program.Run bodies
      (do
        lift (httpsClient libraries identity)
        let body ← httpGet (lit "applist") (.appList host port
          identity.uniqueId (formatUuid (drawnOf 0).1))
        lift (checkStatus (lit "applist") body)
        lift (readApps ((splitOn (lit "<App>") body.length body).drop 1)) :
          Rust (List HostApp)) _ _
    rw [client]
    apply Program.Run.step (.act _)
    change Program.Run bodies
      (do
        lift (checkStatus (lit "applist") document.text)
        lift (readApps ((splitOn (lit "<App>") document.text.length
          document.text).drop 1)) : Rust (List HostApp)) [] _
    rw [checkStatus_document, readApps_document]
    exact .refl _
  · intro host port uniqueId uuid reply member
    simp only [List.mem_cons, List.not_mem_nil, or_false, Event.mk.injEq,
      reduceCtorEq, false_and, false_or] at member
    exact eq_of_heq member.2

end Listing

end NvHttp

namespace Session

open NvHttp

def IsDesktop (app : HostApp) : Prop :=
  app.title.map Char.toLower = lit "desktop"

/-- The first application called "Desktop" in any letter case, or the first of
all if none is. -/
inductive Chosen : List HostApp → HostApp → Prop where
  | desktop {before after : List HostApp} {app : HostApp} :
      (∀ other ∈ before, ¬ IsDesktop other) → IsDesktop app →
      Chosen (before ++ app :: after) app
  | first {app : HostApp} {rest : List HostApp} :
      (∀ other ∈ app :: rest, ¬ IsDesktop other) → Chosen (app :: rest) app

def noApps : Text := lit "host exposes no launchable apps"

theorem eqIgnoreAsciiCase_desktop (app : HostApp) :
    eqIgnoreAsciiCase app.title (lit "Desktop") = true ↔ IsDesktop app := by
  unfold eqIgnoreAsciiCase IsDesktop
  exact beq_iff_eq

theorem chooseApp_cases (apps : List HostApp) :
    (apps = [] ∧ chooseApp apps = .err noApps) ∨
      ∃ app, Chosen apps app ∧ chooseApp apps = .ok app := by
  unfold chooseApp
  cases found : apps.find? fun app =>
      eqIgnoreAsciiCase app.title (lit "Desktop") with
  | some app =>
      obtain ⟨isDesktop, before, after, rfl, others⟩ :=
        List.find?_eq_some_iff_append.mp found
      refine .inr ⟨app, .desktop ?_ ((eqIgnoreAsciiCase_desktop app).mp isDesktop),
        rfl⟩
      intro other member
      rw [← eqIgnoreAsciiCase_desktop]
      simpa using others other member
  | none =>
      cases apps with
      | nil => exact .inl ⟨rfl, rfl⟩
      | cons app rest =>
          refine .inr ⟨app, .first ?_, rfl⟩
          intro other member
          rw [← eqIgnoreAsciiCase_desktop]
          exact List.find?_eq_none.mp found other member

end Session

end MoonlightAddon
