import PureCloak.Library.Html
import PureCloak.Library.JsCall
import PureCloak.WebUI.Page

/-!
# The markup of the cards

The HTML that `render` puts into the list of workspaces. What the browser makes of it are the elements of the template,
once for each workspace, with the ids, the names and the tags as their data, whatever characters are in them
(`rendered_elements`): no text of a workspace becomes markup. A text with a carriage return or a null is left out, since
the browser replaces those.

The buttons of a card call functions with the id and the name, which are put between single quotes. There is an escape
for a quote in them, but it is undone before the script is read, so that a button calls its function exactly for ids and
names without quotes, backslashes and line feeds (`buttons_call_iff`). The line of a status has a button as well, with
an id that is not escaped at all (`status_button_calls_iff`).
-/

namespace PureCloak.WebUI
open PureCloak.Base Html JsLiteral

/-! ## The script -/

/-- `replace` with a pattern for all places of a character. -/
def replaceAll (c : Char) (replacement s : String) : String :=
  .ofList (s.toList.flatMap fun d => if d = c then replacement.toList else [d])

/-- `escapeHtml`. -/
def escapeHtml (s : String) : String :=
  replaceAll '"' "&quot;" (replaceAll '>' "&gt;" (replaceAll '<' "&lt;" (replaceAll '&' "&amp;" s)))

/-- `escapeHtmlAttr`. -/
def escapeHtmlAttr (s : String) : String :=
  replaceAll '\n' "&#10;" (replaceAll '\'' "&#39;" (escapeHtml s))

/-- `_locale`: empty, or the translations of `LOCALE_DATA['zh']`. -/
inductive Locale where
  | none
  | zh

/-- The translations of the texts of a card. -/
def Locale.texts : Locale → List (String × String)
  | .none => []
  | .zh => [("Normal", "普通"), ("Fingerprint", "指纹"), ("Edit", "编辑"), ("Delete", "删除"), ("Launch", "启动"),
      ("Stopped", "已停止"), ("Running", "运行中"), ("Starting", "启动中"), ("Crashed", "已崩溃"), ("Restart", "重启"),
      ("Stop", "停止")]

/-- `t`. -/
def t (locale : Locale) (key : String) : String :=
  (locale.texts.lookup key).getD key

/-- `renderTagPills`; it throws at a tag without a text. -/
def renderTagPills : ListValue → Option String
  | [] => some ""
  | tag :: tags => do
    let text ← tagText tag
    let others ← renderTagPills tags
    return "<span class=\"ws-tag\">" ++ escapeHtml text ++ "</span>" ++ others

/-- `ws.name`. -/
def wsName (ws : DictValue) : String :=
  (ws.findString "name").getD ""

/-- `isFingerprint`. -/
def isFingerprint (ws : DictValue) : Prop :=
  ws.findString "type" = some "fingerprint"

instance (ws : DictValue) : Decidable (isFingerprint ws) :=
  inferInstanceAs (Decidable (ws.findString "type" = some "fingerprint"))

/-- `iconClass`. -/
def iconClass (ws : DictValue) : String :=
  if isFingerprint ws then "fingerprint" else "normal"

/-- `icon`. -/
def iconText (ws : DictValue) : String :=
  if isFingerprint ws then "🕵" else "📁"

section
variable (toLocaleDateString : String → String) (locale : Locale)

/-- `created`, the date of a card. -/
def createdText (ws : DictValue) : String :=
  match ws.findString "created_at" with
  | none | some "" => ""
  | some created_at => toLocaleDateString created_at

/-- What a card says below the name. -/
def metaText (ws : DictValue) : String :=
  let typeLabel := if isFingerprint ws then t locale "Fingerprint" else t locale "Normal"
  let created := createdText toLocaleDateString ws
  typeLabel ++ if created = "" then "" else " \u00b7 " ++ t locale "Created" ++ " " ++ created

/-- `renderWorkspaceCard`; `render` has the same template. -/
def renderWorkspaceCard (ws : DictValue) : Option String := do
  let escId := escapeHtmlAttr (wsId ws)
  let escName := escapeHtmlAttr (wsName ws)
  let tagPills ← renderTagPills ((ws.findList "tags").getD [])
  return "<div class=\"ws-card\" data-ws-id=\"" ++ escId ++ "\">" ++
    "\n          " ++ "<div class=\"ws-header\">" ++
    "\n            " ++ "<input type=\"checkbox\" class=\"ws-checkbox\" data-ws-id=\"" ++ escId ++
      "\" onchange=\"updateBatchBar()\">" ++
    "\n            " ++ "<div class=\"ws-icon " ++ iconClass ws ++ "\">" ++ iconText ws ++ "</div>" ++
    "\n            " ++ "<div class=\"ws-info\">" ++
    "\n              " ++ "<div class=\"ws-name\">" ++ escapeHtml (wsName ws) ++ "</div>" ++
    "\n              " ++ "<div class=\"ws-meta\">" ++ metaText toLocaleDateString locale ws ++ "</div>" ++
    "\n              " ++ (if tagPills = "" then "" else "<div class=\"ws-tags\">" ++ tagPills ++ "</div>") ++
    "\n            " ++ "</div>" ++
    "\n            " ++ "<div class=\"ws-actions\">" ++
    "\n              " ++ "<button class=\"btn btn-sm btn-launch\" title=\"" ++ t locale "Launch" ++
      "\" onclick=\"" ++ "launchWorkspace('" ++ escId ++ "')" ++ "\">" ++ "▶ " ++ t locale "Launch" ++ "</button>" ++
    "\n              " ++ "<button class=\"btn-icon\" title=\"" ++ t locale "Edit" ++
      "\" onclick=\"" ++ "showEditWs('" ++ escId ++ "')" ++ "\">" ++ "\u270f\ufe0f" ++ "</button>" ++
    "\n              " ++ "<button class=\"btn-icon\" title=\"" ++ t locale "Delete" ++
      "\" onclick=\"" ++ "showDeleteWs('" ++ escId ++ "','" ++ escName ++ "')" ++ "\">" ++ "🗑\ufe0f" ++ "</button>" ++
    "\n            " ++ "</div>" ++
    "\n          " ++ "</div>" ++
    "\n          " ++ "<div class=\"ws-status\" id=\"" ++ "ws-status-" ++ escId ++ "\">" ++
    "\n            " ++ "<span class=\"status-indicator stopped\">" ++ "○ " ++ t locale "Stopped" ++ "</span>" ++
    "\n          " ++ "</div>" ++
    "\n        " ++ "</div>"

/-- The `innerHTML` that `render` makes for a list of workspaces. -/
def renderHtml : List DictValue → Option String
  | [] => some ""
  | ws :: list => do
    let card ← renderWorkspaceCard toLocaleDateString locale ws
    let others ← renderHtml list
    return card ++ others

end

/-! ## Escapes -/

/-- What `escapeHtml` writes for a character. -/
def textEscape (c : Char) : List Char :=
  if c = '&' then "&amp;".toList
  else if c = '<' then "&lt;".toList
  else if c = '>' then "&gt;".toList
  else if c = '"' then "&quot;".toList
  else [c]

/-- What `escapeHtmlAttr` writes for a character. -/
def valueEscape (c : Char) : List Char :=
  if c = '\'' then "&#39;".toList
  else if c = '\n' then "&#10;".toList
  else textEscape c

/-- `escapeHtml` goes through the characters one by one. -/
lemma escapeHtml_toList (s : String) : (escapeHtml s).toList = s.toList.flatMap textEscape := by
  simp only [escapeHtml, replaceAll, String.toList_ofList, List.flatMap_assoc]
  congr 1
  funext c
  rw [textEscape]
  split_ifs with amp lt gt quot
  · subst amp
    decide
  · subst lt
    decide
  · subst gt
    decide
  · subst quot
    decide
  · simp [lt, gt, quot]

/-- `escapeHtmlAttr` goes through the characters one by one. -/
lemma escapeHtmlAttr_toList (s : String) : (escapeHtmlAttr s).toList = s.toList.flatMap valueEscape := by
  simp only [escapeHtmlAttr, replaceAll, String.toList_ofList, escapeHtml_toList, List.flatMap_assoc]
  congr 1
  funext c
  rw [valueEscape]
  split_ifs with quote feed
  · subst quote
    decide
  · subst feed
    decide
  · rw [textEscape]
    split_ifs
    · decide
    · decide
    · decide
    · decide
    · simp [quote, feed]

/-- A text that the browser takes as it is. -/
def Readable (s : String) : Prop :=
  ∀ c ∈ s.toList, c ≠ '\r' ∧ c ≠ '\x00'

instance (s : String) : Decidable (Readable s) :=
  List.decidableBAll (fun c => c ≠ '\r' ∧ c ≠ '\x00') s.toList

/-- What `escapeHtml` writes for a character is decoded to it, also in the middle of a text. -/
lemma textEscape_ok {c : Char} (readable : c ≠ '\r' ∧ c ≠ '\x00') :
    Safe (textEscape c) ∧ decode none (textEscape c) = some [c] := by
  rw [textEscape]
  split_ifs with amp lt gt quot
  · subst amp
    decide
  · subst lt
    decide
  · subst gt
    decide
  · subst quot
    decide
  · refine ⟨?_, decode_plain ⟨lt, quot, amp, readable⟩⟩
    intro d mem
    rw [List.mem_singleton.mp mem]
    exact ⟨lt, quot⟩

/-- What `escapeHtmlAttr` writes for a character is decoded to it, also inside of quotes. -/
lemma valueEscape_ok {c : Char} (readable : c ≠ '\r' ∧ c ≠ '\x00') :
    Safe (valueEscape c) ∧ decode none (valueEscape c) = some [c] := by
  rw [valueEscape]
  split_ifs with quote feed
  · subst quote
    decide
  · subst feed
    decide
  · exact textEscape_ok readable

/-- A text in a text, as it is written. -/
def writtenText (s : String) : Written :=
  if readable : Readable s then
    .encoded textEscape s (fun c mem => (textEscape_ok (readable c mem)).1)
      fun c mem => (textEscape_ok (readable c mem)).2
  else .literal "" (by decide)

/-- A text in a value, as it is written. -/
def writtenValue (s : String) : Written :=
  if readable : Readable s then
    .encoded valueEscape s (fun c mem => (valueEscape_ok (readable c mem)).1)
      fun c mem => (valueEscape_ok (readable c mem)).2
  else .literal "" (by decide)

/-- A text that is written as it is. -/
def writtenPlain (s : String) : Written :=
  if plain : PlainText s then .literal s plain else .literal "" (by decide)

section
variable {s : String}

/-- A text is written as `escapeHtml` does. -/
lemma writtenText_raw (readable : Readable s) : (writtenText s).raw = (escapeHtml s).toList := by
  rw [writtenText, dif_pos readable, escapeHtml_toList]
  rfl

/-- It is read back. -/
lemma writtenText_data (readable : Readable s) : (writtenText s).data = s := by
  rw [writtenText, dif_pos readable]
  rfl

/-- A value is written as `escapeHtmlAttr` does. -/
lemma writtenValue_raw (readable : Readable s) : (writtenValue s).raw = (escapeHtmlAttr s).toList := by
  rw [writtenValue, dif_pos readable, escapeHtmlAttr_toList]
  rfl

/-- A value is read back. -/
lemma writtenValue_data (readable : Readable s) : (writtenValue s).data = s := by
  rw [writtenValue, dif_pos readable]
  rfl

/-- A plain text is written as it is. -/
lemma writtenPlain_raw (plain : PlainText s) : (writtenPlain s).raw = s.toList := by
  rw [writtenPlain, dif_pos plain]
  rfl

/-- A plain text is read back. -/
lemma writtenPlain_data (plain : PlainText s) : (writtenPlain s).data = s := by
  rw [writtenPlain, dif_pos plain]
  rfl

end

/-! ## The template -/

/-- The texts of a card. -/
structure CardTexts where
  kind : Written
  icon : Written
  id : Written
  nameValue : Written
  name : Written
  below : Written
  tags : List Written
  launch : Written
  edit : Written
  delete : Written
  stopped : Written

/-- The tags of a card. -/
def tagsMarkup : List Written → Markup
  | [] => .nil
  | tag :: tags => .element "span" [("class", .literal "ws-tag" (by decide))] (.text tag .nil) (tagsMarkup tags)

/-- The tags of a card, if it has any. -/
def tagsRow (tags : List Written) (rest : Markup) : Markup :=
  if tags = [] then rest else .element "div" [("class", .literal "ws-tags" (by decide))] (tagsMarkup tags) rest

/-- The markup of a card in front of the status element. -/
def cardHeader (x : CardTexts) (rest : Markup) : Markup :=
  .text (.literal "\n          " (by decide)) <|
  .element "div" [("class", .literal "ws-header" (by decide))]
    (.text (.literal "\n            " (by decide)) <|
    .void "input" [("type", .literal "checkbox" (by decide)), ("class", .literal "ws-checkbox" (by decide)),
      ("data-ws-id", x.id), ("onchange", .literal "updateBatchBar()" (by decide))] <|
    .text (.literal "\n            " (by decide)) <|
    .element "div" [("class", .literal "ws-icon " (by decide) ++ x.kind)] (.text x.icon .nil) <|
    .text (.literal "\n            " (by decide)) <|
    .element "div" [("class", .literal "ws-info" (by decide))]
      (.text (.literal "\n              " (by decide)) <|
      .element "div" [("class", .literal "ws-name" (by decide))] (.text x.name .nil) <|
      .text (.literal "\n              " (by decide)) <|
      .element "div" [("class", .literal "ws-meta" (by decide))] (.text x.below .nil) <|
      .text (.literal "\n              " (by decide)) <|
      tagsRow x.tags <|
      .text (.literal "\n            " (by decide)) .nil) <|
    .text (.literal "\n            " (by decide)) <|
    .element "div" [("class", .literal "ws-actions" (by decide))]
      (.text (.literal "\n              " (by decide)) <|
      .element "button" [("class", .literal "btn btn-sm btn-launch" (by decide)), ("title", x.launch),
        ("onclick", .literal "launchWorkspace('" (by decide) ++ x.id ++ .literal "')" (by decide))]
        (.text (.literal "▶ " (by decide) ++ x.launch) .nil) <|
      .text (.literal "\n              " (by decide)) <|
      .element "button" [("class", .literal "btn-icon" (by decide)), ("title", x.edit),
        ("onclick", .literal "showEditWs('" (by decide) ++ x.id ++ .literal "')" (by decide))]
        (.text (.literal "\u270f\ufe0f" (by decide)) .nil) <|
      .text (.literal "\n              " (by decide)) <|
      .element "button" [("class", .literal "btn-icon" (by decide)), ("title", x.delete),
        ("onclick", .literal "showDeleteWs('" (by decide) ++ x.id ++ .literal "','" (by decide) ++ x.nameValue ++
          .literal "')" (by decide))]
        (.text (.literal "🗑\ufe0f" (by decide)) .nil) <|
      .text (.literal "\n            " (by decide)) .nil) <|
    .text (.literal "\n          " (by decide)) .nil) <|
  .text (.literal "\n          " (by decide)) <|
  rest

/-- The status that is rendered with a card. -/
def stoppedMarkup (stopped : Written) : Markup :=
  .text (.literal "\n            " (by decide)) <|
  .element "span" [("class", .literal "status-indicator stopped" (by decide))]
    (.text (.literal "○ " (by decide) ++ stopped) .nil) <|
  .text (.literal "\n          " (by decide)) .nil

/-- The markup of a card. -/
def cardMarkup (x : CardTexts) (rest : Markup) : Markup :=
  .element "div" [("class", .literal "ws-card" (by decide)), ("data-ws-id", x.id)]
    (cardHeader x <|
    .element "div" [("class", .literal "ws-status" (by decide)), ("id", .literal "ws-status-" (by decide) ++ x.id)]
      (stoppedMarkup x.stopped) <|
    .text (.literal "\n        " (by decide)) .nil)
    rest

/-- The pills of the tags are well formed. -/
lemma tagsMarkup_ok (tags : List Written) : (tagsMarkup tags).Ok false := by
  induction tags with
  | nil => trivial
  | cons tag tags ih =>
    refine ⟨?_, trivial, ih⟩
    show "span" ∈ ordinary ∧ ¬ ("span" = "button" ∧ false = true) ∧ (∀ name ∈ ["class"], NameOk name) ∧ ["class"].Nodup
    decide

/-- So is the row with the pills. -/
lemma tagsRow_ok (tags : List Written) {rest : Markup} (ok : rest.Ok false) : (tagsRow tags rest).Ok false := by
  rw [tagsRow]
  split_ifs
  · exact ok
  · refine ⟨?_, tagsMarkup_ok tags, ok⟩
    show "div" ∈ ordinary ∧ ¬ ("div" = "button" ∧ false = true) ∧ (∀ name ∈ ["class"], NameOk name) ∧ ["class"].Nodup
    decide

/-- So is a card. -/
lemma cardMarkup_ok (x : CardTexts) {rest : Markup} (ok : rest.Ok false) : (cardMarkup x rest).Ok false := by
  have tags : (tagsRow x.tags (.text (.literal "\n            " (by decide)) .nil)).Ok false :=
    tagsRow_ok x.tags trivial
  simp +decide only [cardMarkup, cardHeader, stoppedMarkup, Markup.Ok, List.map_cons, List.map_nil, ok, decide_false, Bool.or_false, tags]

/-! ## What is rendered -/

/-- The texts of the tags. -/
def tagTexts (ws : DictValue) : List String :=
  ((ws.findList "tags").getD []).filterMap tagText

section
variable (w v : Written)

/-- A start tag with a class alone. -/
lemma startTag_class (name value : String) (plain : PlainText value) :
    writeStartTag name [("class", .literal value plain)] = ("<" ++ name ++ " class=\"" ++ value ++ "\">").toList := by
  simp [writeStartTag, writeAttribute]

/-- An end tag. -/
lemma endTag (name : String) : writeEndTag name = ("</" ++ name ++ ">").toList := by
  simp [writeEndTag]

/-- The start tag of a card. -/
lemma startTag_card : writeStartTag "div" [("class", .literal "ws-card" (by decide)), ("data-ws-id", w)] =
    "<div class=\"ws-card\" data-ws-id=\"".toList ++ (w.raw ++ "\">".toList) := by
  simp [writeStartTag, writeAttribute]

/-- The start tag of the checkbox. -/
lemma startTag_input : writeStartTag "input" [("type", .literal "checkbox" (by decide)),
    ("class", .literal "ws-checkbox" (by decide)), ("data-ws-id", w),
    ("onchange", .literal "updateBatchBar()" (by decide))] =
    "<input type=\"checkbox\" class=\"ws-checkbox\" data-ws-id=\"".toList ++
      (w.raw ++ "\" onchange=\"updateBatchBar()\">".toList) := by
  simp [writeStartTag, writeAttribute]

/-- The start tag of the icon. -/
lemma startTag_icon : writeStartTag "div" [("class", .literal "ws-icon " (by decide) ++ w)] =
    "<div class=\"ws-icon ".toList ++ (w.raw ++ "\">".toList) := by
  simp [writeStartTag, writeAttribute]

/-- The start tag of the launch button. -/
lemma startTag_launch : writeStartTag "button" [("class", .literal "btn btn-sm btn-launch" (by decide)), ("title", w),
    ("onclick", v)] =
    "<button class=\"btn btn-sm btn-launch\" title=\"".toList ++
      (w.raw ++ ("\" onclick=\"".toList ++ (v.raw ++ "\">".toList))) := by
  simp [writeStartTag, writeAttribute]

/-- The start tags of the buttons for editing and deleting. -/
lemma startTag_button : writeStartTag "button" [("class", .literal "btn-icon" (by decide)), ("title", w),
    ("onclick", v)] =
    "<button class=\"btn-icon\" title=\"".toList ++
      (w.raw ++ ("\" onclick=\"".toList ++ (v.raw ++ "\">".toList))) := by
  simp [writeStartTag, writeAttribute]

/-- The start tag of the status element. -/
lemma startTag_status : writeStartTag "div" [("class", .literal "ws-status" (by decide)), ("id", w)] =
    "<div class=\"ws-status\" id=\"".toList ++ (w.raw ++ "\">".toList) := by
  simp [writeStartTag, writeAttribute]

end

/-- A workspace whose texts the browser takes as they are. -/
structure ReadableCard (ws : DictValue) : Prop where
  renderable : Renderable ws
  id : Readable (wsId ws)
  name : Readable (wsName ws)
  tags : ∀ text ∈ tagTexts ws, Readable text

/-- The tag pills are the markup of the tags. -/
lemma renderTagPills_eq {tags : ListValue} (texts : ∀ tag ∈ tags, (tagText tag).isSome)
    (readable : ∀ text ∈ tags.filterMap tagText, Readable text) :
    ∃ pills, renderTagPills tags = some pills ∧ (pills = "" ↔ tags.filterMap tagText = []) ∧
      pills.toList = (tagsMarkup ((tags.filterMap tagText).map writtenText)).source := by
  induction tags with
  | nil => exact ⟨"", rfl, by simp, rfl⟩
  | cons tag tags ih =>
    obtain ⟨text, there⟩ := Option.isSome_iff_exists.mp (texts tag List.mem_cons_self)
    rw [List.filterMap_cons, there] at readable ⊢
    obtain ⟨others, rendered, _, source⟩ := ih (fun tag mem => texts tag (List.mem_cons_of_mem _ mem))
      fun text mem => readable text (List.mem_cons_of_mem _ mem)
    refine ⟨"<span class=\"ws-tag\">" ++ escapeHtml text ++ "</span>" ++ others, ?_, ?_, ?_⟩
    · rw [renderTagPills, there, rendered]
      rfl
    · refine ⟨fun empty => ?_, fun none => absurd none (List.cons_ne_nil _ _)⟩
      have length := congrArg (List.length ∘ String.toList) empty
      simp at length
    · have own := writtenText_raw (readable text List.mem_cons_self)
      simp only [List.map_cons, tagsMarkup, Markup.source, own, String.toList_append, ← source, List.append_assoc,
        List.nil_append]
      rfl

/-- The class of an icon is one of three plain words. -/
lemma iconClass_plain (ws : DictValue) : PlainText (iconClass ws) := by
  rw [iconClass]
  split_ifs
  · decide
  · decide

/-- The text of an icon is plain. -/
lemma iconText_plain (ws : DictValue) : PlainText (iconText ws) := by
  rw [iconText]
  split_ifs
  · decide
  · decide

/-- The row of the tags. -/
lemma tagsRow_source {ws : DictValue} (readable : ReadableCard ws) :
    ∃ pills, renderTagPills ((ws.findList "tags").getD []) = some pills ∧
      ∀ rest, (tagsRow ((tagTexts ws).map writtenText) rest).source =
        (if pills = "" then "" else "<div class=\"ws-tags\">" ++ pills ++ "</div>").toList ++ rest.source := by
  obtain ⟨pills, rendered, empty, source⟩ := renderTagPills_eq readable.renderable readable.tags
  refine ⟨pills, rendered, fun rest => ?_⟩
  by_cases none : pills = ""
  · have empty : (tagTexts ws).map writtenText = [] := List.map_eq_nil_iff.mpr (empty.mp none)
    rw [tagsRow, if_pos empty, if_pos none]
    rfl
  · have some_ : (tagTexts ws).map writtenText ≠ [] := fun h => none (empty.mpr (List.map_eq_nil_iff.mp h))
    rw [tagsRow, if_neg some_, if_neg none]
    simp only [Markup.source, startTag_class, endTag, String.reduceAppend, String.toList_append, List.append_assoc,
      tagTexts, ← source]

/-- The texts of the cards. -/
def textKeys : List String :=
  ["Normal", "Fingerprint", "Created", "Edit", "Delete", "Launch", "Stopped", "Running", "Starting", "Crashed",
    "Restart", "Stop"]

/-- The translations are plain. -/
lemma t_plain (locale : Locale) (key : String) (known : key ∈ textKeys) : PlainText (t locale key) := by
  have each : ∀ key ∈ textKeys, PlainText (t locale key) := by
    cases locale with
    | none => decide
    | zh => decide
  exact each key known

section
variable {toLocaleDateString : String → String} (dates : ∀ s, PlainText (toLocaleDateString s))
  (locale : Locale)

include dates in
/-- The date is plain, since dates are. -/
lemma createdText_plain (ws : DictValue) : PlainText (createdText toLocaleDateString ws) := by
  rw [createdText]
  split
  · decide
  · decide
  · exact dates _

include dates in
/-- The line with the platform and the date is plain. -/
lemma metaText_plain (ws : DictValue) : PlainText (metaText toLocaleDateString locale ws) := by
  have created := createdText_plain dates ws
  rw [metaText]
  apply PlainText.append
  · split_ifs
    · exact t_plain locale "Fingerprint" (by decide)
    · exact t_plain locale "Normal" (by decide)
  · split_ifs
    · decide
    · have separator : PlainText " \u00b7 " := by decide
      have blank : PlainText " " := by decide
      exact ((separator.append (t_plain locale "Created" (by decide))).append blank).append created

end

section
variable (toLocaleDateString : String → String) (locale : Locale)

/-- The texts of the card of a workspace. -/
def cardTexts (ws : DictValue) : CardTexts where
  kind := writtenPlain (iconClass ws)
  icon := writtenPlain (iconText ws)
  id := writtenValue (wsId ws)
  nameValue := writtenValue (wsName ws)
  name := writtenText (wsName ws)
  below := writtenPlain (metaText toLocaleDateString locale ws)
  tags := (tagTexts ws).map writtenText
  launch := writtenPlain (t locale "Launch")
  edit := writtenPlain (t locale "Edit")
  delete := writtenPlain (t locale "Delete")
  stopped := writtenPlain (t locale "Stopped")

end

section
variable {toLocaleDateString : String → String} (dates : ∀ s, PlainText (toLocaleDateString s))
  (locale : Locale)

include dates in
/-- A card is its markup. -/
lemma renderWorkspaceCard_eq {ws : DictValue} (readable : ReadableCard ws) (rest : Markup) :
    ∃ card, renderWorkspaceCard toLocaleDateString locale ws = some card ∧
      card.toList ++ rest.source = (cardMarkup (cardTexts toLocaleDateString locale ws) rest).source := by
  obtain ⟨pills, rendered, tags⟩ := tagsRow_source readable
  refine ⟨_, by rw [renderWorkspaceCard, rendered]; rfl, ?_⟩
  have kind := writtenPlain_raw (iconClass_plain ws)
  have icon := writtenPlain_raw (iconText_plain ws)
  have id := writtenValue_raw readable.id
  have nameValue := writtenValue_raw readable.name
  have name := writtenText_raw readable.name
  have below := writtenPlain_raw (metaText_plain dates locale ws)
  have launch := writtenPlain_raw (t_plain locale "Launch" (by decide))
  have edit := writtenPlain_raw (t_plain locale "Edit" (by decide))
  have delete := writtenPlain_raw (t_plain locale "Delete" (by decide))
  have stopped := writtenPlain_raw (t_plain locale "Stopped" (by decide))
  simp only [cardMarkup, cardHeader, stoppedMarkup, cardTexts, Markup.source, startTag_card, startTag_input, startTag_launch, startTag_icon,
    startTag_button, startTag_status, startTag_class, endTag, Written.raw_append, Written.raw_literal, kind, icon, id,
    nameValue, name, below, tags, launch, edit, delete, stopped, String.toList_append, List.append_assoc,
    String.reduceAppend, List.append_nil]

/-- The markup of a list of workspaces. -/
def listMarkup (toLocaleDateString : String → String) (locale : Locale) (list : List DictValue) : Markup :=
  list.foldr (fun ws => cardMarkup (cardTexts toLocaleDateString locale ws)) .nil

omit dates in
/-- The markup of a list is well formed. -/
lemma listMarkup_ok (list : List DictValue) : (listMarkup toLocaleDateString locale list).Ok false := by
  induction list with
  | nil => trivial
  | cons ws list ih => exact cardMarkup_ok _ ih

include dates in
/-- What `render` puts into the page is the source of the markup. -/
lemma renderHtml_eq {list : List DictValue} (readable : ∀ ws ∈ list, ReadableCard ws) :
    ∃ html, renderHtml toLocaleDateString locale list = some html ∧
      html.toList = (listMarkup toLocaleDateString locale list).source := by
  induction list with
  | nil => exact ⟨"", rfl, rfl⟩
  | cons ws list ih =>
    obtain ⟨others, rendered, source⟩ := ih fun ws mem => readable ws (List.mem_cons_of_mem _ mem)
    obtain ⟨card, first, own⟩ := renderWorkspaceCard_eq dates locale (readable ws List.mem_cons_self)
      (listMarkup toLocaleDateString locale list)
    refine ⟨card ++ others, ?_, ?_⟩
    · rw [renderHtml, first, rendered]
      rfl
    · rw [String.toList_append, source, own]
      rfl

end

/-- The elements of a card with their attributes, in the order of the document. -/
def cardElements (locale : Locale) (ws : DictValue) : List (String × List (String × String)) :=
  [("div", [("class", "ws-card"), ("data-ws-id", wsId ws)]),
    ("div", [("class", "ws-header")]),
    ("input", [("type", "checkbox"), ("class", "ws-checkbox"), ("data-ws-id", wsId ws),
      ("onchange", "updateBatchBar()")]),
    ("div", [("class", "ws-icon " ++ iconClass ws)]),
    ("div", [("class", "ws-info")]),
    ("div", [("class", "ws-name")]),
    ("div", [("class", "ws-meta")])] ++
  (if tagTexts ws = [] then [] else
    ("div", [("class", "ws-tags")]) :: (tagTexts ws).map fun _ => ("span", [("class", "ws-tag")])) ++
  [("div", [("class", "ws-actions")]),
    ("button", [("class", "btn btn-sm btn-launch"), ("title", t locale "Launch"),
      ("onclick", "launchWorkspace('" ++ wsId ws ++ "')")]),
    ("button", [("class", "btn-icon"), ("title", t locale "Edit"), ("onclick", "showEditWs('" ++ wsId ws ++ "')")]),
    ("button", [("class", "btn-icon"), ("title", t locale "Delete"),
      ("onclick", "showDeleteWs('" ++ wsId ws ++ "','" ++ wsName ws ++ "')")]),
    ("div", [("class", "ws-status"), ("id", "ws-status-" ++ wsId ws)]),
    ("span", [("class", "status-indicator stopped")])]

/-- The elements of the pills. -/
lemma elements_tags (tags : List Written) :
    elements (tagsMarkup tags).nodes = tags.map fun _ => ("span", [("class", "ws-tag")]) := by
  induction tags with
  | nil => rfl
  | cons tag tags ih => simp [tagsMarkup, Markup.nodes, elements, Node.elements, dataOf, ih]

/-- The elements of the row, which is there when there are tags. -/
lemma elements_tagsRow (tags : List Written) (rest : Markup) :
    elements (tagsRow tags rest).nodes =
      (if tags = [] then [] else
        ("div", [("class", "ws-tags")]) :: tags.map fun _ => ("span", [("class", "ws-tag")])) ++
        elements rest.nodes := by
  rw [tagsRow]
  split_ifs
  · rfl
  · simp [Markup.nodes, elements, Node.elements, dataOf, elements_tags]

section
variable {toLocaleDateString : String → String} (locale : Locale) {ws : DictValue} (readable : ReadableCard ws)
  (rest : Markup)

include readable in
/-- The elements of a card, and of what follows it. -/
lemma elements_card : elements (cardMarkup (cardTexts toLocaleDateString locale ws) rest).nodes =
    cardElements locale ws ++ elements rest.nodes := by
  have kind := writtenPlain_data (iconClass_plain ws)
  have launch := writtenPlain_data (t_plain locale "Launch" (by decide))
  have edit := writtenPlain_data (t_plain locale "Edit" (by decide))
  have delete := writtenPlain_data (t_plain locale "Delete" (by decide))
  simp only [cardMarkup, cardHeader, stoppedMarkup, cardTexts, Markup.nodes, elements, Node.elements, dataOf, elements_append, elements_text,
    elements_tagsRow, List.map_cons, List.map_nil, Written.data_append, Written.data_literal, kind, launch, edit,
    delete,
    writtenValue_data readable.id, writtenValue_data readable.name, cardElements, List.map_map, List.map_eq_nil_iff,
    Function.comp_def, List.nil_append, List.append_nil, List.append_assoc, List.cons_append]

end

/-- The texts of the tags that are shown. -/
lemma textsOf_tags {tags : List String} (readable : ∀ text ∈ tags, Readable text) :
    textsOf "class" "ws-tag" (tagsMarkup (tags.map writtenText)).nodes = tags := by
  induction tags with
  | nil => rfl
  | cons tag tags ih =>
    have own := writtenText_data (readable tag List.mem_cons_self)
    have others := ih fun text mem => readable text (List.mem_cons_of_mem tag mem)
    simp [tagsMarkup, Markup.nodes, textsOf, Node.textsOf, dataOf, own, others]

/-- No pill has a name. -/
lemma textsOf_name_tags (tags : List Written) : textsOf "class" "ws-name" (tagsMarkup tags).nodes = [] := by
  induction tags with
  | nil => rfl
  | cons tag tags ih => simp [tagsMarkup, Markup.nodes, textsOf, Node.textsOf, dataOf, ih]

/-- Where the tags are shown. -/
lemma textsOf_tagsRow {value : String} (other : value ≠ "ws-tags") (tags : List Written) (rest : Markup) :
    textsOf "class" value (tagsRow tags rest).nodes =
      textsOf "class" value (tagsMarkup tags).nodes ++ textsOf "class" value rest.nodes := by
  rw [tagsRow]
  split_ifs with none
  · rw [none]
    rfl
  · simp [Markup.nodes, textsOf, Node.textsOf, dataOf, other]

/-- An icon has neither the class of a name nor that of a tag. -/
lemma iconClass_ne (ws : DictValue) (value : String) (other : value ∈ ["ws-name", "ws-tag"]) :
    ("class", value) ≠ ("class", "ws-icon " ++ iconClass ws) := by
  have each : ∀ value ∈ ["ws-name", "ws-tag"], ∀ icon ∈ ["fingerprint", "normal"], value ≠ "ws-icon " ++ icon := by
    decide
  intro same
  refine each value other (iconClass ws) ?_ (Prod.ext_iff.mp same).2
  rw [iconClass]
  split_ifs
  · decide
  · decide

section
variable {toLocaleDateString : String → String} (locale : Locale) {ws : DictValue} (readable : ReadableCard ws)
  (rest : Markup)

include readable in
/-- The name of a card is the text of its name element. -/
lemma textsOf_name_card : textsOf "class" "ws-name" (cardMarkup (cardTexts toLocaleDateString locale ws) rest).nodes =
    wsName ws :: textsOf "class" "ws-name" rest.nodes := by
  have kind := writtenPlain_data (iconClass_plain ws)
  have icon := iconClass_ne ws "ws-name" (by decide)
  simp [cardMarkup, cardHeader, stoppedMarkup, cardTexts, Markup.nodes, textsOf, Node.textsOf, dataOf, kind, textsOf_tagsRow, textsOf_name_tags,
    writtenText_data readable.name, icon]

include readable in
/-- The tags of a card are the texts of its pills. -/
lemma textsOf_tag_card : textsOf "class" "ws-tag" (cardMarkup (cardTexts toLocaleDateString locale ws) rest).nodes =
    tagTexts ws ++ textsOf "class" "ws-tag" rest.nodes := by
  have kind := writtenPlain_data (iconClass_plain ws)
  have icon := iconClass_ne ws "ws-tag" (by decide)
  simp [cardMarkup, cardHeader, stoppedMarkup, cardTexts, Markup.nodes, textsOf, Node.textsOf, dataOf, kind, textsOf_tagsRow,
    textsOf_tags readable.tags, icon]

end

/-! ## The list -/

section
variable {toLocaleDateString : String → String} (dates : ∀ s, PlainText (toLocaleDateString s))
  (locale : Locale) {list : List DictValue} (readable : ∀ ws ∈ list, ReadableCard ws)

include dates readable in
/-- The list is rendered, and the browser reads the nodes of its markup. -/
lemma parse_renderHtml : ∃ html, renderHtml toLocaleDateString locale list = some html ∧
    parse html.toList = some (listMarkup toLocaleDateString locale list).nodes := by
  obtain ⟨html, rendered, source⟩ := renderHtml_eq dates locale readable
  exact ⟨html, rendered, source ▸ Markup.parse_source (listMarkup_ok locale list)⟩

include readable in
/-- The elements of a list are those of its cards. -/
lemma elements_list :
    elements (listMarkup toLocaleDateString locale list).nodes = list.flatMap (cardElements locale) := by
  induction list with
  | nil => rfl
  | cons ws list ih =>
    rw [listMarkup, List.foldr_cons, elements_card locale (readable ws List.mem_cons_self), List.flatMap_cons]
    exact congrArg _ (ih fun ws mem => readable ws (List.mem_cons_of_mem _ mem))

include dates readable in
/-- What the browser makes of the list: the elements of a card for each workspace and no others, with the ids, the names
and the tags of the workspaces as they are. -/
theorem rendered_elements : ∃ html nodes, renderHtml toLocaleDateString locale list = some html ∧
    parse html.toList = some nodes ∧ elements nodes = list.flatMap (cardElements locale) ∧
    textsOf "class" "ws-name" nodes = list.map wsName ∧ textsOf "class" "ws-tag" nodes = list.flatMap tagTexts := by
  obtain ⟨html, rendered, parsed⟩ := parse_renderHtml dates locale readable
  refine ⟨html, _, rendered, parsed, elements_list locale readable, ?_, ?_⟩
  · clear rendered parsed
    induction list with
    | nil => rfl
    | cons ws list ih =>
      rw [listMarkup, List.foldr_cons, textsOf_name_card locale (readable ws List.mem_cons_self), List.map_cons]
      exact congrArg _ (ih fun ws mem => readable ws (List.mem_cons_of_mem _ mem))
  · clear rendered parsed
    induction list with
    | nil => rfl
    | cons ws list ih =>
      rw [listMarkup, List.foldr_cons, textsOf_tag_card locale (readable ws List.mem_cons_self), List.flatMap_cons]
      exact congrArg _ (ih fun ws mem => readable ws (List.mem_cons_of_mem _ mem))

end

/-! ## The buttons -/

/-- What the elements do when they are clicked. -/
def clicks (nodes : List Node) : List String :=
  (elements nodes).filterMap fun e => e.2.lookup "onclick"

/-- The functions that the buttons of a card should call, with their arguments. -/
def cardCalls (ws : DictValue) : List (List Char × List (List Char)) :=
  [("launchWorkspace".toList, [(wsId ws).toList]), ("showEditWs".toList, [(wsId ws).toList]),
    ("showDeleteWs".toList, [(wsId ws).toList, (wsName ws).toList])]

/-- A call, in code units. -/
def inUnits (call : List Char × List (List Char)) : List Char × List (List UInt16) :=
  (call.1, call.2.map utf16)

/-- The texts of the buttons are the calls between quotes. -/
lemma clicks_cardElements (locale : Locale) (ws : DictValue) :
    ((cardElements locale ws).filterMap fun e => e.2.lookup "onclick").map String.toList =
      (cardCalls ws).map fun call => writeCall call.1 call.2 := by
  have tags (l : List String) : (l.map fun _ => ("span", [("class", "ws-tag")])).filterMap
      (fun e : String × List (String × String) => e.2.lookup "onclick") = [] := by
    rw [List.map_const', List.filterMap_replicate_of_none rfl]
  have row : (if tagTexts ws = [] then [] else
      ("div", [("class", "ws-tags")]) :: (tagTexts ws).map fun _ => ("span", [("class", "ws-tag")])).filterMap
      (fun e : String × List (String × String) => e.2.lookup "onclick") = [] := by
    split_ifs
    · rfl
    · exact tags (tagTexts ws)
  have buttons : ((cardElements locale ws).filterMap fun e => e.2.lookup "onclick") =
      ["launchWorkspace('" ++ wsId ws ++ "')", "showEditWs('" ++ wsId ws ++ "')",
        "showDeleteWs('" ++ wsId ws ++ "','" ++ wsName ws ++ "')"] := by
    rw [cardElements, List.filterMap_append, List.filterMap_append, row]
    rfl
  rw [buttons]
  simp [cardCalls, writeCall, writeArguments]

section
variable {toLocaleDateString : String → String} (dates : ∀ s, PlainText (toLocaleDateString s))
  (locale : Locale) {list : List DictValue} (readable : ∀ ws ∈ list, ReadableCard ws)

/-- The buttons of a card call their functions where the id and the name have no quote, backslash or line feed. -/
lemma card_calls_iff (ws : DictValue) :
    (cardCalls ws).map (fun call => readCall (writeCall call.1 call.2)) =
      (cardCalls ws).map (fun call => some (inUnits call)) ↔
      ∀ c ∈ (wsId ws).toList ++ (wsName ws).toList, Harmless c := by
  have reads (name : List Char) (plain : '(' ∉ name) (a : List Char) (more : List (List Char)) :
      readCall (writeCall name (a :: more)) = some (inUnits (name, a :: more)) ↔
        ∀ b ∈ a :: more, ∀ c ∈ b, Harmless c :=
    readCall_iff plain (List.cons_ne_nil a more)
  have launch := reads "launchWorkspace".toList (by decide) (wsId ws).toList []
  have edit := reads "showEditWs".toList (by decide) (wsId ws).toList []
  have delete := reads "showDeleteWs".toList (by decide) (wsId ws).toList [(wsName ws).toList]
  simp only [cardCalls, List.map_cons, List.map_nil, List.cons.injEq, and_true, launch, edit, delete,
    List.forall_mem_cons, List.forall_mem_append]
  constructor
  · rintro ⟨_, _, id, name, _⟩
    exact ⟨id, name⟩
  · rintro ⟨id, name⟩
    exact ⟨⟨id, by simp⟩, ⟨id, by simp⟩, id, name, by simp⟩

include dates readable in
/-- Each button of the list calls its function with the id and the name of its workspace exactly where no id and no name
has a quote, a backslash or a line feed. -/
theorem buttons_call_iff : ∃ html nodes, renderHtml toLocaleDateString locale list = some html ∧
    parse html.toList = some nodes ∧
    ((clicks nodes).map (fun text => readCall text.toList) =
        (list.flatMap cardCalls).map (fun call => some (inUnits call)) ↔
      ∀ ws ∈ list, ∀ c ∈ (wsId ws).toList ++ (wsName ws).toList, Harmless c) := by
  obtain ⟨html, rendered, parsed⟩ := parse_renderHtml dates locale readable
  refine ⟨html, _, rendered, parsed, ?_⟩
  rw [clicks, elements_list locale readable]
  clear rendered parsed readable
  induction list with
  | nil => simp
  | cons ws list ih =>
    have own : ((cardElements locale ws).filterMap fun e => e.2.lookup "onclick").map
        (fun text => readCall text.toList) = (cardCalls ws).map fun call => readCall (writeCall call.1 call.2) := by
      have texts := congrArg (List.map readCall) (clicks_cardElements locale ws)
      rwa [List.map_map, List.map_map] at texts
    rw [List.flatMap_cons, List.filterMap_append, List.map_append, List.flatMap_cons, List.map_append, own,
      List.forall_mem_cons, ← ih, ← card_calls_iff]
    constructor
    · exact fun same => List.append_inj same (by simp)
    · rintro ⟨first, others⟩
      rw [first, others]

end

example : readCall "showDeleteWs('a','Bob's')".toList = none := by decide

/-! ## The status line -/

/-- The port of a status line. -/
def portText (statusInfo : DictValue) : String :=
  match (statusInfo.findInt "cdp_port").filter (· ≠ 0) with
  | some port => toString port.toInt
  | none => "—"

/-- The uptime of a status line. -/
def uptimeText (statusInfo : DictValue) : String :=
  match statusInfo.findInt "uptime_seconds" with
  | some seconds => if 60 < seconds.toInt then toString (seconds.toInt / 60) ++ "m" else toString seconds.toInt ++ "s"
  | none => "undefineds"

/-- The `innerHTML` that `renderWorkspaceStatus` makes; the id is put in as it is. -/
def statusHtml (locale : Locale) (id : String) (statusInfo : DictValue) : String :=
  match shownStatus statusInfo with
  | .kRunning =>
    "<span class=\"status-indicator running\">" ++ "● " ++ t locale "Running" ++ "</span>" ++
    "\n                " ++ "<span class=\"status-meta\">" ++ "CDP: " ++ portText statusInfo ++ " · uptime " ++
      uptimeText statusInfo ++ "</span>" ++
    "\n                " ++ "<button class=\"btn btn-sm btn-stop\" onclick=\"" ++
      "event.stopPropagation();stopWorkspace('" ++ id ++ "')" ++ "\">" ++ "■ " ++ t locale "Stop" ++ "</button>"
  | .kStarting => "<span class=\"status-indicator starting\">" ++ "◌ " ++ t locale "Starting" ++ "</span>"
  | .kCrashed =>
    "<span class=\"status-indicator crashed\">" ++ "● " ++ t locale "Crashed" ++ "</span>" ++
    "\n                " ++ "<button class=\"btn btn-sm btn-launch\" onclick=\"" ++
      "event.stopPropagation();launchWorkspace('" ++ id ++ "')" ++ "\">" ++ "↻ " ++ t locale "Restart" ++ "</button>"
  | .kStopped => "<span class=\"status-indicator stopped\">" ++ "○ " ++ t locale "Stopped" ++ "</span>"

/-- The markup of a status line. -/
def statusMarkup (locale : Locale) (id : Written) (statusInfo : DictValue) : Markup :=
  match shownStatus statusInfo with
  | .kRunning =>
    .element "span" [("class", .literal "status-indicator running" (by decide))]
      (.text (.literal "● " (by decide) ++ writtenPlain (t locale "Running")) .nil) <|
    .text (.literal "\n                " (by decide)) <|
    .element "span" [("class", .literal "status-meta" (by decide))]
      (.text (.literal "CDP: " (by decide) ++ writtenPlain (portText statusInfo) ++ .literal " · uptime " (by decide) ++
        writtenPlain (uptimeText statusInfo)) .nil) <|
    .text (.literal "\n                " (by decide)) <|
    .element "button" [("class", .literal "btn btn-sm btn-stop" (by decide)),
      ("onclick", .literal "event.stopPropagation();stopWorkspace('" (by decide) ++ id ++ .literal "')" (by decide))]
      (.text (.literal "■ " (by decide) ++ writtenPlain (t locale "Stop")) .nil) .nil
  | .kStarting =>
    .element "span" [("class", .literal "status-indicator starting" (by decide))]
      (.text (.literal "◌ " (by decide) ++ writtenPlain (t locale "Starting")) .nil) .nil
  | .kCrashed =>
    .element "span" [("class", .literal "status-indicator crashed" (by decide))]
      (.text (.literal "● " (by decide) ++ writtenPlain (t locale "Crashed")) .nil) <|
    .text (.literal "\n                " (by decide)) <|
    .element "button" [("class", .literal "btn btn-sm btn-launch" (by decide)),
      ("onclick", .literal "event.stopPropagation();launchWorkspace('" (by decide) ++ id ++ .literal "')" (by decide))]
      (.text (.literal "↻ " (by decide) ++ writtenPlain (t locale "Restart")) .nil) .nil
  | .kStopped =>
    .element "span" [("class", .literal "status-indicator stopped" (by decide))]
      (.text (.literal "○ " (by decide) ++ writtenPlain (t locale "Stopped")) .nil) .nil

/-- The start tag of a button in the status line. -/
lemma startTag_statusButton (value : String) (plain : PlainText value) (w : Written) :
    writeStartTag "button" [("class", .literal value plain), ("onclick", w)] =
      ("<button class=\"" ++ value ++ "\" onclick=\"").toList ++ (w.raw ++ "\">".toList) := by
  simp [writeStartTag, writeAttribute]

/-- A number is plain. -/
lemma int_plain (n : ℤ) : PlainText (toString n) := by
  have digits (n : ℕ) : PlainText n.repr := by
    intro c mem
    rw [Nat.toList_repr] at mem
    have digit := Nat.isDigit_of_mem_toDigits (by decide) (by decide) mem
    rw [Char.isDigit_iff_toNat] at digit
    refine ⟨?_, ?_, ?_, ?_, ?_⟩ <;> rintro rfl <;> revert digit <;> decide
  have minus : PlainText "-" := by decide
  cases n with
  | ofNat n => exact digits n
  | negSucc n => exact minus.append (digits (n + 1))

section
variable (locale : Locale) {id : String} (plain : PlainText id) (statusInfo : DictValue)

/-- The markup of a status line is well formed. -/
lemma statusMarkup_ok (id : Written) : (statusMarkup locale id statusInfo).Ok false := by
  rw [statusMarkup]
  cases shownStatus statusInfo with
  | kRunning | kStarting | kCrashed | kStopped =>
    simp +decide only [Markup.Ok, List.map_cons, List.map_nil]

/-- The text of the port is plain. -/
lemma portText_plain : PlainText (portText statusInfo) := by
  rw [portText]
  split
  · exact int_plain _
  · decide

/-- The text of the uptime is plain. -/
lemma uptimeText_plain : PlainText (uptimeText statusInfo) := by
  have minutes : PlainText "m" := by decide
  have seconds : PlainText "s" := by decide
  rw [uptimeText]
  split
  · split_ifs
    · exact (int_plain _).append minutes
    · exact (int_plain _).append seconds
  · decide

/-- A status line is its markup. -/
lemma statusHtml_source :
    (statusHtml locale id statusInfo).toList = (statusMarkup locale (.literal id plain) statusInfo).source := by
  have port := writtenPlain_raw (portText_plain statusInfo)
  have uptime := writtenPlain_raw (uptimeText_plain statusInfo)
  have running := writtenPlain_raw (t_plain locale "Running" (by decide))
  have starting := writtenPlain_raw (t_plain locale "Starting" (by decide))
  have crashed := writtenPlain_raw (t_plain locale "Crashed" (by decide))
  have stopped := writtenPlain_raw (t_plain locale "Stopped" (by decide))
  have stop := writtenPlain_raw (t_plain locale "Stop" (by decide))
  have restart := writtenPlain_raw (t_plain locale "Restart" (by decide))
  rw [statusHtml, statusMarkup]
  cases shownStatus statusInfo with
  | kRunning | kStarting | kCrashed | kStopped =>
    -- the texts are split before the start tags are put together
    simp only [String.toList_append, List.append_assoc]
    simp only [Markup.source, startTag_class, startTag_statusButton, endTag, Written.raw_append, Written.raw_literal,
      running, starting, crashed, stopped, stop, restart, port, uptime, String.reduceAppend, List.append_assoc,
      List.append_nil]

/-- What the button of a status line should call. -/
def statusCalls (id : String) (statusInfo : DictValue) : List (List Char × List (List Char)) :=
  match shownStatus statusInfo with
  | .kRunning => [("stopWorkspace".toList, [id.toList])]
  | .kCrashed => [("launchWorkspace".toList, [id.toList])]
  | .kStarting => []
  | .kStopped => []

/-- The call behind `event.stopPropagation()`. -/
def readHandler (text : List Char) : Option (List Char × List (List UInt16)) :=
  (text.dropPrefix? "event.stopPropagation();".toList).bind readCall

/-- The elements of a status line with a button. -/
lemma clicks_button (others : List (String × List (String × String)))
    (none : others.filterMap (fun e => e.2.lookup "onclick") = []) (kind text : String) :
    (others ++ [("button", [("class", kind), ("onclick", text)])]).filterMap (fun e => e.2.lookup "onclick") =
      [text] := by
  rw [List.filterMap_append, none]
  rfl

/-- The handlers of a status line are the calls of its status. -/
lemma clicks_statusMarkup : (clicks (statusMarkup locale (.literal id plain) statusInfo).nodes).map String.toList =
    (statusCalls id statusInfo).map fun call => "event.stopPropagation();".toList ++ writeCall call.1 call.2 := by
  rw [clicks, statusMarkup, statusCalls]
  cases shownStatus statusInfo with
  | kRunning =>
    have button := clicks_button
      [("span", [("class", "status-indicator running")]), ("span", [("class", "status-meta")])]
      rfl "btn btn-sm btn-stop" ("event.stopPropagation();stopWorkspace('" ++ id ++ "')")
    simp only [Markup.nodes, elements, Node.elements, dataOf, elements_append, elements_text, List.map_cons,
      List.map_nil, Written.data_append, Written.data_literal, List.nil_append, List.append_nil, List.cons_append]
      at button ⊢
    rw [button]
    simp [writeCall, writeArguments]
  | kCrashed =>
    have button := clicks_button [("span", [("class", "status-indicator crashed")])]
      rfl "btn btn-sm btn-launch" ("event.stopPropagation();launchWorkspace('" ++ id ++ "')")
    simp only [Markup.nodes, elements, Node.elements, dataOf, elements_append, elements_text, List.map_cons,
      List.map_nil, Written.data_append, Written.data_literal, List.nil_append, List.append_nil, List.cons_append]
      at button ⊢
    rw [button]
    simp [writeCall, writeArguments]
  | kStarting | kStopped =>
    simp only [Markup.nodes, elements, Node.elements, dataOf, elements_text, List.map_cons, List.map_nil,
      Written.data_append, Written.data_literal, List.append_nil]
    rfl

/-- The call of a button is read where the id is harmless. -/
lemma readHandler_iff (name : List Char) (function : '(' ∉ name) (id : String) :
    readHandler ("event.stopPropagation();".toList ++ writeCall name [id.toList]) = some (inUnits (name, [id.toList])) ↔
      ∀ c ∈ id.toList, Harmless c := by
  rw [readHandler, List.dropPrefix?_append_of_beq _ (by decide), Option.bind_some]
  have reads := @readCall_iff _ [id.toList] function (List.cons_ne_nil _ _)
  rwa [List.forall_mem_singleton] at reads

include plain in
/-- The button of a status line calls its function with the id of its workspace exactly where the id has no quote, no
backslash and no line feed; the other status lines have no button. -/
theorem status_button_calls_iff : ∃ nodes, parse (statusHtml locale id statusInfo).toList = some nodes ∧
    ((clicks nodes).map (fun text => readHandler text.toList) =
        (statusCalls id statusInfo).map (fun call => some (inUnits call)) ↔
      (shownStatus statusInfo = .kRunning ∨ shownStatus statusInfo = .kCrashed → ∀ c ∈ id.toList, Harmless c)) := by
  refine ⟨_, statusHtml_source locale plain statusInfo ▸
    Markup.parse_source (statusMarkup_ok locale statusInfo (.literal id plain)), ?_⟩
  have texts := congrArg (List.map readHandler) (clicks_statusMarkup locale plain statusInfo)
  rw [List.map_map, List.map_map] at texts
  have stop := readHandler_iff "stopWorkspace".toList (by decide) id
  have launch := readHandler_iff "launchWorkspace".toList (by decide) id
  refine (Iff.of_eq (congrArg (· = _) texts)).trans ?_
  rw [statusCalls]
  cases shownStatus statusInfo with
  | kRunning => simpa using stop
  | kCrashed => simpa using launch
  | kStarting | kStopped => simp

end

/-- The status of a crashed workspace. -/
def crashedInfo : DictValue :=
  DictValue.ofFields [("status", some (.string "crashed"))]

/-- Its button works. -/
theorem status_button_calls_iff_crashed : ∃ nodes, parse (statusHtml .zh "a" crashedInfo).toList = some nodes ∧
    ((clicks nodes).map (fun text => readHandler text.toList) =
        (statusCalls "a" crashedInfo).map (fun call => some (inUnits call)) ↔
      (shownStatus crashedInfo = .kRunning ∨ shownStatus crashedInfo = .kCrashed → ∀ c ∈ "a".toList, Harmless c)) :=
  status_button_calls_iff .zh (by decide) crashedInfo

-- the id is not escaped here
example : parse (statusHtml .zh "a\"b" crashedInfo).toList = none := by decide +kernel

/-- A workspace whose name looks like markup. -/
def markupNamed : DictValue :=
  DictValue.ofFields [("id", some (.string "a")), ("name", some (.string "<b>\"R&D\"</b>")),
    ("tags", some (.list [.dict (DictValue.ofFields [("tag", some (.string "<i>"))])]))]

/-- The names of this list can be read. -/
lemma markupNamed_readable : ∀ ws ∈ [markupNamed], ReadableCard ws := by
  intro ws mem
  rw [List.mem_singleton.mp mem]
  exact ⟨by decide, by decide, by decide, by decide⟩

/-- The date of its card. -/
lemma noDate_plain : ∀ s : String, PlainText ((fun _ => "1/1/2026") s : String) := by
  intro s
  show PlainText "1/1/2026"
  decide

/-- The name is a text. -/
theorem rendered_elements_markup : ∃ html nodes, renderHtml (fun _ => "1/1/2026") .zh [markupNamed] = some html ∧
    parse html.toList = some nodes ∧ elements nodes = [markupNamed].flatMap (cardElements .zh) ∧
    textsOf "class" "ws-name" nodes = [markupNamed].map wsName ∧
    textsOf "class" "ws-tag" nodes = [markupNamed].flatMap tagTexts :=
  rendered_elements noDate_plain .zh markupNamed_readable

/-- Its buttons work. -/
theorem buttons_call_iff_markup : ∃ html nodes, renderHtml (fun _ => "1/1/2026") .zh [markupNamed] = some html ∧
    parse html.toList = some nodes ∧
    ((clicks nodes).map (fun text => readCall text.toList) =
        ([markupNamed].flatMap cardCalls).map (fun call => some (inUnits call)) ↔
      ∀ ws ∈ [markupNamed], ∀ c ∈ (wsId ws).toList ++ (wsName ws).toList, Harmless c) :=
  buttons_call_iff noDate_plain .zh markupNamed_readable

end PureCloak.WebUI
