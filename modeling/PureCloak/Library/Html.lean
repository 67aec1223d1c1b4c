import Mathlib.Data.List.Basic
import Mathlib.Tactic.Lemma
import Mathlib.Tactic.SplitIfs

/-!
# Markup

How a browser reads HTML that is put into an element, as far as it is made of ordinary and void elements with quoted
attributes, texts and the references to a few characters. `tokenize` goes through the text with a `Mode`, and `build`
nests the tokens; a text that needs more of HTML gives nothing, and so does one with a carriage return or a null, which
a browser replaces.

`Written` is a text or a value that stands for its data, and `Markup` is HTML that is written down with them; what is read
is what is meant (`Markup.parse_source`).
-/

namespace Html

/-- A node of a document; a text is the run of its characters. -/
inductive Node where
  | char (c : Char)
  | element (name : String) (attributes : List (String × String)) (children : List Node)

/-- The nodes of a text. -/
def text (s : String) : List Node :=
  s.toList.map .char

mutual

/-- The elements of a node, in the order of the document, each with its name and its attributes. -/
def Node.elements : Node → List (String × List (String × String))
  | .char _ => []
  | .element name attributes children => (name, attributes) :: elements children

/-- The elements of a list of nodes. -/
def elements : List Node → List (String × List (String × String))
  | [] => []
  | node :: nodes => node.elements ++ elements nodes

end

mutual

/-- The text of a node. -/
def Node.textContent : Node → List Char
  | .char c => [c]
  | .element _ _ children => textContent children

/-- The text of a list of nodes. -/
def textContent : List Node → List Char
  | [] => []
  | node :: nodes => node.textContent ++ textContent nodes

end

mutual

/-- The texts of the elements that have an attribute with this value, in the order of the document. -/
def Node.textsOf (name value : String) : Node → List String
  | .char _ => []
  | .element _ attributes children =>
    (if (name, value) ∈ attributes then [.ofList (textContent children)] else []) ++ textsOf name value children

def textsOf (name value : String) : List Node → List String
  | [] => []
  | node :: nodes => node.textsOf name value ++ textsOf name value nodes

end

section
variable (m n : List Node) (name value : String) (s : String)

@[simp]
lemma elements_append : elements (m ++ n) = elements m ++ elements n := by
  induction m with
  | nil => rfl
  | cons node m ih => rw [List.cons_append, elements, elements, ih, List.append_assoc]

@[simp]
lemma textContent_append : textContent (m ++ n) = textContent m ++ textContent n := by
  induction m with
  | nil => rfl
  | cons node m ih => rw [List.cons_append, textContent, textContent, ih, List.append_assoc]

@[simp]
lemma textsOf_append : textsOf name value (m ++ n) = textsOf name value m ++ textsOf name value n := by
  induction m with
  | nil => rfl
  | cons node m ih => rw [List.cons_append, textsOf, textsOf, ih, List.append_assoc]

@[simp]
lemma elements_text : elements (text s) = [] := by
  rw [text]
  induction s.toList with
  | nil => rfl
  | cons c cs ih => rw [List.map_cons, elements, ih, Node.elements, List.nil_append]

@[simp]
lemma textContent_text : textContent (text s) = s.toList := by
  rw [text]
  induction s.toList with
  | nil => rfl
  | cons c cs ih => rw [List.map_cons, textContent, ih, Node.textContent, List.singleton_append]

@[simp]
lemma textsOf_text : textsOf name value (text s) = [] := by
  rw [text]
  induction s.toList with
  | nil => rfl
  | cons c cs ih => rw [List.map_cons, textsOf, ih, Node.textsOf, List.nil_append]

end

/-! ## References -/

/-- The character that a reference with this name stands for. -/
def reference : List Char → Option Char
  | ['a', 'm', 'p'] => some '&'
  | ['l', 't'] => some '<'
  | ['g', 't'] => some '>'
  | ['q', 'u', 'o', 't'] => some '"'
  | ['#', a, b] =>
    if 48 ≤ a.toNat ∧ a.toNat < 58 ∧ 48 ≤ b.toNat ∧ b.toNat < 58 ∧ (a, b) ≠ ('0', '0') ∧ (a, b) ≠ ('1', '3') then
      some (Char.ofNat ((a.toNat - 48) * 10 + (b.toNat - 48)))
    else none
  | _ => none

/-- A character of a text or a value, with the name of the reference that is open: what it adds to the data, and the
reference after it. -/
def readChar : Option (List Char) → Char → Option (List Char × Option (List Char))
  | none, c =>
    if c = '&' then some ([], some [])
    else if c = '\r' ∨ c = '\x00' then none
    else some ([c], none)
  | some name, c =>
    if c = ';' then (reference name).map fun d => ([d], none) else some ([], some (name ++ [c]))

/-- The data of a text or a value. -/
def decode : Option (List Char) → List Char → Option (List Char)
  | none, [] => some []
  | some _, [] => none
  | pending, c :: cs => (readChar pending c).bind fun r => (decode r.2 cs).map (r.1 ++ ·)

example : decode none "a&#39;&lt;b".toList = some "a'<b".toList := by decide

/-- A character is decoded with what is pending before it. -/
lemma decode_cons (pending : Option (List Char)) (c : Char) (cs : List Char) :
    decode pending (c :: cs) = (readChar pending c).bind fun r => (decode r.2 cs).map (r.1 ++ ·) := by
  cases pending <;> rfl

/-- Two raw texts are decoded one after the other, unless the first one leaves a reference open. -/
lemma decode_append {pending : Option (List Char)} {raw raw' data data' : List Char} (h : decode pending raw = some data)
    (h' : decode none raw' = some data') : decode pending (raw ++ raw') = some (data ++ data') := by
  induction raw generalizing pending data with
  | nil =>
    cases pending with
    | none =>
      cases h
      exact h'
    | some name => cases h
  | cons c raw ih =>
    rw [decode_cons] at h
    obtain ⟨r, read, h⟩ := Option.bind_eq_some_iff.mp h
    obtain ⟨behind, rest, rfl⟩ := Option.map_eq_some_iff.mp h
    rw [List.cons_append, decode_cons, read, Option.bind_some, ih rest, Option.map_some, List.append_assoc]

/-- Where every character is written as a text that stands for it, the text stands for the characters. -/
lemma decode_flatMap {enc : Char → List Char} {s : List Char} (h : ∀ c ∈ s, decode none (enc c) = some [c]) :
    decode none (s.flatMap enc) = some s := by
  induction s with
  | nil => rfl
  | cons c s ih =>
    rw [List.flatMap_cons]
    exact decode_append (h c List.mem_cons_self) (ih fun d mem => h d (List.mem_cons_of_mem c mem))

/-- What can stand in a text and in a value. -/
def Safe (raw : List Char) : Prop :=
  ∀ c ∈ raw, c ≠ '<' ∧ c ≠ '"'

instance (raw : List Char) : Decidable (Safe raw) :=
  List.decidableBAll (fun c => c ≠ '<' ∧ c ≠ '"') raw

/-- A text or a value as it is written, and its data. -/
structure Written where
  raw : List Char
  data : String
  safe : Safe raw
  decodes : decode none raw = some data.toList

/-- A character that is written as itself. -/
def Plain (c : Char) : Prop :=
  c ≠ '<' ∧ c ≠ '"' ∧ c ≠ '&' ∧ c ≠ '\r' ∧ c ≠ '\x00'

instance (c : Char) : Decidable (Plain c) :=
  inferInstanceAs (Decidable (_ ∧ _))

/-- A text that is written as itself. -/
def PlainText (s : String) : Prop :=
  ∀ c ∈ s.toList, Plain c

instance (s : String) : Decidable (PlainText s) :=
  List.decidableBAll Plain s.toList

/-- Two plain texts are a plain text. -/
lemma PlainText.append {s t : String} (plain : PlainText s) (plain' : PlainText t) : PlainText (s ++ t) := by
  rw [PlainText, String.toList_append, List.forall_mem_append]
  exact ⟨plain, plain'⟩

/-- A plain character is decoded to itself. -/
lemma decode_plain {c : Char} (plain : Plain c) : decode none [c] = some [c] := by
  rw [decode_cons, readChar, if_neg plain.2.2.1, if_neg (not_or.mpr plain.2.2.2)]
  rfl

namespace Written

/-- What is written character by character. -/
def encoded (enc : Char → List Char) (s : String) (safe : ∀ c ∈ s.toList, Safe (enc c))
    (decodes : ∀ c ∈ s.toList, decode none (enc c) = some [c]) : Written where
  raw := s.toList.flatMap enc
  data := s
  safe d mem := by
    obtain ⟨c, known, mem⟩ := List.mem_flatMap.mp mem
    exact safe c known d mem
  decodes := decode_flatMap decodes

/-- What is written as it is. -/
def literal (s : String) (plain : PlainText s) : Written where
  raw := s.toList
  data := s
  safe c mem := ⟨(plain c mem).1, (plain c mem).2.1⟩
  decodes := by
    have h := @decode_flatMap (fun c => [c]) s.toList fun c mem => decode_plain (plain c mem)
    rwa [List.flatMap_singleton'] at h

/-- What is written behind each other. -/
def append (v w : Written) : Written where
  raw := v.raw ++ w.raw
  data := v.data ++ w.data
  safe c mem := (List.mem_append.mp mem).elim (v.safe c) (w.safe c)
  decodes := by
    rw [String.toList_append]
    exact decode_append v.decodes w.decodes

instance : Append Written :=
  ⟨append⟩

@[simp]
lemma raw_append (v w : Written) : (v ++ w).raw = v.raw ++ w.raw :=
  rfl

@[simp]
lemma data_append (v w : Written) : (v ++ w).data = v.data ++ w.data :=
  rfl

@[simp]
lemma raw_literal {s : String} (plain : PlainText s) : (literal s plain).raw = s.toList :=
  rfl

@[simp]
lemma data_literal {s : String} (plain : PlainText s) : (literal s plain).data = s :=
  rfl

end Written

/-! ## Tokens -/

/-- A start tag. -/
structure Tag where
  name : String
  attributes : List (String × String) := []
deriving DecidableEq

/-- The first attribute of a name counts. -/
def Tag.add (tag : Tag) (name value : String) : Tag :=
  if name ∈ tag.attributes.map Prod.fst then tag else { tag with attributes := tag.attributes ++ [(name, value)] }

inductive Token where
  | char (c : Char)
  | startTag (tag : Tag)
  | endTag (name : String)
deriving DecidableEq

/-- What a name is the name of. -/
inductive Named where
  | startTag
  | endTag
  | attribute (tag : Tag)

/-- Where the tokenizer is. -/
inductive Mode where
  /-- In a text, perhaps in a reference. -/
  | data (pending : Option (List Char))
  | tagOpen
  | name (of : Named) (name : List Char)
  | beforeName (tag : Tag)
  | beforeValue (tag : Tag) (name : String)
  | value (tag : Tag) (name : String) (value : List Char) (pending : Option (List Char))
  | afterValue (tag : Tag)

def Space (c : Char) : Prop :=
  c = ' ' ∨ c = '\n' ∨ c = '\t' ∨ c = '\x0c'

instance (c : Char) : Decidable (Space c) :=
  inferInstanceAs (Decidable (_ ∨ _))

/-- A character of a name. -/
def NameChar (c : Char) : Prop :=
  (97 ≤ c.toNat ∧ c.toNat < 123) ∨ (48 ≤ c.toNat ∧ c.toNat < 58) ∨ c = '-'

instance (c : Char) : Decidable (NameChar c) :=
  inferInstanceAs (Decidable (_ ∨ _))

/-- A character behind the name or an attribute of a tag. -/
def behindTag (tag : Tag) (c : Char) : Option (Mode × List Token) :=
  if Space c then some (.beforeName tag, [])
  else if c = '>' then some (.data none, [.startTag tag])
  else none

/-- The character behind a name. -/
def behindName (name : String) (c : Char) : Named → Option (Mode × List Token)
  | .startTag => behindTag ⟨name, []⟩ c
  | .endTag => if c = '>' then some (.data none, [.endTag name]) else none
  | .attribute tag => if c = '=' then some (.beforeValue tag name, []) else none

/-- One character. -/
def step : Mode → Char → Option (Mode × List Token)
  | .data pending, c =>
    if pending = none ∧ c = '<' then some (.tagOpen, [])
    else (readChar pending c).map fun r => (.data r.2, r.1.map .char)
  | .tagOpen, c =>
    if c = '/' then some (.name .endTag [], [])
    else if 97 ≤ c.toNat ∧ c.toNat < 123 then some (.name .startTag [c], [])
    else none
  | .name of name, c =>
    if NameChar c then some (.name of (name ++ [c]), [])
    else if name = [] then none
    else behindName (.ofList name) c of
  | .beforeName tag, c => if NameChar c then some (.name (.attribute tag) [c], []) else behindTag tag c
  | .beforeValue tag name, c => if c = '"' then some (.value tag name [] none, []) else none
  | .value tag name value pending, c =>
    if pending = none ∧ c = '"' then some (.afterValue (tag.add name (.ofList value)), [])
    else (readChar pending c).map fun r => (.value tag name (value ++ r.1) r.2, [])
  | .afterValue tag, c => behindTag tag c

/-- The tokens of a text. -/
def tokenize : Mode → List Char → Option (List Token)
  | .data none, [] => some []
  | _, [] => none
  | m, c :: cs => (step m c).bind fun r => (tokenize r.1 cs).map (r.2 ++ ·)

/-- One step of the tokenizer, and the rest. -/
lemma tokenize_cons (m : Mode) (c : Char) (cs : List Char) :
    tokenize m (c :: cs) = (step m c).bind fun r => (tokenize r.1 cs).map (r.2 ++ ·) := by
  rw [tokenize]

/-- A character that only changes the mode. -/
lemma tokenize_cons_of_step {m m' : Mode} {c : Char} (h : step m c = some (m', [])) (cs : List Char) :
    tokenize m (c :: cs) = tokenize m' cs := by
  rw [tokenize_cons, h, Option.bind_some]
  exact congrFun Option.map_id _

/-- A text without a tag. -/
lemma tokenize_data {pending : Option (List Char)} {raw data : List Char} (plain : '<' ∉ raw)
    (decoded : decode pending raw = some data) (rest : List Char) :
    tokenize (.data pending) (raw ++ rest) = (tokenize (.data none) rest).map (data.map Token.char ++ ·) := by
  induction raw generalizing pending data with
  | nil =>
    cases pending with
    | none =>
      cases decoded
      exact (congrFun Option.map_id _).symm
    | some name => cases decoded
  | cons c raw ih =>
    rw [decode_cons] at decoded
    obtain ⟨r, read, decoded⟩ := Option.bind_eq_some_iff.mp decoded
    obtain ⟨behind, decodes, rfl⟩ := Option.map_eq_some_iff.mp decoded
    have other : ¬ (pending = none ∧ c = '<') := fun h => plain (h.2 ▸ List.mem_cons_self)
    rw [List.cons_append, tokenize_cons, step, if_neg other, read, Option.map_some, Option.bind_some,
      ih (fun mem => plain (List.mem_cons_of_mem c mem)) decodes, Option.map_map]
    simp [Function.comp_def]

/-- The value of an attribute, up to the quote behind it. -/
lemma tokenize_value {tag : Tag} {name : String} {value : List Char} {pending : Option (List Char)} {raw data : List Char}
    (plain : '"' ∉ raw) (decoded : decode pending raw = some data) (rest : List Char) :
    tokenize (.value tag name value pending) (raw ++ '"' :: rest) =
      tokenize (.afterValue (tag.add name (.ofList (value ++ data)))) rest := by
  induction raw generalizing pending value data with
  | nil =>
    cases pending with
    | none =>
      cases decoded
      have here : step (.value tag name value none) '"' = some (.afterValue (tag.add name (.ofList value)), []) := rfl
      rw [List.append_nil]
      exact tokenize_cons_of_step here rest
    | some name => cases decoded
  | cons c raw ih =>
    rw [decode_cons] at decoded
    obtain ⟨r, read, decoded⟩ := Option.bind_eq_some_iff.mp decoded
    obtain ⟨behind, decodes, rfl⟩ := Option.map_eq_some_iff.mp decoded
    have other : ¬ (pending = none ∧ c = '"') := fun h => plain (h.2 ▸ List.mem_cons_self)
    have here : step (.value tag name value pending) c = some (.value tag name (value ++ r.1) r.2, []) := by
      rw [step, if_neg other, read]
      rfl
    rw [List.cons_append, tokenize_cons_of_step here, ih (fun mem => plain (List.mem_cons_of_mem c mem)) decodes,
      List.append_assoc]

/-- A name, up to a character that is none of its characters. -/
lemma tokenize_name {of : Named} {before name : List Char} (chars : ∀ c ∈ name, NameChar c) (rest : List Char) :
    tokenize (.name of before) (name ++ rest) = tokenize (.name of (before ++ name)) rest := by
  induction name generalizing before with
  | nil => rw [List.append_nil, List.nil_append]
  | cons c name ih =>
    have here : step (.name of before) c = some (.name of (before ++ [c]), []) := if_pos (chars c List.mem_cons_self)
    rw [List.cons_append, tokenize_cons_of_step here, ih fun d mem => chars d (List.mem_cons_of_mem c mem),
      List.append_assoc, List.singleton_append]

/-- The character behind a name. -/
lemma step_behindName {of : Named} {name : List Char} {c : Char} (something : name ≠ []) (other : ¬ NameChar c) :
    step (.name of name) c = behindName (.ofList name) c of := by
  rw [step, if_neg other, if_neg something]

/-! ## What is written -/

/-- An attribute as it is written. -/
def writeAttribute (a : String × Written) : List Char :=
  ' ' :: (a.1.toList ++ '=' :: '"' :: (a.2.raw ++ ['"']))

/-- A start tag as it is written. -/
def writeStartTag (name : String) (attributes : List (String × Written)) : List Char :=
  '<' :: (name.toList ++ attributes.flatMap writeAttribute ++ ['>'])

def writeEndTag (name : String) : List Char :=
  '<' :: '/' :: (name.toList ++ ['>'])

/-- The attributes that are meant. -/
def dataOf (attributes : List (String × Written)) : List (String × String) :=
  attributes.map fun a => (a.1, a.2.data)

/-- A name that can be read. -/
def NameOk (name : String) : Prop :=
  name.toList ≠ [] ∧ ∀ c ∈ name.toList, NameChar c

instance (name : String) : Decidable (NameOk name) :=
  @instDecidableAnd _ _ _ (List.decidableBAll NameChar name.toList)

/-- The attributes of a tag. -/
lemma tokenize_attributes {tag : Tag} {attributes : List (String × Written)}
    (ok : ∀ name ∈ attributes.map Prod.fst, NameOk name)
    (distinct : (tag.attributes.map Prod.fst ++ attributes.map Prod.fst).Nodup) (rest : List Char) :
    tokenize (.afterValue tag) (attributes.flatMap writeAttribute ++ '>' :: rest) =
      (tokenize (.data none) rest).map
        (.startTag ⟨tag.name, tag.attributes ++ dataOf attributes⟩ :: ·) := by
  induction attributes generalizing tag with
  | nil =>
    have here : step (.afterValue tag) '>' = some (.data none, [.startTag tag]) := rfl
    rw [List.flatMap_nil, List.nil_append, tokenize_cons, here, Option.bind_some, dataOf, List.map_nil, List.append_nil]
    rfl
  | cons a attributes ih =>
    obtain ⟨name, value⟩ := a
    obtain ⟨something, chars⟩ := ok name List.mem_cons_self
    have plain : '"' ∉ value.raw := fun mem => (value.safe _ mem).2 rfl
    obtain ⟨c, cs, own⟩ := List.exists_cons_of_ne_nil something
    have space : step (.afterValue tag) ' ' = some (.beforeName tag, []) := rfl
    have first : step (.beforeName tag) c = some (.name (.attribute tag) [c], []) :=
      if_pos (chars c (own ▸ List.mem_cons_self))
    have equals : step (.name (.attribute tag) (c :: cs)) '=' = some (.beforeValue tag (.ofList (c :: cs)), []) := by
      rw [step_behindName (List.cons_ne_nil c cs) (by decide)]
      rfl
    have quote : step (.beforeValue tag (.ofList (c :: cs))) '"' =
        some (.value tag (.ofList (c :: cs)) [] none, []) := rfl
    have fresh : name ∉ tag.attributes.map Prod.fst := by
      intro known
      exact (List.nodup_append.mp distinct).2.2 name known name List.mem_cons_self rfl
    have added : tag.add name (.ofList value.data.toList) =
        { tag with attributes := tag.attributes ++ [(name, value.data)] } := by
      rw [Tag.add, if_neg fresh, String.ofList_toList]
    have shape : ((name, value) :: attributes).flatMap writeAttribute ++ '>' :: rest =
        ' ' :: c :: (cs ++ '=' :: '"' :: (value.raw ++ '"' :: (attributes.flatMap writeAttribute ++ '>' :: rest))) := by
      simp [writeAttribute, own]
    rw [shape, tokenize_cons_of_step space, tokenize_cons_of_step first,
      tokenize_name fun d mem => chars d (own ▸ List.mem_cons_of_mem c mem), List.singleton_append,
      tokenize_cons_of_step equals, tokenize_cons_of_step quote, tokenize_value plain value.decodes, List.nil_append, ← own,
      String.ofList_toList, added, ih]
    · simp [dataOf]
    · exact fun a mem => ok a (List.mem_cons_of_mem _ mem)
    · simpa using distinct

/-- A start tag. -/
lemma tokenize_startTag {name : String} {attributes : List (String × Written)}
    (letter : ∃ c cs, name.toList = c :: cs ∧ 97 ≤ c.toNat ∧ c.toNat < 123) (chars : ∀ c ∈ name.toList, NameChar c)
    (ok : ∀ name ∈ attributes.map Prod.fst, NameOk name) (distinct : (attributes.map Prod.fst).Nodup) (rest : List Char) :
    tokenize (.data none) (writeStartTag name attributes ++ rest) =
      (tokenize (.data none) rest).map (.startTag ⟨name, dataOf attributes⟩ :: ·) := by
  obtain ⟨c, cs, own, letter⟩ := letter
  have bracket : step (.data none) '<' = some (.tagOpen, []) := rfl
  have noSlash : c ≠ '/' := by
    rintro rfl
    exact absurd letter.1 (by decide)
  have first : step .tagOpen c = some (.name .startTag [c], []) := by
    rw [step, if_neg noSlash, if_pos letter]
  -- behind the name it goes on as behind an attribute
  have behind (d : Char) (other : ¬ NameChar d) : step (.name .startTag (c :: cs)) d = step (.afterValue ⟨name, []⟩) d := by
    rw [step_behindName (List.cons_ne_nil c cs) other, ← own, String.ofList_toList]
    rfl
  have same (tail : List Char) : tokenize (.name .startTag (c :: cs)) (attributes.flatMap writeAttribute ++ '>' :: tail) =
      tokenize (.afterValue ⟨name, []⟩) (attributes.flatMap writeAttribute ++ '>' :: tail) := by
    cases attributes with
    | nil => rw [List.flatMap_nil, List.nil_append, tokenize_cons, tokenize_cons, behind '>' (by decide)]
    | cons a attributes =>
      rw [List.flatMap_cons, writeAttribute, List.append_assoc, List.cons_append, tokenize_cons, tokenize_cons,
        behind ' ' (by decide)]
  have shape : writeStartTag name attributes ++ rest =
      '<' :: c :: (cs ++ (attributes.flatMap writeAttribute ++ '>' :: rest)) := by
    simp [writeStartTag, own]
  rw [shape, tokenize_cons_of_step bracket, tokenize_cons_of_step first,
    tokenize_name fun d mem => chars d (own ▸ List.mem_cons_of_mem c mem), List.singleton_append, same]
  apply tokenize_attributes ok
  exact distinct

/-- An end tag. -/
lemma tokenize_endTag {name : String} (something : name.toList ≠ []) (chars : ∀ c ∈ name.toList, NameChar c)
    (rest : List Char) :
    tokenize (.data none) (writeEndTag name ++ rest) = (tokenize (.data none) rest).map (.endTag name :: ·) := by
  have bracket : step (.data none) '<' = some (.tagOpen, []) := rfl
  have slash : step .tagOpen '/' = some (.name .endTag [], []) := rfl
  have finish : step (.name .endTag name.toList) '>' = some (.data none, [.endTag name]) := by
    rw [step_behindName something (by decide), String.ofList_toList]
    rfl
  have shape : writeEndTag name ++ rest = '<' :: '/' :: (name.toList ++ '>' :: rest) := by
    simp [writeEndTag]
  rw [shape, tokenize_cons_of_step bracket, tokenize_cons_of_step slash, tokenize_name chars, List.nil_append,
    tokenize_cons, finish, Option.bind_some]
  rfl

/-! ## Trees -/

/-- The elements that are nested as they are tagged, as long as there are no others. -/
def ordinary : List String :=
  ["div", "section", "span", "label", "button"]

/-- The elements without an end tag. -/
def void : List String :=
  ["input", "img", "br"]

/-- An element that is open, and the nodes in front of it. -/
structure Open where
  tag : Tag
  before : List Node

/-- Whether there is a button in the open elements; a second one would close it. -/
def inButton (stack : List Open) : Bool :=
  stack.any (·.tag.name = "button")

/-- The nodes of a list of tokens; `done` are those of the innermost element so far. -/
def build : List Open → List Node → List Token → Option (List Node)
  | stack, done, [] => if stack.isEmpty then some done else none
  | stack, done, .char c :: tokens => build stack (done ++ [.char c]) tokens
  | stack, done, .startTag tag :: tokens =>
    if tag.name ∈ void then build stack (done ++ [.element tag.name tag.attributes []]) tokens
    else if tag.name ∈ ordinary ∧ ¬ (tag.name = "button" ∧ inButton stack = true) then
      build (⟨tag, done⟩ :: stack) [] tokens
    else none
  | stack, done, .endTag name :: tokens =>
    match stack with
    | [] => none
    | o :: stack =>
      if o.tag.name = name then build stack (o.before ++ [.element name o.tag.attributes done]) tokens else none

/-- The nodes of HTML that is put into an element. -/
def parse (s : List Char) : Option (List Node) :=
  (tokenize (.data none) s).bind (build [] [])

/-- The characters of a text are added to the nodes that are done. -/
lemma build_chars (stack : List Open) (done : List Node) (cs : List Char) (tokens : List Token) :
    build stack done (cs.map Token.char ++ tokens) = build stack (done ++ cs.map Node.char) tokens := by
  induction cs generalizing done with
  | nil => rw [List.map_nil, List.map_nil, List.nil_append, List.append_nil]
  | cons c cs ih =>
    rw [List.map_cons, List.cons_append, build, ih, List.append_assoc]
    rfl

/-! ## Markup -/

/-- HTML as it is written: what comes first, and the rest behind it. -/
inductive Markup where
  | nil
  | text (written : Written) (rest : Markup)
  | element (name : String) (attributes : List (String × Written)) (children rest : Markup)
  | void (name : String) (attributes : List (String × Written)) (rest : Markup)

namespace Markup

/-- The text that is written. -/
def source : Markup → List Char
  | .nil => []
  | .text written rest => written.raw ++ rest.source
  | .element name attributes children rest =>
    writeStartTag name attributes ++ children.source ++ writeEndTag name ++ rest.source
  | .void name attributes rest => writeStartTag name attributes ++ rest.source

/-- The nodes that are meant. -/
def nodes : Markup → List Node
  | .nil => []
  | .text written rest => Html.text written.data ++ rest.nodes
  | .element name attributes children rest => .element name (dataOf attributes) children.nodes :: rest.nodes
  | .void name attributes rest => .element name (dataOf attributes) [] :: rest.nodes

/-- The elements are those that can be nested, with attributes that can be read. -/
def Ok : Bool → Markup → Prop
  | _, .nil => True
  | inside, .text _ rest => rest.Ok inside
  | inside, .element name attributes children rest =>
    (name ∈ ordinary ∧ ¬ (name = "button" ∧ inside = true) ∧ (∀ name ∈ attributes.map Prod.fst, NameOk name) ∧
      (attributes.map Prod.fst).Nodup) ∧ children.Ok (name = "button" || inside) ∧ rest.Ok inside
  | inside, .void name attributes rest =>
    (name ∈ Html.void ∧ (∀ name ∈ attributes.map Prod.fst, NameOk name) ∧ (attributes.map Prod.fst).Nodup) ∧ rest.Ok inside

/-- The names of the known elements. -/
lemma name_ok {name : String} (known : name ∈ ordinary ++ Html.void) :
    (∃ c cs, name.toList = c :: cs ∧ 97 ≤ c.toNat ∧ c.toNat < 123) ∧ ∀ c ∈ name.toList, NameChar c := by
  have each : ∀ name ∈ ordinary ++ Html.void, (name.toList.head?.any fun c => 97 ≤ c.toNat ∧ c.toNat < 123) = true ∧
      NameOk name := by
    decide
  obtain ⟨letter, _, chars⟩ := each name known
  refine ⟨?_, chars⟩
  cases own : name.toList with
  | nil =>
    rw [own] at letter
    cases letter
  | cons c cs =>
    rw [own] at letter
    exact ⟨c, cs, rfl, of_decide_eq_true letter⟩

/-- What is written is read as what is meant, wherever it stands. -/
lemma reads (m : Markup) {stack : List Open} (ok : m.Ok (inButton stack)) (rest : List Char) (done : List Node) :
    (tokenize (.data none) (m.source ++ rest)).bind (build stack done) =
      (tokenize (.data none) rest).bind (build stack (done ++ m.nodes)) := by
  induction m generalizing stack rest done with
  | nil => rw [source, nodes, List.nil_append, List.append_nil]
  | text written tail ih =>
    have plain : '<' ∉ written.raw := fun mem => (written.safe _ mem).1 rfl
    have chars : (build stack done ∘ (written.data.toList.map Token.char ++ ·)) =
        build stack (done ++ Html.text written.data) := by
      funext tokens
      rw [Function.comp_apply, build_chars, Html.text]
    rw [source, List.append_assoc, tokenize_data plain written.decodes, Option.bind_map, chars, ih ok, nodes,
      List.append_assoc]
  | void name attributes tail ih =>
    obtain ⟨⟨known, attributesOk, distinct⟩, ok⟩ := ok
    obtain ⟨letter, chars⟩ := name_ok (List.mem_append_right _ known)
    rw [source, List.append_assoc, tokenize_startTag letter chars attributesOk distinct, Option.bind_map]
    have here : (build stack done ∘ (Token.startTag ⟨name, dataOf attributes⟩ :: ·)) =
        build stack (done ++ [.element name (dataOf attributes) []]) := by
      funext tokens
      rw [Function.comp_apply, build]
      exact if_pos known
    rw [here, ih ok, nodes, List.append_assoc]
    rfl
  | element name attributes children tail ihc iht =>
    obtain ⟨⟨known, alone, attributesOk, distinct⟩, childrenOk, ok⟩ := ok
    obtain ⟨letter, chars⟩ := name_ok (List.mem_append_left _ known)
    have something : name.toList ≠ [] := by
      obtain ⟨c, cs, own, _⟩ := letter
      rw [own]
      exact List.cons_ne_nil c cs
    have notVoid : name ∉ Html.void := by
      have : ∀ name ∈ ordinary, name ∉ Html.void := by decide
      exact this name known
    let tag : Tag := ⟨name, dataOf attributes⟩
    have opens : (build stack done ∘ (Token.startTag tag :: ·)) = build (⟨tag, done⟩ :: stack) [] := by
      funext tokens
      rw [Function.comp_apply, build]
      exact (if_neg notVoid).trans (if_pos ⟨known, alone⟩)
    have closes : (build (⟨tag, done⟩ :: stack) children.nodes ∘ (Token.endTag name :: ·)) =
        build stack (done ++ [.element name tag.attributes children.nodes]) := by
      funext tokens
      rw [Function.comp_apply, build]
      exact if_pos rfl
    have inside : inButton (⟨tag, done⟩ :: stack) = (decide (name = "button") || inButton stack) := rfl
    rw [source, List.append_assoc, List.append_assoc, List.append_assoc,
      tokenize_startTag letter chars attributesOk distinct, Option.bind_map, opens, ihc (inside ▸ childrenOk),
      List.nil_append, tokenize_endTag something chars, Option.bind_map, closes, iht ok, nodes, List.append_assoc]
    rfl

/-- What is written is read as what is meant. -/
theorem parse_source {m : Markup} (ok : m.Ok false) : parse m.source = some m.nodes := by
  have h := @reads m [] ok [] []
  rw [List.append_nil] at h
  exact h

end Markup

end Html
