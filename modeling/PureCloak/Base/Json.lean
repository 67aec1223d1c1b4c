import PureCloak.Base.Value

/-!
# JSON text

The two ends of Chromium's JSON library that the store uses: `JSONWriter`, which turns a dictionary into
text, and `JSONFileValueDeserializer`, which parses the bytes of a file. Both belong to the base library,
so they are the class `JsonLib`, and what the results rely on is stated about an instance of it:
`RoundTrips`, that a dictionary which is written completely is read back, and `ObjectsEnd`, that the text
of an object ends with its closing brace. What parses the messages that come over a connection is
`JSONReader`, another class.

`prettyPrint` is the text that `JSONWriter` produces with `OPTIONS_PRETTY_PRINT`, and `tableJson` an
instance that writes it and parses back the texts of the dictionaries of a table; it is used on
concrete inputs only.
-/

namespace PureCloak.Base

/-- The bytes of a file. -/
abbrev Bytes := List UInt8

/-- The JSON writer and the parser. -/
class JsonLib where
  /-- `JSONWriter::WriteWithOptions` with `OPTIONS_PRETTY_PRINT`. -/
  write : DictValue → Option Bytes
  /-- `JSONFileValueDeserializer::Deserialize` on the bytes of the file. -/
  parse : Bytes → Option Value

/-- `JSONReader::Read` with `JSON_PARSE_RFC`. -/
class JSONReader where
  read : Bytes → Option Value

/-- A parser of the texts of a table. -/
@[reducible]
def tableReader (table : List (Bytes × Value)) : JSONReader where
  read json := (table.find? fun entry => entry.1 = json).map Prod.snd

/-- The bytes of a text. -/
def utf8 (s : String) : Bytes :=
  s.toList.flatMap String.utf8EncodeChar

/-- The bytes of two texts. -/
lemma utf8_append (a b : String) : utf8 (a ++ b) = utf8 a ++ utf8 b := by
  rw [utf8, String.toList_append, List.flatMap_append]
  rfl

/-- The text of a dictionary is written and is parsed as that dictionary. -/
def RoundTrips [JsonLib] (dict : DictValue) (json : Bytes) : Prop :=
  JsonLib.write dict = some json ∧ JsonLib.parse json = some (.dict dict)

/-- An object ends with its closing brace: a text that goes on after one is still this object, when only
blanks follow, or no JSON at all. -/
def ObjectsEnd [JsonLib] : Prop :=
  ∀ (json rest : Bytes) (dict : DictValue) (v : Value),
    JsonLib.parse json = some (.dict dict) → JsonLib.parse (json ++ rest) = some v → v = .dict dict

/-! ## Pretty printing -/

/-- `\uXXXX` of the JSON string escapes. -/
def escapeUnicode (n : Nat) : List Char :=
  let digits := (Nat.toDigits 16 n).map Char.toUpper
  '\\' :: 'u' :: List.replicate (4 - digits.length) '0' ++ digits

/-- A character as `EscapeJSONString` writes it. -/
def escapeChar (c : Char) : List Char :=
  match c with
  | '"' => ['\\', '"']
  | '\\' => ['\\', '\\']
  | '\n' => ['\\', 'n']
  | '\r' => ['\\', 'r']
  | '\t' => ['\\', 't']
  | '\x08' => ['\\', 'b']
  | '\x0c' => ['\\', 'f']
  | c =>
    if c.toNat < 32 ∨ c = '<' ∨ c.toNat = 0x2028 ∨ c.toNat = 0x2029 then escapeUnicode c.toNat
    else [c]

/-- A string in quotes. -/
def quote (s : String) : List Char :=
  '"' :: s.toList.flatMap escapeChar ++ ['"']

/-- `JSONWriter::IndentLine`. -/
def indentLine (depth : Nat) : List Char :=
  List.replicate (3 * depth) ' '

mutual

/-- `JSONWriter::BuildJSONString`; doubles, which no workspace has, are not written. -/
def buildJSONString (depth : Nat) : Value → Option (List Char)
  | .none => some "null".toList
  | .boolean true => some "true".toList
  | .boolean false => some "false".toList
  | .integer i => some (toString i.toInt).toList
  | .double _ => none
  | .string s => some (quote s)
  | .list items => (buildItems depth items).map fun s => '[' :: ' ' :: s ++ [' ', ']']
  | .dict entries => (buildEntries (depth + 1) entries).map fun s =>
    '\x7b' :: '\n' :: s ++ (if entries.isEmpty then [] else ['\n']) ++ indentLine depth ++ ['\x7d']

/-- The items of a list. -/
def buildItems (depth : Nat) : List Value → Option (List Char)
  | [] => some []
  | v :: vs => do
    let s ← buildJSONString depth v
    let rest ← buildItems depth vs
    return if vs.isEmpty then s else s ++ ',' :: ' ' :: rest

/-- The entries of a dictionary. -/
def buildEntries (depth : Nat) : List (String × Value) → Option (List Char)
  | [] => some []
  | (key, v) :: entries => do
    let s ← buildJSONString depth v
    let rest ← buildEntries depth entries
    let line := indentLine depth ++ quote key ++ ':' :: ' ' :: s
    return if entries.isEmpty then line else line ++ ',' :: '\n' :: rest

end

/-- The bytes that `JSONWriter` produces for a dictionary. -/
def prettyPrint (dict : DictValue) : Option Bytes :=
  (buildJSONString 0 (.dict dict)).map fun s => (s ++ ['\n']).flatMap String.utf8EncodeChar

/-- A writer, with a parser for the texts of the dictionaries of a table. -/
@[reducible]
def tableJson (table : List DictValue) : JsonLib where
  write := prettyPrint
  parse json := (table.find? fun dict => prettyPrint dict = some json).map .dict

/-- The texts of a table that are different are each read back. -/
lemma tableJson_roundTrips {table : List DictValue}
    (distinct : table.Pairwise fun d d' => prettyPrint d ≠ prettyPrint d') {dict : DictValue}
    {json : Bytes} (hd : dict ∈ table) (text : prettyPrint dict = some json) :
    @RoundTrips (tableJson table) dict json := by
  refine ⟨text, ?_⟩
  show (table.find? fun d => prettyPrint d = some json).map Value.dict = some (.dict dict)
  induction table with
  | nil => cases hd
  | cons d table ih =>
    rw [List.pairwise_cons] at distinct
    cases hd with
    | head => simp [text]
    | tail _ hd =>
      have ne : prettyPrint d ≠ some json := text ▸ distinct.1 dict hd
      simpa [ne] using ih distinct.2 hd

/-- Where all texts of a table have one length, none of them extends another one. -/
lemma tableJson_objectsEnd {table : List DictValue} {n : Nat}
    (len : ∀ d ∈ table, (prettyPrint d).map List.length = some n) :
    @ObjectsEnd (tableJson table) := by
  intro json rest dict v hd hv
  obtain ⟨d, found, ⟨⟩⟩ := Option.map_eq_some_iff.mp hd
  obtain ⟨d', found', rfl⟩ := Option.map_eq_some_iff.mp hv
  have text : prettyPrint dict = some json := by simpa using List.find?_some found
  have text' : prettyPrint d' = some (json ++ rest) := by simpa using List.find?_some found'
  have l := len dict (List.mem_of_find?_eq_some found)
  have l' := len d' (List.mem_of_find?_eq_some found')
  simp only [text, text', Option.map_some, Option.some.injEq, List.length_append] at l l'
  have nil : rest = [] := List.eq_nil_of_length_eq_zero (by omega)
  rw [nil, List.append_nil] at found'
  rw [Option.some.inj (found.symm.trans found')]

end PureCloak.Base
