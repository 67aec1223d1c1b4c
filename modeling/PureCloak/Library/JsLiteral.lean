import Mathlib.Tactic.Lemma
import Mathlib.Tactic.SplitIfs
import Mathlib.Data.List.Basic

/-!
# String literals in single quotes

How a script engine reads a string literal from the text behind its opening quote. `scan` goes through the text with a
`Mode`, and gives the code units of the value and the text behind the closing quote; a text in which the literal does
not end, or ends with an error, gives nothing.

`Emits` says that a piece of text stands for certain units wherever it is in a literal, with the rules `Emits.nil`,
`Emits.append` and `Emits.flatMap`. For an encoding that writes a quote as itself or behind a backslash, and every other
character as itself, `scan_encoded_length` bounds the value by the units of the text, and `scan_encoded_iff` says which
texts are read back.
-/

namespace JsLiteral

/-- The code units of a code point. -/
def codeUnits (n : Nat) : List UInt16 :=
  if n < 0x10000 then [UInt16.ofNat n]
  else [UInt16.ofNat (0xD800 + (n - 0x10000) / 0x400), UInt16.ofNat (0xDC00 + (n - 0x10000) % 0x400)]

/-- The code units of a text. -/
def utf16 (s : List Char) : List UInt16 :=
  s.flatMap fun c => codeUnits c.toNat

/-- The code units of a character, and of the rest. -/
lemma utf16_cons (c : Char) (s : List Char) : utf16 (c :: s) = codeUnits c.toNat ++ utf16 s :=
  List.flatMap_cons

/-- Where the reader is. -/
inductive Mode where
  | plain
  /-- Behind a backslash. -/
  | escape
  /-- Behind a backslash and a carriage return, to which a line feed belongs. -/
  | carriageReturn
  | octal (value left : Nat)
  | hex (value left : Nat)
  /-- Behind a backslash and a `u`. -/
  | unicode
  /-- In braces, with or without a digit. -/
  | codePoint (value : Nat) (digits : Bool)

/-- What is made of a character. -/
inductive Outcome where
  | error
  | units (u : List UInt16) (next : Mode)
  | close (u : List UInt16)

/-- Units that come before. -/
def Outcome.behind (u : List UInt16) : Outcome → Outcome
  | .error => .error
  | .units v next => .units (u ++ v) next
  | .close v => .close (u ++ v)

def octalDigit (c : Char) : Option Nat :=
  if 48 ≤ c.toNat ∧ c.toNat < 56 then some (c.toNat - 48) else none

def hexDigit (c : Char) : Option Nat :=
  if 48 ≤ c.toNat ∧ c.toNat < 58 then some (c.toNat - 48)
  else if 65 ≤ c.toNat ∧ c.toNat < 71 then some (c.toNat - 55)
  else if 97 ≤ c.toNat ∧ c.toNat < 103 then some (c.toNat - 87)
  else none

/-- A character outside of escape sequences. -/
def readPlain (c : Char) : Outcome :=
  if c = '\'' then .close []
  else if c = '\\' then .units [] .escape
  else if c = '\n' ∨ c = '\r' then .error
  else .units (codeUnits c.toNat) .plain

/-- The unit that a single character behind a backslash stands for. -/
def singleEscape (c : Char) : Option UInt16 :=
  if c = 'b' then some 8
  else if c = 't' then some 9
  else if c = 'n' then some 10
  else if c = 'v' then some 11
  else if c = 'f' then some 12
  else if c = 'r' then some 13
  else none

/-- A character behind a backslash. -/
def readEscape (c : Char) : Outcome :=
  match singleEscape c, octalDigit c with
  | some u, _ => .units [u] .plain
  | none, some d => .units [] (.octal d (if d < 4 then 2 else 1))
  | none, none =>
    if c = 'x' then .units [] (.hex 0 2)
    else if c = 'u' then .units [] .unicode
    -- the line is continued
    else if c = '\r' then .units [] .carriageReturn
    else if c = '\n' ∨ c.toNat = 0x2028 ∨ c.toNat = 0x2029 then .units [] .plain
    else .units (codeUnits c.toNat) .plain

/-- A digit of an escape sequence with a fixed number of them. -/
def readHex (value left : Nat) (c : Char) : Outcome :=
  match hexDigit c with
  | none => .error
  | some d =>
    if left ≤ 1 then .units [UInt16.ofNat (value * 16 + d)] .plain else .units [] (.hex (value * 16 + d) (left - 1))

/-- One character. -/
def step : Mode → Char → Outcome
  | .plain, c => readPlain c
  | .escape, c => readEscape c
  | .carriageReturn, c => if c = '\n' then .units [] .plain else readPlain c
  | .octal value left, c =>
    match left, octalDigit c with
    | left + 1, some d => .units [] (.octal (value * 8 + d) left)
    | _, _ => (readPlain c).behind [UInt16.ofNat value]
  | .hex value left, c => readHex value left c
  | .unicode, c => if c = '\x7b' then .units [] (.codePoint 0 false) else readHex 0 4 c
  | .codePoint value digits, c =>
    if c = '\x7d' then if digits then .units (codeUnits value) .plain else .error
    else
      match hexDigit c with
      | none => .error
      | some d => if value * 16 + d ≤ 0x10ffff then .units [] (.codePoint (value * 16 + d) true) else .error

/-- The value of the literal, and the text behind it. -/
def scan : Mode → List Char → Option (List UInt16 × List Char)
  | _, [] => none
  | m, c :: cs =>
    match step m c with
    | .error => none
    | .close u => some (u, cs)
    | .units u next => (scan next cs).map fun r => (u ++ r.1, r.2)

example : scan .plain "a\\u0041\\101'b".toList = some ([97, 65, 65], ['b']) := by decide

example : scan .plain "a\\'b".toList = none := by decide

/-- A quote ends the literal. -/
lemma scan_quote (rest : List Char) : scan .plain ('\'' :: rest) = some ([], rest) :=
  rfl

/-! ## Pieces of a literal -/

/-- A piece of text stands for these units. -/
def Emits (piece : List Char) (u : List UInt16) : Prop :=
  ∀ rest, scan .plain (piece ++ rest) = (scan .plain rest).map fun r => (u ++ r.1, r.2)

/-- No piece emits nothing. -/
lemma Emits.nil : Emits [] [] := by
  intro rest
  simp

/-- Two pieces emit what each of them does. -/
lemma Emits.append {piece piece' : List Char} {u u' : List UInt16} (h : Emits piece u) (h' : Emits piece' u') :
    Emits (piece ++ piece') (u ++ u') := by
  intro rest
  rw [List.append_assoc, h, h', Option.map_map]
  simp [Function.comp_def]

/-- Where every character is written as a piece that stands for it, the text stands for the characters. -/
lemma Emits.flatMap {enc : Char → List Char} {s : List Char} (h : ∀ c ∈ s, Emits (enc c) (codeUnits c.toNat)) :
    Emits (s.flatMap enc) (utf16 s) := by
  induction s with
  | nil => exact .nil
  | cons c s ih =>
    rw [utf16, List.flatMap_cons, List.flatMap_cons]
    exact (h c List.mem_cons_self).append (ih fun c' hc => h c' (List.mem_cons_of_mem _ hc))

/-- A literal of such pieces ends at the quote behind them. -/
lemma Emits.scan {piece : List Char} {u : List UInt16} (h : Emits piece u) (rest : List Char) :
    scan .plain (piece ++ '\'' :: rest) = some (u, rest) := by
  rw [h, scan_quote, Option.map_some, List.append_nil]

/-- Other characters are read as themselves. -/
lemma readPlain_other {c : Char} (quote : c ≠ '\'') (backslash : c ≠ '\\') (feed : c ≠ '\n') (ret : c ≠ '\r') :
    readPlain c = .units (codeUnits c.toNat) .plain := by
  rw [readPlain, if_neg quote, if_neg backslash, if_neg (not_or.mpr ⟨feed, ret⟩)]

/-- Such a character emits its code units. -/
lemma emits_self {c : Char} (quote : c ≠ '\'') (backslash : c ≠ '\\') (feed : c ≠ '\n') (ret : c ≠ '\r') :
    Emits [c] (codeUnits c.toNat) := by
  intro rest
  rw [List.singleton_append, JsLiteral.scan, step, readPlain_other quote backslash feed ret]

/-- A character behind a backslash that stands for a unit. -/
lemma emits_escape {c : Char} {u : List UInt16} (h : readEscape c = .units u .plain) : Emits ['\\', c] u := by
  intro rest
  have here : step .escape c = .units u .plain := h
  rw [List.cons_append, List.singleton_append, JsLiteral.scan]
  show Option.map _ (JsLiteral.scan .escape (c :: rest)) = _
  rw [JsLiteral.scan, here, Option.map_map]
  rfl

/-- A hexadecimal digit is less than sixteen. -/
lemma hexDigit_lt {c : Char} {n : Nat} (h : hexDigit c = some n) : n < 16 := by
  rw [hexDigit] at h
  split_ifs at h
  all_goals
    cases h
    omega

/-- Four digits behind a `u`. -/
lemma emits_unicode {a b c d : Char} {i j k l : Nat} (ha : hexDigit a = some i) (hb : hexDigit b = some j)
    (hc : hexDigit c = some k) (hd : hexDigit d = some l) :
    Emits ['\\', 'u', a, b, c, d] [UInt16.ofNat (((i * 16 + j) * 16 + k) * 16 + l)] := by
  intro rest
  have brace : a ≠ '\x7b' := by
    rintro rfl
    cases ha
  have first : step .unicode a = .units [] (.hex i 3) := by simp [step, brace, readHex, ha]
  have second : step (.hex i 3) b = .units [] (.hex (i * 16 + j) 2) := by simp [step, readHex, hb]
  have third : step (.hex (i * 16 + j) 2) c = .units [] (.hex ((i * 16 + j) * 16 + k) 1) := by simp [step, readHex, hc]
  have fourth : step (.hex ((i * 16 + j) * 16 + k) 1) d =
      .units [UInt16.ofNat (((i * 16 + j) * 16 + k) * 16 + l)] .plain := by simp [step, readHex, hd]
  show Option.map _ (Option.map _ (JsLiteral.scan .unicode (a :: b :: c :: d :: rest))) = _
  rw [JsLiteral.scan, first]
  dsimp only
  rw [JsLiteral.scan, second]
  dsimp only
  rw [JsLiteral.scan, third]
  dsimp only
  rw [JsLiteral.scan, fourth]
  simp [Function.comp_def]

/-! ## The length of a value -/

/-- The units that a reader may give without taking another character. -/
def pending : Mode → Nat
  | .octal _ _ | .codePoint _ _ => 1
  | .plain | .escape | .carriageReturn | .hex _ _ | .unicode => 0

/-- What is made of a character with some units gives no more than these and what was allowed before. -/
def Outcome.Within (before units : Nat) : Outcome → Prop
  | .error => True
  | .units u next => u.length + pending next ≤ before + units
  | .close u => u.length ≤ before

/-- A character has at least one code unit. -/
lemma one_le_codeUnits (n : Nat) : 1 ≤ (codeUnits n).length := by
  unfold codeUnits
  split_ifs <;> simp

/-- And at most two. -/
lemma codeUnits_le_two (n : Nat) : (codeUnits n).length ≤ 2 := by
  unfold codeUnits
  split_ifs <;> simp

/-- An outcome that comes after some units is within the bounds that have these added. -/
lemma Outcome.Within.behind {before units : Nat} {o : Outcome} (h : o.Within before units) (u : List UInt16) :
    (o.behind u).Within (before + u.length) units := by
  cases o with
  | error => trivial
  | units v next =>
    simp only [Outcome.behind, Outcome.Within, List.length_append] at *
    omega
  | close v =>
    simp only [Outcome.behind, Outcome.Within, List.length_append] at *
    omega

/-- A character adds no more than its units. -/
lemma readPlain_within (c : Char) : (readPlain c).Within 0 (codeUnits c.toNat).length := by
  unfold readPlain
  split_ifs <;> simp [Outcome.Within, pending]

/-- So does the character after a backslash. -/
lemma readEscape_within (c : Char) : (readEscape c).Within 0 (codeUnits c.toNat).length := by
  have one := one_le_codeUnits c.toNat
  unfold readEscape
  split
  · simpa [Outcome.Within, pending] using one
  · simpa [Outcome.Within, pending] using one
  · split_ifs <;> simp [Outcome.Within, pending]

/-- So does a digit of an escape. -/
lemma readHex_within (value left : Nat) (c : Char) : (readHex value left c).Within 0 (codeUnits c.toNat).length := by
  have one := one_le_codeUnits c.toNat
  unfold readHex
  split
  · trivial
  · split_ifs
    · simpa [Outcome.Within, pending] using one
    · simp [Outcome.Within, pending]

/-- So does every step, up to what is pending. -/
lemma step_within (m : Mode) (c : Char) : (step m c).Within (pending m) (codeUnits c.toNat).length := by
  have one := one_le_codeUnits c.toNat
  cases m with
  | plain => exact readPlain_within c
  | escape => exact readEscape_within c
  | carriageReturn =>
    rw [step]
    split_ifs
    · simp [Outcome.Within, pending]
    · exact readPlain_within c
  | octal value left =>
    unfold step
    dsimp only
    split
    · simp [Outcome.Within, pending]
    · exact (readPlain_within c).behind [UInt16.ofNat value]
  | hex value left => exact readHex_within value left c
  | unicode =>
    rw [step]
    split_ifs
    · simpa [Outcome.Within, pending] using one
    · exact readHex_within 0 4 c
  | codePoint value digits =>
    have two := codeUnits_le_two value
    rw [step]
    split_ifs
    · simp only [Outcome.Within, pending]
      omega
    · trivial
    · split
      · trivial
      · split_ifs
        · simp [Outcome.Within, pending]
        · trivial

/-- The text behind a literal is a proper end of the text in front. -/
lemma scan_rest_length {m : Mode} {cs : List Char} {u : List UInt16} {rest : List Char}
    (h : scan m cs = some (u, rest)) : rest.length < cs.length := by
  induction cs generalizing m u with
  | nil => cases h
  | cons c cs ih =>
    rw [scan] at h
    split at h
    · cases h
    · cases h
      exact Nat.lt_succ_self _
    · obtain ⟨r, scanned, e⟩ := Option.map_eq_some_iff.mp h
      cases e
      exact Nat.lt_succ_of_lt (ih scanned)

/-- A text stays inside of a literal: the quote behind it is the one at the end. -/
def Enclosed (s : List Char) : Prop :=
  (scan .plain (s ++ ['\''])).map Prod.snd = some []

instance (s : List Char) : Decidable (Enclosed s) :=
  inferInstanceAs (Decidable (_ = _))

/-- Whether a literal ends at a quote does not depend on what comes behind it. -/
lemma scan_behind_iff {m : Mode} {s behind : List Char} :
    (scan m (s ++ '\'' :: behind)).map Prod.snd = some behind ↔ (scan m (s ++ ['\''])).map Prod.snd = some [] := by
  have inside (m : Mode) {cs rest : List Char} (short : cs.length ≤ rest.length) :
      (scan m cs).map Prod.snd ≠ some rest := by
    intro h
    obtain ⟨⟨u, r⟩, scanned, rfl⟩ := Option.map_eq_some_iff.mp h
    exact absurd (scan_rest_length scanned) (Nat.not_lt_of_le short)
  induction s generalizing m with
  | nil =>
    rw [List.nil_append, List.nil_append, scan, scan]
    cases step m '\'' with
    | error => exact iff_of_false nofun nofun
    | close u => exact iff_of_true rfl rfl
    | units u next =>
      simp only [Option.map_map]
      exact iff_of_false (inside next (Nat.le_refl _)) (inside next (Nat.le_refl _))
  | cons c s ih =>
    rw [List.cons_append, List.cons_append, scan, scan]
    cases step m c with
    | error => exact iff_of_false nofun nofun
    | close u =>
      refine iff_of_false (fun h => ?_) (fun h => ?_)
      · have length := congrArg List.length (Option.some.inj h)
        simp only [List.length_append, List.length_cons] at length
        omega
      · cases s <;> cases h
    | units u next =>
      simp only [Option.map_map]
      exact ih

/-- A character in front of a text whose end is behind the literal is not the quote at its end. -/
lemma scan_cons {m : Mode} {c : Char} {cs : List Char} {u : List UInt16} {rest : List Char}
    (h : scan m (c :: cs) = some (u, rest)) (long : rest.length < cs.length) :
    ∃ v next w, step m c = .units v next ∧ scan next cs = some (w, rest) ∧ u = v ++ w := by
  rw [scan] at h
  split at h
  case h_1 => cases h
  case h_2 =>
    cases h
    exact absurd long (Nat.lt_irrefl _)
  case h_3 v next eq =>
    obtain ⟨⟨w, r⟩, scanned, e⟩ := Option.map_eq_some_iff.mp h
    cases e
    exact ⟨v, next, w, eq, scanned, rfl⟩

/-- A backslash ends a sequence or begins one. -/
lemma step_backslash {m next : Mode} {u : List UInt16} (h : step m '\\' = .units u next) :
    next = .plain ∨ next = .escape ∧ u.length ≤ pending m := by
  cases m with
  | plain =>
    cases h
    exact .inr ⟨rfl, Nat.le_refl _⟩
  | escape =>
    cases h
    exact .inl rfl
  | carriageReturn =>
    cases h
    exact .inr ⟨rfl, Nat.le_refl _⟩
  | octal value left =>
    cases left <;>
    · cases h
      exact .inr ⟨rfl, Nat.le_refl _⟩
  | hex value left => cases h
  | unicode => cases h
  | codePoint value digits => cases h

/-! ## Encodings of single characters -/

/-- Every character is written as itself, but a quote may stand behind a backslash. -/
def QuotesOnly (enc : Char → List Char) : Prop :=
  ∀ c, enc c = [c] ∨ c = '\'' ∧ enc c = ['\\', '\'']

variable {enc : Char → List Char}

/-- Where the literal ends at the quote behind an encoded text, its value is no longer than the text. -/
lemma scan_encoded_length (quotes : QuotesOnly enc) {m : Mode} {s : List Char} {u : List UInt16} {rest : List Char}
    (h : scan m (s.flatMap enc ++ '\'' :: rest) = some (u, rest)) : u.length ≤ pending m + (utf16 s).length := by
  induction s generalizing m u with
  | nil =>
    rw [List.flatMap_nil, List.nil_append, scan] at h
    have within := step_within m '\''
    split at h
    · cases h
    case h_2 eq =>
      cases h
      rw [eq] at within
      exact within
    · obtain ⟨r, scanned, e⟩ := Option.map_eq_some_iff.mp h
      cases e
      exact absurd (scan_rest_length scanned) (Nat.lt_irrefl _)
  | cons c s ih =>
    have long : rest.length < (s.flatMap enc ++ '\'' :: rest).length := by
      simp only [List.length_append, List.length_cons]
      omega
    rw [utf16, List.flatMap_cons, List.length_append]
    rw [List.flatMap_cons, List.append_assoc] at h
    obtain self | ⟨rfl, escaped⟩ := quotes c
    · rw [self, List.singleton_append] at h
      obtain ⟨v, next, w, eq, scanned, rfl⟩ := scan_cons h long
      have within := step_within m c
      rw [eq] at within
      have bound := ih scanned
      simp only [Outcome.Within] at within
      simp only [List.length_append, utf16] at bound ⊢
      omega
    · rw [escaped, List.cons_append, List.singleton_append] at h
      obtain ⟨v, next, w, eq, scanned, rfl⟩ := scan_cons h (Nat.lt_succ_of_lt long)
      obtain ⟨v', next', w', eq', scanned', rfl⟩ := scan_cons scanned long
      have bound := ih scanned'
      -- in front of the quote stands a backslash
      obtain rfl | ⟨rfl, before⟩ := step_backslash eq
      · cases eq'
      · cases eq'
        rw [show pending .plain = 0 from rfl] at bound
        simp only [List.length_append, utf16] at bound ⊢
        omega

/-- A character that is written as itself and stands for itself. -/
def Harmless (c : Char) : Prop :=
  c ≠ '\'' ∧ c ≠ '\\' ∧ c ≠ '\n' ∧ c ≠ '\r'

instance (c : Char) : Decidable (Harmless c) :=
  inferInstanceAs (Decidable (_ ∧ _))

/-- A character whose encoding changes quotes alone emits its units, if it does no harm. -/
lemma emits_encoded (quotes : QuotesOnly enc) {c : Char} (harmless : enc c = [c] → Harmless c) :
    Emits (enc c) (codeUnits c.toNat) := by
  obtain self | ⟨rfl, escaped⟩ := quotes c
  · obtain ⟨quote, backslash, feed, ret⟩ := harmless self
    rw [self]
    exact emits_self quote backslash feed ret
  · rw [escaped]
    exact emits_escape rfl

/-- The first character of a text that is read back stands for itself. -/
lemma harmless_of_scan (quotes : QuotesOnly enc) {c : Char} {s rest : List Char}
    (h : scan .plain (c :: (s.flatMap enc ++ '\'' :: rest)) = some (utf16 (c :: s), rest)) : Harmless c := by
  have long : rest.length < (s.flatMap enc ++ '\'' :: rest).length := by
    simp only [List.length_append, List.length_cons]
    omega
  obtain ⟨v, next, w, eq, scanned, value⟩ := scan_cons h long
  refine ⟨?_, ?_, ?_, ?_⟩
  · rintro rfl
    cases eq
  · rintro rfl
    cases eq
    -- the backslash itself gives no unit
    have bound := scan_encoded_length quotes scanned
    have lengths := congrArg List.length value
    have one := one_le_codeUnits '\\'.toNat
    simp only [utf16, List.flatMap_cons, List.length_append, List.length_nil, pending] at bound lengths
    omega
  · rintro rfl
    cases eq
  · rintro rfl
    cases eq

/-- A piece that emits is passed over in a literal. -/
lemma Emits.scan_append_iff {piece : List Char} {u w : List UInt16} (h : Emits piece u) (s rest : List Char) :
    JsLiteral.scan .plain (piece ++ s) = some (u ++ w, rest) ↔ JsLiteral.scan .plain s = some (w, rest) := by
  rw [h]
  cases JsLiteral.scan .plain s <;> simp [Prod.ext_iff]

/-- An encoded text is read back exactly when each of its characters that is written as itself stands for itself. -/
theorem scan_encoded_iff (quotes : QuotesOnly enc) (s rest : List Char) :
    scan .plain (s.flatMap enc ++ '\'' :: rest) = some (utf16 s, rest) ↔ ∀ c ∈ s, enc c = [c] → Harmless c := by
  refine ⟨?_, ?_⟩
  · intro h
    induction s with
    | nil =>
      intro c hc
      cases hc
    | cons c s ih =>
      rw [List.flatMap_cons, List.append_assoc] at h
      have harmless : enc c = [c] → Harmless c := by
        intro self
        rw [self, List.singleton_append] at h
        exact harmless_of_scan quotes h
      have tail := (emits_encoded quotes harmless).scan_append_iff (w := utf16 s) _ rest |>.mp h
      intro c' hc
      rcases List.mem_cons.mp hc with rfl | hc
      · exact harmless
      · exact ih tail c' hc
  · intro harmless
    exact (Emits.flatMap fun c hc => emits_encoded quotes (harmless c hc)).scan rest

end JsLiteral
