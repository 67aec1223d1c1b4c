import Mathlib.Tactic.Lemma
import Mathlib.Data.List.Infix

/-!
# Heads of HTTP responses

The part of a stream up to the first place where a pattern ends (`Through`): which prefixes of the stream have the
pattern in them depends on their length alone. The head of an HTTP response is the part up to the first blank line; it
has a status line, with a version and a code, and lines for its fields.
-/

namespace HttpHead

section
variable {α : Type*} {pattern part text : List α}

/-- The part of a text up to the first place where the pattern ends. -/
structure Through (pattern part text : List α) : Prop where
  front : part <+: text
  ends : pattern <:+ part
  first : ¬ pattern <:+: part.dropLast

instance [DecidableEq α] : Decidable (Through pattern part text) :=
  decidable_of_iff (part <+: text ∧ pattern <:+ part ∧ ¬ pattern <:+: part.dropLast)
    ⟨fun ⟨front, ends, first⟩ => ⟨front, ends, first⟩, fun h => ⟨h.front, h.ends, h.first⟩⟩

/-- A prefix of the text has the pattern in it as soon as it is long enough. -/
lemma Through.infix_iff {p : List α} (h : Through pattern part text) (front : p <+: text) :
    pattern <:+: p ↔ part.length ≤ p.length := by
  refine ⟨fun found => ?_, fun le => ?_⟩
  · apply Nat.le_of_not_lt
    intro lt
    apply h.first
    have inside : p <+: part := List.prefix_of_prefix_length_le front h.front (Nat.le_of_lt lt)
    have proper : p <+: part.dropLast :=
      List.prefix_of_prefix_length_le inside (List.dropLast_prefix part) (by rw [List.length_dropLast]; omega)
    exact found.trans proper.isInfix
  · exact h.ends.isInfix.trans (List.prefix_of_prefix_length_le h.front front le).isInfix

/-- A head has its end. -/
lemma Through.found (h : Through pattern part text) : pattern <:+: text :=
  h.ends.isInfix.trans h.front.isInfix

/-- A text has one head. -/
lemma Through.unique {part' : List α} (h : Through pattern part text) (h' : Through pattern part' text) :
    part = part' := by
  have le : part.length ≤ part'.length := (h.infix_iff h'.front).mp h'.ends.isInfix
  have ge : part'.length ≤ part.length := (h'.infix_iff h.front).mp h.ends.isInfix
  exact (List.prefix_of_prefix_length_le h.front h'.front le).eq_of_length (Nat.le_antisymm le ge)

/-- The part does not depend on what follows it. -/
lemma Through.mono {text' : List α} (h : Through pattern part text) (front : text <+: text') :
    Through pattern part text' :=
  ⟨h.front.trans front, h.ends, h.first⟩

/-- A longer text has the same head. -/
lemma Through.take {text' : List α} (h : Through pattern part text') (front : text <+: text')
    (le : part.length ≤ text.length) : Through pattern part text :=
  ⟨List.prefix_of_prefix_length_le h.front front le, h.ends, h.first⟩

/-- Where the end is found there is a head. -/
lemma exists_through (found : pattern <:+: text) (some : pattern ≠ []) : ∃ part, Through pattern part text := by
  induction text using List.reverseRecOn with
  | nil => exact absurd (List.infix_nil.mp found) some
  | append_singleton text a ih =>
    by_cases earlier : pattern <:+: text
    · obtain ⟨part, h⟩ := ih earlier
      exact ⟨part, h.mono (List.prefix_append _ _)⟩
    · have ends := (List.infix_concat_iff.mp found).resolve_right earlier
      refine ⟨text ++ [a], List.prefix_rfl, ends, ?_⟩
      rw [List.dropLast_concat]
      exact earlier

end

/-! ## Lines -/

/-- `"\r\n\r\n"`. -/
def blankLine : List UInt8 := [13, 10, 13, 10]

/-- The lines of a head, without their ends. -/
def lines : List UInt8 → List (List UInt8)
  | [] => [[]]
  | [b] => [[b]]
  | b :: c :: rest => if b = 13 ∧ c = 10 then [] :: lines rest else (lines (c :: rest)).modifyHead (b :: ·)

/-- The bytes of a text in ASCII. -/
def ascii (s : String) : List UInt8 :=
  s.toList.map fun c => UInt8.ofNat c.toNat

def isDigit (b : UInt8) : Bool :=
  48 ≤ b && b ≤ 57

/-- A status line, with the version of a test and with a code. -/
def isStatus (version : List UInt8 → Bool) (code text : List UInt8) : Bool :=
  version (text.take 8) && text[8]? == some 32 && (text.drop 9).take 3 == code && text[12]?.all (· == 32)

/-- `HTTP/` and two digits with a point between them. -/
def isHttpVersion (version : List UInt8) : Bool :=
  version.take 5 == ascii "HTTP/" && version[5]?.any isDigit && version[6]? == some 46 && version[7]?.any isDigit

/-- A letter as a small one. -/
def lower (b : UInt8) : UInt8 :=
  if 65 ≤ b ∧ b ≤ 90 then b + 32 else b

/-- Without blanks and tabs around it. -/
def trim (value : List UInt8) : List UInt8 :=
  let blank : UInt8 → Bool := fun b => b == 32 || b == 9
  ((value.dropWhile blank).reverse.dropWhile blank).reverse

/-- A line with a field of a name and a value, whatever the case of the letters. -/
def isField (name value line : List UInt8) : Bool :=
  line.contains 58 && (line.takeWhile (· != 58)).map lower == name &&
    (trim (line.dropWhile (· != 58)).tail).map lower == value

/-- The first line is at the front. -/
lemma lines_front (head : List UInt8) : ∃ line more, lines head = line :: more ∧ line <+: head := by
  induction head using lines.induct with
  | case1 => exact ⟨[], [], rfl, List.prefix_rfl⟩
  | case2 b => exact ⟨[b], [], rfl, List.prefix_rfl⟩
  | case3 b c rest lineEnd ih => exact ⟨[], lines rest, by rw [lines, if_pos lineEnd], List.nil_prefix⟩
  | case4 b c rest inside ih =>
    obtain ⟨line, more, eq, front⟩ := ih
    refine ⟨b :: line, more, ?_, (List.prefix_cons_inj b).mpr front⟩
    rw [lines, if_neg inside, eq]
    rfl

/-- The code is in the line. -/
lemma isStatus_code {version : List UInt8 → Bool} {code line : List UInt8} (h : isStatus version code line = true) :
    code <:+: line := by
  rw [isStatus, Bool.and_eq_true, Bool.and_eq_true, Bool.and_eq_true] at h
  rw [← eq_of_beq h.1.2]
  exact (List.take_prefix _ _).isInfix.trans (List.drop_suffix _ _).isInfix

end HttpHead
