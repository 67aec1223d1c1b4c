import PureCloak.Library.JsLiteral

/-!
# Calls with string literals

How a script engine reads a text that is no more than the call of a function with string literals. `readCall_iff` says
for which texts between the quotes the call that is read is the call that was meant: those of harmless characters.
A text that is not read back ends its literal too early, or goes on behind the quote that was meant to end it, and
neither gives a text of the same value (`scan_rest_of_value`).
-/

namespace JsLiteral

/-- A text that does not end the literal: the units so far, and the mode behind it. -/
def run : Mode → List Char → Option (List UInt16 × Mode)
  | m, [] => some ([], m)
  | m, c :: cs =>
    match step m c with
    | .units u next => (run next cs).map fun r => (u ++ r.1, r.2)
    | _ => none

/-- A literal ends in the first part of a text, or the first part is read and it goes on in the second. -/
lemma scan_append_cases {m : Mode} {s t : List Char} {u : List UInt16} {rest : List Char}
    (h : scan m (s ++ t) = some (u, rest)) :
    (∃ behind, scan m s = some (u, behind)) ∨
      ∃ v next w, run m s = some (v, next) ∧ scan next t = some (w, rest) ∧ u = v ++ w := by
  induction s generalizing m u with
  | nil => exact .inr ⟨[], m, u, rfl, h, rfl⟩
  | cons c s ih =>
    rw [List.cons_append, scan] at h
    cases here : step m c with
    | error => simp [here] at h
    | close v =>
      rw [here] at h
      cases h
      exact .inl ⟨s, by rw [scan, here]⟩
    | units v next =>
      rw [here] at h
      obtain ⟨⟨w, rest⟩, scanned, e⟩ := Option.map_eq_some_iff.mp h
      cases e
      obtain ⟨behind, ends⟩ | ⟨v', next', w', goes, scanned', rfl⟩ := ih scanned
      · exact .inl ⟨behind, by rw [scan, here]; exact congrArg (Option.map _) ends⟩
      · refine .inr ⟨v ++ v', next', w', ?_, scanned', (List.append_assoc v v' w').symm⟩
        rw [run, here]
        exact congrArg (Option.map _) goes

/-- A literal that ends in a text is shorter than the text. -/
lemma length_of_scan {m : Mode} {s : List Char} {u : List UInt16} {behind : List Char}
    (h : scan m s = some (u, behind)) : u.length < pending m + (utf16 s).length := by
  induction s generalizing m u with
  | nil => cases h
  | cons c s ih =>
    have one := one_le_codeUnits c.toNat
    have within := step_within m c
    rw [scan] at h
    rw [utf16_cons, List.length_append]
    cases here : step m c with
    | error => simp [here] at h
    | close v =>
      rw [here] at h within
      cases h
      simp only [Outcome.Within] at within
      omega
    | units v next =>
      rw [here] at h within
      obtain ⟨⟨w, behind⟩, scanned, e⟩ := Option.map_eq_some_iff.mp h
      cases e
      have bound := ih scanned
      simp only [Outcome.Within] at within
      dsimp only
      rw [List.length_append]
      omega

/-- Only a backslash begins an escape. -/
lemma readPlain_escape {c : Char} {u : List UInt16} (h : readPlain c = .units u .escape) : c = '\\' := by
  rw [readPlain] at h
  split_ifs at h with quote backslash
  · exact backslash
  · cases h

/-- Only a backslash begins an escape sequence. -/
lemma step_escape {m : Mode} {c : Char} {u : List UInt16} (h : step m c = .units u .escape) : c = '\\' := by
  have noHex {value left : Nat} (h : readHex value left c = .units u .escape) : c = '\\' := by
    rw [readHex] at h
    split at h
    · cases h
    · split_ifs at h
      · cases h
      · cases h
  cases m with
  | plain => exact readPlain_escape h
  | escape =>
    rw [step, readEscape] at h
    split at h
    · cases h
    · cases h
    · split_ifs at h
      all_goals cases h
  | carriageReturn =>
    rw [step] at h
    split_ifs at h
    · cases h
    · exact readPlain_escape h
  | octal value left =>
    have behind (h : (readPlain c).behind [UInt16.ofNat value] = .units u .escape) : c = '\\' := by
      cases here : readPlain c with
      | error => simp [here, Outcome.behind] at h
      | close v => simp [here, Outcome.behind] at h
      | units v next =>
        rw [here] at h
        cases h
        exact readPlain_escape here
    unfold step at h
    dsimp only at h
    split at h
    · cases h
    · exact behind h
  | hex value left => exact noHex h
  | unicode =>
    rw [step] at h
    split_ifs at h
    · cases h
    · exact noHex h
  | codePoint value digits =>
    rw [step] at h
    split_ifs at h
    · cases h
    · split at h
      · cases h
      · split_ifs at h
        cases h

/-- What leaves an escape sequence open ends with a backslash. -/
lemma getLast_of_run {m : Mode} {s : List Char} {v : List UInt16} (something : s ≠ [])
    (h : run m s = some (v, .escape)) : s.getLast? = some '\\' := by
  induction s generalizing m v with
  | nil => exact absurd rfl something
  | cons c s ih =>
    rw [run] at h
    cases here : step m c with
    | error => simp [here] at h
    | close v => simp [here] at h
    | units u next =>
      rw [here] at h
      obtain ⟨⟨w, last⟩, goes, e⟩ := Option.map_eq_some_iff.mp h
      cases e
      cases s with
      | nil =>
        cases goes
        rw [step_escape here]
        rfl
      | cons d s =>
        rw [List.getLast?_cons_cons]
        exact ih (List.cons_ne_nil d s) goes

/-- The code units of two texts. -/
lemma utf16_append (s t : List Char) : utf16 (s ++ t) = utf16 s ++ utf16 t :=
  List.flatMap_append

/-- A literal whose value is the text that was written, and that another literal follows, ends at the quote behind the
text. -/
lemma scan_rest_of_value {s tail rest : List Char}
    (h : scan .plain (s ++ '\'' :: ',' :: '\'' :: tail) = some (utf16 s, rest)) : rest = ',' :: '\'' :: tail := by
  obtain ⟨behind, ends⟩ | ⟨v, next, w, goes, scanned, value⟩ := scan_append_cases h
  · have short := length_of_scan ends
    rw [show pending .plain = 0 from rfl] at short
    omega
  · cases next with
    | plain | carriageReturn =>
      cases scanned
      rfl
    | octal value left =>
      cases left <;>
      · cases scanned
        rfl
    | hex value left => cases scanned
    | unicode => cases scanned
    | codePoint value digits => cases scanned
    | escape =>
      -- the quote is escaped, and the value goes on up to the quote behind the comma
      cases scanned
      have something : s ≠ [] := by
        rintro rfl
        cases goes
      obtain ⟨s, rfl⟩ := List.getLast?_eq_some_iff.mp (getLast_of_run something goes)
      rw [utf16_append] at value
      have last := congrArg List.getLast? value
      have units : utf16 ['\\'] = [92] := by decide
      rw [units, List.getLast?_concat] at last
      have commaLast : (v ++ (codeUnits '\''.toNat ++ (codeUnits ','.toNat ++ ([] : List UInt16)))).getLast? =
          some 44 := by
        show (v ++ [39, 44]).getLast? = some 44
        rw [show v ++ [39, 44] = v ++ [39] ++ [44] by simp, List.getLast?_concat]
      exact absurd (last.trans commaLast) (by decide)

/-! ## Calls -/

/-- The arguments of a call up to its end, at most so many. -/
def readArguments : Nat → List Char → Option (List (List UInt16))
  | n + 1, c :: cs =>
    if c = '\'' then
      (scan .plain cs).bind fun r =>
        match r.2 with
        | [')'] => some [r.1]
        | ',' :: rest => (readArguments n rest).map (r.1 :: ·)
        | _ => none
    else none
  | _, _ => none

/-- The function and the arguments of a text that is a call. -/
def readCall (s : List Char) : Option (List Char × List (List UInt16)) :=
  let name := s.takeWhile (· ≠ '(')
  (readArguments s.length (s.drop (name.length + 1))).map fun arguments => (name, arguments)

/-- Arguments between quotes, and the end of the call. -/
def writeArguments : List (List Char) → List Char
  | [] => [')']
  | [a] => '\'' :: (a ++ ['\'', ')'])
  | a :: b :: more => '\'' :: (a ++ '\'' :: ',' :: writeArguments (b :: more))

def writeCall (name : List Char) (arguments : List (List Char)) : List Char :=
  name ++ '(' :: writeArguments arguments

example : readCall "f('a','b\\'c')".toList = some (['f'], [[97], [98, 39, 99]]) := by decide

/-- A text is read back where it stands for itself. -/
lemma scan_self_iff (s rest : List Char) :
    scan .plain (s ++ '\'' :: rest) = some (utf16 s, rest) ↔ ∀ c ∈ s, Harmless c := by
  have h := @scan_encoded_iff (fun c => [c]) (fun c => .inl rfl) s rest
  rw [List.flatMap_singleton'] at h
  simpa using h

/-- The first argument is the last one, or others follow. -/
lemma readArguments_quote_iff {n : Nat} {cs : List Char} {u : List UInt16} {us : List (List UInt16)} :
    readArguments (n + 1) ('\'' :: cs) = some (u :: us) ↔
      (scan .plain cs = some (u, [')']) ∧ us = []) ∨
        ∃ rest, scan .plain cs = some (u, ',' :: rest) ∧ readArguments n rest = some us := by
  rw [readArguments, if_pos rfl]
  constructor
  · intro h
    obtain ⟨⟨v, behind⟩, scanned, h⟩ := Option.bind_eq_some_iff.mp h
    split at h
    case h_1 last =>
      cases h
      exact .inl ⟨last ▸ scanned, rfl⟩
    case h_2 rest more =>
      obtain ⟨vs, others, e⟩ := Option.map_eq_some_iff.mp h
      cases e
      exact .inr ⟨rest, more ▸ scanned, others⟩
    case h_3 => cases h
  · rintro (⟨scanned, rfl⟩ | ⟨rest, scanned, others⟩)
    · rw [scanned]
      rfl
    · rw [scanned, Option.bind_some]
      show (readArguments n rest).map (u :: ·) = some (u :: us)
      rw [others]
      rfl

/-- There is an argument. -/
lemma readArguments_ne_nil (n : Nat) (cs : List Char) : readArguments n cs ≠ some [] := by
  intro h
  cases n with
  | zero => cases h
  | succ n =>
    cases cs with
    | nil => cases h
    | cons c cs =>
      rw [readArguments] at h
      split_ifs at h
      obtain ⟨r, _, h⟩ := Option.bind_eq_some_iff.mp h
      split at h
      · cases h
      · obtain ⟨vs, _, e⟩ := Option.map_eq_some_iff.mp h
        cases e
      · cases h

/-- Arguments are read back where their characters are harmless. -/
lemma readArguments_iff {n : Nat} {arguments : List (List Char)} (something : arguments ≠ [])
    (enough : arguments.length ≤ n) :
    readArguments n (writeArguments arguments) = some (arguments.map utf16) ↔ ∀ a ∈ arguments, ∀ c ∈ a, Harmless c := by
  induction arguments generalizing n with
  | nil => exact absurd rfl something
  | cons a more ih =>
    obtain ⟨n, rfl⟩ := Nat.exists_eq_add_of_le' (Nat.le_trans (Nat.succ_le_succ (Nat.zero_le _)) enough)
    cases more with
    | nil =>
      rw [List.forall_mem_singleton, ← scan_self_iff a [')'], writeArguments, List.map_singleton,
        readArguments_quote_iff]
      constructor
      · rintro (⟨scanned, _⟩ | ⟨rest, _, others⟩)
        · exact scanned
        · exact absurd others (readArguments_ne_nil n rest)
      · exact fun scanned => .inl ⟨scanned, rfl⟩
    | cons b more =>
      have others := ih (List.cons_ne_nil b more) (Nat.le_of_succ_le_succ enough)
      obtain ⟨tail, quoted⟩ : ∃ tail, writeArguments (b :: more) = '\'' :: tail := by
        cases more <;> exact ⟨_, rfl⟩
      rw [List.forall_mem_cons, ← others, ← scan_self_iff a (',' :: writeArguments (b :: more)), writeArguments,
        List.map_cons, readArguments_quote_iff]
      constructor
      · rintro (⟨_, none⟩ | ⟨rest, scanned, read⟩)
        · cases none
        · have end_ : rest = writeArguments (b :: more) := by
            rw [quoted] at scanned ⊢
            exact (List.cons.inj (scan_rest_of_value scanned)).2
          subst end_
          exact ⟨scanned, read⟩
      · rintro ⟨scanned, read⟩
        exact .inr ⟨_, scanned, read⟩

/-- A call is read back exactly where all characters of its arguments are harmless. -/
theorem readCall_iff {name : List Char} {arguments : List (List Char)} (plain : '(' ∉ name)
    (something : arguments ≠ []) :
    readCall (writeCall name arguments) = some (name, arguments.map utf16) ↔
      ∀ a ∈ arguments, ∀ c ∈ a, Harmless c := by
  have first : (writeCall name arguments).takeWhile (· ≠ '(') = name := by
    rw [writeCall, List.takeWhile_append_of_pos]
    · simp
    · intro c mem
      exact decide_eq_true fun own => plain (own ▸ mem)
  have behind : (writeCall name arguments).drop (name.length + 1) = writeArguments arguments := by
    rw [writeCall, ← List.drop_drop, List.drop_left, List.drop_one, List.tail_cons]
  have length (arguments : List (List Char)) (something : arguments ≠ []) :
      arguments.length ≤ (writeArguments arguments).length := by
    induction arguments with
    | nil => exact absurd rfl something
    | cons a more ih =>
      cases more with
      | nil => simp [writeArguments]
      | cons b more =>
        have bound := ih (List.cons_ne_nil b more)
        simp only [writeArguments, List.length_cons, List.length_append] at bound ⊢
        omega
  have enough : arguments.length ≤ (writeCall name arguments).length := by
    have bound := length arguments something
    simp only [writeCall, List.length_append, List.length_cons]
    omega
  rw [← readArguments_iff something enough, readCall, first, behind]
  cases readArguments (writeCall name arguments).length (writeArguments arguments) <;> simp

end JsLiteral
