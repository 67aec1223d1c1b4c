import Mathlib.Data.List.DropRight
import Mathlib.Tactic.Lemma

/-!
# Command lines

`base::CommandLine` on POSIX and the string functions that are used with it. A command line is built by
appending switches and arguments; `argv` is what a child process gets, with the switches in front, and
`fromArgv` is how the child reads it: every item that looks like a switch is one, up to a bare `--`, and
of several switches with one key the last one counts.

`fromArgv_switchValue` says what the child finds under a key: what the arguments have under it, or else the
value of the switch without the blanks at its end.
-/

namespace PureCloak.Base

/-! ## Strings -/

/-- `IsAsciiWhitespace`. -/
def isAsciiWhitespace (c : Char) : Bool :=
  c.toNat = 32 ∨ (9 ≤ c.toNat ∧ c.toNat ≤ 13)

/-- `TrimWhitespaceASCII` at both ends. -/
def trimWhitespaceASCII (s : List Char) : List Char :=
  (s.dropWhile isAsciiWhitespace).rdropWhile isAsciiWhitespace

/-- `IsStringASCII`. -/
def isStringASCII (s : String) : Bool :=
  s.toList.all fun c => c.toNat < 128

/-- `NumberToString`. -/
def numberToString (i : Int) : String :=
  toString i

/-- The digits of a number, as far as they go and fit into an `int`, added to what was read before. -/
def readDigits (negative : Bool) (value : Int) : List Char → Int × Bool
  | [] => (value, true)
  | c :: cs =>
    if c.isDigit then
      let digit : Int := c.toNat - '0'.toNat
      let next := if negative then value * 10 - digit else value * 10 + digit
      if next > 2147483647 then (2147483647, false)
      else if next < -2147483648 then (-2147483648, false)
      else readDigits negative next cs
    else (value, false)

/-- `StringToInt`: the value that is stored, and whether the whole string was a number. -/
def stringToInt (s : String) : Int32 × Bool :=
  let body := s.toList.dropWhile isAsciiWhitespace
  let negative := body.head? = some '-'
  let digits := if body.head? = some '-' ∨ body.head? = some '+' then body.tail else body
  let (value, valid) := if digits.isEmpty then (0, false) else readDigits negative 0 digits
  (Int32.ofInt value, valid && body.length == s.toList.length)

example : stringToInt "-12x" = (-12, false) ∧ stringToInt "2147483648" = (2147483647, false) := by
  decide

/-! ## Building and reading -/

/-- `base::CommandLine`; the switches are in the order in which they were appended. -/
structure CommandLine where
  program : String
  switches : List (String × String) := []
  args : List String := []

namespace CommandLine

/-- `AppendSwitchASCII` and `AppendSwitchPath`. -/
def appendSwitchASCII (cmd : CommandLine) (key value : String) : CommandLine :=
  { cmd with switches := cmd.switches ++ [(key, value)] }

/-- `AppendSwitch`. -/
def appendSwitch (cmd : CommandLine) (key : String) : CommandLine :=
  cmd.appendSwitchASCII key ""

/-- `AppendArg`. -/
def appendArg (cmd : CommandLine) (arg : String) : CommandLine :=
  { cmd with args := cmd.args ++ [arg] }

/-- The value that counts under a key. -/
def switchValue (cmd : CommandLine) (key : String) : Option String :=
  cmd.switches.reverse.lookup key

/-- `HasSwitch`. -/
def hasSwitch (cmd : CommandLine) (key : String) : Bool :=
  (cmd.switchValue key).isSome

/-- `GetSwitchValueASCII`; a value that is not ASCII is taken as empty. -/
def getSwitchValueASCII (cmd : CommandLine) (key : String) : String :=
  let value := (cmd.switchValue key).getD ""
  if isStringASCII value then value else ""

/-- A switch as an item of `argv`. -/
def renderSwitch (s : String × String) : String :=
  if s.2 = "" then "--" ++ s.1 else "--" ++ s.1 ++ "=" ++ s.2

/-- `argv`. -/
def argv (cmd : CommandLine) : List String :=
  cmd.program :: cmd.switches.map renderSwitch ++ cmd.args

/-- `GetSwitchPrefixLength`. -/
def switchPrefixLength : List Char → Nat
  | '-' :: '-' :: _ => 2
  | '-' :: _ => 1
  | _ => 0

/-- `IsSwitch`, with the prefix removed from the key. -/
def isSwitch (arg : List Char) : Option (String × String) :=
  let n := switchPrefixLength arg
  if n = 0 ∨ n = arg.length then none
  else
    let body := arg.drop n
    some (String.ofList (body.takeWhile (· ≠ '=')),
      String.ofList ((body.dropWhile (· ≠ '=')).drop 1))

/-- `AppendSwitchesAndArguments`. -/
def appendSwitchesAndArguments (cmd : CommandLine) : List String → CommandLine
  | [] => cmd
  | arg :: rest =>
    let arg := trimWhitespaceASCII arg.toList
    if arg = ['-', '-'] then
      -- everything that follows is an argument
      { cmd with args := cmd.args ++ String.ofList arg ::
          rest.map fun a => String.ofList (trimWhitespaceASCII a.toList) }
    else
      match isSwitch arg with
      | some (key, value) => appendSwitchesAndArguments (cmd.appendSwitchASCII key value) rest
      | none => appendSwitchesAndArguments (cmd.appendArg (String.ofList arg)) rest

/-- `InitFromArgv`. -/
def fromArgv : List String → CommandLine
  | [] => ⟨"", [], []⟩
  | program :: rest => appendSwitchesAndArguments ⟨program, [], []⟩ rest

/-! ## What a child finds -/

/-- A key that is read back as it was written: not empty, with no `'='` and no blank in it. -/
def PlainKey (key : String) : Prop :=
  key.toList ≠ [] ∧ ∀ c ∈ key.toList, c ≠ '=' ∧ isAsciiWhitespace c = false

instance (key : String) : Decidable (PlainKey key) :=
  @instDecidableAnd _ _ _ (List.decidableBAll _ _)

/-- Trimming stops at a character that is no blank. -/
lemma rdropWhile_append_cons {p : Char → Bool} {c : Char} (hc : p c = false) (l v : List Char) :
    (l ++ c :: v).rdropWhile p = l ++ c :: v.rdropWhile p := by
  induction v using List.reverseRecOn with
  | nil => simp [hc]
  | append_singleton v d ih =>
    have assoc : l ++ c :: (v ++ [d]) = (l ++ c :: v) ++ [d] := by simp
    rw [assoc, List.rdropWhile_concat, List.rdropWhile_concat]
    split
    · exact ih
    · simp

/-- The key ends at the first `'='`, if there is one. -/
lemma isSwitch_cons {k rest : List Char} (ne : k ≠ []) (no_eq : ∀ c ∈ k, c ≠ '=')
    (hrest : rest = [] ∨ rest.head? = some '=') :
    isSwitch ('-' :: '-' :: (k ++ rest)) = some (String.ofList k, String.ofList (rest.drop 1)) := by
  have all : ∀ c ∈ k, decide (c ≠ '=') = true := fun c hc => decide_eq_true (no_eq c hc)
  have stop : rest.takeWhile (fun c => decide (c ≠ '=')) = [] ∧
      rest.dropWhile (fun c => decide (c ≠ '=')) = rest := by
    obtain rfl | h := hrest
    · exact ⟨rfl, rfl⟩
    · obtain ⟨v, rfl⟩ := List.head?_eq_some_iff.mp h
      exact ⟨rfl, rfl⟩
  have len : k.length ≠ 0 := fun e => ne (List.eq_nil_of_length_eq_zero e)
  simp only [isSwitch, switchPrefixLength, List.length_cons, List.length_append, List.drop_succ_cons,
    List.drop_zero, List.takeWhile_append_of_pos all, List.dropWhile_append_of_pos all, stop.1, stop.2,
    List.append_nil]
  rw [if_neg (by omega)]

/-- An item that starts with two dashes and a plain key keeps both when it is trimmed. -/
lemma trim_switch {key : String} (hk : PlainKey key) (value : List Char) :
    trimWhitespaceASCII ('-' :: '-' :: key.toList) = '-' :: '-' :: key.toList ∧
    trimWhitespaceASCII ('-' :: '-' :: (key.toList ++ '=' :: value)) =
      '-' :: '-' :: (key.toList ++ '=' :: value.rdropWhile isAsciiWhitespace) := by
  have dash : isAsciiWhitespace '-' = false := by decide
  obtain ⟨l, c, hl⟩ := (List.eq_nil_or_concat' key.toList).resolve_left hk.1
  have hc : isAsciiWhitespace c = false := (hk.2 c (by simp [hl])).2
  refine ⟨?_, ?_⟩
  · rw [hl]
    simpa [trimWhitespaceASCII, dash] using rdropWhile_append_cons hc ('-' :: '-' :: l) []
  · simpa [trimWhitespaceASCII, dash] using
      rdropWhile_append_cons (by decide : isAsciiWhitespace '=' = false) ('-' :: '-' :: key.toList) value

/-- What is left of a switch value when its item is trimmed. -/
def trimEnd (value : String) : String :=
  String.ofList (value.toList.rdropWhile isAsciiWhitespace)

/-- A switch with a plain key is read back with its key; blanks at the end of the value are lost. -/
lemma isSwitch_render {key : String} (hk : PlainKey key) (value : String) :
    trimWhitespaceASCII (renderSwitch (key, value)).toList ≠ ['-', '-'] ∧
    isSwitch (trimWhitespaceASCII (renderSwitch (key, value)).toList) = some (key, trimEnd value) := by
  obtain ⟨bare, valued⟩ := trim_switch hk value.toList
  have no_eq : ∀ c ∈ key.toList, c ≠ '=' := fun c hc => (hk.2 c hc).1
  by_cases hv : value = ""
  · have text : (renderSwitch (key, value)).toList = '-' :: '-' :: key.toList := by
      simp [renderSwitch, hv]
    rw [text, bare, hv]
    refine ⟨by simpa using hk.1, ?_⟩
    simpa [trimEnd] using isSwitch_cons hk.1 no_eq (.inl rfl)
  · have text : (renderSwitch (key, value)).toList =
        '-' :: '-' :: (key.toList ++ '=' :: value.toList) := by
      simp [renderSwitch, hv]
    rw [text, valued]
    refine ⟨by simp, ?_⟩
    rw [isSwitch_cons hk.1 no_eq (.inr rfl), String.ofList_toList]
    rfl

/-- Items are read the same way behind whatever was read before. -/
lemma appendSwitchesAndArguments_switches (cmd : CommandLine) (items : List String) :
    (cmd.appendSwitchesAndArguments items).switches =
      cmd.switches ++ (appendSwitchesAndArguments ⟨"", [], []⟩ items).switches := by
  suffices h : ∀ cmd cmd' : CommandLine, ∀ pre, cmd.switches = pre ++ cmd'.switches →
      (cmd.appendSwitchesAndArguments items).switches =
        pre ++ (cmd'.appendSwitchesAndArguments items).switches by
    exact h cmd ⟨"", [], []⟩ cmd.switches (by simp)
  induction items with
  | nil => exact fun cmd cmd' pre h => h
  | cons item items ih =>
    intro cmd cmd' pre h
    unfold appendSwitchesAndArguments
    dsimp only
    split
    · exact h
    · split
      · exact ih _ _ pre (by simp [appendSwitchASCII, h])
      · exact ih _ _ pre h

/-- The switches that a child reads in the arguments of its command line. -/
def argSwitches (args : List String) : List (String × String) :=
  (appendSwitchesAndArguments ⟨"", [], []⟩ args).switches

/-- Switches with plain keys are read back, in front of what is read in the arguments. -/
lemma argSwitches_render {switches : List (String × String)}
    (plain : ∀ s ∈ switches, PlainKey s.1) (args : List String) :
    argSwitches (switches.map renderSwitch ++ args) =
      switches.map (fun s => (s.1, trimEnd s.2)) ++ argSwitches args := by
  induction switches with
  | nil => rfl
  | cons s switches ih =>
    have ih := ih fun s hs => plain s (List.mem_cons_of_mem _ hs)
    obtain ⟨ne, read⟩ := isSwitch_render (plain s List.mem_cons_self) s.2
    rw [List.map_cons, List.cons_append, argSwitches, appendSwitchesAndArguments]
    simp only [if_neg ne, read]
    rw [appendSwitchesAndArguments_switches]
    exact congrArg ((s.1, trimEnd s.2) :: ·) ih

/-- A value of a list whose values were changed. -/
lemma lookup_map {α β : Type} (f : α → β) (l : List (String × α)) (key : String) :
    (l.map fun s => (s.1, f s.2)).lookup key = (l.lookup key).map f := by
  induction l with
  | nil => rfl
  | cons s l ih =>
    rw [List.map_cons, List.lookup_cons, List.lookup_cons]
    split
    · rfl
    · exact ih

/-- Under a key a child finds what the arguments of its command line have, or else the switch. -/
lemma fromArgv_switchValue {cmd : CommandLine} (plain : ∀ s ∈ cmd.switches, PlainKey s.1)
    (key : String) :
    (fromArgv cmd.argv).switchValue key =
      ((argSwitches cmd.args).reverse.lookup key).or ((cmd.switchValue key).map trimEnd) := by
  have switches : (fromArgv cmd.argv).switches =
      cmd.switches.map (fun s => (s.1, trimEnd s.2)) ++ argSwitches cmd.args := by
    rw [← argSwitches_render plain, argv, List.cons_append, fromArgv,
      appendSwitchesAndArguments_switches]
    rfl
  rw [switchValue, switches, List.reverse_append, List.lookup_append, ← List.map_reverse, lookup_map]
  rfl

end CommandLine

end PureCloak.Base
