import Mathlib.Data.List.TakeWhile
import PureCloak.Base.Json
import PureCloak.Library.JsLiteral
import PureCloak.Profiles.Workspace

/-!
# Strings in the injected scripts

`GenerateNavigatorOverrides` of `ProfileCDPInjector` and `GenerateWebGLProtector`, `GenerateTimezoneProtector` and
`GeneratePlatformProtector` of `AntiDetectionEngine`. Each of them puts strings of a workspace into the text of a
script, between single quotes. A script is the list of its parts, with the quoted strings as parts of their own, and
`ReadsBack` says that a script engine which reads one of these literals comes to the quote that the emitter has put
behind it, with the string as the value.

`base::EscapeJSONString` belongs to the base library, so it is the class `EscapeJSONString`; its documentation is
`JsonEscape`. The loop that escapes the quotes edits the text that it goes through, and is given a number of passes.
-/

namespace PureCloak.Content
open PureCloak.Base PureCloak.Profiles JsLiteral

/-! ## Scripts -/

/-- A part of a script. -/
inductive Part where
  | text (s : String)
  /-- `%d`. -/
  | number (n : Int32)
  /-- `'%s'`. -/
  | literal (body : List Char)

def Part.print : Part → List Char
  | .text s => s.toList
  | .number n => (toString n.toInt).toList
  | .literal body => '\'' :: body ++ ['\'']

abbrev Script := List Part

/-- The text of a script. -/
def Script.print (script : Script) : List Char :=
  script.flatMap Part.print

/-- What is between the quotes of a literal, and the text behind it. -/
def Script.literalAt : Script → Nat → Option (List Char × List Char)
  | [], _ => none
  | .literal body :: script, 0 => some (body, Script.print script)
  | .literal _ :: script, k + 1 => Script.literalAt script k
  | .text _ :: script, k | .number _ :: script, k => Script.literalAt script k

/-- The text of a literal is in the text of the script. -/
lemma Script.print_literalAt {script : Script} {k : Nat} {body behind : List Char}
    (h : script.literalAt k = some (body, behind)) :
    ∃ before, script.print = before ++ '\'' :: (body ++ '\'' :: behind) := by
  induction script generalizing k with
  | nil => cases h
  | cons part script ih =>
    have inside {k : Nat} (h : Script.literalAt script k = some (body, behind)) :
        ∃ before, Script.print (part :: script) = before ++ '\'' :: (body ++ '\'' :: behind) := by
      obtain ⟨before, eq⟩ := ih h
      refine ⟨part.print ++ before, ?_⟩
      rw [List.append_assoc, ← eq]
      rfl
    cases part with
    | text s => exact inside h
    | number n => exact inside h
    | literal b =>
      cases k with
      | zero =>
        cases h
        exact ⟨[], by simp [Script.print, Part.print]⟩
      | succ k => exact inside h

/-- A literal, in the text of the script, ends at the quote of the emitter, and its value is this string. -/
def Script.ReadsBack (script : Script) (k : Nat) (value : String) : Prop :=
  ∃ before body behind, script.literalAt k = some (body, behind) ∧
    script.print = before ++ '\'' :: (body ++ '\'' :: behind) ∧
    scan .plain (body ++ '\'' :: behind) = some (utf16 value.toList, behind)

/-- A literal of a script is read back when its text is, up to the quote behind it. -/
lemma Script.readsBack_iff {script : Script} {k : Nat} {body behind : List Char} {value : String}
    (h : script.literalAt k = some (body, behind)) :
    script.ReadsBack k value ↔ scan .plain (body ++ '\'' :: behind) = some (utf16 value.toList, behind) := by
  refine ⟨?_, fun read => ?_⟩
  · rintro ⟨before, body', behind', h', _, read⟩
    cases h.symm.trans h'
    exact read
  · obtain ⟨before, text⟩ := Script.print_literalAt h
    exact ⟨before, body, behind, h, text, read⟩

/-- A computation that is given a number of passes comes to an end, with a result of this kind. -/
def Ends {α : Type} (run : Nat → Option α) (good : α → Prop) : Prop :=
  ∃ a passes, (∀ n ≥ passes, run n = some a) ∧ good a

/-- With a result for all large numbers of passes, something is so in the end when it is so of the result. -/
lemma ends_iff {α : Type} {run : Nat → Option α} {a : α} {passes : Nat} (h : ∀ n ≥ passes, run n = some a)
    {good : α → Prop} : Ends run good ↔ good a := by
  refine ⟨?_, ?_⟩
  · rintro ⟨b, passes', h', hb⟩
    have eq := (h _ (Nat.le_max_left passes passes')).symm.trans (h' _ (Nat.le_max_right passes passes'))
    rwa [Option.some.inj eq]
  · exact fun ha => ⟨a, passes, h, ha⟩

/-! ## Escaping -/

/-- `base::EscapeJSONString`: what it writes for a character. -/
class EscapeJSONString where
  character : Char → List Char

/-- The characters that do not stand for themselves. -/
def Special (c : Char) : Prop :=
  c.toNat < 32 ∨ c = '"' ∨ c = '\\' ∨ c = '<' ∨ c.toNat = 0x2028 ∨ c.toNat = 0x2029

instance (c : Char) : Decidable (Special c) :=
  inferInstanceAs (Decidable (_ ∨ _))

/-- The escape sequences of one character. -/
def shortEscapes : List (Char × Char) :=
  [('"', '"'), ('\\', '\\'), ('\n', 'n'), ('\r', 'r'), ('\t', 't'), ('\x08', 'b'), ('\x0c', 'f')]

/-- The documented texts of a character. -/
inductive JsonEscape (c : Char) : List Char → Prop where
  | itself (ordinary : ¬ Special c) : JsonEscape c [c]
  | short {e : Char} (listed : (c, e) ∈ shortEscapes) : JsonEscape c ['\\', e]
  | unicode {x y z w : Char} {i j k l : Nat} (hx : hexDigit x = some i) (hy : hexDigit y = some j)
      (hz : hexDigit z = some k) (hw : hexDigit w = some l)
      (value : ((i * 16 + j) * 16 + k) * 16 + l = c.toNat) : JsonEscape c ['\\', 'u', x, y, z, w]

/-- `EscapeJSONString` does as it is documented. -/
def AsDocumented [EscapeJSONString] : Prop :=
  ∀ c, JsonEscape c (EscapeJSONString.character c)

/-- `EscapeJSONString` without quotes around the text. -/
def escapeJSONString [EscapeJSONString] (str : String) : List Char :=
  str.toList.flatMap EscapeJSONString.character

/-- The loop that puts a backslash in front of every quote. -/
def escapeLoop : Nat → List Char → Nat → Option (List Char)
  | 0, _, _ => none
  | passes + 1, escaped, i =>
    match escaped[i]? with
    | none => some escaped
    -- `++i` behind the insertion, and again at the end of the pass
    | some '\'' => escapeLoop passes (escaped.insertIdx i '\\') (i + 2)
    | some _ => escapeLoop passes escaped (i + 1)

/-- A string that goes through `c_str()`. -/
def cStr (s : List Char) : List Char :=
  s.takeWhile (· ≠ '\x00')

/-! ## Navigator -/

/-- The platform of `GenerateNavigatorOverrides`. -/
def navigatorPlatform (platform : String) : String :=
  if platform = "windows" then "Win32"
  else if platform = "macos" then "MacIntel"
  else if platform = "linux" then "Linux x86_64"
  else if platform = "" then "Win32"
  else platform

/-- The concurrency of `GenerateNavigatorOverrides`. -/
def navigatorConcurrency (concurrency : Int32) : Int32 :=
  if concurrency ≤ 0 then 4 else concurrency

/-- A string that is escaped for a literal; an empty one is left as it is. -/
def escapeForLiteral [EscapeJSONString] (passes : Nat) (str : String) : Option (List Char) :=
  if str = "" then some [] else escapeLoop passes (escapeJSONString str) 0

/-- The override of the user agent. Behind the inner `c_str()` the outer one finds no zero. -/
def userAgentOverride (escapedUa : List Char) : Script :=
  if escapedUa = [] then []
  else [.text "userAgent:\x7bget:function()\x7breturn ", .literal (cStr escapedUa), .text ";\x7d\x7d,"]

/-- The script of `GenerateNavigatorOverrides` around its strings. -/
def navigatorScript (platform : String) (concurrency : Int32) (escapedUa : List Char) : Script :=
  [.text ("(function()\x7b" ++
      "var overrides=\x7b" ++
      "platform:\x7bget:function()\x7breturn "),
    .literal (cStr platform.toList),
    .text (";\x7d\x7d," ++
      "hardwareConcurrency:\x7bget:function()\x7breturn "),
    .number concurrency,
    .text ";\x7d\x7d,"] ++
  userAgentOverride escapedUa ++
  [.text ("\x7d;" ++
    "for(var k in overrides)\x7b" ++
    "try\x7bObject.defineProperty(navigator,k,overrides[k]);\x7dcatch(e)\x7b\x7d" ++
    "\x7d" ++
    "\x7d)();")]

/-- `ProfileCDPInjector::GenerateNavigatorOverrides`. -/
def generateNavigatorOverrides [EscapeJSONString] (passes : Nat) (workspace : Workspace) : Option Script := do
  let escapedUa ← escapeForLiteral passes workspace.userAgent
  return navigatorScript (navigatorPlatform workspace.platform)
    (navigatorConcurrency workspace.hardwareConcurrency) escapedUa

/-! ## WebGL -/

/-- The script for a workspace with neither a vendor nor a renderer. -/
def webGLExtensions : Script :=
  [.text ("var _origGetExt=WebGLRenderingContext.prototype.getSupportedExtensions;" ++
    "WebGLRenderingContext.prototype.getSupportedExtensions=function()\x7b" ++
    "var e=_origGetExt.call(this)||[];" ++
    "return e.filter(function(x)\x7breturn x.indexOf('WEBGL_debug_renderer')===-1;\x7d);" ++
    "\x7d;")]

/-- The script with the two literals. -/
def webGLParameters (vendor renderer : List Char) : Script := [
  .text "var _v=",
  .literal (cStr vendor),
  .text ",_r=",
  .literal (cStr renderer),
  .text (";" ++
    "var _origGetParam=WebGLRenderingContext.prototype.getParameter;" ++
    "WebGLRenderingContext.prototype.getParameter=function(p)\x7b" ++
    "if(p===0x9245)return _v;" ++
    "if(p===0x9246)return _r;" ++
    "if(p===0x1F01&&_r)return _r;" ++
    "if(p===0x1F00&&_v)return _v;" ++
    "return _origGetParam.call(this,p);" ++
    "\x7d;" ++
    "if(typeof WebGL2RenderingContext!=='undefined')\x7b" ++
    "var _origGetParam2=WebGL2RenderingContext.prototype.getParameter;" ++
    "WebGL2RenderingContext.prototype.getParameter=function(p)\x7b" ++
    "if(p===0x9245)return _v;" ++
    "if(p===0x9246)return _r;" ++
    "if(p===0x1F01&&_r)return _r;" ++
    "if(p===0x1F00&&_v)return _v;" ++
    "return _origGetParam2.call(this,p);" ++
    "\x7d;" ++
    "\x7d" ++
    "var _origGetExt=WebGLRenderingContext.prototype.getSupportedExtensions;" ++
    "WebGLRenderingContext.prototype.getSupportedExtensions=function()\x7b" ++
    "var e=_origGetExt.call(this)||[];" ++
    "return e.filter(function(x)\x7breturn x.indexOf('debug')===-1;\x7d);" ++
    "\x7d;")]

/-- `AntiDetectionEngine::GenerateWebGLProtector`. -/
def generateWebGLProtector [EscapeJSONString] (passes : Nat) (workspace : Workspace) : Option Script := do
  let vendor ← escapeForLiteral passes workspace.gpuVendor
  let renderer ← escapeForLiteral passes workspace.gpuRenderer
  return if vendor = [] ∧ renderer = [] then webGLExtensions else webGLParameters vendor renderer

/-! ## Timezone and platform -/

/-- The script with the literal of the timezone. -/
def timezoneScript (escaped : List Char) : Script := [
  .text ("try\x7b" ++
    "var _tz="),
  .literal (cStr escaped),
  .text (";" ++
    "var _origDTF=Intl.DateTimeFormat;" ++
    "Intl.DateTimeFormat=function(locales,opts)\x7b" ++
    "opts=Object.assign(\x7b\x7d,opts);" ++
    "if(opts.timeZone)opts.timeZone=_tz;" ++
    "return new _origDTF(locales,opts);" ++
    "\x7d;" ++
    "Intl.DateTimeFormat.prototype=_origDTF.prototype;" ++
    "Intl.DateTimeFormat.resolvedOptions=function()\x7b" ++
    "var r=_origDTF().resolvedOptions();" ++
    "r.timeZone=_tz;" ++
    "return r;" ++
    "\x7d;" ++
    "var _tzOffset=(function()\x7b" ++
    "var map=\x7b'America/New_York':300,'America/Chicago':360," ++
    "'America/Denver':420,'America/Los_Angeles':480," ++
    "'America/Anchorage':540,'Pacific/Honolulu':600," ++
    "'Europe/London':0,'Europe/Paris':-60,'Europe/Berlin':-60," ++
    "'Europe/Moscow':-180,'Europe/Dublin':0," ++
    "'Asia/Shanghai':-480,'Asia/Tokyo':-540,'Asia/Seoul':-540," ++
    "'Asia/Hong_Kong':-480,'Asia/Singapore':-480,'Asia/Kolkata':-330," ++
    "'Asia/Dubai':-240,'Asia/Jakarta':-420," ++
    "'Australia/Sydney':-660,'Australia/Melbourne':-660," ++
    "'Pacific/Auckland':-720," ++
    "'Canada/Eastern':300,'Canada/Central':360," ++
    "'Brazil/East':-180," ++
    "'UTC':0,'GMT':0\x7d;" ++
    "return map[_tz];" ++
    "\x7d)();" ++
    "if(_tzOffset!==undefined)\x7b" ++
    "var _origGetTO=Date.prototype.getTimezoneOffset;" ++
    "Date.prototype.getTimezoneOffset=function()\x7breturn _tzOffset;\x7d;" ++
    "\x7d" ++
    "\x7dcatch(e)\x7b\x7d")]

/-- `AntiDetectionEngine::GenerateTimezoneProtector`. -/
def generateTimezoneProtector (passes : Nat) (tz : String) : Option Script :=
  if tz = "" then some [] else (escapeLoop passes tz.toList 0).map timezoneScript

/-- `AntiDetectionEngine::GeneratePlatformProtector`. -/
def generatePlatformProtector (platform : String) : Script :=
  if platform = "" then []
  else
    let jsPlatform :=
      if platform = "windows" then "Win32"
      else if platform = "macos" then "MacIntel"
      else if platform = "linux" then "Linux x86_64"
      else platform
    [.text ("try\x7b" ++
        "Object.defineProperty(navigator,'platform'," ++
        "\x7bget:function()\x7breturn "),
      .literal (cStr jsPlatform.toList),
      .text (";\x7d,configurable:true\x7d);" ++
        "\x7dcatch(e)\x7b\x7d")]

/-! ## The loop -/

/-- What the loop makes of a character. -/
def escapeQuote (c : Char) : List Char :=
  if c = '\'' then ['\\', '\''] else [c]

/-- Only quotes are changed by the escape of the loop. -/
lemma quotesOnly_escapeQuote : QuotesOnly escapeQuote := by
  intro c
  by_cases h : c = '\''
  · exact .inr ⟨h, if_pos h⟩
  · exact .inl (if_neg h)

/-- A character is inserted between the part that is done and the rest. -/
lemma insertIdx_length (done rest : List Char) (c : Char) :
    (done ++ rest).insertIdx done.length c = done ++ c :: rest := by
  induction done with
  | nil => rfl
  | cons d done ih => rw [List.cons_append, List.length_cons, List.insertIdx_succ_cons, ih, List.cons_append]

/-- The part in front of `i` is done. A quote makes the rest no shorter, but takes one character of it away. -/
lemma escapeLoop_from {passes : Nat} {rest : List Char} (long : rest.length < passes) (done : List Char) :
    escapeLoop passes (done ++ rest) done.length = some (done ++ rest.flatMap escapeQuote) := by
  induction rest generalizing passes done with
  | nil =>
    obtain _ | passes := passes
    · cases long
    · simp [escapeLoop]
  | cons c rest ih =>
    obtain _ | passes := passes
    · cases long
    · have shorter : rest.length < passes := Nat.lt_of_succ_lt_succ long
      have here : (done ++ c :: rest)[done.length]? = some c := by simp
      by_cases quote : c = '\''
      · subst quote
        have inserted : (done ++ '\'' :: rest).insertIdx done.length '\\' = (done ++ ['\\', '\'']) ++ rest := by
          rw [insertIdx_length, List.append_assoc]
          rfl
        have tail := ih shorter (done ++ ['\\', '\''])
        rw [List.length_append] at tail
        simp only [escapeLoop, here, inserted]
        exact tail.trans (by simp [escapeQuote])
      · have tail := ih shorter (done ++ [c])
        rw [List.length_append, List.append_assoc, List.singleton_append] at tail
        have pass : escapeLoop (passes + 1) (done ++ c :: rest) done.length =
            escapeLoop passes (done ++ c :: rest) (done.length + 1) := by
          rw [escapeLoop, here]
          split
          case h_1 eq => cases eq
          case h_2 eq => exact absurd (Option.some.inj eq) quote
          case h_3 => rfl
        rw [pass]
        exact tail.trans (by simp [escapeQuote, quote])

/-- With enough passes the loop escapes all quotes. -/
lemma escapeLoop_eq {passes : Nat} {s : List Char} (long : passes > s.length) :
    escapeLoop passes s 0 = some (s.flatMap escapeQuote) :=
  escapeLoop_from long []

/-! ## Escaped fields -/

/-- A C string ends at a zero. -/
lemma cStr_zero (s : List Char) : cStr ('\x00' :: s) = [] :=
  rfl

/-- Other characters are part of it. -/
lemma cStr_cons {c : Char} (h : c ≠ '\x00') (s : List Char) : cStr (c :: s) = c :: cStr s := by
  simp [cStr, h]

/-- Without a zero it is the whole string. -/
lemma cStr_eq {s : List Char} (h : ∀ c ∈ s, c ≠ '\x00') : cStr s = s := by
  rw [cStr, List.takeWhile_eq_self_iff]
  intro c hc
  exact decide_eq_true (h c hc)

/-- A hexadecimal digit is neither a quote nor a zero. -/
lemma hexDigit_ordinary {c : Char} {n : Nat} (h : hexDigit c = some n) : c ≠ '\'' ∧ c ≠ '\x00' := by
  refine ⟨?_, ?_⟩ <;>
  · rintro rfl
    cases h

/-- The short escapes are read as the characters that they are for. -/
lemma shortEscapes_spec {c e : Char} (listed : (c, e) ∈ shortEscapes) :
    e ≠ '\'' ∧ e ≠ '\x00' ∧ readEscape e = .units (codeUnits c.toNat) .plain := by
  simp only [shortEscapes, List.mem_cons, List.not_mem_nil, or_false, Prod.mk.injEq] at listed
  obtain ⟨rfl, rfl⟩ | ⟨rfl, rfl⟩ | ⟨rfl, rfl⟩ | ⟨rfl, rfl⟩ | ⟨rfl, rfl⟩ | ⟨rfl, rfl⟩ | ⟨rfl, rfl⟩ := listed <;>
    exact ⟨by decide, by decide, rfl⟩

/-- An ordinary character is none of those that a literal cannot have. -/
lemma ordinary_spec {c : Char} (ordinary : ¬ Special c) : c ≠ '\\' ∧ c ≠ '\n' ∧ c ≠ '\r' ∧ c ≠ '\x00' := by
  refine ⟨?_, ?_, ?_, ?_⟩ <;>
  · rintro rfl
    exact ordinary (by decide)

/-- Escaping twice is right for every character: what the first pass writes, the second one leaves as it is, unless it
is a quote, and then it is the whole text of the character. -/
lemma JsonEscape.emits {c : Char} {piece : List Char} (h : JsonEscape c piece) :
    Emits (piece.flatMap escapeQuote) (codeUnits c.toNat) := by
  cases h with
  | itself ordinary =>
    obtain ⟨backslash, feed, ret, _⟩ := ordinary_spec ordinary
    rw [List.flatMap_singleton]
    by_cases quote : c = '\''
    · subst quote
      exact emits_escape rfl
    · rw [escapeQuote, if_neg quote]
      exact emits_self quote backslash feed ret
  | @short e listed =>
    obtain ⟨quote, _, value⟩ := shortEscapes_spec listed
    have same : ['\\', e].flatMap escapeQuote = ['\\', e] := by simp [escapeQuote, quote]
    rw [same]
    exact emits_escape value
  | @unicode x y z w i j k l hx hy hz hw value =>
    have same : ['\\', 'u', x, y, z, w].flatMap escapeQuote = ['\\', 'u', x, y, z, w] := by
      simp [escapeQuote, (hexDigit_ordinary hx).1, (hexDigit_ordinary hy).1, (hexDigit_ordinary hz).1,
        (hexDigit_ordinary hw).1]
    have units : codeUnits c.toNat = [UInt16.ofNat (((i * 16 + j) * 16 + k) * 16 + l)] := by
      have small : c.toNat < 0x10000 := by
        have := hexDigit_lt hx
        have := hexDigit_lt hy
        have := hexDigit_lt hz
        have := hexDigit_lt hw
        omega
      rw [codeUnits, if_pos small, value]
    rw [same, units]
    exact emits_unicode hx hy hz hw

/-- No character is escaped to nothing. -/
lemma JsonEscape.ne_nil {c : Char} {piece : List Char} (h : JsonEscape c piece) : piece.flatMap escapeQuote ≠ [] := by
  have enc : ∀ d s, (d :: s).flatMap escapeQuote ≠ [] := by
    intro d s
    obtain self | ⟨_, both⟩ := quotesOnly_escapeQuote d
    · simp [self]
    · simp [both]
  cases h with
  | itself => exact enc _ _
  | short => exact enc _ _
  | unicode => exact enc _ _

/-- Nothing is escaped to a zero. -/
lemma JsonEscape.no_zero {c d : Char} {piece : List Char} (h : JsonEscape c piece)
    (hd : d ∈ piece.flatMap escapeQuote) : d ≠ '\x00' := by
  obtain ⟨d', hd', mem⟩ := List.mem_flatMap.mp hd
  have same : d = '\\' ∨ d = d' := by
    obtain self | ⟨rfl, both⟩ := quotesOnly_escapeQuote d'
    · rw [self] at mem
      exact .inr (List.mem_singleton.mp mem)
    · rw [both] at mem
      simpa using mem
  obtain rfl | rfl := same
  · decide
  · cases h with
    | itself ordinary =>
      rw [List.mem_singleton] at hd'
      subst hd'
      exact (ordinary_spec ordinary).2.2.2
    | short listed =>
      obtain ⟨_, zero, _⟩ := shortEscapes_spec listed
      simp only [List.mem_cons, List.not_mem_nil, or_false] at hd'
      obtain rfl | rfl := hd'
      · decide
      · exact zero
    | unicode hx hy hz hw value =>
      simp only [List.mem_cons, List.not_mem_nil, or_false] at hd'
      obtain rfl | rfl | rfl | rfl | rfl | rfl := hd'
      · decide
      · decide
      · exact (hexDigit_ordinary hx).2
      · exact (hexDigit_ordinary hy).2
      · exact (hexDigit_ordinary hz).2
      · exact (hexDigit_ordinary hw).2

section
variable [EscapeJSONString]

/-- The text of a string after both passes. -/
def escaped (str : String) : List Char :=
  (escapeJSONString str).flatMap escapeQuote

/-- With enough passes `EscapeForLiteral` ends. -/
lemma escapeForLiteral_eq {passes : Nat} {str : String} (long : passes > (escapeJSONString str).length) :
    escapeForLiteral passes str = some (escaped str) := by
  rw [escapeForLiteral]
  split_ifs with empty
  · rw [empty]
    rfl
  · exact escapeLoop_eq long

/-- A text that is not empty is not escaped to an empty one. -/
lemma escaped_ne_nil (documented : AsDocumented) {str : String} (h : str ≠ "") : escaped str ≠ [] := by
  obtain ⟨c, s, eq⟩ := List.exists_cons_of_ne_nil fun e => h (String.toList_eq_nil_iff.mp e)
  rw [escaped, escapeJSONString, eq, List.flatMap_cons, List.flatMap_append]
  have first : (EscapeJSONString.character c).flatMap escapeQuote ≠ [] := (documented c).ne_nil
  exact fun nil => first (List.append_eq_nil_iff.mp nil).1

/-- A string that is escaped twice is read back, and goes through `c_str()` unchanged. -/
lemma escaped_scan (documented : AsDocumented) (str : String) (behind : List Char) :
    scan .plain (cStr (escaped str) ++ '\'' :: behind) = some (utf16 str.toList, behind) := by
  rw [escaped, escapeJSONString, List.flatMap_assoc, cStr_eq]
  · exact (Emits.flatMap fun c _ => (documented c).emits).scan behind
  · intro d hd
    obtain ⟨c, _, hd⟩ := List.mem_flatMap.mp hd
    exact (documented c).no_zero hd

/-- With enough passes `GenerateNavigatorOverrides` ends. -/
lemma generateNavigatorOverrides_eq {passes : Nat} {workspace : Workspace}
    (long : passes > (escapeJSONString workspace.userAgent).length) :
    generateNavigatorOverrides passes workspace = some (navigatorScript (navigatorPlatform workspace.platform)
      (navigatorConcurrency workspace.hardwareConcurrency) (escaped workspace.userAgent)) := by
  rw [generateNavigatorOverrides, escapeForLiteral_eq long]
  rfl

/-- With enough passes `GenerateWebGLProtector` ends. -/
lemma generateWebGLProtector_eq {passes : Nat} {workspace : Workspace}
    (long : passes > (escapeJSONString workspace.gpuVendor).length)
    (long' : passes > (escapeJSONString workspace.gpuRenderer).length) :
    generateWebGLProtector passes workspace =
      some (if escaped workspace.gpuVendor = [] ∧ escaped workspace.gpuRenderer = [] then webGLExtensions
        else webGLParameters (escaped workspace.gpuVendor) (escaped workspace.gpuRenderer)) := by
  rw [generateWebGLProtector, escapeForLiteral_eq long, escapeForLiteral_eq long']
  rfl

/-- No text of a user agent, a vendor or a renderer ends its literal early or changes its value: the loop comes to an
end, and the literals are read back. -/
theorem escaped_fields_read_back (documented : AsDocumented) (workspace : Workspace) :
    (∀ s, Ends (fun passes => escapeLoop passes s 0) fun result => result = s.flatMap escapeQuote) ∧
    (workspace.userAgent ≠ "" →
      Ends (fun passes => generateNavigatorOverrides passes workspace) fun script =>
        script.ReadsBack 1 workspace.userAgent) ∧
    (workspace.gpuVendor ≠ "" ∨ workspace.gpuRenderer ≠ "" →
      Ends (fun passes => generateWebGLProtector passes workspace) fun script =>
        script.ReadsBack 0 workspace.gpuVendor ∧ script.ReadsBack 1 workspace.gpuRenderer) := by
  refine ⟨?_, ?_, ?_⟩
  · intro s
    exact ⟨_, s.length + 1, fun n long => escapeLoop_eq long, rfl⟩
  · intro ua
    refine ⟨_, _, fun n long => generateNavigatorOverrides_eq (Nat.lt_of_succ_le long), ?_⟩
    rw [navigatorScript, userAgentOverride, if_neg (escaped_ne_nil documented ua)]
    exact (Script.readsBack_iff rfl).mpr (escaped_scan documented _ _)
  · intro gpu
    refine ⟨_, max (escapeJSONString workspace.gpuVendor).length (escapeJSONString workspace.gpuRenderer).length + 1,
      fun n long => generateWebGLProtector_eq (by omega) (by omega), ?_⟩
    have literals : ¬ (escaped workspace.gpuVendor = [] ∧ escaped workspace.gpuRenderer = []) := by
      rintro ⟨vendor, renderer⟩
      cases gpu with
      | inl h => exact escaped_ne_nil documented h vendor
      | inr h => exact escaped_ne_nil documented h renderer
    rw [if_neg literals]
    refine ⟨?_, ?_⟩
    · exact (Script.readsBack_iff rfl).mpr (escaped_scan documented _ _)
    · exact (Script.readsBack_iff rfl).mpr (escaped_scan documented _ _)

end

/-! ### The escapes of the writer -/

/-- Four digits of a number behind a `u`. -/
def writesUnicode (n : Nat) : List Char → Bool
  | ['\\', 'u', x, y, z, w] =>
    match hexDigit x, hexDigit y, hexDigit z, hexDigit w with
    | some i, some j, some k, some l => ((i * 16 + j) * 16 + k) * 16 + l = n
    | _, _, _, _ => false
  | _ => false

/-- The test of an escape with four digits is right. -/
lemma writesUnicode_spec {c : Char} {piece : List Char} (h : writesUnicode c.toNat piece = true) :
    JsonEscape c piece := by
  unfold writesUnicode at h
  split at h
  · split at h
    case h_1 hx hy hz hw => exact .unicode hx hy hz hw (of_decide_eq_true h)
    case h_2 => cases h
  · cases h

/-- The writer has these escapes for the control characters, and for three others. -/
lemma escapeUnicode_writes :
    ∀ n ∈ List.range 32 ++ ['<'.toNat, 0x2028, 0x2029], writesUnicode n (escapeUnicode n) = true := by
  decide

/-- What the JSON writer puts for a character is as documented. -/
lemma escapeChar_documented (c : Char) : JsonEscape c (escapeChar c) := by
  unfold escapeChar
  split
  case h_8 quote backslash _ _ _ _ _ =>
    split_ifs with special
    · apply writesUnicode_spec
      apply escapeUnicode_writes
      rw [List.mem_append, List.mem_range]
      obtain small | rfl | eq | eq := special
      · exact .inl small
      · exact .inr (by decide)
      · exact .inr (by simp [eq])
      · exact .inr (by simp [eq])
    · apply JsonEscape.itself
      simp only [Special]
      tauto
  all_goals exact .short (by decide)

/-- The escapes of the JSON writer. -/
@[reducible]
def writerEscapes : EscapeJSONString :=
  ⟨escapeChar⟩

/-- A workspace whose strings have quotes and backslashes, one behind the other. -/
def quotedWorkspace : Workspace :=
  { userAgent := "it's \\' \\\\'\n", gpuRenderer := "</script>'\x00" }

/-- A workspace with quotes in its fields. -/
theorem escaped_fields_read_back_quoted :
    Ends (fun passes => @generateNavigatorOverrides writerEscapes passes quotedWorkspace) (fun script =>
      script.ReadsBack 1 quotedWorkspace.userAgent) ∧
    Ends (fun passes => @generateWebGLProtector writerEscapes passes quotedWorkspace) fun script =>
      script.ReadsBack 0 quotedWorkspace.gpuVendor ∧ script.ReadsBack 1 quotedWorkspace.gpuRenderer := by
  have all := @escaped_fields_read_back writerEscapes escapeChar_documented quotedWorkspace
  exact ⟨all.2.1 (by decide), all.2.2 (.inr (by decide))⟩

/-! ## Timezone and platform as they are -/

/-- What the scripts say of a platform. -/
def mappedPlatform (platform : String) : String :=
  if platform = "windows" then "Win32"
  else if platform = "macos" then "MacIntel"
  else if platform = "linux" then "Linux x86_64"
  else platform

/-- The literals of the timezone and of the platform are read back. -/
def LiteralsReadBack [EscapeJSONString] (workspace : Workspace) : Prop :=
  (workspace.timezone ≠ "" →
    Ends (fun passes => generateTimezoneProtector passes workspace.timezone) fun script =>
      script.ReadsBack 0 workspace.timezone) ∧
  (workspace.platform ≠ "" →
    (generatePlatformProtector workspace.platform).ReadsBack 0 (mappedPlatform workspace.platform)) ∧
  Ends (fun passes => generateNavigatorOverrides passes workspace) fun script =>
    script.ReadsBack 0 (mappedPlatform workspace.platform)

variable {enc : Char → List Char}

/-- The part before the first zero is escaped alone. -/
lemma cStr_flatMap (quotes : QuotesOnly enc) (s : List Char) : cStr (s.flatMap enc) = (cStr s).flatMap enc := by
  induction s with
  | nil => rfl
  | cons c s ih =>
    rw [List.flatMap_cons]
    obtain self | ⟨rfl, both⟩ := quotes c
    · rw [self, List.singleton_append]
      by_cases zero : c = '\x00'
      · rw [zero, cStr_zero, cStr_zero, List.flatMap_nil]
      · rw [cStr_cons zero, cStr_cons zero, ih, List.flatMap_cons, self, List.singleton_append]
    · rw [both, List.cons_append, List.singleton_append, cStr_cons (by decide), cStr_cons (by decide),
        cStr_cons (by decide), ih, List.flatMap_cons, both]
      rfl

/-- A string with a zero loses units. -/
lemma utf16_cStr_lt {s : List Char} (h : '\x00' ∈ s) : (utf16 (cStr s)).length < (utf16 s).length := by
  induction s with
  | nil => cases h
  | cons c s ih =>
    by_cases zero : c = '\x00'
    · have one := one_le_codeUnits c.toNat
      rw [zero, cStr_zero, ← zero, utf16_cons, List.length_append]
      show 0 < _
      omega
    · have tail := ih ((List.mem_cons.mp h).resolve_left (Ne.symm zero))
      rw [cStr_cons zero, utf16_cons, utf16_cons, List.length_append, List.length_append]
      omega

/-- A string of which at most the quotes are escaped is read back exactly when it has no zero, and every other
character that is written as itself is harmless. -/
lemma scan_cStr_iff (quotes : QuotesOnly enc) (s behind : List Char) :
    scan .plain (cStr (s.flatMap enc) ++ '\'' :: behind) = some (utf16 s, behind) ↔
      ∀ c ∈ s, c ≠ '\x00' ∧ (enc c = [c] → Harmless c) := by
  rw [cStr_flatMap quotes]
  by_cases zero : '\x00' ∈ s
  · refine ⟨fun h => ?_, fun h => absurd rfl (h _ zero).1⟩
    have bound := scan_encoded_length quotes h
    have lost := utf16_cStr_lt zero
    rw [pending] at bound
    omega
  · rw [cStr_eq fun c hc e => zero (e ▸ hc), scan_encoded_iff quotes]
    refine ⟨fun h c hc => ⟨fun e => zero (e ▸ hc), h c hc⟩, fun h c hc => (h c hc).2⟩

/-- A string that is put between the quotes as it is. -/
lemma scan_plain_iff (s behind : List Char) :
    scan .plain (cStr s ++ '\'' :: behind) = some (utf16 s, behind) ↔ ∀ c ∈ s, c ≠ '\x00' ∧ Harmless c := by
  have as_it_is : QuotesOnly fun c => [c] := fun c => .inl rfl
  have all := scan_cStr_iff as_it_is s behind
  rw [List.flatMap_singleton'] at all
  simpa using all

/-- A string whose characters all stand for themselves, by computation. -/
lemma harmless_of_all {s : String} (h : (s.toList.all fun c => decide (c ≠ '\x00' ∧ Harmless c)) = true) :
    ∀ c ∈ s.toList, c ≠ '\x00' ∧ Harmless c := by
  intro c hc
  exact of_decide_eq_true (List.all_eq_true.mp h c hc)

/-- The mapping of the platform neither adds a character that does harm nor takes one away. -/
lemma mappedPlatform_harmless {platform : String} :
    (∀ c ∈ (mappedPlatform platform).toList, c ≠ '\x00' ∧ Harmless c) ↔
      ∀ c ∈ platform.toList, c ≠ '\x00' ∧ Harmless c := by
  rw [mappedPlatform]
  split_ifs with windows macos linux
  · rw [windows]
    exact iff_of_true (harmless_of_all (by decide)) (harmless_of_all (by decide))
  · rw [macos]
    exact iff_of_true (harmless_of_all (by decide)) (harmless_of_all (by decide))
  · rw [linux]
    exact iff_of_true (harmless_of_all (by decide)) (harmless_of_all (by decide))
  · rfl

/-- A platform that is given is mapped. -/
lemma navigatorPlatform_eq {platform : String} (h : platform ≠ "") :
    navigatorPlatform platform = mappedPlatform platform := by
  rw [navigatorPlatform, mappedPlatform, if_neg h]

/-- The literal of the timezone: the quotes in it are escaped. -/
lemma timezone_reads_iff (workspace : Workspace) :
    (workspace.timezone ≠ "" →
      Ends (fun passes => generateTimezoneProtector passes workspace.timezone) fun script =>
        script.ReadsBack 0 workspace.timezone) ↔
    ∀ c ∈ workspace.timezone.toList, c ≠ '\x00' ∧ c ≠ '\\' ∧ c ≠ '\n' ∧ c ≠ '\r' := by
  by_cases empty : workspace.timezone = ""
  · refine ⟨fun _ c hc => ?_, fun _ h => absurd empty h⟩
    rw [empty] at hc
    cases hc
  · have result : ∀ passes ≥ workspace.timezone.toList.length + 1,
        generateTimezoneProtector passes workspace.timezone =
          some (timezoneScript (workspace.timezone.toList.flatMap escapeQuote)) := by
      intro passes long
      rw [generateTimezoneProtector, if_neg empty, escapeLoop_eq long]
      rfl
    have quote : ∀ c, (escapeQuote c = [c] → Harmless c) ↔ c ≠ '\\' ∧ c ≠ '\n' ∧ c ≠ '\r' := by
      intro c
      by_cases h : c = '\''
      · subst h
        decide
      · simp [escapeQuote, h, Harmless]
    rw [forall_prop_of_true empty, ends_iff result, Script.readsBack_iff rfl, scan_cStr_iff quotesOnly_escapeQuote]
    simp only [quote]

/-- The platform is read back exactly without a character that does harm. -/
lemma platform_reads_iff {platform : String} (h : platform ≠ "") :
    (generatePlatformProtector platform).ReadsBack 0 (mappedPlatform platform) ↔
      ∀ c ∈ platform.toList, c ≠ '\x00' ∧ Harmless c := by
  rw [generatePlatformProtector, if_neg h, Script.readsBack_iff rfl, ← mappedPlatform_harmless]
  exact scan_plain_iff _ _

/-- So it is in the overrides of the navigator. -/
lemma navigator_reads_iff [EscapeJSONString] (workspace : Workspace) :
    (Ends (fun passes => generateNavigatorOverrides passes workspace) fun script =>
        script.ReadsBack 0 (mappedPlatform workspace.platform)) ↔
      workspace.platform ≠ "" ∧ ∀ c ∈ workspace.platform.toList, c ≠ '\x00' ∧ Harmless c := by
  have result : ∀ passes ≥ (escapeJSONString workspace.userAgent).length + 1,
      generateNavigatorOverrides passes workspace = some _ :=
    fun passes long => generateNavigatorOverrides_eq long
  rw [ends_iff result, Script.readsBack_iff rfl]
  by_cases empty : workspace.platform = ""
  · refine ⟨fun read => ?_, fun h => absurd empty h.1⟩
    -- the value of an empty platform is `Win32`
    rw [empty, (scan_plain_iff _ _).mpr (harmless_of_all (by decide))] at read
    cases read
  · rw [navigatorPlatform_eq empty, scan_plain_iff, mappedPlatform_harmless]
    exact (and_iff_right empty).symm

/-- The literals are read back exactly for a timezone without backslashes, line ends and zeros, and a platform that is
there and has none of these and no quotes. -/
theorem literals_read_back_iff [EscapeJSONString] (workspace : Workspace) :
    LiteralsReadBack workspace ↔
      (∀ c ∈ workspace.timezone.toList, c ≠ '\x00' ∧ c ≠ '\\' ∧ c ≠ '\n' ∧ c ≠ '\r') ∧
      workspace.platform ≠ "" ∧
      ∀ c ∈ workspace.platform.toList, c ≠ '\x00' ∧ c ≠ '\'' ∧ c ≠ '\\' ∧ c ≠ '\n' ∧ c ≠ '\r' := by
  rw [LiteralsReadBack, timezone_reads_iff, navigator_reads_iff]
  refine and_congr_right fun _ => ?_
  refine ⟨fun h => h.2, fun h => ⟨fun there => (platform_reads_iff there).mpr h.2, h⟩⟩

/-- The literals of this timezone and of this platform end before the quotes of the emitters. -/
def injectingWorkspace : Workspace :=
  { timezone := "\\';alert(1)//", platform := "';alert(1)//" }

example : (scan .plain (cStr (injectingWorkspace.timezone.toList.flatMap escapeQuote) ++ ['\''])).map Prod.snd =
    some ";alert(1)//'".toList := by decide

/-- The timezone of this workspace leaves its literal. -/
theorem literals_read_back_fails : ¬ @LiteralsReadBack writerEscapes injectingWorkspace := by
  rintro ⟨timezone, _⟩
  have harmless := (timezone_reads_iff injectingWorkspace).mp timezone '\\' (by decide)
  exact harmless.2.1 rfl

end PureCloak.Content
