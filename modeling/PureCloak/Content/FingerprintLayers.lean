import PureCloak.Blink.CanvasNoise
import PureCloak.Content.InjectionScript

/-!
# The two layers of a fingerprint

What a page sees of the screen, of its window and of the processors. Below are the values of the patched renderer:
`Screen`, `LocalDOMWindow` and `NavigatorConcurrentHardware` take them from tables with the noise of seed zero. Above
is the script of `GenerateInjectionScript`, which takes them from a workspace: it defines properties on `navigator` and
`screen` and puts a proxy in the place of `window.screen`. A worker sees the lower layer only.

Where its literals end at the quotes of the emitter, the script is what it does to a `Page`, statement by statement;
the statements of `GenerateProtectionScript` on other objects are left out. Where one does not, the text is some other
script or none, and what comes of it is up to the `ScriptEngine`. The script of `HumanizeEngine`, of which the
repository has no source, simulates the movements of a user; that it does not touch the properties is
`LeavesProperties`.
-/

namespace PureCloak.Content
open PureCloak.Blink PureCloak.Profiles

/-! ## Native values -/

/-- The table entry at a noise value. -/
def tableEntry (table : List Int) (noise : Int) : Int :=
  let idx := noise.tmod table.length
  let idx := (idx + table.length).tmod table.length
  table.getD idx.toNat 0

/-- `RootWindowRect`. -/
structure WindowRect where
  width : Int
  height : Int

/-- `Screen::height`; without a window it is zero. -/
def screenHeight : Option WindowRect → Int
  | none => 0
  | some _ => tableEntry [768, 900, 1024, 1080, 1200, 1440] (pureCloakNoise 0 400)

/-- `Screen::width`. -/
def screenWidth : Option WindowRect → Int
  | none => 0
  | some _ => tableEntry [1024, 1280, 1366, 1440, 1536, 1680, 1920, 2560] (pureCloakNoise 0 401)

/-- `Screen::availHeight`. -/
def availHeight (window : Option WindowRect) : Int :=
  if window.isNone then 0 else screenHeight window - 40

/-- `Screen::availWidth`. -/
def availWidth (window : Option WindowRect) : Int :=
  if window.isNone then 0 else screenWidth window

/-- `LocalDOMWindow::outerHeight`. -/
def outerHeight : Option WindowRect → Int
  | none => 0
  | some rect =>
    let spoofed := screenHeight (some rect) - tableEntry [75, 93, 100, 115, 128, 135] (pureCloakNoise 0 402)
    if spoofed < 500 then rect.height else spoofed

/-- `LocalDOMWindow::outerWidth`. -/
def outerWidth : Option WindowRect → Int
  | none => 0
  | some rect =>
    let spoofed := screenWidth (some rect) - tableEntry [0, 2, 4, 8, 14] (pureCloakNoise 0 403)
    if spoofed < 800 then rect.width else spoofed

/-- `NavigatorConcurrentHardware::hardwareConcurrency`, in a page and in a worker. -/
def hardwareConcurrency : Int :=
  tableEntry [2, 4, 6, 8, 12, 16, 24] (pureCloakNoise 0 300)

/-- The native width of the screen. -/
lemma screenWidth_some (rect : WindowRect) : screenWidth (some rect) = 2560 := by
  show tableEntry _ _ = _
  decide

/-- The native height of the screen. -/
lemma screenHeight_some (rect : WindowRect) : screenHeight (some rect) = 1024 := by
  show tableEntry _ _ = _
  decide

/-- The native outer width. -/
lemma outerWidth_some (rect : WindowRect) : outerWidth (some rect) = 2558 := by
  have border : tableEntry [0, 2, 4, 8, 14] (pureCloakNoise 0 403) = 2 := by decide
  rw [outerWidth, screenWidth_some, border]
  rfl

/-- The native outer height. -/
lemma outerHeight_some (rect : WindowRect) : outerHeight (some rect) = 949 := by
  have chrome : tableEntry [75, 93, 100, 115, 128, 135] (pureCloakNoise 0 402) = 75 := by decide
  rw [outerHeight, screenHeight_some, chrome]
  rfl

/-- The native number of processors. -/
lemma hardwareConcurrency_eq : hardwareConcurrency = 4 := by
  decide

/-- The lower layer agrees with itself: a window is no larger than its screen. -/
theorem native_agrees (rect : WindowRect) :
    outerWidth (some rect) ≤ screenWidth (some rect) ∧ outerHeight (some rect) ≤ screenHeight (some rect) ∧
    availHeight (some rect) ≤ screenHeight (some rect) := by
  have avail : availHeight (some rect) = screenHeight (some rect) - 40 := rfl
  rw [avail, outerWidth_some, outerHeight_some, screenWidth_some, screenHeight_some]
  decide

/-! ## Pages -/

/-- The objects with properties that the script defines. -/
inductive Target where
  | navigator
  /-- The object behind `window.screen`, also when a proxy is in front of it. -/
  | screen
  | window
deriving DecidableEq

inductive JsValue where
  | number (n : Int)
  | text (s : String)
deriving DecidableEq

/-- An own property with a getter. -/
structure Property where
  value : JsValue
  configurable : Bool
deriving DecidableEq

/-- A property descriptor with a getter; without a value `configurable` is left out. -/
structure Descriptor where
  name : String
  value : JsValue
  configurable : Option Bool := none

/-- A page: its window, the own properties that scripts have defined, and the values of the proxy that was put in the
place of `window.screen`. -/
structure Page where
  rect : WindowRect
  own : Target → String → Option Property := fun _ _ => none
  screenProxy : Option (Int32 × Int32) := none

namespace Page

def set (page : Page) (t : Target) (name : String) (property : Property) : Page :=
  { page with own := fun t' name' => if t' = t ∧ name' = name then some property else page.own t' name' }

/-- `Object.defineProperty`; `none` when it throws, because the property is there and is not configurable. -/
def defineProperty (page : Page) (t : Target) (d : Descriptor) : Option Page :=
  match page.own t d.name with
  | some ⟨_, false⟩ => none
  | some ⟨_, true⟩ => some (page.set t d.name ⟨d.value, d.configurable.getD true⟩)
  | none => some (page.set t d.name ⟨d.value, d.configurable.getD false⟩)

/-- `Object.defineProperties` in a `try` block: what was defined before it throws stays. -/
def tryDefine (page : Page) (t : Target) : List Descriptor → Page
  | [] => page
  | d :: ds =>
    match page.defineProperty t d with
    | none => page
    | some page => page.tryDefine t ds

/-- What a script reads: the own property, or else the value of the renderer. -/
def read (page : Page) (t : Target) (name : String) (native : Int) : JsValue :=
  match page.own t name with
  | some property => property.value
  | none => .number native

/-- `window.screen[name]`; the getter of the proxy comes first. -/
def readScreen (page : Page) (name : String) (native : Int) : JsValue :=
  match page.screenProxy with
  | some (width, height) =>
    if name = "width" ∨ name = "availWidth" then .number width.toInt
    else if name = "height" ∨ name = "availHeight" then .number height.toInt
    else page.read .screen name native
  | none => page.read .screen name native

end Page

/-- What a page sees. -/
structure Seen where
  outerWidth : JsValue
  outerHeight : JsValue
  width : JsValue
  height : JsValue
  availHeight : JsValue
  hardwareConcurrency : JsValue
deriving DecidableEq

def Page.seen (page : Page) : Seen where
  outerWidth := page.read .window "outerWidth" (outerWidth (some page.rect))
  outerHeight := page.read .window "outerHeight" (outerHeight (some page.rect))
  width := page.readScreen "width" (screenWidth (some page.rect))
  height := page.readScreen "height" (screenHeight (some page.rect))
  availHeight := page.readScreen "availHeight" (availHeight (some page.rect))
  hardwareConcurrency := page.read .navigator "hardwareConcurrency" hardwareConcurrency

/-! ## The script -/

inductive Statement where
  /-- Definitions in one `try` block. -/
  | define (t : Target) (descriptors : List Descriptor)
  /-- `window.screen=new Proxy(...)`. -/
  | replaceScreen (width height : Int32)

def Statement.run (page : Page) : Statement → Page
  | .define t descriptors => page.tryDefine t descriptors
  | .replaceScreen width height => { page with screenProxy := some (width, height) }

/-- The loop of `GenerateNavigatorOverrides` over its overrides. -/
def navigatorOverrides (workspace : Workspace) : List Statement :=
  [.define .navigator [⟨"platform", .text (navigatorPlatform workspace.platform), none⟩],
    .define .navigator [⟨"hardwareConcurrency",
      .number (navigatorConcurrency workspace.hardwareConcurrency).toInt, none⟩]] ++
  if workspace.userAgent = "" then []
  else [.define .navigator [⟨"userAgent", .text workspace.userAgent, none⟩]]

/-- `GenerateScreenOverrides`. -/
def screenOverrides (workspace : Workspace) : List Statement :=
  [.replaceScreen (overrideWidth workspace) (overrideHeight workspace)]

/-- `GenerateHardwareConcurrencyProtector`. -/
def hardwareConcurrencyProtector (concurrency : Int32) : List Statement :=
  if concurrency ≤ 0 then []
  else [.define .navigator [⟨"hardwareConcurrency", .number concurrency.toInt, some true⟩]]

/-- `GenerateScreenProtector`. -/
def screenProtector (width height : Int32) : List Statement :=
  if width ≤ 0 ∨ height ≤ 0 then []
  else [.define .screen [
    ⟨"width", .number width.toInt, some true⟩,
    ⟨"height", .number height.toInt, some true⟩,
    ⟨"availWidth", .number width.toInt, some true⟩,
    ⟨"availHeight", .number height.toInt, some true⟩,
    ⟨"colorDepth", .number 24, some true⟩,
    ⟨"pixelDepth", .number 24, some true⟩]]

/-- `GeneratePlatformProtector`. -/
def platformProtector (platform : String) : List Statement :=
  if platform = "" then [] else [.define .navigator [⟨"platform", .text (mappedPlatform platform), some true⟩]]

/-- `GenerateProtectionScript`. -/
def protectionScript (workspace : Workspace) : List Statement :=
  if workspace.fingerprintSeed = 0 then []
  else
    (if workspace.hardwareConcurrency > 0 then hardwareConcurrencyProtector workspace.hardwareConcurrency else []) ++
    (if workspace.screenWidth > 0 ∧ workspace.screenHeight > 0
      then screenProtector workspace.screenWidth workspace.screenHeight else []) ++
    if workspace.platform = "" then [] else platformProtector workspace.platform

/-- A script engine: what a text does to a page. -/
class ScriptEngine where
  run : List Char → Page → Page

/-- The script of `HumanizeEngine` does not touch the properties. -/
def LeavesProperties [HumanizeEngine] [ScriptEngine] : Prop :=
  ∀ preset page, (ScriptEngine.run (HumanizeEngine.generateScript preset).toList page).seen = page.seen

def runStatements (page : Page) (statements : List Statement) : Page :=
  statements.foldl Statement.run page

/-- The script of `GenerateInjectionScript`, evaluated in a page. -/
def evaluateInjectionScript [HumanizeEngine] [ScriptEngine] (workspace : Workspace) (includeAntiDetection : Bool)
    (script : Script) (page : Page) : Page :=
  if script.closed then
    let page := runStatements page (navigatorOverrides workspace)
    let page := runStatements page (screenOverrides workspace)
    if includeAntiDetection then
      let page := runStatements page (protectionScript workspace)
      let humanize := HumanizeEngine.generateScript workspace.humanPreset
      if workspace.humanize && humanize ≠ "" then ScriptEngine.run humanize.toList page else page
    else page
  -- the text is not what it was meant to be
  else ScriptEngine.run script.print page

/-! ## What a page sees -/

/-- Both are numbers, and the first one is no larger. -/
def JsValue.AtMost : JsValue → JsValue → Prop
  | .number m, .number n => m ≤ n
  | _, _ => False

/-- The layers agree in a new document: the window is no larger than the screen, and the page counts the processors that
a worker counts. -/
def LayersAgree [HumanizeEngine] [ScriptEngine] (workspace : Workspace) (includeAntiDetection : Bool)
    (script : Script) (rect : WindowRect) : Prop :=
  let seen := (evaluateInjectionScript workspace includeAntiDetection script { rect }).seen
  seen.outerWidth.AtMost seen.width ∧ seen.outerHeight.AtMost seen.height ∧ seen.availHeight.AtMost seen.height ∧
  seen.hardwareConcurrency = .number hardwareConcurrency

/-- The page after the overrides. -/
structure Overridden (page : Page) (concurrency : JsValue) (width height : Int32) : Prop where
  navigator : page.own .navigator "hardwareConcurrency" = some ⟨concurrency, false⟩
  screen : page.screenProxy = some (width, height)
  window : ∀ name, page.own .window name = none

/-- A definition on `navigator` or on `screen`. -/
def Statement.Defines : Statement → Prop
  | .define t _ => t ≠ .window
  | .replaceScreen _ _ => False

/-- Statements that are definitions on `navigator` or on `screen`. -/
def Definitions (statements : List Statement) : Prop :=
  ∀ s ∈ statements, s.Defines

/-- No statements define nothing. -/
lemma Definitions.nil : Definitions [] := by
  intro s hs
  cases hs

/-- A definition on an object other than the window. -/
lemma Definitions.define {t : Target} (h : t ≠ .window) (ds : List Descriptor) : Definitions [.define t ds] := by
  intro s hs
  cases List.mem_singleton.mp hs
  exact h

/-- Two scripts of definitions, one after the other. -/
lemma Definitions.append {l l' : List Statement} (h : Definitions l) (h' : Definitions l') : Definitions (l ++ l') := by
  intro s hs
  cases List.mem_append.mp hs with
  | inl hs => exact h s hs
  | inr hs => exact h' s hs

/-- A choice between two scripts of definitions. -/
lemma Definitions.ite {p : Prop} [Decidable p] {l l' : List Statement} (h : Definitions l) (h' : Definitions l') :
    Definitions (if p then l else l') := by
  split_ifs
  · exact h
  · exact h'

/-- `GenerateProtectionScript` defines properties only. -/
lemma protectionScript_definitions (workspace : Workspace) : Definitions (protectionScript workspace) := by
  have navigator (ds : List Descriptor) : Definitions [.define .navigator ds] := .define Target.noConfusion ds
  have screen (ds : List Descriptor) : Definitions [.define .screen ds] := .define Target.noConfusion ds
  have concurrency : Definitions (hardwareConcurrencyProtector workspace.hardwareConcurrency) := .ite .nil (navigator _)
  have size : Definitions (screenProtector workspace.screenWidth workspace.screenHeight) := .ite .nil (screen _)
  have platform : Definitions (platformProtector workspace.platform) := .ite .nil (navigator _)
  exact .ite .nil (((Definitions.ite concurrency .nil).append (.ite size .nil)).append (.ite .nil platform))

section
variable {page : Page} {concurrency : JsValue} {width height : Int32}

/-- A property that is set changes no other one. -/
lemma Page.set_other {page : Page} {t t' : Target} {name name' : String} {property : Property}
    (h : ¬ (t' = t ∧ name' = name)) : (page.set t name property).own t' name' = page.own t' name' :=
  if_neg h

/-- A property is defined unless there is one that cannot be configured. -/
lemma Page.defineProperty_some {page page' : Page} {t : Target} {d : Descriptor}
    (h : page.defineProperty t d = some page') :
    ∃ property, page' = page.set t d.name property ∧ ∀ v, page.own t d.name ≠ some ⟨v, false⟩ := by
  unfold Page.defineProperty at h
  split at h
  case h_1 => cases h
  case h_2 eq =>
    cases h
    refine ⟨_, rfl, fun v e => ?_⟩
    cases eq.symm.trans e
  case h_3 eq =>
    cases h
    refine ⟨_, rfl, fun v e => ?_⟩
    cases eq.symm.trans e

/-- A property that is not configurable stays, and what is defined on the screen is behind the proxy. -/
lemma Overridden.defineProperty {t : Target} {d : Descriptor} {page' : Page}
    (h : Overridden page concurrency width height) (target : t ≠ .window)
    (defined : page.defineProperty t d = some page') : Overridden page' concurrency width height := by
  obtain ⟨property, rfl, free⟩ := Page.defineProperty_some defined
  refine ⟨?_, h.screen, ?_⟩
  · have other : ¬ (Target.navigator = t ∧ "hardwareConcurrency" = d.name) := by
      rintro ⟨rfl, name⟩
      exact free concurrency (name ▸ h.navigator)
    rw [Page.set_other other]
    exact h.navigator
  · intro name
    have other : ¬ (Target.window = t ∧ name = d.name) := fun e => target e.1.symm
    rw [Page.set_other other]
    exact h.window name

/-- A definition does not undo the overrides. -/
lemma Overridden.tryDefine {t : Target} {ds : List Descriptor} (h : Overridden page concurrency width height)
    (target : t ≠ .window) : Overridden (page.tryDefine t ds) concurrency width height := by
  induction ds generalizing page with
  | nil => exact h
  | cons d ds ih =>
    rw [Page.tryDefine]
    cases defined : page.defineProperty t d with
    | none => exact h
    | some page' => exact ih (h.defineProperty target defined)

/-- No script of definitions undoes the overrides. -/
lemma Overridden.run {statements : List Statement} (h : Overridden page concurrency width height)
    (defines : Definitions statements) : Overridden (runStatements page statements) concurrency width height := by
  induction statements generalizing page with
  | nil => exact h
  | cons s statements ih =>
    have first := defines s List.mem_cons_self
    have rest := fun s' hs => defines s' (List.mem_cons_of_mem s hs)
    cases s with
    | define t ds => exact ih (h.tryDefine first) rest
    | replaceScreen w hh => cases first

/-- The overrides of the navigator and of the screen are there at first. -/
lemma overridden_start (workspace : Workspace) (rect : WindowRect) :
    Overridden (runStatements (runStatements { rect } (navigatorOverrides workspace)) (screenOverrides workspace))
      (.number (navigatorConcurrency workspace.hardwareConcurrency).toInt) (overrideWidth workspace)
      (overrideHeight workspace) := by
  rw [navigatorOverrides]
  split_ifs with ua
  · exact ⟨rfl, rfl, fun _ => rfl⟩
  · exact ⟨rfl, rfl, fun _ => rfl⟩

/-- What a page sees behind the overrides: the window of the renderer on the screen of the workspace. -/
lemma Overridden.seen_eq (h : Overridden page concurrency width height) :
    page.seen = ⟨.number 2558, .number 949, .number width.toInt, .number height.toInt, .number height.toInt,
      concurrency⟩ := by
  simp [Page.seen, Page.read, Page.readScreen, h.navigator, h.screen, h.window, outerWidth_some, outerHeight_some]

/-- Behind the script of a workspace there is the window of the renderer on the screen of the workspace, whatever the
other scripts do. -/
lemma evaluated_seen [HumanizeEngine] [ScriptEngine] (leaves : LeavesProperties) (workspace : Workspace)
    (includeAntiDetection : Bool) {script : Script} (closed : script.closed = true) (rect : WindowRect) :
    (evaluateInjectionScript workspace includeAntiDetection script { rect }).seen =
      ⟨.number 2558, .number 949, .number (overrideWidth workspace).toInt, .number (overrideHeight workspace).toInt,
        .number (overrideHeight workspace).toInt,
        .number (navigatorConcurrency workspace.hardwareConcurrency).toInt⟩ := by
  have overrides := overridden_start workspace rect
  have behind := overrides.run (protectionScript_definitions workspace)
  rw [evaluateInjectionScript, if_pos closed]
  dsimp only
  split_ifs
  · exact (leaves _ _).trans behind.seen_eq
  · exact behind.seen_eq
  · exact overrides.seen_eq

/-- A script that does nothing leaves the values of the renderer, which agree. -/
lemma layersAgree_of_refused [HumanizeEngine] [ScriptEngine] {workspace : Workspace} {includeAntiDetection : Bool}
    {script : Script} {rect : WindowRect} (broken : ¬ script.closed = true)
    (refused : ScriptEngine.run script.print { rect } = { rect }) :
    LayersAgree workspace includeAntiDetection script rect := by
  obtain ⟨width, height, avail⟩ := native_agrees rect
  rw [LayersAgree, evaluateInjectionScript, if_neg broken, refused]
  exact ⟨width, height, avail, rfl⟩

end

/-- A size that is not positive is replaced by a small one. -/
lemma le_override_iff (bound n fallback : Int32) (small : fallback < bound) (positive : 0 < bound) :
    bound.toInt ≤ (if n > 0 then n else fallback).toInt ↔ bound ≤ n := by
  rw [Int32.le_iff_toInt_le]
  rw [Int32.lt_iff_toInt_lt] at small positive
  split_ifs with h
  · rfl
  · rw [gt_iff_lt, Int32.lt_iff_toInt_lt] at h
    omega

/-- A number of processors is the native one when it is left open or is that number. -/
lemma navigatorConcurrency_iff (concurrency : Int32) :
    (navigatorConcurrency concurrency).toInt = 4 ↔ concurrency ≤ 0 ∨ concurrency = 4 := by
  have four : (4 : Int32).toInt = 4 := rfl
  rw [navigatorConcurrency, ← four, Int32.toInt_inj]
  split_ifs with h
  · exact iff_of_true rfl (.inl h)
  · exact (or_iff_right h).symm

/-- With strings that stay inside of their literals, the layers agree exactly for a screen that is at least as large as
the window of the renderer, and a number of processors that is left open or is the one of the renderer. With other
strings they agree where the script engine refuses the text. -/
theorem layers_agree_iff [EscapeJSONString] [HumanizeEngine] [ScriptEngine] (documented : AsDocumented)
    (leaves : LeavesProperties) (workspace : Workspace) (includeAntiDetection : Bool) (rect : WindowRect) :
    Ends (fun passes => generateInjectionScript passes workspace includeAntiDetection) fun script =>
      (StringsEnclosed workspace includeAntiDetection →
        (LayersAgree workspace includeAntiDetection script rect ↔
          2558 ≤ workspace.screenWidth ∧ 949 ≤ workspace.screenHeight ∧
          (workspace.hardwareConcurrency ≤ 0 ∨ workspace.hardwareConcurrency = 4))) ∧
      (¬ StringsEnclosed workspace includeAntiDetection → ScriptEngine.run script.print { rect } = { rect } →
        LayersAgree workspace includeAntiDetection script rect) := by
  obtain ⟨⟨passes, made⟩, closed⟩ := generateInjectionScript_closed documented workspace includeAntiDetection
  refine ⟨_, passes, made, ?_, ?_⟩
  · intro enclosed
    have width := le_override_iff 2558 workspace.screenWidth 1366 (by decide) (by decide)
    have height := le_override_iff 949 workspace.screenHeight 768 (by decide) (by decide)
    rw [LayersAgree, evaluated_seen leaves _ _ (closed.mpr enclosed), ← width, ← height, ← navigatorConcurrency_iff,
      hardwareConcurrency_eq]
    refine ⟨fun ⟨w, h, _, c⟩ => ⟨w, h, JsValue.number.inj c⟩, fun ⟨w, h, c⟩ => ⟨w, h, Int.le_refl _, congrArg _ c⟩⟩
  · intro broken refused
    exact layersAgree_of_refused (fun h => broken (closed.mp h)) refused

/-- A user who does not move. -/
@[reducible]
def stillUser : HumanizeEngine :=
  ⟨fun _ => ""⟩

/-- A script engine that refuses broken texts. -/
@[reducible]
def refusingEngine : ScriptEngine :=
  ⟨fun _ page => page⟩

/-- Without a script nothing is touched. -/
lemma stillUser_leaves : @LeavesProperties stillUser refusingEngine :=
  fun _ _ => rfl

/-- A workspace with a screen that is large enough. -/
def largeWorkspace : Workspace :=
  { screenWidth := 2560, screenHeight := 1440, fingerprintSeed := 40506, timezone := "Asia/Tokyo" }

/-- The layers agree for the large workspace. -/
theorem layers_agree_iff_large :
    Ends (fun passes => @generateInjectionScript writerEscapes stillUser passes largeWorkspace true) fun script =>
      @LayersAgree stillUser refusingEngine largeWorkspace true script ⟨800, 600⟩ := by
  obtain ⟨script, passes, made, enclosed, _⟩ := @layers_agree_iff writerEscapes stillUser refusingEngine
    escapeChar_documented stillUser_leaves largeWorkspace true ⟨800, 600⟩
  exact ⟨script, passes, made, (enclosed (by decide)).mpr (by decide)⟩

/-- A workspace of the usual size. -/
def fullHdWorkspace : Workspace :=
  { id := "w1", type := .kFingerprint, fingerprintSeed := 40506, screenWidth := 1920, screenHeight := 1080 }

/-- They do not for one of the usual size. -/
theorem layers_agree_fails :
    ¬ Ends (fun passes => @generateInjectionScript writerEscapes stillUser passes fullHdWorkspace true) fun script =>
      @LayersAgree stillUser refusingEngine fullHdWorkspace true script ⟨800, 600⟩ := by
  obtain ⟨⟨passes, made⟩, closed⟩ :=
    @generateInjectionScript_closed writerEscapes stillUser escapeChar_documented fullHdWorkspace true
  have closed := closed.mpr (by decide)
  rw [ends_iff made]
  generalize @injectionText writerEscapes stillUser fullHdWorkspace true = script at closed
  intro agree
  unfold LayersAgree at agree
  rw [@evaluated_seen stillUser refusingEngine stillUser_leaves _ _ _ closed] at agree
  have wider : (2558 : Int) ≤ 1920 := agree.1
  exact absurd wider (by decide)

end PureCloak.Content
