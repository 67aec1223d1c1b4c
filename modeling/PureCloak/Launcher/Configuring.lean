import PureCloak.Content.InjectionScript
import PureCloak.Content.ProfileCDPInjector
import PureCloak.Launcher.Reporting

/-!
# What is configured

From the settings of the workspaces to the bytes on the connection: every `SendCommands` call of an applier has
`Page.enable` and then the settings of its workspaces, in their order (`executed_carries`), and what a successful call
has written are frames with these (`settings_written`).
-/

namespace PureCloak.Content
open PureCloak.Base WebSocket Segments

/-! ## The frames of the commands -/

section
variable [JSONReader]

/-- Waiting for a response writes nothing. -/
lemma awaitResponse_written (id : Int32) (retries : Nat) (s : Socket) :
    (awaitResponse id retries s).2.written = s.written := by
  induction retries generalizing s with
  | zero => rfl
  | succ retries ih =>
    rw [awaitResponse_succ]
    split_ifs
    · rfl
    · exact ih s.readFrame.2

/-- Where all commands are sent, what was written are frames whose messages are the commands. -/
lemma written_sendEach {masks : Nat → Mask} {i : Nat} {commands : List (Bytes × Int32)} {s : Socket}
    (sent : (sendEach masks i commands s).1 = true) (bounded : ∀ command ∈ commands, command.1.length < 2 ^ 63) :
    ∃ frames, (sendEach masks i commands s).2.written = s.written ++ Frame.encodeAll frames ∧
      Frame.messages frames = commands.map Prod.fst := by
  induction commands generalizing i s with
  | nil => exact ⟨[], (List.append_nil _).symm, rfl⟩
  | cons command commands ih =>
    obtain ⟨json, id⟩ := command
    rw [sendEach_cons] at sent ⊢
    split_ifs at sent ⊢ with taken
    obtain ⟨frames, written, messages⟩ := ih sent fun c mem => bounded c (List.mem_cons_of_mem _ mem)
    have first : json.length < 2 ^ 63 := bounded _ List.mem_cons_self
    refine ⟨⟨true, opText, some (masks i), json, first⟩ :: frames, ?_, ?_⟩
    · rw [written, awaitResponse_written, sendFrame_written, writeAll_true taken, Frame.encodeAll_cons,
        frameBytes_eq _ _ first, List.append_assoc]
    · rw [List.map_cons, ← messages]
      rfl

/-- Where `SendCommands` returns a file descriptor, what it wrote after the upgrade are frames whose messages are the
commands. -/
lemma written_sendCommands {e : Endpoint} {port : Int} {commandJsons : List Bytes} {o : Outcome}
    (run : sendCommands e port commandJsons = some o) (nonneg : 0 ≤ o.result)
    (bounded : ∀ json ∈ commandJsons, json.length < 2 ^ 63) :
    ∃ ready sock frames, commandSocket e port commandJsons = some ready ∧ o.webSocket = some sock ∧
      sock.written = ready.written ++ Frame.encodeAll frames ∧ Frame.messages frames = commandJsons := by
  obtain ⟨ready, prepared, all⟩ := allSent_of_sendCommands run nonneg
  obtain ⟨nothing, _⟩ | ⟨ready', prepared', _, eq⟩ := sendCommands_cases e port commandJsons
  · cases nothing.symm.trans prepared
  cases prepared'.symm.trans prepared
  have fsts : (commandJsons.zip (commandIds commandJsons)).map Prod.fst = commandJsons :=
    List.map_fst_zip (by simp [commandIds])
  have success : (sendEach e.masks 0 (commandJsons.zip (commandIds commandJsons)) ready).1 = true := by
    rw [sendEach_success, fsts, all]
  have bounded : ∀ command ∈ commandJsons.zip (commandIds commandJsons), command.1.length < 2 ^ 63 :=
    fun command mem => bounded command.1 (fsts ▸ List.mem_map_of_mem mem)
  obtain ⟨frames, written, messages⟩ := written_sendEach success bounded
  dsimp only at eq
  rw [success, if_pos rfl] at eq
  cases run.symm.trans eq
  exact ⟨ready, _, frames, prepared, rfl, written, messages.trans fsts⟩

end

end PureCloak.Content

namespace PureCloak.Launcher.Session
open PureCloak.Base PureCloak.Content PureCloak.Profiles Machine WebSocket ProfileCDPInjector

/-! ## The commands of an applier -/

/-- Commands that have the settings of workspaces: their ids are their places, the page is enabled first, the settings
follow in the order of the workspaces, and so each kind of setting has the values of the workspaces that have one. -/
structure Carries (generateInjectionScript : Workspace → Bool → String) (workspaces : List Workspace)
    (commands : List DictValue) : Prop where
  ids : commands.map (DictValue.findInt · "id") = (List.range commands.length).map fun i => some (Int32.ofNat i)
  calls : commands.map callOf =
    (("Page.enable", []) :: workspaces.flatMap (settings generateInjectionScript)).map some
  params : ∀ setting : Setting,
    paramsOf setting.method commands = workspaces.filterMap fun workspace => setting.params generateInjectionScript workspace

section
variable {generateInjectionScript : Workspace → Bool → String}

/-- The ids are not read. -/
lemma callOf_mapIdx (commands : List DictValue) (id : ℕ → Value) :
    (commands.mapIdx fun i command => DictValue.set command "id" (id i)).map callOf = commands.map callOf := by
  induction commands generalizing id with
  | nil => rfl
  | cons command others ih =>
    rw [List.mapIdx_cons, List.map_cons, List.map_cons, callOf_id]
    exact congrArg (callOf command :: ·) (ih fun i => id (i + 1))

/-- What an applier sends. -/
lemma carries_fullCommands (workspaces : List Workspace) : Carries generateInjectionScript workspaces
    (fullCommands (generateCDPCommands generateInjectionScript) workspaces) := by
  have calls : (fullCommands (generateCDPCommands generateInjectionScript) workspaces).map callOf =
      (("Page.enable", []) :: workspaces.flatMap (settings generateInjectionScript)).map some := by
    rw [fullCommands, List.map_cons, commandBatch, callOf_mapIdx, List.map_flatMap, List.map_cons, List.map_flatMap]
    simp only [callOf_generateCDPCommands]
    rfl
  refine ⟨ids_fullCommands _ workspaces, calls, fun setting => ?_⟩
  have other : ¬ "Page.enable" = setting.method := by cases setting <;> decide
  rw [paramsOf_eq calls, List.filter_cons_of_neg (by simpa using other), List.filter_flatMap, List.map_flatMap]
  simp only [filter_settings]
  exact (List.filterMap_eq_flatMap_toList _ _).symm

/-- Whatever happens, each `SendCommands` call of an applier has the settings of the workspaces of the applier. -/
theorem executed_carries {τ : Type*} {send : τ → Int → List DictValue → Option Int} {cdpPort : Int}
    {workspaces : List Workspace} {tr : List (Session τ × Event τ)} {s : Session τ}
    (r : Run (step send) (start (generateCDPCommands generateInjectionScript) cdpPort workspaces) tr s) :
    ∀ call ∈ s.executed, Carries generateInjectionScript workspaces call.1 := by
  intro call made
  by_cases empty : workspaces = []
  · subst empty
    rw [(run_start_nil r).2] at made
    cases made
  · rw [(inv_of_run r empty).executed call made]
    exact carries_fullCommands workspaces

/-! ## The scripts -/

/-- The scripts are the texts of `GenerateInjectionScript`. -/
def Generates [EscapeJSONString] [HumanizeEngine] (generateInjectionScript : Workspace → Bool → String) : Prop :=
  ∀ workspace includeAntiDetection,
    Ends (fun passes => Content.generateInjectionScript passes workspace includeAntiDetection) fun script =>
      script.print = (generateInjectionScript workspace includeAntiDetection).toList

/-- A script begins with the overrides of the navigator, whatever the workspace. -/
lemma print_injectionText_ne_nil [EscapeJSONString] [HumanizeEngine] (workspace : Workspace) :
    (injectionText workspace true).print ≠ [] := by
  have overrides : ∃ first rest, first.toList ≠ [] ∧ overridesText workspace = .text first :: rest :=
    ⟨_, _, by decide, rfl⟩
  obtain ⟨first, rest, nonempty, eq⟩ := overrides
  have begins : ∃ rest, injectionText workspace true = .text first :: rest := by
    rw [injectionText, if_pos rfl, protectedText, eq]
    split_ifs
    · exact ⟨_, rfl⟩
    · exact ⟨_, rfl⟩
    · exact ⟨_, rfl⟩
    · exact ⟨_, rfl⟩
  obtain ⟨rest', eq⟩ := begins
  rw [eq]
  exact List.append_ne_nil_of_left_ne_nil nonempty _

/-- No script is empty, so that one is sent for each workspace. -/
theorem Carries.scripts [EscapeJSONString] [HumanizeEngine] {workspaces : List Workspace} {commands : List DictValue}
    (h : Carries generateInjectionScript workspaces commands) (generates : Generates generateInjectionScript) :
    paramsOf Setting.script.method commands = workspaces.map fun workspace =>
      DictValue.ofFields [("source", some (.string (generateInjectionScript workspace true)))] := by
  have each (workspace : Workspace) : generateInjectionScript workspace true ≠ "" := by
    intro empty
    obtain ⟨script, passes, ends, text⟩ := generates workspace true
    obtain ⟨passes', ends'⟩ := generateInjectionScript_ends workspace true
    cases (ends _ (Nat.le_max_left passes passes')).symm.trans (ends' _ (Nat.le_max_right passes passes'))
    rw [empty] at text
    exact print_injectionText_ne_nil workspace text
  rw [h.params, ← List.filterMap_eq_map]
  congr 1
  funext workspace
  exact if_pos (each workspace)

/-! ## On the connection -/

/-- The commands are written as JSON that is read back. -/
def Writes [JSONReader] (write : DictValue → Bytes) (commands : List DictValue) : Prop :=
  ∀ command ∈ commands, JSONReader.read (write command) = some (.dict command) ∧ (write command).length < 2 ^ 63

/-- What is read of the commands are the commands. -/
lemma read_write [JSONReader] {write : DictValue → Bytes} {commands : List DictValue} (written : Writes write commands) :
    (commands.map write).map JSONReader.read = commands.map fun command => some (.dict command) := by
  rw [List.map_map]
  exact List.map_congr_left fun command mem => (written command mem).1

/-- Each call of `SendCommands` that returns a file descriptor has written, after the upgrade, frames whose messages are
commands with the settings of the workspaces, with the texts of `GenerateInjectionScript` a script for each; and where
the callback of `Apply` is run with `true`, the first call is such a one. -/
theorem settings_written [JSONReader] [EscapeJSONString] [HumanizeEngine] {write : DictValue → Bytes} {cdpPort : Int} {workspaces : List Workspace}
    {tr : List (Session Endpoint × Event Endpoint)} {s : Session Endpoint}
    (written : Writes write (fullCommands (generateCDPCommands generateInjectionScript) workspaces))
    (r : Run (step (sender write)) (start (generateCDPCommands generateInjectionScript) cdpPort workspaces) tr s)
    (some_workspace : workspaces ≠ []) :
    (∀ call ∈ s.executed, ∀ o, sendCommands call.2 cdpPort (call.1.map write) = some o → 0 ≤ o.result →
      ∃ ready sock frames commands, commandSocket call.2 cdpPort (call.1.map write) = some ready ∧
        o.webSocket = some sock ∧ sock.written = ready.written ++ Frame.encodeAll frames ∧
        (Frame.messages frames).map JSONReader.read = commands.map (fun command => some (.dict command)) ∧
        Carries generateInjectionScript workspaces commands ∧
        (Generates generateInjectionScript →
          paramsOf Setting.script.method commands = workspaces.map fun workspace =>
            DictValue.ofFields [("source", some (.string (generateInjectionScript workspace true)))])) ∧
    (true ∈ s.callbacks → ∃ call o, s.executed.head? = some call ∧
      sendCommands call.2 cdpPort (call.1.map write) = some o ∧ 0 ≤ o.result) := by
  constructor
  · intro call made o run nonneg
    have same : call.1 = _ := (inv_of_run r some_workspace).executed call made
    rw [← same] at written
    have bounded : ∀ json ∈ call.1.map write, json.length < 2 ^ 63 :=
      List.forall_mem_map.mpr fun command mem => (written command mem).2
    obtain ⟨ready, sock, frames, prepared, left, bytes, messages⟩ := written_sendCommands run nonneg bounded
    have carries := executed_carries r call made
    refine ⟨ready, sock, frames, call.1, prepared, left, bytes, ?_, carries, carries.scripts⟩
    rw [messages, read_write written]
  · intro applied
    obtain ⟨e, fd, head, called, nonneg⟩ := (reports_of_run r some_workspace).callbacks applied
    obtain ⟨o, run, rfl⟩ := Option.map_eq_some_iff.mp called
    exact ⟨_, o, head, run, nonneg⟩

end

/-- A workspace with a timezone. -/
def tokyo : Workspace :=
  { screenWidth := 0, timezone := "Asia/Tokyo" }

/-- A script that does nothing. -/
def emptyScript : String :=
  "(function()\x7b\x7d)();"

/-- The JSON of the commands for it. -/
def tokyoJson (command : DictValue) : Bytes :=
  if command.findInt "id" = some 0 then utf8 "\x7b\"id\":0,\"method\":\"Page.enable\",\"params\":\x7b\x7d\x7d"
  else if command.findInt "id" = some 1 then
    utf8 ("\x7b\"id\":1,\"method\":\"Emulation.setTimezoneOverride\"," ++
      "\"params\":\x7b\"timezoneId\":\"Asia/Tokyo\"\x7d\x7d")
  else
    utf8 ("\x7b\"id\":2,\"method\":\"Page.addScriptToEvaluateOnNewDocument\"," ++
      "\"params\":\x7b\"source\":\"" ++ emptyScript ++ "\"\x7d\x7d")

/-- What is read on the connections. -/
@[reducible]
def tokyoReader : JSONReader :=
  tableReader ([
    (utf8 "[]", .list [.dict [("type", .string "page"), ("webSocketDebuggerUrl", .string pageUrl)]]),
    (utf8 "\x7b\"id\":0\x7d", .dict [("id", .integer 0)]),
    (utf8 "\x7b\"id\":1\x7d", .dict [("id", .integer 1)]),
    (utf8 "\x7b\"id\":2\x7d", .dict [("id", .integer 2)])] ++
    (fullCommands (generateCDPCommands fun _ _ => emptyScript) [tokyo]).map fun command =>
      (tokyoJson command, .dict command))

/-- What the target sends. -/
def tokyoAnswers : List Bytes :=
  [[129, 8] ++ utf8 "\x7b\"id\":0\x7d", [129, 8] ++ utf8 "\x7b\"id\":1\x7d",
    [129, 8] ++ utf8 "\x7b\"id\":2\x7d"]

/-- `Page.enable`, the timezone and the script are sent and answered. -/
theorem settings_written_tokyo : ∃ (s : Session Endpoint) (tr : List (Session Endpoint × Event Endpoint))
    (call : List DictValue × Endpoint) (o : Outcome) (sock : Socket) (frames : List Frame) (commands : List DictValue),
      Run (step (@sender tokyoReader tokyoJson)) (start (generateCDPCommands fun _ _ => emptyScript) 9333 [tokyo]) tr s ∧
      s.executed.head? = some call ∧
      @sendCommands tokyoReader call.2 9333 (call.1.map tokyoJson) = some o ∧ o.webSocket = some sock ∧
      Frame.encodeAll frames <:+ sock.written ∧
      (Frame.messages frames).map (@JSONReader.read tokyoReader) = commands.map (fun command => some (.dict command)) ∧
      commands.map callOf = [some ("Page.enable", []),
        some ("Emulation.setTimezoneOverride", [("timezoneId", .string "Asia/Tokyo")]),
        some ("Page.addScriptToEvaluateOnNewDocument", [("source", .string emptyScript)])] := by
  have written : @Writes tokyoReader tokyoJson (fullCommands (generateCDPCommands fun _ _ => emptyScript) [tokyo]) := by
    intro command mem
    cases mem with
    | head => exact ⟨rfl, by decide⟩
    | tail _ mem =>
      cases mem with
      | head => exact ⟨rfl, by decide⟩
      | tail _ mem =>
        cases mem with
        | head => exact ⟨rfl, by decide⟩
        | tail _ mem => cases mem
  obtain ⟨s, tr, r, applied⟩ : ∃ s tr, Run (step (@sender tokyoReader tokyoJson))
      (start (generateCDPCommands fun _ _ => emptyScript) 9333 [tokyo]) tr s ∧ true ∈ s.callbacks :=
    ⟨_, _, Run.of_exec (rfl : exec _ _ (applying tokyoAnswers) = some _), by decide⟩
  obtain ⟨calls, first⟩ := @settings_written _ tokyoReader writerEscapes ⟨fun _ => ""⟩ _ _ _ _ _ written r
    (List.cons_ne_nil _ _)
  obtain ⟨call, o, head, run, nonneg⟩ := first applied
  obtain ⟨ready, sock, frames, commands, _, left, bytes, heard, carries, _⟩ :=
    calls call (List.mem_of_head? head) o run nonneg
  exact ⟨s, tr, call, o, sock, frames, commands, r, head, run, left, ⟨ready.written, bytes.symm⟩, heard, carries.calls⟩

end PureCloak.Launcher.Session
