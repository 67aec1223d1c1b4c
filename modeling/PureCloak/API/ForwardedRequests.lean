import PureCloak.API.Responses

/-!
# Forwarded requests

The first line of the request that the handler sends to the debugging port of a workspace. The suffix of the path is
put together again from the segments and is what it was (`routed_suffix`); it is the target of the request, the first
time and again, so that a request for the endpoint itself has none (`forwardsExactly_iff`). The upgrade of a WebSocket
asks for the browser there (`handshake_hasTarget`).
-/

namespace PureCloak.API
open PureCloak.Base PureCloak.Content PureCloak.Profiles PureCloak.Launcher

/-- The suffix of a path behind `cdp`. -/
def Suffix (s : String) : Prop :=
  s = "" ∨ s.toList.head? = some '/'

/-- The request begins with the line of a method and a target, and the target with a slash. -/
def HasTarget (method target : String) (request : Bytes) : Prop :=
  target.toList.head? = some '/' ∧ utf8 (method ++ " " ++ target ++ " HTTP/1.1\r\n") <+: request

/-- A request for the proxy is forwarded under the suffix of its path, at the first attempt and at the second one, when
its workspace runs. -/
structure ForwardsExactly (r : CDPRequest) (s : String) : Prop where
  rebuilt : r.subpath = s
  attempt : ∀ w cdpPort again, World.runningPort w r.wsId = some cdpPort →
    ∃ request, checkTarget w r again = .forward cdpPort request again ∧
      ∃ target, HasTarget r.info.method target request

/-- The lines behind the first one. -/
def headerLines (cdpPort : Int) : Bytes :=
  utf8 ("Host: 127.0.0.1:" ++ numberToString cdpPort ++ "\r\nConnection: close\r\n\r\n")

/-- The request that is forwarded, and its headers. -/
lemma forwardRequest_eq (method target : String) (cdpPort : Int) :
    forwardRequest method target cdpPort =
      utf8 (method ++ " " ++ target ++ " HTTP/1.1\r\n") ++ headerLines cdpPort := by
  rw [forwardRequest, headerLines, ← utf8_append]
  apply congrArg
  apply String.toList_injective
  simp

/-- It has the target that it is given. -/
lemma forwardRequest_hasTarget {method target : String} (slash : target.toList.head? = some '/') (cdpPort : Int) :
    HasTarget method target (forwardRequest method target cdpPort) := by
  refine ⟨slash, ?_⟩
  rw [forwardRequest_eq]
  exact List.prefix_append _ _

/-- Without a suffix the line has no target. -/
lemma forwardRequest_empty (method target : String) (cdpPort : Int) :
    ¬ HasTarget method target (forwardRequest method "" cdpPort) := by
  intro ⟨slash, line⟩
  obtain ⟨rest, chars⟩ := List.head?_eq_some_iff.mp slash
  have first : utf8 target = 47 :: utf8 (String.ofList rest) := by
    rw [utf8, chars, utf8, String.toList_ofList]
    rfl
  have blank : utf8 " HTTP/1.1\r\n" = 32 :: utf8 "HTTP/1.1\r\n" := by decide
  simp only [forwardRequest_eq, utf8_append, List.append_assoc] at line
  rw [List.prefix_append_right_inj, List.prefix_append_right_inj, first, blank, List.cons_append] at line
  exact absurd (List.cons_prefix_cons.mp line).1 (by decide)

/-! ## From the path to the request -/

/-- The segments give the suffix of the path back. -/
lemma routed_suffix [JSONReader] {apiToken id s wsId sub : String} {info info' : HttpServerRequestInfo}
    (segment : Segment id) (path : info.path = "/api/workspaces/" ++ id ++ "/cdp" ++ s) (suffix : Suffix s)
    (routed : dispatchRequest apiToken info = .cdpRequest wsId sub info') :
    wsId = id ∧ sub = s ∧ info' = info := by
  obtain ⟨others, rfl, slashless⟩ := exists_subpath suffix
  have parsed : parsePath info.path = "api" :: "workspaces" :: id :: "cdp" :: others := by
    refine parsePath_cdp.mpr ⟨.inr ?_, segment, slashless⟩
    rw [path]
    apply String.toList_injective
    simp
  have token : apiToken = "" := by
    apply Classical.byContradiction
    intro token
    rw [dispatchRequest_of_token token] at routed
    cases routed
  have found : routeOf info (parsePath info.path) = .cdpRequest id (subpath others) info := by
    simp [routeOf, parsed]
  rw [token, dispatchRequest_of_empty, found] at routed
  cases routed
  exact ⟨rfl, rfl, rfl⟩

/-- For a workspace that runs the request is forwarded. -/
lemma checkTarget_runs {w : World} {r : CDPRequest} {cdpPort : Int} (runs : w.runningPort r.wsId = some cdpPort)
    (again : Bool) :
    checkTarget w r again = .forward cdpPort (forwardRequest r.info.method r.subpath cdpPort) again := by
  rw [checkTarget, runs]

/-- A manager in which one workspace runs. -/
def runningWorld (id : String) (cdpPort : Int) : World where
  workspaces := (∅ : Std.ExtTreeMap String RunningWorkspace).insert id
    { workspaceId := id, type := .kNormal, process := none, userDataDir := "", cdpPort := cdpPort, cdpUrl := "",
      status := .kRunning, launchedAt := ⟨0⟩ }

/-- The workspace of this world runs on its port. -/
lemma runningPort_runningWorld (id : String) (cdpPort : Int) :
    (runningWorld id cdpPort).runningPort id = some cdpPort := by
  rw [World.runningPort, runningWorld, Std.ExtTreeMap.getElem?_insert_self]
  rfl

/-- The line has a target exactly when the path has a suffix. -/
theorem forwardsExactly_iff [JSONReader] {apiToken id s wsId sub : String} {info info' : HttpServerRequestInfo}
    (segment : Segment id) (path : info.path = "/api/workspaces/" ++ id ++ "/cdp" ++ s) (suffix : Suffix s)
    (routed : dispatchRequest apiToken info = .cdpRequest wsId sub info') :
    ForwardsExactly ⟨wsId, sub, info'⟩ s ↔ s ≠ "" := by
  obtain ⟨rfl, rfl, rfl⟩ := routed_suffix segment path suffix routed
  refine ⟨fun forwards empty => ?_, fun nonempty => ⟨rfl, fun w cdpPort again runs => ?_⟩⟩
  · obtain ⟨request, sent, target, line⟩ := forwards.attempt _ 0 false (runningPort_runningWorld wsId 0)
    rw [checkTarget_runs (runningPort_runningWorld wsId 0)] at sent
    cases sent
    rw [empty] at line
    exact forwardRequest_empty _ _ _ line
  · exact ⟨_, checkTarget_runs runs again, sub, forwardRequest_hasTarget (suffix.resolve_left nonempty) cdpPort⟩

/-- A path that ends with a slash, whose suffix is that slash. -/
theorem forwardsExactly_slash :
    @ForwardsExactly ⟨"a", "/", .bare "GET" "/api/workspaces/a/cdp/"⟩ "/" ↔ "/" ≠ "" :=
  @forwardsExactly_iff (tableReader []) "" "a" "/" "a" "/" (.bare "GET" "/api/workspaces/a/cdp/")
    (.bare "GET" "/api/workspaces/a/cdp/") (by simp [Segment]) rfl (.inr rfl) rfl

/-- A request for the endpoint itself, which is forwarded without a target. -/
theorem forwardsExactly_fails :
    @dispatchRequest (tableReader []) "" (.bare "GET" "/api/workspaces/a/cdp") =
      .cdpRequest "a" "" (.bare "GET" "/api/workspaces/a/cdp") ∧
    forwardRequest "GET" "" 9222 = utf8 "GET  HTTP/1.1\r\n" ++ headerLines 9222 ∧
    ¬ ForwardsExactly ⟨"a", "", .bare "GET" "/api/workspaces/a/cdp"⟩ "" := by
  refine ⟨rfl, forwardRequest_eq "GET" "" 9222, fun forwards => ?_⟩
  have runs := runningPort_runningWorld "a" 9222
  obtain ⟨request, sent, target, line⟩ := forwards.attempt _ 9222 false runs
  rw [checkTarget_runs runs] at sent
  cases sent
  exact forwardRequest_empty "GET" target 9222 line

/-! ## The upgrade -/

/-- The upgrade of a WebSocket always has a target, since it asks for the browser when there is no suffix. -/
theorem handshake_hasTarget {session : ProxySession} (suffix : Suffix session.subpath) :
    ∃ target, HasTarget "GET" target session.handshake := by
  have first (target : String) : utf8 ("GET" ++ " " ++ target ++ " HTTP/1.1\r\n") <+:
      utf8 ("GET " ++ target ++ " HTTP/1.1\r\nHost: 127.0.0.1:\r\nUpgrade: websocket\r\n" ++
        "Connection: Upgrade\r\nSec-WebSocket-Key: " ++ kWebSocketKey ++
        "\r\nSec-WebSocket-Version: 13\r\n\r\n") := by
    have host : " HTTP/1.1\r\nHost: 127.0.0.1:\r\nUpgrade: websocket\r\n" =
        " HTTP/1.1\r\n" ++ "Host: 127.0.0.1:\r\nUpgrade: websocket\r\n" := rfl
    simp only [utf8_append, host, List.append_assoc]
    rw [show utf8 "GET " = utf8 "GET" ++ utf8 " " from rfl, List.append_assoc]
    simp only [List.prefix_append_right_inj]
    exact List.prefix_append _ _
  refine ⟨_, ?_, first _⟩
  split_ifs with empty
  · rfl
  · exact suffix.resolve_left empty

end PureCloak.API
