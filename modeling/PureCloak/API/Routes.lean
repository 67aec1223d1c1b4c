import PureCloak.Base.Json
import PureCloak.Library.KeyedMap
import PureCloak.Library.Pieces

/-!
# Routes

`DispatchRequest` decides from the token, the method and the path which handler a request goes to; `Route` is the
handler with its arguments. `Documented` is the table of the handlers as their declarations have it, with the
literal routes before those with an id, in terms of the text of the path. The cascade of `DispatchRequest` follows
it with two exceptions (`decides_iff`): the test for an id takes `GET /api/workspaces/export` first, and with a
token no request passes, since the header that it looks for has capitals and those it has do not.
-/

namespace PureCloak.API
open PureCloak.Base Pieces

/-- `base::ToLowerASCII`. -/
def toLowerASCII (s : String) : String :=
  String.ofList (s.toList.map Char.toLower)

/-- `net::HttpServerRequestInfo`; the names of the headers are in lower case. -/
structure HttpServerRequestInfo where
  method : String
  path : String
  data : Bytes := []
  headers : Std.ExtTreeMap String String := ∅
  lowerCase : ∀ name ∈ headers, toLowerASCII name = name := by simp

/-- A request without headers and body. -/
def HttpServerRequestInfo.bare (method path : String) : HttpServerRequestInfo where
  method := method
  path := path

/-- The `Authorization` header that the client sent, in whatever case. -/
def HttpServerRequestInfo.authorization (info : HttpServerRequestInfo) : Option String :=
  (info.headers.toList.find? fun header => toLowerASCII header.1 = "authorization").map Prod.snd

/-- The handler that a request goes to; the number of the connection is left out. -/
inductive Route where
  | systemStatus
  | getAllWorkspaces
  | createWorkspace (body : DictValue)
  | getWorkspace (wsId : String)
  | updateWorkspace (wsId : String) (body : DictValue)
  | deleteWorkspace (wsId : String)
  | launchWorkspace (wsId : String)
  | stopWorkspace (wsId : String)
  | getWorkspaceStatus (wsId : String)
  | exportWorkspaces
  | importWorkspaces (body : Bytes)
  | cdpRequest (wsId subpath : String) (info : HttpServerRequestInfo)
  /-- `SendError`. -/
  | error (status : Nat) (code message : String)

/-! ## Dispatch -/

/-- `ParsePath`. -/
def parsePath (path : String) : List String :=
  let p := path.toList
  let p := if p.head? = some '/' then p.tail else p
  if p.isEmpty then [] else (p.splitOn '/').map String.ofList

/-- `ParseJsonBody`. -/
def parseJsonBody [JSONReader] (body : Bytes) : DictValue :=
  if body.isEmpty then []
  else
    match JSONReader.read body with
    | some (.dict dict) => dict
    | _ => []

/-- What is left of a path behind some segments. -/
def subpath (segments : List String) : String :=
  segments.foldl (fun subpath segment => subpath ++ ("/" ++ segment)) ""

/-- `DispatchRequest` behind the check of the token, on the segments of the path. -/
def routeOf [JSONReader] (info : HttpServerRequestInfo) (segments : List String) : Route :=
  let size := segments.length
  let noRoute := Route.error 404 "NOT_FOUND" ("No route matches " ++ info.path)
  if segments.isEmpty then .error 404 "NOT_FOUND" "No route matches"
  else if segments[0]? ≠ some "api" then .error 404 "NOT_FOUND" "Unknown API endpoint"
  else if size = 2 ∧ segments[1]? = some "status" ∧ info.method = "GET" then .systemStatus
  else if size ≥ 2 ∧ segments[1]? = some "workspaces" then
    if size = 2 ∧ info.method = "GET" then .getAllWorkspaces
    else if size = 2 ∧ info.method = "POST" then .createWorkspace (parseJsonBody info.data)
    else
      match segments[2]? with
      | none => noRoute
      | some wsId =>
        if size = 3 ∧ info.method = "GET" then .getWorkspace wsId
        else if size = 3 ∧ info.method = "PUT" then .updateWorkspace wsId (parseJsonBody info.data)
        else if size = 3 ∧ info.method = "DELETE" then .deleteWorkspace wsId
        else if size = 4 ∧ segments[3]? = some "launch" ∧ info.method = "POST" then .launchWorkspace wsId
        else if size = 4 ∧ segments[3]? = some "stop" ∧ info.method = "POST" then .stopWorkspace wsId
        else if size = 4 ∧ segments[3]? = some "status" ∧ info.method = "GET" then .getWorkspaceStatus wsId
        else if size = 3 ∧ segments[2]? = some "export" ∧ info.method = "GET" then .exportWorkspaces
        else if size = 3 ∧ segments[2]? = some "import" ∧ info.method = "POST" then .importWorkspaces info.data
        else if size ≥ 4 ∧ segments[3]? = some "cdp" then .cdpRequest wsId (subpath (segments.drop 4)) info
        else noRoute
  else noRoute

/-- `DispatchRequest`. -/
def dispatchRequest [JSONReader] (apiToken : String) (info : HttpServerRequestInfo) : Route :=
  let authOk : Bool :=
    match info.headers["Authorization"]? with
    | some value => value = "Bearer " ++ apiToken
    | none => false
  if apiToken ≠ "" ∧ !authOk then
    .error 401 "UNAUTHORIZED" "Missing or invalid Authorization: Bearer token"
  else routeOf info (parsePath info.path)

/-! ## The table -/

/-- The path is a text behind the slash that it may begin with. -/
def Names (path text : String) : Prop :=
  path = text ∨ path = "/" ++ text

/-- One segment of a path. -/
def Segment (id : String) : Prop :=
  '/' ∉ id.toList

/-- The table of the handlers, from the comments on their declarations. -/
inductive Documented [JSONReader] (info : HttpServerRequestInfo) : Route → Prop where
  | getAllWorkspaces :
    info.method = "GET" →
    Names info.path "api/workspaces" →
    Documented info .getAllWorkspaces
  | createWorkspace :
    info.method = "POST" →
    Names info.path "api/workspaces" →
    Documented info (.createWorkspace (parseJsonBody info.data))
  | exportWorkspaces :
    info.method = "GET" →
    Names info.path "api/workspaces/export" →
    Documented info .exportWorkspaces
  | importWorkspaces :
    info.method = "POST" →
    Names info.path "api/workspaces/import" →
    Documented info (.importWorkspaces info.data)
  | getWorkspace {id} :
    info.method = "GET" →
    Segment id →
    Names info.path ("api/workspaces/" ++ id) →
    id ≠ "export" →
    Documented info (.getWorkspace id)
  | updateWorkspace {id} :
    info.method = "PUT" →
    Segment id →
    Names info.path ("api/workspaces/" ++ id) →
    Documented info (.updateWorkspace id (parseJsonBody info.data))
  | deleteWorkspace {id} :
    info.method = "DELETE" →
    Segment id →
    Names info.path ("api/workspaces/" ++ id) →
    Documented info (.deleteWorkspace id)
  | launchWorkspace {id} :
    info.method = "POST" →
    Segment id →
    Names info.path ("api/workspaces/" ++ id ++ "/launch") →
    Documented info (.launchWorkspace id)
  | stopWorkspace {id} :
    info.method = "POST" →
    Segment id →
    Names info.path ("api/workspaces/" ++ id ++ "/stop") →
    Documented info (.stopWorkspace id)
  | getWorkspaceStatus {id} :
    info.method = "GET" →
    Segment id →
    Names info.path ("api/workspaces/" ++ id ++ "/status") →
    Documented info (.getWorkspaceStatus id)
  | systemStatus :
    info.method = "GET" →
    Names info.path "api/status" →
    Documented info .systemStatus
  | cdpRequest {id suffix} :
    Segment id →
    Names info.path ("api/workspaces/" ++ id ++ "/cdp" ++ suffix) →
    suffix = "" ∨ suffix.toList.head? = some '/' →
    Documented info (.cdpRequest id suffix info)

/-- What is to be decided: 401 without the right header, else the row of the table, and 404 if there is none. -/
def Decides [JSONReader] (apiToken : String) (info : HttpServerRequestInfo) (route : Route) : Prop :=
  if apiToken ≠ "" ∧ info.authorization ≠ some ("Bearer " ++ apiToken) then
    ∃ code message, route = .error 401 code message
  else
    Documented info route ∨
      (∀ row, ¬ Documented info row) ∧ ∃ code message, route = .error 404 code message

/-! ## Paths and their segments -/

/-- The characters of a path below. -/
lemma toList_subpath (segments : List String) :
    (subpath segments).toList = segments.flatMap fun segment => '/' :: segment.toList := by
  have all (s : String) : (segments.foldl (fun subpath segment => subpath ++ ("/" ++ segment)) s).toList =
      s.toList ++ segments.flatMap fun segment => '/' :: segment.toList := by
    induction segments generalizing s with
    | nil => simp
    | cons segment segments ih => simp [ih]
  exact all ""

/-- The path without the slash that it may begin with. -/
def below (path : String) : List Char :=
  if path.toList.head? = some '/' then path.toList.tail else path.toList

/-- A path names a text when the text is what is below the slashes that it begins with. -/
lemma names_iff {path text : String} (plain : text.toList.head? ≠ some '/') :
    Names path text ↔ below path = text.toList := by
  unfold below
  constructor
  · rintro (rfl | rfl)
    · rw [if_neg plain]
    · simp
  · intro h
    split_ifs at h with slash
    · right
      obtain ⟨rest, hp⟩ := List.head?_eq_some_iff.mp slash
      apply String.toList_injective
      rw [hp, List.tail_cons] at h
      simp [hp, h]
    · exact .inl (String.toList_injective h)

/-- `ParsePath` splits what is below the first slashes, unless there is nothing. -/
lemma parsePath_eq (path : String) :
    parsePath path = if below path = [] then [] else ((below path).splitOn '/').map String.ofList := by
  unfold parsePath below
  simp only [List.isEmpty_iff]

/-- A path with segments is split at the slashes below the leading one. -/
lemma parsePath_eq_iff {path : String} {segments : List String} (some_segment : segments ≠ []) :
    parsePath path = segments ↔
      below path ≠ [] ∧ (below path).splitOn '/' = segments.map String.toList := by
  rw [parsePath_eq]
  constructor
  · intro h
    split_ifs at h with empty
    · exact absurd h.symm some_segment
    · refine ⟨empty, ?_⟩
      rw [← h, List.map_map, List.map_id'']
      intro segment
      exact String.toList_ofList
  · rintro ⟨something, split⟩
    rw [if_neg something, split, List.map_map, List.map_id'']
    intro segment
    exact String.ofList_toList

/-- The segments of a path are those that it is put together from. -/
lemma parsePath_eq_cons_iff {path first : String} {others : List String} (nonempty : first ≠ "") :
    parsePath path = first :: others ↔
      Names path (first ++ subpath others) ∧ Segment first ∧ ∀ segment ∈ others, Segment segment := by
  have text : (first ++ subpath others).toList = ['/'].intercalate ((first :: others).map String.toList) := by
    rw [List.map_cons, intercalate_cons_eq, String.toList_append, toList_subpath, List.flatMap_map]
  have chars : first.toList ≠ [] := fun h => nonempty (String.toList_injective h)
  have plain (slashless : Segment first) : (first ++ subpath others).toList.head? ≠ some '/' := by
    intro h
    rw [String.toList_append, List.head?_append_of_ne_nil _ chars] at h
    exact slashless (List.mem_of_mem_head? h)
  rw [parsePath_eq_iff (List.cons_ne_nil first others)]
  constructor
  · rintro ⟨_, split⟩
    have slashless : ∀ segment ∈ first :: others, Segment segment := by
      intro segment hs
      apply notMem_of_mem_splitOn (l := below path)
      rw [split]
      exact List.mem_map_of_mem hs
    refine ⟨?_, slashless first List.mem_cons_self, fun t ht => slashless t (List.mem_cons_of_mem first ht)⟩
    rw [names_iff (plain (slashless first List.mem_cons_self)), text, ← split, List.intercalate_splitOn]
  · rintro ⟨names, slashless, others_slashless⟩
    rw [names_iff (plain slashless), text] at names
    have split : (below path).splitOn '/' = (first :: others).map String.toList := by
      rw [names]
      apply List.splitOn_intercalate
      · intro l hl
        obtain ⟨segment, hs, rfl⟩ := List.mem_map.mp hl
        rcases List.mem_cons.mp hs with rfl | hs
        · exact slashless
        · exact others_slashless segment hs
      · exact List.cons_ne_nil _ _
    refine ⟨fun empty => ?_, split⟩
    rw [empty, List.splitOn_nil] at split
    exact chars (List.cons.inj split).1.symm

/-- The paths of two segments. -/
lemma parsePath_top {path second : String} (slashless : Segment second) :
    parsePath path = ["api", second] ↔ Names path ("api/" ++ second) := by
  have text : "api" ++ subpath [second] = "api/" ++ second := by
    apply String.toList_injective
    simp [toList_subpath]
  rw [parsePath_eq_cons_iff (by decide), text]
  simp [Segment] at slashless ⊢
  simp [slashless]

/-- The paths of a workspace. -/
lemma parsePath_workspace {path id : String} :
    parsePath path = ["api", "workspaces", id] ↔ Names path ("api/workspaces/" ++ id) ∧ Segment id := by
  have text : "api" ++ subpath ["workspaces", id] = "api/workspaces/" ++ id := by
    apply String.toList_injective
    simp [toList_subpath]
  rw [parsePath_eq_cons_iff (by decide), text]
  simp [Segment]

/-- The paths of an action on a workspace. -/
lemma parsePath_action {path id action : String} (slashless : Segment action) :
    parsePath path = ["api", "workspaces", id, action] ↔
      Names path ("api/workspaces/" ++ id ++ ("/" ++ action)) ∧ Segment id := by
  have text : "api" ++ subpath ["workspaces", id, action] = "api/workspaces/" ++ id ++ ("/" ++ action) := by
    apply String.toList_injective
    simp [toList_subpath]
  rw [parsePath_eq_cons_iff (by decide), text]
  simp [Segment] at slashless ⊢
  simp [slashless]

/-- The paths of the CDP proxy. -/
lemma parsePath_cdp {path id : String} {others : List String} :
    parsePath path = "api" :: "workspaces" :: id :: "cdp" :: others ↔
      Names path ("api/workspaces/" ++ id ++ "/cdp" ++ subpath others) ∧ Segment id ∧
        ∀ segment ∈ others, Segment segment := by
  have text : "api" ++ subpath ("workspaces" :: id :: "cdp" :: others) =
      "api/workspaces/" ++ id ++ "/cdp" ++ subpath others := by
    apply String.toList_injective
    simp [toList_subpath]
  rw [parsePath_eq_cons_iff (by decide), text]
  simp [Segment]

/-- A suffix of a path is put together from segments. -/
lemma exists_subpath {suffix : String} (h : suffix = "" ∨ suffix.toList.head? = some '/') :
    ∃ others, suffix = subpath others ∧ ∀ segment ∈ others, Segment segment := by
  rcases h with rfl | slash
  · exact ⟨[], rfl, by simp⟩
  · obtain ⟨rest, hs⟩ := List.head?_eq_some_iff.mp slash
    refine ⟨(rest.splitOn '/').map String.ofList, ?_, ?_⟩
    · apply String.toList_injective
      have joined : ['/'].intercalate (rest.splitOn '/') = rest := List.intercalate_splitOn '/'
      cases hl : rest.splitOn '/' with
      | nil => exact absurd hl (List.splitOn_ne_nil _ _)
      | cons first others =>
        rw [hl, intercalate_cons_eq] at joined
        rw [hs, toList_subpath, ← joined]
        simp [List.flatMap_map]
    · intro segment hm
      obtain ⟨l, hl, rfl⟩ := List.mem_map.mp hm
      rw [Segment, String.toList_ofList]
      exact notMem_of_mem_splitOn hl

/-- A path below is empty or begins with a slash. -/
lemma subpath_head? (others : List String) : subpath others = "" ∨ (subpath others).toList.head? = some '/' := by
  cases others with
  | nil => exact .inl rfl
  | cons first others =>
    right
    rw [toList_subpath, List.flatMap_cons]
    rfl

/-! ## The cascade and the table -/

/-- The route of the export, which the cascade misses. -/
def Exports (info : HttpServerRequestInfo) : Prop :=
  info.method = "GET" ∧ Names info.path "api/workspaces/export"

section
variable [JSONReader] {info : HttpServerRequestInfo}

/-- The cascade takes a request to the row of the table. -/
lemma routeOf_documented {row : Route} (h : Documented info row) (other : ¬ Exports info) :
    routeOf info (parsePath info.path) = row := by
  cases h with
  | getAllWorkspaces method names =>
    have segments : parsePath info.path = ["api", "workspaces"] := (parsePath_top (by simp [Segment])).mpr names
    simp [routeOf, segments, method]
  | createWorkspace method names =>
    have segments : parsePath info.path = ["api", "workspaces"] := (parsePath_top (by simp [Segment])).mpr names
    simp [routeOf, segments, method]
  | exportWorkspaces method names => exact absurd ⟨method, names⟩ other
  | importWorkspaces method names =>
    have segments : parsePath info.path = ["api", "workspaces", "import"] :=
      parsePath_workspace.mpr ⟨names, by simp [Segment]⟩
    simp [routeOf, segments, method]
  | getWorkspace method segment names _ | updateWorkspace method segment names
  | deleteWorkspace method segment names =>
    simp [routeOf, parsePath_workspace.mpr ⟨names, segment⟩, method]
  | launchWorkspace method segment names =>
    have segments : parsePath info.path = ["api", "workspaces", _, "launch"] :=
      (parsePath_action (by simp [Segment])).mpr ⟨names, segment⟩
    simp [routeOf, segments, method]
  | stopWorkspace method segment names =>
    have segments : parsePath info.path = ["api", "workspaces", _, "stop"] :=
      (parsePath_action (by simp [Segment])).mpr ⟨names, segment⟩
    simp [routeOf, segments, method]
  | getWorkspaceStatus method segment names =>
    have segments : parsePath info.path = ["api", "workspaces", _, "status"] :=
      (parsePath_action (by simp [Segment])).mpr ⟨names, segment⟩
    simp [routeOf, segments, method]
  | systemStatus method names =>
    have segments : parsePath info.path = ["api", "status"] := (parsePath_top (by simp [Segment])).mpr names
    simp [routeOf, segments, method]
  | cdpRequest segment names suffix =>
    obtain ⟨others, rfl, slashless⟩ := exists_subpath suffix
    simp [routeOf, parsePath_cdp.mpr ⟨names, segment, slashless⟩]

omit [JSONReader] in
/-- The segments from one of them on. -/
lemma drop_of_getElem? {segments : List String} {i : Nat} {segment : String} (h : segments[i]? = some segment) :
    segments.drop i = segment :: segments.drop (i + 1) := by
  obtain ⟨lt, rfl⟩ := List.getElem?_eq_some_iff.mp h
  exact List.drop_eq_getElem_cons lt

/-- The table has the route, or the route is a 404, or the request is for the export. -/
def Accounted (info : HttpServerRequestInfo) (route : Route) : Prop :=
  Documented info route ∨ Exports info ∨ ∃ code message, route = .error 404 code message

/-- A choice between two routes. -/
lemma accounted_ite {c : Prop} [Decidable c] {a b : Route} (pos : c → Accounted info a)
    (neg : ¬ c → Accounted info b) : Accounted info (if c then a else b) := by
  split_ifs with h
  · exact pos h
  · exact neg h

/-- A route of 404 is accounted for. -/
lemma accounted_error (code message : String) : Accounted info (.error 404 code message) :=
  .inr (.inr ⟨code, message, rfl⟩)

/-- Every branch of the cascade is a row of the table, but for the one that takes the export. -/
lemma routeOf_accounted (info : HttpServerRequestInfo) :
    Accounted info (routeOf info (parsePath info.path)) := by
  generalize parsed : parsePath info.path = segments
  have whole : segments = segments.drop 0 := rfl
  unfold routeOf
  refine accounted_ite (fun _ => accounted_error _ _) fun _ => ?_
  refine accounted_ite (fun _ => accounted_error _ _) fun api => ?_
  rw [drop_of_getElem? (not_not.mp api)] at whole
  refine accounted_ite (fun status => ?_) fun _ => ?_
  · obtain ⟨two, second, method⟩ := status
    rw [drop_of_getElem? second, List.drop_eq_nil_of_le (Nat.le_of_eq two), ← parsed] at whole
    exact .inl (.systemStatus method ((parsePath_top (by simp [Segment])).mp whole))
  refine accounted_ite (fun workspaces => ?_) fun _ => accounted_error _ _
  rw [drop_of_getElem? workspaces.2] at whole
  have two (size : segments.length = 2) : Names info.path "api/workspaces" := by
    rw [List.drop_eq_nil_of_le (Nat.le_of_eq size), ← parsed] at whole
    exact (parsePath_top (by simp [Segment])).mp whole
  refine accounted_ite (fun all => .inl (.getAllWorkspaces all.2 (two all.1))) fun _ => ?_
  refine accounted_ite (fun create => .inl (.createWorkspace create.2 (two create.1))) fun _ => ?_
  cases third : segments[2]? with
  | none => exact accounted_error _ _
  | some id =>
    rw [drop_of_getElem? third] at whole
    have three (size : segments.length = 3) : Names info.path ("api/workspaces/" ++ id) ∧ Segment id := by
      rw [List.drop_eq_nil_of_le (Nat.le_of_eq size), ← parsed] at whole
      exact parsePath_workspace.mp whole
    have four {action : String} (slashless : Segment action) (size : segments.length = 4)
        (fourth : segments[3]? = some action) :
        Names info.path ("api/workspaces/" ++ id ++ ("/" ++ action)) ∧ Segment id := by
      rw [drop_of_getElem? fourth, List.drop_eq_nil_of_le (Nat.le_of_eq size), ← parsed] at whole
      exact (parsePath_action slashless).mp whole
    refine accounted_ite (fun get => ?_) fun notGet => ?_
    · by_cases literal : id = "export"
      · subst literal
        exact .inr (.inl ⟨get.2, (three get.1).1⟩)
      · exact .inl (.getWorkspace get.2 (three get.1).2 (three get.1).1 literal)
    refine accounted_ite (fun put => .inl (.updateWorkspace put.2 (three put.1).2 (three put.1).1)) fun _ => ?_
    refine accounted_ite (fun delete => .inl (.deleteWorkspace delete.2 (three delete.1).2 (three delete.1).1))
      fun _ => ?_
    refine accounted_ite (fun launch => ?_) fun _ => ?_
    · obtain ⟨names, segment⟩ := four (by simp [Segment]) launch.1 launch.2.1
      exact .inl (.launchWorkspace launch.2.2 segment names)
    refine accounted_ite (fun stop => ?_) fun _ => ?_
    · obtain ⟨names, segment⟩ := four (by simp [Segment]) stop.1 stop.2.1
      exact .inl (.stopWorkspace stop.2.2 segment names)
    refine accounted_ite (fun status => ?_) fun _ => ?_
    · obtain ⟨names, segment⟩ := four (by simp [Segment]) status.1 status.2.1
      exact .inl (.getWorkspaceStatus status.2.2 segment names)
    refine accounted_ite (fun exported => absurd ⟨exported.1, exported.2.2⟩ notGet) fun _ => ?_
    refine accounted_ite (fun imported => ?_) fun _ => ?_
    · cases Option.some.inj imported.2.1
      exact .inl (.importWorkspaces imported.2.2 (three imported.1).1)
    refine accounted_ite (fun cdp => ?_) fun _ => accounted_error _ _
    rw [drop_of_getElem? cdp.2, ← parsed] at whole
    obtain ⟨names, segment, _⟩ := parsePath_cdp.mp whole
    exact .inl (.cdpRequest segment (parsed ▸ names) (subpath_head? _))

omit [JSONReader] in
/-- No header is found under a name with capitals. -/
lemma headers_authorization (info : HttpServerRequestInfo) : info.headers["Authorization"]? = none := by
  rw [KeyedMap.get_eq_none_iff]
  intro mem
  have lower : toLowerASCII "Authorization" = "Authorization" := info.lowerCase _ mem
  exact absurd lower (by decide)

/-- With a token every request is refused, since the header is not found under its name. -/
lemma dispatchRequest_of_token {apiToken : String} (token : apiToken ≠ "") :
    dispatchRequest apiToken info =
      .error 401 "UNAUTHORIZED" "Missing or invalid Authorization: Bearer token" := by
  rw [dispatchRequest, headers_authorization]
  exact if_pos ⟨token, rfl⟩

/-- Without a token every request is dispatched. -/
lemma dispatchRequest_of_empty : dispatchRequest "" info = routeOf info (parsePath info.path) := by
  rw [dispatchRequest]
  exact if_neg fun h => h.1 rfl

/-- With a token the decision is right exactly for the requests without it. -/
lemma decides_of_token {apiToken : String} (token : apiToken ≠ "") :
    Decides apiToken info (dispatchRequest apiToken info) ↔
      info.authorization ≠ some ("Bearer " ++ apiToken) := by
  rw [dispatchRequest_of_token token, Decides]
  split_ifs with refused
  · exact iff_of_true ⟨_, _, rfl⟩ refused.2
  · refine iff_of_false ?_ fun other => refused ⟨token, other⟩
    rintro (row | ⟨_, code, message, wrong⟩)
    · cases row
    · cases wrong

/-- Without a token the decision is right exactly for the requests that are not for the export. -/
lemma decides_of_empty : Decides "" info (dispatchRequest "" info) ↔ ¬ Exports info := by
  rw [dispatchRequest_of_empty, Decides, if_neg fun h => h.1 rfl]
  constructor
  · intro decides exports
    have shadowed : routeOf info (parsePath info.path) = .getWorkspace "export" := by
      have segments : parsePath info.path = ["api", "workspaces", "export"] :=
        parsePath_workspace.mpr ⟨exports.2, by simp [Segment]⟩
      simp [routeOf, segments, exports.1]
    rw [shadowed] at decides
    rcases decides with row | ⟨none_documented, _⟩
    · cases row with
      | getWorkspace _ _ _ other => exact other rfl
    · exact none_documented _ (.exportWorkspaces exports.1 exports.2)
  · intro other
    rcases routeOf_accounted info with row | exports | ⟨code, message, missing⟩
    · exact .inl row
    · exact absurd exports other
    · refine .inr ⟨fun row documented => ?_, code, message, missing⟩
      have taken := routeOf_documented documented other
      rw [missing] at taken
      subst taken
      cases documented

/-- The table is followed, and the token checked, exactly for these requests. -/
theorem decides_iff (apiToken : String) (info : HttpServerRequestInfo) :
    Decides apiToken info (dispatchRequest apiToken info) ↔
      if apiToken = "" then ¬ (info.method = "GET" ∧ Names info.path "api/workspaces/export")
      else info.authorization ≠ some ("Bearer " ++ apiToken) := by
  split_ifs with token
  · rw [token]
    exact decides_of_empty
  · exact decides_of_token token

end

/-- A request with the token. -/
def authorizedRequest : HttpServerRequestInfo where
  method := "GET"
  path := "/api/status"
  headers := (∅ : Std.ExtTreeMap String String).insert "authorization" "Bearer t"
  lowerCase := by
    intro name h
    rw [Std.ExtTreeMap.mem_insert] at h
    rcases h with h | h
    · rw [← Std.LawfulEqCmp.eq_of_compare h]
      decide
    · exact absurd h Std.ExtTreeMap.not_mem_empty

/-- A request with the token is refused, and the export is taken for a workspace. -/
theorem decides_fails :
    ¬ @Decides (tableReader []) "t" authorizedRequest (@dispatchRequest (tableReader []) "t" authorizedRequest) ∧
      ¬ @Decides (tableReader []) "" (.bare "GET" "/api/workspaces/export")
        (@dispatchRequest (tableReader []) "" (.bare "GET" "/api/workspaces/export")) := by
  constructor
  · rw [@decides_of_token (tableReader []) authorizedRequest "t" (by decide), not_not]
    rfl
  · rw [@decides_of_empty (tableReader []), not_not]
    exact ⟨rfl, .inr rfl⟩

end PureCloak.API
