import PureCloak.API.Routes

/-!
# The parser of the tests

The tests of the paths have a `ParsePath` of their own, which `api_unittest.cc` calls the same as the handler's. It
looks for one slash after the other and passes over segments without characters; the handler's keeps them
(`parsePath_eq_filter`). `parsePath_agrees_iff` says on which paths this makes no difference.
-/

namespace PureCloak.API.ApiUnittest
open Pieces

/-- `path.find('/', start)`; `none` is `npos`. -/
def findSlash (path : List Char) (start : Nat) : Option Nat :=
  ((path.drop start).idxOf? '/').map (start + ·)

/-- The loop of `ParsePath`, from a place on. -/
def scan (path : List Char) (start : Nat) (segments : List String) : List String :=
  if start < path.length then
    match h : findSlash path start with
    | none => segments ++ [String.ofList (path.drop start)]
    | some last =>
      let segments :=
        if last > start then segments ++ [String.ofList ((path.drop start).take (last - start))] else segments
      scan path (last + 1) segments
  else segments
termination_by path.length - start
decreasing_by
  obtain ⟨k, _, rfl⟩ := Option.map_eq_some_iff.mp h
  omega

/-- `ParsePath` of `api_unittest.cc`. -/
def parsePath (path : String) : List String :=
  let p := path.toList
  if p = [] ∨ p = ['/'] then []
  else scan p (if p.head? = some '/' then 1 else 0) []

/-! ## The loop -/

/-- A slash that is found has no other one before it. -/
lemma findSlash_some {path : List Char} {start last : Nat} (h : findSlash path start = some last) :
    start ≤ last ∧ '/' ∉ (path.drop start).take (last - start) ∧
      path.drop start = (path.drop start).take (last - start) ++ '/' :: path.drop (last + 1) := by
  obtain ⟨k, found, rfl⟩ := Option.map_eq_some_iff.mp h
  obtain ⟨lt, slash, before⟩ := List.idxOf?_eq_some_iff.mp found
  rw [Nat.add_sub_cancel_left]
  refine ⟨Nat.le_add_right start k, ?_, ?_⟩
  · intro mem
    obtain ⟨i, hi, same⟩ := List.mem_take_iff_getElem.mp mem
    exact before i (Nat.lt_of_lt_of_le hi (Nat.min_le_left _ _)) same
  · calc path.drop start = (path.drop start).take k ++ (path.drop start).drop k := (List.take_append_drop k _).symm
      _ = (path.drop start).take k ++ '/' :: (path.drop start).drop (k + 1) := by
        rw [List.drop_eq_getElem_cons lt, slash]
      _ = (path.drop start).take k ++ '/' :: path.drop (start + k + 1) := by rw [List.drop_drop, Nat.add_assoc]

/-- Where no slash is found there is none. -/
lemma findSlash_none {path : List Char} {start : Nat} (h : findSlash path start = none) : '/' ∉ path.drop start := by
  rw [findSlash, Option.map_eq_none_iff] at h
  exact List.idxOf?_eq_none_iff.mp h

/-- The loop adds the words of what it has yet to look at. -/
lemma scan_eq (path : List Char) (start : Nat) (segments : List String) :
    scan path start segments = segments ++ (words '/' (path.drop start)).map String.ofList := by
  induction start, segments using scan.induct path with
  | case1 start segments more h =>
    have something : path.drop start ≠ [] := fun empty => Nat.not_le_of_lt more (List.drop_eq_nil_iff.mp empty)
    rw [scan, if_pos more, words_of_notMem something (findSlash_none h)]
    split
    case h_1 => rfl
    case h_2 last found => cases h.symm.trans found
  | case2 start segments more last h segments' ih =>
    obtain ⟨le, slashless, parts⟩ := findSlash_some h
    have found := words_of_append_cons slashless (path.drop (last + 1))
    rw [← parts] at found
    rw [scan, if_pos more, found, List.map_append, ← List.append_assoc]
    split
    case h_1 none_found => cases h.symm.trans none_found
    case h_2 last' same =>
      cases h.symm.trans same
      refine ih.trans ?_
      congr 1
      -- a segment has characters where the slash is not at its start
      by_cases some_chars : last > start
      · have piece : (path.drop start).take (last - start) ≠ [] := by
          rw [Ne, List.take_eq_nil_iff, List.drop_eq_nil_iff]
          omega
        rw [if_neg piece, List.map_singleton]
        exact dif_pos some_chars
      · have piece : (path.drop start).take (last - start) = [] := by
          rw [Nat.sub_eq_zero_of_le (Nat.le_of_not_lt some_chars), List.take_zero]
        rw [if_pos piece, List.map_nil, List.append_nil]
        exact dif_neg some_chars
  | case3 start segments done =>
    rw [scan, if_neg done, List.drop_of_length_le (Nat.le_of_not_lt done), words_nil, List.map_nil, List.append_nil]

/-- `ParsePath` of the unit test gives the words. -/
lemma parsePath_eq_words (path : String) : parsePath path = (words '/' (below path)).map String.ofList := by
  rw [parsePath, below]
  by_cases trivial_path : path.toList = [] ∨ path.toList = ['/']
  · rw [if_pos trivial_path]
    obtain empty | root := trivial_path
    · rw [empty]
      exact (List.map_eq_nil_iff.mpr words_nil).symm
    · rw [root]
      exact (List.map_eq_nil_iff.mpr words_nil).symm
  · rw [if_neg trivial_path, scan_eq, List.nil_append]
    split
    · rw [List.drop_one]
    · rw [List.drop_zero]

/-- The segments are those of the handler that have characters. -/
theorem parsePath_eq_filter (path : String) :
    parsePath path = (API.parsePath path).filter (· ≠ "") := by
  have same : (fun piece : List Char => decide (String.ofList piece ≠ "")) = fun piece => decide (piece ≠ []) := by
    funext piece
    simp
  rw [parsePath_eq_words, API.parsePath_eq]
  split
  case isTrue empty => rw [empty, words_nil, List.map_nil, List.filter_nil]
  case isFalse => rw [List.filter_map, Function.comp_def, same, words]

/-! ## Where the parsers agree -/

/-- The handler has a segment without characters where the path below the leading slash is not empty and has one. -/
lemma agrees_iff_below (path : String) :
    parsePath path = API.parsePath path ↔ below path = [] ∨ ¬ ['/', '/'] <:+: '/' :: (below path ++ ['/']) := by
  rw [parsePath_eq_words, API.parsePath_eq, ← words_eq_splitOn_iff]
  by_cases empty : below path = []
  · rw [if_pos empty, empty, words_nil]
    exact iff_of_true rfl (.inl rfl)
  · rw [if_neg empty, or_iff_right empty]
    constructor
    · intro same
      exact List.map_injective_iff.mpr (fun _ _ => String.ofList_injective) same
    · intro same
      rw [same]

/-- The slash that the path may begin with is the one that stands in front of what is below it. -/
lemma pair_infix_below_iff {path : String} (something : below path ≠ []) :
    ['/', '/'] <:+: '/' :: (below path ++ ['/']) ↔ ['/', '/'] <:+: path.toList ++ ['/'] := by
  rw [below] at something ⊢
  by_cases slash : path.toList.head? = some '/'
  · obtain ⟨rest, parts⟩ := List.head?_eq_some_iff.mp slash
    rw [if_pos slash, parts, List.tail_cons, List.cons_append]
  · rw [if_neg slash] at something ⊢
    obtain ⟨first, rest, parts⟩ := List.exists_cons_of_ne_nil something
    rw [parts, List.head?_cons, Option.some_inj] at slash
    rw [parts, List.infix_cons_iff, List.cons_append, List.cons_prefix_cons, List.cons_prefix_cons]
    apply or_iff_right
    intro ⟨_, same, _⟩
    exact slash same.symm

/-- The two parsers have the same segments where no two slashes are next to each other and none is at the end, unless
it is the only one. -/
theorem parsePath_agrees_iff (path : String) :
    parsePath path = API.parsePath path ↔
      ¬ ['/', '/'] <:+: path.toList ∧ (path = "/" ∨ path.toList.getLast? ≠ some '/') := by
  rw [agrees_iff_below]
  by_cases empty : below path = []
  · have root : path = "" ∨ path = "/" := (@names_iff path "" (by decide)).mpr empty
    refine iff_of_true (.inl empty) ?_
    obtain rfl | rfl := root
    · exact ⟨by decide, .inr (by decide)⟩
    · exact ⟨by decide, .inl rfl⟩
  · have not_root : path ≠ "/" := by
      intro root
      rw [root] at empty
      exact empty rfl
    rw [or_iff_right empty, or_iff_right not_root, pair_infix_below_iff empty, pair_infix_concat_iff, not_or]

/-- A slash at the end. -/
theorem parsePath_differs : ¬ ∀ path, parsePath path = API.parsePath path := by
  intro same
  have last := same "/api/workspaces/"
  rw [parsePath_eq_filter] at last
  exact absurd last (by decide)

end PureCloak.API.ApiUnittest
