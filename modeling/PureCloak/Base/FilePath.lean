import PureCloak.Library.Walk

/-!
# File paths

`base::FilePath::Append` on POSIX, and the directory that the file system finds under a path: a name leads into the
directory of that name, `.` and the empty name (of a doubled or trailing separator) stay, and `..` leads to the parent.
Links are left out.
-/

namespace PureCloak.Base
open Walk

/-- What a path keeps of a string: everything before the first NUL. -/
def untilNul (s : List Char) : List Char :=
  s.takeWhile (· ≠ '\x00')

/-- `StripTrailingSeparatorsInternal`: the separators at the end go, but not the first character, and not
the second one of a path that starts with exactly two separators. -/
def stripTrailingSeparators (path : List Char) : List Char :=
  let keep := if path.take 2 = ['/', '/'] ∧ path[2]? ≠ some '/' then 2 else 1
  path.take keep ++ ((path.drop keep).reverse.dropWhile (· = '/')).reverse

/-- `FilePath::Append` and `FilePath::AppendASCII`. -/
def appendPath (path component : String) : String :=
  let appended := untilNul component.toList
  if path = "." ∧ appended ≠ [] then String.ofList appended
  else
    let base := stripTrailingSeparators path.toList
    if appended ≠ [] ∧ base ≠ [] ∧ base.getLast? ≠ some '/' then
      String.ofList (base ++ '/' :: appended)
    else String.ofList (base ++ appended)

example : appendPath "/tmp/" "purecloak" = "/tmp/purecloak" ∧ appendPath "/" "tmp" = "/tmp" := by
  decide

/-- A name in a path. -/
abbrev Name := List Char

/-- Where a name in a path leads. -/
def moveOf (name : Name) : Move Name :=
  if name = [] ∨ name = ['.'] then .stay
  else if name = ['.', '.'] then .up
  else .down name

/-- The moves of a path. -/
def moves (path : List Char) : List (Move Name) :=
  (path.splitOn '/').map moveOf

/-- The directory of a path, for a process that works in the directory `cwd`. -/
def resolve (cwd : List Name) (path : String) : List Name :=
  walk (if path.toList.head? = some '/' then [] else cwd) (moves path.toList)

/-- The moves of a path are those of its parts. -/
lemma moves_append (p q : List Char) : moves (p ++ '/' :: q) = moves p ++ moves q := by
  simp [moves, List.splitOn_append_cons_of_beq]

/-- There is nothing to strip from a path that does not end with a separator. -/
lemma stripTrailingSeparators_eq_self {p : List Char} (h : p.getLast? ≠ some '/') :
    stripTrailingSeparators p = p := by
  rw [stripTrailingSeparators]
  generalize (if p.take 2 = ['/', '/'] ∧ p[2]? ≠ some '/' then 2 else 1) = keep
  have kept : (p.drop keep).rdropWhile (· = '/') = p.drop keep := by
    rw [List.rdropWhile_eq_self_iff]
    intro ne sep
    have short : ¬ p.length ≤ keep := fun le => ne (List.drop_eq_nil_of_le le)
    have last : (p.drop keep).getLast? = p.getLast? := by rw [List.getLast?_drop, if_neg short]
    rw [List.getLast?_eq_some_getLast ne, of_decide_eq_true sep] at last
    exact h last.symm
  show p.take keep ++ (p.drop keep).rdropWhile (· = '/') = p
  rw [kept, List.take_append_drop]

/-- A component behind a path that ends in a name goes into it as the last thing. -/
lemma appendPath_toList {path component : String} {c : Char} (last : path.toList.getLast? = some c)
    (sep : c ≠ '/') (dot : path ≠ ".") (ne : untilNul component.toList ≠ []) :
    (appendPath path component).toList = path.toList ++ '/' :: untilNul component.toList := by
  have strip : stripTrailingSeparators path.toList = path.toList := by
    apply stripTrailingSeparators_eq_self
    rw [last]
    simpa using sep
  have path_ne : path.toList ≠ [] := by
    intro e
    simp [e] at last
  rw [appendPath, strip]
  dsimp only
  rw [if_neg (fun h => dot h.1), if_pos ⟨ne, path_ne, by simpa [last] using sep⟩, String.toList_ofList]

/-- A component behind a path that ends in a name is resolved from the directory of that path. -/
lemma resolve_appendPath (cwd : List Name) {path component : String} {c : Char}
    (last : path.toList.getLast? = some c) (sep : c ≠ '/') (dot : path ≠ ".")
    (ne : untilNul component.toList ≠ []) :
    resolve cwd (appendPath path component) =
      walk (resolve cwd path) (moves (untilNul component.toList)) := by
  have head : (path.toList ++ '/' :: untilNul component.toList).head? = path.toList.head? := by
    cases h : path.toList with
    | nil => simp [h] at last
    | cons a p => rfl
  rw [resolve, appendPath_toList last sep dot ne, head, moves_append, walk_append, resolve]

end PureCloak.Base
