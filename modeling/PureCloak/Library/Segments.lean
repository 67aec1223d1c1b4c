import Mathlib.Tactic.Lemma
import Mathlib.Data.List.TakeWhile

/-!
# Streams in segments

A stream that is read and written in calls which each move as much as they can. What the calls of a reader
find is a list of segments: a call takes as much as it asks for from the first one, and an empty segment is
a call that gives nothing. What the calls of a writer find is a list of numbers: how much each of them
takes, 0 for a call that takes nothing; after the list every call takes all it is given.

`readAll` and `writeAll` are the loops around such calls. What `readAll` gives depends on the stream alone,
up to the first call that gives nothing: `arrived` is the stream up to there. `Reads` says so of any reader of
a part of the stream, and `After` where the reader is then.
-/

namespace Segments

variable {α β γ : Type*}

/-- One call of a reader that asks for `n` items. -/
def read (n : Nat) : List (List α) → List α × List (List α)
  | [] => ([], [])
  | seg :: segs => if seg.length ≤ n then (seg, segs) else (seg.take n, seg.drop n :: segs)

/-- Read exactly `n` items, in as many calls as that takes. -/
def readAll (n : Nat) : List (List α) → Option (List α) × List (List α)
  | [] => if n = 0 then (some [], []) else (none, [])
  | seg :: segs =>
    if n = 0 then (some [], seg :: segs)
    else if seg.isEmpty then (none, segs)
    else if seg.length ≤ n then
      let r := readAll (n - seg.length) segs
      (r.1.map (seg ++ ·), r.2)
    else (some (seg.take n), seg.drop n :: segs)

/-- A call takes the next segment, or as much of it as was asked for. -/
lemma read_of_ne_nil {n : Nat} (pos : 0 < n) {seg : List α} {segs : List (List α)} (gives : ∀ s ∈ seg :: segs, s ≠ [])
    (more : List (List α)) : ∃ got rest, read n (seg :: segs ++ more) = (got, rest ++ more) ∧ got ≠ [] ∧
      (∀ s ∈ rest, s ≠ []) ∧ got ++ rest.flatten = (seg :: segs).flatten := by
  have nonempty : seg ≠ [] := gives seg List.mem_cons_self
  have others : ∀ s ∈ segs, s ≠ [] := fun s hs => gives s (List.mem_cons_of_mem _ hs)
  by_cases le : seg.length ≤ n
  · exact ⟨seg, segs, if_pos le, nonempty, others, List.flatten_cons.symm⟩
  · refine ⟨seg.take n, seg.drop n :: segs, if_neg le, ?_, ?_, ?_⟩
    · rw [Ne, List.take_eq_nil_iff]
      exact not_or.mpr ⟨Nat.ne_of_gt pos, nonempty⟩
    · intro s hs
      rcases List.mem_cons.mp hs with rfl | hs
      · rw [Ne, List.drop_eq_nil_iff]
        omega
      · exact others s hs
    · rw [List.flatten_cons, ← List.append_assoc, List.take_append_drop, List.flatten_cons]

/-- What comes before a call gives nothing. -/
def arrived (segs : List (List α)) : List α :=
  (segs.takeWhile (!·.isEmpty)).flatten

/-- No call gives nothing before the end of the stream. -/
def Steady (segs : List (List α)) : Prop :=
  arrived segs = segs.flatten

@[simp] lemma arrived_nil : arrived ([] : List (List α)) = [] := rfl

@[simp] lemma arrived_cons_nil (segs : List (List α)) : arrived ([] :: segs) = [] := rfl

/-- A segment that is not empty arrives, and what is behind it. -/
lemma arrived_cons {seg : List α} (h : seg ≠ []) (segs : List (List α)) :
    arrived (seg :: segs) = seg ++ arrived segs := by
  simp [arrived, h]

/-- What arrives is the first part of the stream. -/
lemma arrived_isPrefix (segs : List (List α)) : arrived segs <+: segs.flatten := by
  induction segs with
  | nil => exact List.prefix_rfl
  | cons seg segs ih =>
    by_cases h : seg = []
    · subst h
      exact List.nil_prefix
    · rw [arrived_cons h, List.flatten_cons]
      exact (List.prefix_append_right_inj seg).mpr ih

/-- Segments that give something arrive, whatever comes behind them. -/
lemma flatten_le_arrived {segs : List (List α)} (gives : ∀ seg ∈ segs, seg ≠ []) (more : List (List α)) :
    segs.flatten.length ≤ (arrived (segs ++ more)).length := by
  induction segs with
  | nil => exact Nat.zero_le _
  | cons seg segs ih =>
    rw [List.cons_append, arrived_cons (gives seg List.mem_cons_self), List.flatten_cons, List.length_append,
      List.length_append]
    exact Nat.add_le_add_left (ih fun s hs => gives s (List.mem_cons_of_mem _ hs)) _

/-- Segments without pauses arrive without an end. -/
lemma steady_of_ne_nil {segs : List (List α)} (h : ∀ seg ∈ segs, seg ≠ []) : Steady segs := by
  induction segs with
  | nil => rfl
  | cons seg segs ih =>
    have ih := ih fun seg hs => h seg (List.mem_cons_of_mem _ hs)
    rw [Steady, arrived_cons (h seg List.mem_cons_self), List.flatten_cons, ih]

/-- The calls that are left when `n` items were taken. -/
def skip : Nat → List (List α) → List (List α)
  | _, [] => []
  | n, seg :: segs =>
    if n = 0 then seg :: segs
    else if seg.length ≤ n then skip (n - seg.length) segs
    else seg.drop n :: segs

@[simp] lemma skip_zero (segs : List (List α)) : skip 0 segs = segs := by
  cases segs <;> simp [skip]

/-- Items may be taken in two parts. -/
lemma skip_skip (n m : Nat) (segs : List (List α)) : skip m (skip n segs) = skip (n + m) segs := by
  induction segs generalizing n with
  | nil => simp [skip]
  | cons seg segs ih =>
    by_cases hn : n = 0
    · rw [hn, skip_zero, Nat.zero_add]
    by_cases hl : seg.length ≤ n
    · rw [skip, if_neg hn, if_pos hl, ih, skip, if_neg (by omega), if_pos (by omega), ← Nat.sub_add_comm hl]
    rw [skip, if_neg hn, if_neg hl]
    by_cases hm : m = 0
    · rw [hm, skip_zero, Nat.add_zero, skip, if_neg hn, if_neg hl]
    rw [skip, if_neg hm, skip, if_neg (by omega : n + m ≠ 0), List.length_drop, List.drop_drop]
    by_cases le : seg.length ≤ n + m
    · rw [if_pos (by omega), if_pos le]
      congr 1
      omega
    · rw [if_neg (by omega), if_neg le]

/-- What comes behind some segments is left alone while there is enough in them. -/
lemma skip_append {n : Nat} {segs : List (List α)} (gives : ∀ seg ∈ segs, seg ≠ []) (le : n ≤ segs.flatten.length)
    (more : List (List α)) : ∃ rest, skip n (segs ++ more) = rest ++ more ∧ (∀ seg ∈ rest, seg ≠ []) ∧
      rest.flatten = segs.flatten.drop n := by
  induction segs generalizing n with
  | nil =>
    obtain rfl : n = 0 := Nat.le_zero.mp le
    exact ⟨[], skip_zero more, gives, rfl⟩
  | cons seg segs ih =>
    have others : ∀ s ∈ segs, s ≠ [] := fun s hs => gives s (List.mem_cons_of_mem _ hs)
    rw [List.flatten_cons, List.length_append] at le
    rw [List.cons_append, skip, List.flatten_cons, List.drop_append]
    by_cases hn : n = 0
    · rw [if_pos hn, hn]
      exact ⟨seg :: segs, rfl, gives, by simp⟩
    by_cases hl : seg.length ≤ n
    · obtain ⟨rest, eq, left, flat⟩ := ih (n := n - seg.length) others (by omega)
      rw [if_neg hn, if_pos hl, List.drop_of_length_le hl, List.nil_append]
      exact ⟨rest, eq, left, flat⟩
    · have some : seg.drop n ≠ [] := by
        rw [Ne, List.drop_eq_nil_iff]
        omega
      rw [if_neg hn, if_neg hl, Nat.sub_eq_zero_of_le (by omega), List.drop_zero]
      exact ⟨seg.drop n :: segs, rfl, List.forall_mem_cons.mpr ⟨some, others⟩, List.flatten_cons⟩

/-- The loop gets what it asks for, when that arrives. -/
lemma readAll_of_le {n : Nat} {segs : List (List α)} (h : n ≤ (arrived segs).length) :
    readAll n segs = (some ((arrived segs).take n), skip n segs) ∧
      arrived (skip n segs) = (arrived segs).drop n ∧ (skip n segs).flatten = segs.flatten.drop n := by
  induction segs generalizing n with
  | nil =>
    obtain rfl : n = 0 := by simpa using h
    exact ⟨rfl, rfl, rfl⟩
  | cons seg segs ih =>
    by_cases hn : n = 0
    · subst hn
      rw [skip_zero]
      exact ⟨by simp [readAll], rfl, rfl⟩
    · have he : seg ≠ [] := by
        rintro rfl
        rw [arrived_cons_nil, List.length_nil] at h
        omega
      rw [arrived_cons he, List.length_append] at h
      by_cases hl : seg.length ≤ n
      · obtain ⟨eq, arr, flat⟩ := ih (n := n - seg.length) (by omega)
        rw [skip, if_neg hn, if_pos hl]
        refine ⟨?_, ?_, ?_⟩
        · simp [readAll, hn, he, hl, eq, arrived_cons he, List.take_append, List.take_of_length_le hl]
        · rw [arr, arrived_cons he, List.drop_append, List.drop_of_length_le hl, List.nil_append]
        · rw [flat, List.flatten_cons, List.drop_append, List.drop_of_length_le hl, List.nil_append]
      · have drop : seg.drop n ≠ [] := by
          rw [Ne, List.drop_eq_nil_iff]
          omega
        rw [skip, if_neg hn, if_neg hl]
        refine ⟨?_, ?_, ?_⟩
        · simp [readAll, hn, he, hl, arrived_cons he, List.take_append_of_le_length (by omega : n ≤ seg.length)]
        · rw [arrived_cons drop, arrived_cons he, List.drop_append_of_le_length (by omega)]
        · rw [List.flatten_cons, List.flatten_cons, List.drop_append_of_le_length (by omega)]

/-- The loop fails when a call gives nothing before that; what came until then is lost. -/
lemma readAll_of_lt {n : Nat} {segs : List (List α)} (h : (arrived segs).length < n) :
    ∃ rest, readAll n segs = (none, rest) ∧ rest.flatten = segs.flatten.drop (arrived segs).length := by
  induction segs generalizing n with
  | nil => exact ⟨[], by simp [readAll, Nat.ne_zero_of_lt h], rfl⟩
  | cons seg segs ih =>
    have hn : n ≠ 0 := by omega
    by_cases he : seg = []
    · subst he
      exact ⟨segs, by simp [readAll, hn], rfl⟩
    · rw [arrived_cons he, List.length_append] at h
      obtain ⟨rest, eq, flat⟩ := ih (n := n - seg.length) (by omega)
      refine ⟨rest, by simp [readAll, hn, he, eq, (by omega : seg.length ≤ n)], ?_⟩
      rw [flat, arrived_cons he, List.flatten_cons, List.length_append, List.drop_length_add_append]

/-! ## Readers of a part of the stream -/

/-- A reader has taken `n` items. -/
structure After (n : Nat) (segs rest : List (List α)) : Prop where
  left : rest = skip n segs
  arrived : arrived rest = (arrived segs).drop n
  flatten : rest.flatten = segs.flatten.drop n

/-- A reader has failed where a call gave nothing. -/
def Breaks (segs rest : List (List α)) : Prop :=
  rest.flatten = segs.flatten.drop (arrived segs).length

/-- On a stream that goes on with `p`, the reader takes `p` and gives `b`, or fails where a call gives
nothing before the end of `p`. -/
def Reads (reader : List (List α) → Option β × List (List α)) (p : List α) (b : β) : Prop :=
  ∀ segs tail, segs.flatten = p ++ tail →
    (p.length ≤ (arrived segs).length ∧ ∃ rest, reader segs = (some b, rest) ∧ After p.length segs rest) ∨
    ((arrived segs).length < p.length ∧ ∃ rest, reader segs = (none, rest) ∧ Breaks segs rest)

/-- Nothing was read. -/
lemma After.zero (segs : List (List α)) : After 0 segs segs :=
  ⟨(skip_zero segs).symm, rfl, rfl⟩

/-- What was read by two readers, one after the other. -/
lemma After.trans {n m : Nat} {segs mid rest : List (List α)} (h1 : After n segs mid) (h2 : After m mid rest) :
    After (n + m) segs rest where
  left := by rw [h2.left, h1.left, skip_skip]
  arrived := by rw [h2.arrived, h1.arrived, List.drop_drop]
  flatten := by rw [h2.flatten, h1.flatten, List.drop_drop]

/-- What is left to arrive is shorter by what was read. -/
lemma After.length {n : Nat} {segs rest : List (List α)} (h : After n segs rest) :
    (Segments.arrived rest).length = (Segments.arrived segs).length - n := by
  rw [h.arrived, List.length_drop]

/-- What follows the part that was taken. -/
lemma After.tail {p tail : List α} {segs rest : List (List α)} (h : After p.length segs rest)
    (e : segs.flatten = p ++ tail) : rest.flatten = tail := by
  rw [h.flatten, e, List.drop_left]

/-- A failure after a part that was taken. -/
lemma After.breaks {n : Nat} {segs mid rest : List (List α)} (h : After n segs mid)
    (le : n ≤ (Segments.arrived segs).length) (b : Breaks mid rest) : Breaks segs rest := by
  rw [Breaks, b, h.flatten, h.length, List.drop_drop, Nat.add_sub_cancel' le]

/-- A steady stream stays one. -/
lemma After.steady {n : Nat} {segs rest : List (List α)} (h : After n segs rest) (st : Steady segs) :
    Steady rest := by
  rw [Steady, h.arrived, h.flatten, st]

/-- Reading a piece by its length. -/
lemma reads_readAll (p : List α) : Reads (readAll p.length) p p := by
  intro segs tail h
  by_cases le : p.length ≤ (arrived segs).length
  · obtain ⟨eq, after⟩ := readAll_of_le le
    have take : (arrived segs).take p.length = p := by
      apply (List.prefix_iff_eq_take.mp _).symm
      exact List.prefix_of_prefix_length_le (h ▸ List.prefix_append p tail) (arrived_isPrefix segs) le
    rw [take] at eq
    exact .inl ⟨le, _, eq, rfl, after.1, after.2⟩
  · obtain ⟨rest, eq, breaks⟩ := readAll_of_lt (Nat.lt_of_not_le le)
    exact .inr ⟨Nat.lt_of_not_le le, rest, eq, breaks⟩

/-- A reader that goes on with another one when the first has succeeded, and fails when it has not. -/
lemma Reads.bind {reader : List (List α) → Option β × List (List α)}
    {next both : List (List α) → Option γ × List (List α)} {p q : List α} {b : β} {c : γ}
    (h1 : Reads reader p b) (h2 : Reads next q c)
    (succeeds : ∀ segs rest, reader segs = (some b, rest) → both segs = next rest)
    (fails : ∀ segs rest, reader segs = (none, rest) → both segs = (none, rest)) :
    Reads both (p ++ q) c := by
  intro segs tail h
  rw [List.append_assoc] at h
  rw [List.length_append]
  rcases h1 segs _ h with ⟨le, mid, eq, after⟩ | ⟨lt, rest, eq, breaks⟩
  · rw [succeeds segs mid eq]
    rcases h2 mid tail (after.tail h) with ⟨le2, rest, eq2, after2⟩ | ⟨lt, rest, eq2, breaks⟩
    · rw [after.length] at le2
      exact .inl ⟨by omega, rest, eq2, after.trans after2⟩
    · rw [after.length] at lt
      exact .inr ⟨by omega, rest, eq2, after.breaks le breaks⟩
  · exact .inr ⟨by omega, rest, fails segs rest eq, breaks⟩

/-- A reader whose result is changed. -/
lemma Reads.map {reader : List (List α) → Option β × List (List α)}
    {both : List (List α) → Option γ × List (List α)} {p : List α} {b : β} {c : γ} (h : Reads reader p b)
    (succeeds : ∀ segs rest, reader segs = (some b, rest) → both segs = (some c, rest))
    (fails : ∀ segs rest, reader segs = (none, rest) → both segs = (none, rest)) : Reads both p c := by
  intro segs tail e
  rcases h segs tail e with ⟨le, rest, eq, after⟩ | ⟨lt, rest, eq, breaks⟩
  · exact .inl ⟨le, rest, succeeds segs rest eq, after⟩
  · exact .inr ⟨lt, rest, fails segs rest eq, breaks⟩

/-- A reader of nothing. -/
lemma reads_nil (b : β) : Reads (fun segs : List (List α) => (some b, segs)) [] b :=
  fun segs _ _ => .inl ⟨Nat.zero_le _, segs, rfl, .zero segs⟩

/-! ## Calls of a bounded size -/

/-- How many items there are after the call that brings the `n`-th one, when every call asks for `cap`: a segment is
taken in pieces of that size. -/
def extent (cap n : Nat) : List (List α) → Nat
  | [] => 0
  | seg :: segs =>
    if n = 0 then 0
    else if seg.isEmpty then 0
    else if n ≤ seg.length then min seg.length ((n + cap - 1) / cap * cap)
    else seg.length + extent cap (n - seg.length) segs

@[simp] lemma extent_zero (cap : Nat) (segs : List (List α)) : extent cap 0 segs = 0 := by
  cases segs <;> rfl

/-- The items are what has come. -/
lemma extent_le (cap n : Nat) (segs : List (List α)) : extent cap n segs ≤ (arrived segs).length := by
  induction segs generalizing n with
  | nil => exact Nat.zero_le _
  | cons seg segs ih =>
    rw [extent]
    split_ifs with zero empty inside
    · exact Nat.zero_le _
    · exact Nat.zero_le _
    · rw [arrived_cons (fun h => empty (List.isEmpty_iff.mpr h)), List.length_append]
      omega
    · rw [arrived_cons (fun h => empty (List.isEmpty_iff.mpr h)), List.length_append]
      exact Nat.add_le_add_left (ih _) _

/-- A call that gives nothing ends the stream. -/
lemma arrived_of_read_nil {cap : Nat} (pos : 0 < cap) {segs : List (List α)} (nothing : (read cap segs).1 = []) :
    arrived segs = [] := by
  cases segs with
  | nil => rfl
  | cons seg segs =>
    rw [read] at nothing
    split_ifs at nothing with short
    · rw [show seg = [] from nothing]
      rfl
    · rw [List.take_eq_nil_iff] at nothing
      rcases nothing with zero | empty
      · omega
      · rw [empty]
        rfl

/-- A call that gives something, and what is then still to come. -/
lemma arrived_read {cap : Nat} {segs : List (List α)} (something : (read cap segs).1 ≠ []) :
    arrived segs = (read cap segs).1 ++ arrived (read cap segs).2 ∧
    segs.flatten = (read cap segs).1 ++ (read cap segs).2.flatten := by
  cases segs with
  | nil => exact absurd rfl something
  | cons seg segs =>
    rw [read] at something ⊢
    split_ifs at something ⊢ with short
    · exact ⟨arrived_cons something segs, List.flatten_cons⟩
    · have whole : seg ≠ [] := fun h => short (by rw [h]; exact Nat.zero_le _)
      have left : seg.drop cap ≠ [] := by
        rw [Ne, List.drop_eq_nil_iff]
        omega
      dsimp only
      rw [arrived_cons whole, arrived_cons left, List.flatten_cons, List.flatten_cons, ← List.append_assoc,
        ← List.append_assoc, List.take_append_drop]
      exact ⟨rfl, rfl⟩

/-- What a call leaves. -/
lemma read_skip {cap : Nat} {segs : List (List α)} (something : (read cap segs).1 ≠ []) :
    (read cap segs).2 = skip (read cap segs).1.length segs := by
  cases segs with
  | nil => exact absurd rfl something
  | cons seg segs =>
    have pos := List.length_pos_iff.mpr something
    rw [read] at something pos ⊢
    split_ifs at something pos ⊢ with short
    · rw [skip, if_neg (Nat.ne_of_gt pos), if_pos (Nat.le_refl _), Nat.sub_self, skip_zero]
    · have length : (seg.take cap).length = cap := List.length_take_of_le (by omega)
      rw [length] at pos ⊢
      rw [skip, if_neg (Nat.ne_of_gt pos), if_neg short]

/-- One piece is enough. -/
lemma pieces_one {cap n : Nat} (some : 0 < n) (le : n ≤ cap) : (n + cap - 1) / cap * cap = cap := by
  have one : (n + cap - 1) / cap = 1 := by
    apply Nat.div_eq_of_lt_le
    · omega
    · omega
  rw [one, Nat.one_mul]

/-- One piece, and those for the rest. -/
lemma pieces_more {cap n : Nat} (pos : 0 < cap) (lt : cap < n) :
    (n + cap - 1) / cap * cap = cap + (n - cap + cap - 1) / cap * cap := by
  have step : n + cap - 1 = n - cap + cap - 1 + cap := by omega
  rw [step, Nat.add_div_right _ pos, Nat.succ_mul, Nat.add_comm]

/-- One call, and the calls after it. -/
lemma extent_read {cap n : Nat} (pos : 0 < cap) (some : 0 < n) {segs : List (List α)}
    (something : (read cap segs).1 ≠ []) :
    extent cap n segs = (read cap segs).1.length + extent cap (n - (read cap segs).1.length) (read cap segs).2 := by
  cases segs with
  | nil => exact absurd rfl something
  | cons seg segs =>
    rw [read] at something ⊢
    split_ifs at something ⊢ with short
    · have nonempty : ¬ seg.isEmpty = true := fun h => something (List.isEmpty_iff.mp h)
      rw [extent, if_neg (Nat.ne_of_gt some), if_neg nonempty]
      split_ifs with inside
      · dsimp only
        rw [Nat.sub_eq_zero_of_le inside, extent_zero, pieces_one some (Nat.le_trans inside short)]
        omega
      · rfl
    · have length : (seg.take cap).length = cap := List.length_take_of_le (by omega)
      have nonempty : ¬ seg.isEmpty = true := fun h => short (by rw [List.isEmpty_iff.mp h]; exact Nat.zero_le _)
      have left : ¬ (seg.drop cap).isEmpty = true := by
        rw [List.isEmpty_iff, List.drop_eq_nil_iff]
        omega
      dsimp only
      rw [length, extent, extent, if_neg (Nat.ne_of_gt some), if_neg nonempty, if_neg left, List.length_drop]
      by_cases first : n ≤ cap
      · rw [if_pos (Nat.sub_eq_zero_of_le first), if_pos (by omega), pieces_one some first]
        omega
      · rw [if_neg (by omega : n - cap ≠ 0), pieces_more pos (Nat.lt_of_not_le first)]
        split_ifs with inside rest rest
        · omega
        · omega
        · omega
        · rw [show n - cap - (seg.length - cap) = n - seg.length from by omega]
          omega

/-! ## Writing -/

/-- Write all items, in as many calls as that takes: whether it succeeds and what was written. -/
def writeAll (items : List α) : List Nat → Bool × List α × List Nat
  | [] => (true, items, [])
  | k :: ks =>
    if items.isEmpty then (true, [], k :: ks)
    else if k = 0 then (false, [], ks)
    else if items.length ≤ k then (true, items, ks)
    else
      let r := writeAll (items.drop k) ks
      (r.1, items.take k ++ r.2.1, r.2.2)

/-- What was written without a failure is everything. -/
lemma writeAll_true {items : List α} {ks : List Nat} (h : (writeAll items ks).1 = true) :
    (writeAll items ks).2.1 = items := by
  induction ks generalizing items with
  | nil => rfl
  | cons k ks ih =>
    unfold writeAll at h ⊢
    split_ifs at h ⊢ with he hk hl
    · exact (List.isEmpty_iff.mp he).symm
    · rfl
    · simp only at h ⊢
      rw [ih h, List.take_append_drop]

/-- When every call takes something, nothing fails. -/
lemma writeAll_of_pos (items : List α) {ks : List Nat} (h : ∀ k ∈ ks, 0 < k) :
    (writeAll items ks).1 = true ∧ ∀ k ∈ (writeAll items ks).2.2, 0 < k := by
  induction ks generalizing items with
  | nil => exact ⟨rfl, by simp [writeAll]⟩
  | cons k ks ih =>
    have hk : k ≠ 0 := Nat.ne_of_gt (h k List.mem_cons_self)
    have rest : ∀ k ∈ ks, 0 < k := fun k hk => h k (List.mem_cons_of_mem _ hk)
    unfold writeAll
    split_ifs with he hl
    · exact ⟨rfl, h⟩
    · exact ⟨rfl, rest⟩
    · exact ih (items.drop k) rest

end Segments
