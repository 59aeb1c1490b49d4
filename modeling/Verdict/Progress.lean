import Verdict.Event
import Verdict.Status
/-! The progress of a run. Every test is announced under a handle of its own and concluded under
the same handle; the verdicts of concluded tests are counted. -/
namespace Verdict

/-! ### Tallies -/

/-- The counts after a verdict has been counted once more, at the place where it belongs. -/
def countOnce (status : Status) : List (Status × Nat) → List (Status × Nat)
  | [] => [(status, 1)]
  | (other, count) :: rest =>
    if status = other then (other, count + 1) :: rest
    else if status.rank < other.rank then (status, 1) :: (other, count) :: rest
    else (other, count) :: countOnce status rest

private theorem mem_countOnce {status : Status} {counts : List (Status × Nat)}
    {entry : Status × Nat} (member : entry ∈ countOnce status counts) :
    (entry.1 = status ∧ 0 < entry.2) ∨ entry ∈ counts := by
  induction counts with
  | nil =>
    cases List.mem_singleton.mp member
    exact .inl ⟨rfl, Nat.one_pos⟩
  | cons head rest ih => grind [countOnce]

/-- Each verdict is counted at most once, and they stand in summary order. -/
def InSummaryOrder (counts : List (Status × Nat)) : Prop :=
  counts.Pairwise fun left right => left.1.rank < right.1.rank

private theorem inSummaryOrder_countOnce (status : Status) {counts : List (Status × Nat)}
    (inOrder : InSummaryOrder counts) : InSummaryOrder (countOnce status counts) := by
  induction counts with
  | nil => exact List.pairwise_singleton _ _
  | cons head rest ih =>
    obtain ⟨other, count⟩ := head
    obtain ⟨bound, tail⟩ := List.pairwise_cons.mp inOrder
    rw [countOnce]
    split
    · exact List.pairwise_cons.mpr ⟨bound, tail⟩
    · rename_i different
      split
      · rename_i before
        refine List.pairwise_cons.mpr ⟨fun entry member => ?_, inOrder⟩
        rcases List.mem_cons.mp member with rfl | later
        · exact before
        · exact Nat.lt_trans before (bound entry later)
      · rename_i notBefore
        refine List.pairwise_cons.mpr ⟨fun entry member => ?_, ih tail⟩
        rcases mem_countOnce member with ⟨same, -⟩ | later
        · rw [same]
          exact Nat.lt_of_le_of_ne (Nat.le_of_not_lt notBefore)
            fun equal => different (Status.rank_injective equal).symm
        · exact bound entry later

private theorem lookup_countOnce {status : Status} {counts : List (Status × Nat)}
    (inOrder : InSummaryOrder counts) (other : Status) :
    (countOnce status counts).lookup other =
      if other = status then some ((counts.lookup status).getD 0 + 1)
      else counts.lookup other := by
  induction counts with
  | nil => grind [countOnce]
  | cons head rest ih =>
    obtain ⟨bound, tail⟩ := List.pairwise_cons.mp inOrder
    -- A verdict that belongs before the head is not among the others either.
    have absent (before : status.rank < head.1.rank) : rest.lookup status = none := by
      refine List.lookup_eq_none_iff.mpr fun entry member => bne_iff_ne.mpr ?_
      rintro rfl
      exact Nat.lt_asymm before (bound entry member)
    have others := ih tail
    grind [countOnce]

/-- Counts of verdicts. Only verdicts that occurred have one. -/
structure Tally where
  counts : List (Status × Nat)
  inOrder : InSummaryOrder counts
  positive : ∀ entry ∈ counts, 0 < entry.2
  deriving DecidableEq

namespace Tally

def empty : Tally := ⟨[], List.Pairwise.nil, nofun⟩

/-- Counts one more verdict. -/
def add (tally : Tally) (status : Status) : Tally where
  counts := countOnce status tally.counts
  inOrder := inSummaryOrder_countOnce status tally.inOrder
  positive entry member :=
    (mem_countOnce member).elim (·.2) (tally.positive entry)

/-- Counts verdicts one after the other. -/
def addAll (tally : Tally) (verdicts : List Status) : Tally := verdicts.foldl add tally

/-- How often a verdict was counted. -/
def count (tally : Tally) (status : Status) : Nat := (tally.counts.lookup status).getD 0

/-- How many verdicts were counted. -/
def total (tally : Tally) : Nat := tally.counts.foldr (fun entry total => entry.2 + total) 0

/-- The summary: the number of verdicts, then those that occurred, each with its count. -/
def summary (tally : Tally) : String :=
  let head := toString tally.total ++ (if tally.total = 1 then " test" else " tests")
  match tally.counts with
  | [] => head
  | counts =>
    head ++ ": " ++ String.intercalate ", "
      (counts.map fun (status, count) => toString count ++ " " ++ status.name)

variable (tally : Tally)

/-- One more verdict changes its own count and no other. -/
theorem count_add (status other : Status) :
    (tally.add status).count other = tally.count other + if other = status then 1 else 0 := by
  rw [count, add, lookup_countOnce tally.inOrder]
  split
  · simp [count, *]
  · rfl

theorem total_add (status : Status) : (tally.add status).total = tally.total + 1 := by
  simp only [total, add]
  induction tally.counts with
  | nil => rfl
  | cons head rest ih =>
    rw [countOnce]
    split
    · simp only [List.foldr_cons]
      omega
    · split <;> simp only [List.foldr_cons] <;> omega

theorem addAll_append (first second : List Status) :
    tally.addAll (first ++ second) = (tally.addAll first).addAll second :=
  List.foldl_append

/-- What is counted of verdicts is how often each occurs among them. -/
theorem count_addAll (verdicts : List Status) (status : Status) :
    (tally.addAll verdicts).count status = tally.count status + verdicts.count status := by
  induction verdicts generalizing tally with
  | nil => rfl
  | cons verdict rest ih =>
    rw [addAll, List.foldl_cons, ← addAll, ih, count_add, List.count_cons]
    grind

theorem total_addAll (verdicts : List Status) :
    (tally.addAll verdicts).total = tally.total + verdicts.length := by
  induction verdicts generalizing tally with
  | nil => rfl
  | cons verdict rest ih =>
    rw [addAll, List.foldl_cons, ← addAll, ih, total_add, List.length_cons]
    omega

/-- The counts that a tally holds are those of the verdicts that occurred. -/
theorem mem_counts_iff {status : Status} {number : Nat} :
    (status, number) ∈ tally.counts ↔ 0 < number ∧ number = tally.count status := by
  constructor
  · intro member
    refine ⟨tally.positive _ member, ?_⟩
    obtain ⟨before, after, listed⟩ := List.append_of_mem member
    have inOrder := tally.inOrder
    rw [InSummaryOrder, listed, List.pairwise_append] at inOrder
    have found : tally.counts.lookup status = some number := by
      refine List.lookup_eq_some_iff.mpr ⟨before, after, listed, fun entry early => ?_⟩
      have less : entry.1.rank < status.rank := inOrder.2.2 entry early _ List.mem_cons_self
      exact bne_iff_ne.mpr fun same => Nat.lt_irrefl _ (same ▸ less)
    rw [count, found]
    rfl
  · rintro ⟨occurs, same⟩
    rw [count] at same
    cases found : tally.counts.lookup status with
    | none =>
      rw [found] at same
      exact absurd same (Nat.ne_of_gt occurs)
    | some counted =>
      rw [found] at same
      obtain ⟨before, after, listed, -⟩ := List.lookup_eq_some_iff.mp found
      rw [listed, same]
      exact List.mem_append_right _ List.mem_cons_self

end Tally

/-! ### The log of progress -/

/-- The tests announced and concluded so far. -/
structure Progress where
  /-- The handle of the next announcement. -/
  nextHandle : Nat := 0
  /-- The handles of the tests that are running, with the path where it was announced. -/
  running : List (Nat × Option String) := []
  /-- The verdicts of concluded tests. -/
  tally : Tally := .empty
  deriving DecidableEq

namespace Progress

/-- The number of concluded tests. -/
def total (progress : Progress) : Nat := progress.tally.total

/-- The number of tests concluded with a verdict. -/
def count (progress : Progress) (status : Status) : Nat := progress.tally.count status

def summary (progress : Progress) : String := progress.tally.summary

/-- Announces a test under a new handle. Only a named test leaves an event. -/
def announce (progress : Progress) (path : Option String) : Progress × List Event :=
  ({ progress with
      nextHandle := progress.nextHandle + 1
      running := progress.running ++ [(progress.nextHandle, path)] },
    path.toList.map fun path =>
      { level := .info, speaker := .progress, message := "running " ++ path })

/-- Reports the verdict on a test; nothing is counted yet. -/
def report (path : String) (status : Status) : List Event :=
  [{ level := .info, speaker := .progress, message := status.name ++ ": " ++ path }]

/-- Concludes the test with this handle. A verdict counts even if the handle is not running. -/
def conclude (progress : Progress) (handle : Nat) (status : Status) : Progress × List Event :=
  let known := progress.running.any (·.1 == handle)
  let next : Progress :=
    { progress with
      running := progress.running.filter (·.1 != handle)
      tally := progress.tally.add status }
  let unknown : List Event :=
    if known then []
    else [{ level := .debug, speaker := .progress,
            message := "post_log called for unknown handle " ++ toString handle }]
  (next, unknown ++
    [{ level := .debug, speaker := .progress, message := "test complete"
       numbers := [("complete", next.total), ("running", next.running.length)] }])

end Progress

end Verdict
