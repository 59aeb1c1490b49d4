import Mathlib.Data.List.Induction
import Mathlib.Data.Set.Card
import Verdict.Progress
/-! What the log of progress knows after any calls, in any order and with any handles. Handles are
given out in their order and never twice; an announcement waits until its own handle is concluded,
and nothing else ends it; every conclusion is counted, also one under a handle that is unknown or
was concluded before. -/
namespace Verdict.Progress

/-! ### Calls -/

/-- A call to the log of progress. -/
inductive Request where
  | announce (path : Option String)
  | report (path : String) (status : Status)
  | conclude (handle : Nat) (status : Status)
  deriving DecidableEq

/-- The verdict of a conclusion. -/
def Request.verdict? : Request → Option Status
  | .conclude _ status => some status
  | _ => none

/-- The progress after a call. -/
def serve (progress : Progress) : Request → Progress
  | .announce path => (progress.announce path).1
  | .report _ _ => progress
  | .conclude handle status => (progress.conclude handle status).1

/-- The handle that a call returns; only announcements return one. -/
def answer? (progress : Progress) : Request → Option Nat
  | .announce _ => some progress.nextHandle
  | _ => none

/-- The progress after calls made one after the other, from the very start. -/
def served (requests : List Request) : Progress := requests.foldl serve {}

/-- The handles that calls return, in the order of the calls. -/
def answers (progress : Progress) : List Request → List Nat
  | [] => []
  | request :: rest => (progress.answer? request).toList ++ answers (progress.serve request) rest

/-- An announcement that is not concluded: the calls after it conclude its handle nowhere. A
conclusion before the handle was given out does not count. -/
def Awaited (requests : List Request) (handle : Nat) (path : Option String) : Prop :=
  ∃ before later, requests = before ++ .announce path :: later ∧
    handle = (served before).nextHandle ∧ ∀ status, .conclude handle status ∉ later

/-- A summary of verdicts: how many there are, then those that occur, each once and in their order,
with how often it occurs. -/
def Summarizes (verdicts : List Status) (text : String) : Prop :=
  ∃ counts : List (Status × Nat),
    counts.Pairwise (fun left right => left.1.rank < right.1.rank) ∧
    (∀ status count, (status, count) ∈ counts ↔ 0 < count ∧ count = verdicts.count status) ∧
    (counts.map Prod.snd).sum = verdicts.length ∧
    text = toString verdicts.length ++ (if verdicts.length = 1 then " test" else " tests") ++
      if counts = [] then ""
      else ": " ++ String.intercalate ", " (counts.map fun entry =>
        toString entry.2 ++ " " ++ entry.1.name)

variable {requests : List Request}

private theorem served_concat (requests : List Request) (request : Request) :
    served (requests ++ [request]) = (served requests).serve request := by
  simp [served]

private theorem answers_concat (progress : Progress) (requests : List Request) (request : Request) :
    answers progress (requests ++ [request]) =
      answers progress requests ++ ((requests.foldl serve progress).answer? request).toList := by
  induction requests generalizing progress with
  | nil => simp [answers]
  | cons first rest ih => simp [answers, ih]

/-- Every call returns a handle, or it has a verdict, or it is neither. -/
private theorem length_answers_le (progress : Progress) (requests : List Request) :
    (answers progress requests).length + (requests.filterMap Request.verdict?).length ≤
      requests.length := by
  induction requests generalizing progress with
  | nil => exact Nat.le_refl 0
  | cons request rest ih =>
    have others := ih (progress.serve request)
    rw [answers, List.length_append, List.length_cons, List.filterMap_cons]
    cases request <;> simp only [answer?, Request.verdict?, Option.toList, List.length_cons,
      List.length_nil] <;> omega

/-- One more call is a new announcement, or it leaves those waiting that it does not conclude. -/
private theorem awaited_concat {request : Request} {handle : Nat} {path : Option String} :
    Awaited (requests ++ [request]) handle path ↔
      (request = .announce path ∧ handle = (served requests).nextHandle) ∨
        Awaited requests handle path ∧ ∀ status, request ≠ .conclude handle status := by
  constructor
  · rintro ⟨before, later, listed, given, pending⟩
    rcases List.eq_nil_or_concat later with rfl | ⟨between, last, rfl⟩
    · obtain ⟨rfl, announced⟩ := List.append_inj' listed rfl
      exact .inl ⟨List.singleton_inj.mp announced, given⟩
    · rw [List.concat_eq_append] at listed pending
      rw [← List.cons_append, ← List.append_assoc] at listed
      obtain ⟨earlier, same⟩ := List.append_inj' listed rfl
      obtain rfl := List.singleton_inj.mp same
      refine .inr ⟨⟨before, between, earlier, given, fun status member => ?_⟩,
        fun status concluded => ?_⟩
      · exact pending status (List.mem_append_left _ member)
      · exact pending status (List.mem_append_right _ (concluded ▸ List.mem_singleton_self _))
  · rintro (⟨rfl, given⟩ | ⟨⟨before, later, rfl, given, pending⟩, different⟩)
    · exact ⟨requests, [], rfl, given, fun _ => List.not_mem_nil⟩
    · refine ⟨before, later ++ [request], by simp, given, fun status member => ?_⟩
      rcases List.mem_append.mp member with early | last
      · exact pending status early
      · exact different status (List.mem_singleton.mp last).symm

/-! ### The books -/

/-- How the progress stands to the calls made so far. -/
structure Booked (requests : List Request) (progress : Progress) : Prop where
  answered : answers {} requests = List.range progress.nextHandle
  fresh {entry : Nat × Option String} (running : entry ∈ progress.running) :
    entry.1 < progress.nextHandle
  once : (progress.running.map Prod.fst).Nodup
  awaited (handle : Nat) (path : Option String) :
    (handle, path) ∈ progress.running ↔ Awaited requests handle path
  verdicts : progress.tally = .addAll .empty (requests.filterMap Request.verdict?)

theorem booked_start : Booked [] {} where
  answered := rfl
  fresh running := absurd running List.not_mem_nil
  once := List.nodup_nil
  awaited handle path := by simp [Awaited]
  verdicts := rfl

section
variable (booked : Booked requests (served requests))
include booked

private theorem Booked.tally_serve (request : Request) : ((served requests).serve request).tally =
    .addAll .empty ((requests ++ [request]).filterMap Request.verdict?) := by
  rw [List.filterMap_append, Tally.addAll_append, ← booked.verdicts]
  cases request <;> rfl

theorem Booked.announce (path : Option String) :
    Booked (requests ++ [.announce path]) ((served requests).announce path).1 where
  answered := by
    rw [answers_concat, booked.answered]
    exact List.range_succ.symm
  fresh running := by
    rcases List.mem_append.mp running with old | new
    · exact Nat.lt_succ_of_lt (booked.fresh old)
    · exact List.mem_singleton.mp new ▸ Nat.lt_succ_self _
  once := by
    simp only [Progress.announce, List.map_append, List.map_singleton]
    rw [← List.concat_eq_append, List.nodup_concat]
    refine ⟨fun member => ?_, booked.once⟩
    obtain ⟨entry, running, same⟩ := List.mem_map.mp member
    exact Nat.ne_of_lt (booked.fresh running) same
  awaited handle other := by
    simp only [Progress.announce, List.mem_append, List.mem_singleton, awaited_concat,
      booked.awaited, Prod.mk.injEq, Request.announce.injEq, ne_eq, reduceCtorEq, not_false_eq_true,
      implies_true, and_true]
    rw [or_comm, and_comm, @eq_comm _ other]
  verdicts := booked.tally_serve (.announce path)

theorem Booked.conclude (handle : Nat) (status : Status) :
    Booked (requests ++ [.conclude handle status]) ((served requests).conclude handle status).1 where
  answered := by
    rw [answers_concat, booked.answered]
    exact List.append_nil _
  fresh running := booked.fresh (List.mem_filter.mp running).1
  once := booked.once.sublist (List.filter_sublist.map Prod.fst)
  awaited other path := by
    simp only [Progress.conclude, List.mem_filter, booked.awaited, awaited_concat, bne_iff_ne,
      ne_eq, reduceCtorEq, false_and, false_or, Request.conclude.injEq, not_and]
    refine and_congr_right fun _ => ?_
    exact ⟨fun different _ same => absurd same.symm different,
      fun different same => different status same.symm rfl⟩
  verdicts := booked.tally_serve (.conclude handle status)

theorem Booked.report (path : String) (status : Status) :
    Booked (requests ++ [.report path status]) (served requests) where
  answered := by
    rw [answers_concat, booked.answered]
    exact List.append_nil _
  fresh := booked.fresh
  once := booked.once
  awaited handle other := by simpa [awaited_concat] using booked.awaited handle other
  verdicts := booked.tally_serve (.report path status)

end

/-- Every call keeps the books, whatever handle it names. -/
theorem booked_served (requests : List Request) : Booked requests (served requests) := by
  induction requests using List.reverseRecOn with
  | nil => exact booked_start
  | append_singleton requests request booked =>
    rw [served_concat]
    cases request with
    | announce path => exact booked.announce path
    | report path status => exact booked.report path status
    | conclude handle status => exact booked.conclude handle status

private theorem Booked.length_running (booked : Booked requests (served requests)) :
    (served requests).running.length = {handle | ∃ path, Awaited requests handle path}.ncard := by
  have same : {handle | ∃ path, Awaited requests handle path} =
      ((served requests).running.map Prod.fst).toFinset := by
    ext handle
    simp [booked.awaited]
  rw [same, Set.ncard_coe_finset, List.toFinset_card_of_nodup booked.once, List.length_map]

/-! ### The summary -/

/-- The summary of a tally is that of the verdicts that were counted. -/
theorem summarizes_summary (verdicts : List Status) :
    Summarizes verdicts (Tally.addAll .empty verdicts).summary := by
  have counted (status : Status) :
      (Tally.addAll .empty verdicts).count status = verdicts.count status :=
    (Tally.empty.count_addAll verdicts status).trans (Nat.zero_add _)
  have length : (Tally.addAll .empty verdicts).total = verdicts.length :=
    (Tally.empty.total_addAll verdicts).trans (Nat.zero_add _)
  generalize Tally.addAll .empty verdicts = tally at counted length
  refine ⟨tally.counts, tally.inOrder, fun status count => ?_, ?_, ?_⟩
  · rw [tally.mem_counts_iff, counted]
  · rw [← length, Tally.total, List.sum, List.foldr_map]
  · rw [Tally.summary, length]
    cases tally.counts with
    | nil =>
      rw [if_pos rfl, String.append_empty]
    | cons first rest =>
      rw [if_neg (List.cons_ne_nil first rest), ← String.append_assoc]

/-- After any calls: no handle was returned twice, and the next one is greater than all that are
running. What is running are the announcements that are not concluded, each under the handle that
was returned for it and with its path. All conclusions are counted, each under its verdict, and the
summary shows these counts. Handles and counts never exceed the number of calls, so they fit a
machine word unless more calls are made than it can count. -/
theorem served_keeps_books (requests : List Request) :
    let progress := served requests
    let verdicts := requests.filterMap Request.verdict?
    (answers {} requests).Nodup ∧
    (∀ handle ∈ progress.running.map Prod.fst, handle < progress.nextHandle) ∧
    (progress.running.map Prod.fst).Nodup ∧
    (∀ handle path, (handle, path) ∈ progress.running ↔ Awaited requests handle path) ∧
    progress.running.length = {handle | ∃ path, Awaited requests handle path}.ncard ∧
    progress.total = verdicts.length ∧
    (∀ status, progress.count status = verdicts.count status) ∧
    Summarizes verdicts progress.summary ∧
    progress.nextHandle + progress.total ≤ requests.length := by
  intro progress verdicts
  have booked : Booked requests progress := booked_served requests
  have total : progress.total = verdicts.length := by
    rw [Progress.total, booked.verdicts, Tally.total_addAll]
    exact Nat.zero_add _
  refine ⟨booked.answered ▸ List.nodup_range, fun handle member => ?_, booked.once, booked.awaited,
    booked.length_running, total, fun status => ?_, ?_, ?_⟩
  · obtain ⟨entry, running, rfl⟩ := List.mem_map.mp member
    exact booked.fresh running
  · rw [count, booked.verdicts, Tally.count_addAll]
    exact Nat.zero_add _
  · rw [summary, booked.verdicts]
    exact summarizes_summary verdicts
  · have given : (answers {} requests).length = progress.nextHandle := by
      rw [booked.answered, List.length_range]
    rw [total, ← given]
    exact length_answers_le {} requests

/-- Calls with handles that were not given out yet, that were concluded before, or that never are. -/
def strayRequests : List Request :=
  [.conclude 1 .pass, .announce (some "spec/a"), .announce none, .report "spec/a" .crash,
    .conclude 0 .crash, .conclude 0 .crash, .conclude 7 .pass]

/-- The second test still runs, for its handle was concluded only before it was given out, and each
of the four conclusions counts. -/
theorem served_keeps_books_of_strayRequests :
    let progress := served strayRequests
    (1 ∈ progress.running.map Prod.fst ∧ 1 < progress.nextHandle) ∧
      Awaited strayRequests 1 none ∧ (∀ path, ¬ Awaited strayRequests 0 path) ∧
      progress.running.length = 1 ∧ progress.total = 4 ∧
      progress.summary = "4 tests: 2 pass, 2 crash" := by
  intro progress
  obtain ⟨-, below, -, awaited, -, total, -⟩ := served_keeps_books strayRequests
  have running : progress.running = [(1, none)] := by decide
  have member : 1 ∈ progress.running.map Prod.fst := by simp [running]
  refine ⟨⟨member, below 1 member⟩, (awaited 1 none).mp (by simp [progress, running]),
    fun path waits => ?_, by rw [running]; rfl, total, by decide +kernel⟩
  have listed := (awaited 0 path).mpr waits
  rw [show served strayRequests = progress from rfl, running] at listed
  simp at listed

end Verdict.Progress
