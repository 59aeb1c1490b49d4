import Mathlib.Data.List.Nodup
import Verdict.Proofs.Execution.Crews
import Verdict.Proofs.Json.Lines
/-! Tests executed side by side. Every test keeps the handle under which it was announced, the
tests that are running are those announced and not yet concluded, and the journal is a shuffle of
what the tests write. Two invariants carry this through every schedule: one ties the tests to their
plans and the journal to the steps taken, the other ties the progress to the tests. -/
namespace Verdict

/-! ### Shuffles -/

/-- Several lists merged into one, with each in its own order. -/
inductive Shuffle {α : Type} : List (List α) → List α → Prop
  | done {parts : List (List α)} (empty : ∀ part ∈ parts, part = []) : Shuffle parts []
  | take {parts : List (List α)} {turn : Nat} {item : α} {rest merged : List α}
    (next : parts[turn]? = some (item :: rest)) (more : Shuffle (parts.set turn rest) merged) :
    Shuffle parts (item :: merged)

namespace Shuffle

variable {α β : Type} {parts : List (List α)} {merged : List α}

/-- Nothing is lost and nothing is doubled. -/
theorem perm (shuffle : Shuffle parts merged) : merged.Perm parts.flatten := by
  induction shuffle with
  | done empty => rw [List.flatten_eq_nil_iff.mpr empty]
  | @take parts turn item rest merged next more ih =>
    obtain ⟨bound, present⟩ := List.getElem?_eq_some_iff.mp next
    obtain ⟨before, after, listed, -, replaced⟩ := @List.exists_of_set _ turn rest parts bound
    rw [replaced] at ih
    rw [listed, present]
    simp only [List.flatten_append, List.flatten_cons, List.cons_append] at ih ⊢
    exact (ih.cons item).trans List.perm_middle.symm

/-- What is picked from the items of a shuffle is a shuffle of what is picked from its parts. -/
private theorem filterMap (pick : α → Option β) (shuffle : Shuffle parts merged) :
    Shuffle (parts.map (List.filterMap pick)) (merged.filterMap pick) := by
  induction shuffle with
  | done empty =>
    refine .done fun part member => ?_
    obtain ⟨whole, listed, rfl⟩ := List.mem_map.mp member
    rw [empty whole listed, List.filterMap_nil]
  | @take parts turn item rest merged next more ih =>
    rw [List.map_set] at ih
    have picked : (parts.map (List.filterMap pick))[turn]? =
        some ((item :: rest).filterMap pick) := by
      rw [List.getElem?_map, next, Option.map_some]
    cases chosen : pick item with
    | none =>
      rw [List.filterMap_cons_none chosen] at picked ⊢
      obtain ⟨bound, present⟩ := List.getElem?_eq_some_iff.mp picked
      rwa [← present, List.set_getElem_self] at ih
    | some value =>
      rw [List.filterMap_cons_some chosen] at picked ⊢
      exact .take picked ih

end Shuffle

/-! ### Steps in their order -/

/-- What a step makes of the handle of its test and of the progress. -/
def Step.mark (handle : Nat) (progress : Progress) : Step → Nat × Progress
  | .announce path => (progress.nextHandle, (progress.announce path).1)
  | .conclude status => (handle, (progress.conclude handle status).1)
  | _ => (handle, progress)

private theorem Task.advance_mark (handle : Nat) (step : Step) (rest : List Step)
    (failure : Option ExecuteError) (shared : Shared) :
    ((advance ⟨handle, step :: rest, failure⟩ shared).1.handle,
      (advance ⟨handle, step :: rest, failure⟩ shared).2.1.progress) =
      step.mark handle shared.progress := by
  cases step with
  | write entry =>
    simp only [advance]
    split <;> rfl
  | _ => rfl

/-- A plan that announces its test first and never again, and that reports a verdict and concludes
the test with it, each once. -/
structure Plan.Orderly (plan : Plan) : Prop where
  opens : ∃ path rest, plan.steps = .announce path :: rest ∧
    ∀ step ∈ rest, step.isAnnouncement = false
  verdict : ∃ path status, plan.steps.filterMap Step.reported? = [(path, status)] ∧
    plan.steps.filterMap Step.concluded? = [status]

namespace Plan.Orderly

variable {plan : Plan} {taken rest : List Step}

private theorem before_announcement (orderly : plan.Orderly) {path : Option String}
    (steps : plan.steps = taken ++ .announce path :: rest) : taken = [] := by
  obtain ⟨first, others, opens, silent⟩ := orderly.opens
  cases taken with
  | nil => rfl
  | cons head tail =>
    have listed : tail ++ .announce path :: rest = others :=
      (List.cons.inj (steps.symm.trans opens)).2
    have again := silent (.announce path) (by simp [← listed])
    cases again

private theorem before_conclusion (orderly : plan.Orderly) {status : Status}
    (steps : plan.steps = taken ++ .conclude status :: rest) :
    taken.any Step.isAnnouncement = true := by
  obtain ⟨first, others, opens, -⟩ := orderly.opens
  rw [steps] at opens
  cases taken with
  | nil => cases (List.cons.inj opens).1
  | cons head tail => simp [(List.cons.inj opens).1, Step.isAnnouncement]

/-- Of all verdicts a plan reports the one with which it concludes its test. -/
private theorem count_concluded (orderly : plan.Orderly) (status : Status) :
    (plan.steps.filterMap Step.concluded?).count status =
      if (plan.steps.filterMap Step.reported?).any (·.2 = status) then 1 else 0 := by
  obtain ⟨path, verdict, reported, concluded⟩ := orderly.verdict
  rw [reported, concluded]
  simp [List.count_singleton]

end Plan.Orderly

namespace Crew

/-! ### Steps and lines -/

/-- What holds of a crew on a working sink whatever its tests do: no step of a plan is left out or
taken out of its order, nothing fails, every entry is written as a whole, and every verdict is
counted. -/
structure Regular (plans : List Plan) (sink : Sink) (crew : Crew) : Prop where
  steps (turn : Nat) : crew.tasks[turn]?.map (fun task => crew.stepsOf turn ++ task.remaining) =
    plans[turn]?.map Plan.steps
  sound : ∀ task ∈ crew.tasks, task.failure = none
  working : crew.shared.sink.Working
  taken : crew.shared.sink.taken = sink.taken ++ crew.written.flatMap Entry.octets
  verdicts : crew.shared.progress.tally = .addAll .empty (crew.history.filterMap (·.2.concluded?))

section
variable {plans : List Plan} {sink : Sink} {crew : Crew}

theorem regular_start (working : sink.Working) : (start plans sink).Regular plans sink where
  steps turn := by
    simp only [start, stepsOf, List.getElem?_map, Option.map_map]
    rfl
  sound task member := by
    obtain ⟨plan, -, rfl⟩ := List.mem_map.mp member
    rfl
  working := working
  taken := (List.append_nil _).symm
  verdicts := rfl

theorem Regular.advance (regular : crew.Regular plans sink) (turn : Nat) :
    (crew.advance turn).Regular plans sink := by
  rcases crew.advance_cases turn with idle | ⟨handle, step, rest, failure, present, moved⟩
  · rwa [idle]
  · obtain ⟨bound, held⟩ := List.getElem?_eq_some_iff.mp present
    obtain ⟨⟨own, stepped⟩, works, taken⟩ :=
      Task.advance_working handle step rest failure regular.working
    rw [moved]
    refine ⟨fun other => ?_, fun task member => ?_, works, ?_, ?_⟩
    · rw [← regular.steps other, stepsOf_after, stepped]
      by_cases same : other = turn
      · subst same
        simp [after, bound, held]
      · simp [after, same, Ne.symm same]
    · rw [stepped] at member
      rcases List.mem_or_eq_of_mem_set member with old | rfl
      · exact regular.sound task old
      · exact regular.sound ⟨handle, step :: rest, _⟩ (List.mem_of_getElem? present)
    · calc _ = crew.shared.sink.taken ++ step.entry?.toList.flatMap Entry.octets := taken
        _ = sink.taken ++ (crew.written ++ step.entry?.toList).flatMap Entry.octets := by
          rw [regular.taken, List.append_assoc, List.flatMap_append]
        _ = _ := by rw [written, written, filterMap_history_after]
    · calc _ = crew.shared.progress.tally.addAll step.concluded?.toList :=
          Task.tally_advance handle step rest failure crew.shared
        _ = .addAll .empty (crew.history.filterMap (·.2.concluded?) ++ step.concluded?.toList) := by
          rw [regular.verdicts, Tally.addAll_append]
        _ = _ := by rw [filterMap_history_after]

theorem Regular.follow (regular : crew.Regular plans sink) (schedule : List Nat) :
    (crew.follow schedule).Regular plans sink := by
  induction schedule generalizing crew with
  | nil => exact regular
  | cons turn schedule ih => exact ih (regular.advance turn)

private theorem Regular.lt_length_iff (regular : crew.Regular plans sink) (turn : Nat) :
    turn < crew.tasks.length ↔ turn < plans.length := by
  have both : crew.tasks[turn]? = none ↔ plans[turn]? = none := by
    rw [← Option.map_eq_none_iff, regular.steps, Option.map_eq_none_iff]
  rw [List.getElem?_eq_none_iff, List.getElem?_eq_none_iff] at both
  omega

/-- A test whose turn it is stands between the steps it has taken and those it has left. -/
private theorem Regular.plan_of_next (regular : crew.Regular plans sink) {turn : Nat} {task : Task}
    (present : crew.tasks[turn]? = some task) :
    ∃ plan, plan ∈ plans ∧ plan.steps = crew.stepsOf turn ++ task.remaining := by
  have steps := regular.steps turn
  rw [present, Option.map_some, eq_comm, Option.map_eq_some_iff] at steps
  obtain ⟨plan, listed, steps⟩ := steps
  exact ⟨plan, List.mem_of_getElem? listed, steps⟩

end

/-! ### Handles -/

/-- The progress as it stands to the tests: every test that is announced has a handle of its own,
and those that run are the ones not yet concluded. -/
structure Tracked (crew : Crew) : Prop where
  fresh {turn handle : Nat} (given : crew.handle? turn = some handle) :
    handle < crew.shared.progress.nextHandle
  apart {left right handle : Nat} (given : crew.handle? left = some handle)
    (also : crew.handle? right = some handle) : left = right
  running (handle : Nat) : handle ∈ crew.shared.progress.running.map Prod.fst ↔
    ∃ turn, crew.handle? turn = some handle ∧ crew.concluded turn = false
  once : (crew.shared.progress.running.map Prod.fst).Nodup

section
variable {crew : Crew}

theorem tracked_start (plans : List Plan) (sink : Sink) : (start plans sink).Tracked := by
  have unknown (turn : Nat) : (start plans sink).handle? turn = none := rfl
  refine ⟨fun given => ?_, fun given => ?_, fun handle => ?_, List.nodup_nil⟩
  · cases (unknown _).symm.trans given
  · cases (unknown _).symm.trans given
  · simp only [unknown, reduceCtorEq, false_and, exists_false, iff_false]
    exact List.not_mem_nil

/-- Only what is observed of a crew decides whether its progress is right. -/
private theorem Tracked.congr {other : Crew} (tracked : crew.Tracked)
    (progress : other.shared.progress = crew.shared.progress)
    (handles : ∀ turn, other.handle? turn = crew.handle? turn)
    (concluded : ∀ turn, other.concluded turn = crew.concluded turn) : other.Tracked where
  fresh given := by
    rw [progress]
    exact tracked.fresh ((handles _).symm.trans given)
  apart given also :=
    tracked.apart ((handles _).symm.trans given) ((handles _).symm.trans also)
  running handle := by simpa only [progress, handles, concluded] using tracked.running handle
  once := by simpa only [progress] using tracked.once

variable {turn : Nat} {step : Step} {task old : Task} {shared : Shared}

private theorem Tracked.next_unused (tracked : crew.Tracked) (turn : Nat) :
    crew.handle? turn ≠ some crew.shared.progress.nextHandle :=
  fun given => Nat.lt_irrefl _ (tracked.fresh given)

/-- A test that has not taken a step is announced under the next handle. -/
private theorem Tracked.announce (tracked : crew.Tracked) (bound : turn < crew.tasks.length)
    (first : crew.stepsOf turn = []) {path : Option String}
    (given : task.handle = crew.shared.progress.nextHandle)
    (progress : shared.progress = (crew.shared.progress.announce path).1) :
    (crew.after turn (.announce path) task shared).Tracked := by
  have unknown : crew.handle? turn = none := by simp [handle?, announced, first]
  have pending : crew.concluded turn = false := by simp [concluded, first]
  have handles (other : Nat) : (crew.after turn (.announce path) task shared).handle? other =
      if other = turn then some crew.shared.progress.nextHandle else crew.handle? other := by
    rw [handle?_after bound, given]
    simp [Step.isAnnouncement]
  have kept (other : Nat) : (crew.after turn (.announce path) task shared).concluded other =
      crew.concluded other := by
    rw [concluded_after]
    simp [Step.concluded?]
  have running : (crew.after turn (.announce path) task shared).shared.progress.running.map
      Prod.fst = crew.shared.progress.running.map Prod.fst ++ [crew.shared.progress.nextHandle] := by
    simp [after, progress, Progress.announce]
  have counter : (crew.after turn (.announce path) task shared).shared.progress.nextHandle =
      crew.shared.progress.nextHandle + 1 := by
    simp [after, progress, Progress.announce]
  refine ⟨fun {other handle} found => ?_, fun {left right handle} found also => ?_,
    fun handle => ?_, ?_⟩
  · rw [counter]
    rw [handles] at found
    split at found
    · exact Nat.lt_succ_of_le (Nat.le_of_eq (Option.some.inj found).symm)
    · exact Nat.lt_succ_of_lt (tracked.fresh found)
  · rw [handles] at found also
    split at found <;> split at also
    next isTurn alsoTurn => rw [isTurn, alsoTurn]
    next => exact absurd (also.trans found.symm) (tracked.next_unused right)
    next => exact absurd (found.trans also.symm) (tracked.next_unused left)
    next => exact tracked.apart found also
  · rw [running, List.mem_append, List.mem_singleton, tracked.running]
    simp only [handles, kept]
    constructor
    · rintro (⟨other, found, going⟩ | rfl)
      · have different : other ≠ turn := by
          rintro rfl
          cases unknown.symm.trans found
        exact ⟨other, by rw [if_neg different, found], going⟩
      · exact ⟨turn, if_pos rfl, pending⟩
    · rintro ⟨other, found, going⟩
      split at found
      · exact .inr (Option.some.inj found).symm
      · exact .inl ⟨other, found, going⟩
  · rw [running, List.nodup_append]
    refine ⟨tracked.once, by simp, fun handle listed next isNext => ?_⟩
    obtain ⟨other, found, -⟩ := (tracked.running handle).mp listed
    rintro rfl
    exact tracked.next_unused other (List.mem_singleton.mp isNext ▸ found)

/-- A running test is concluded under its own handle, and no other test is concluded by it. -/
private theorem Tracked.conclude (tracked : crew.Tracked) (present : crew.tasks[turn]? = some old)
    (begun : crew.announced turn = true) {status : Status} (kept : task.handle = old.handle)
    (progress : shared.progress = (crew.shared.progress.conclude old.handle status).1) :
    (crew.after turn (.conclude status) task shared).Tracked := by
  have given : crew.handle? turn = some old.handle := by
    rw [handle?, if_pos begun, present, Option.map_some]
  have handles := @handle?_after_of_kept crew turn (.conclude status) task old shared present kept rfl
  have ended (other : Nat) : (crew.after turn (.conclude status) task shared).concluded other =
      (crew.concluded other || other = turn) := by
    rw [concluded_after]
    simp [Step.concluded?]
  have running : (crew.after turn (.conclude status) task shared).shared.progress.running.map
      Prod.fst = (crew.shared.progress.running.map Prod.fst).filter (· != old.handle) := by
    rw [List.filter_map]
    simp only [after, progress]
    rfl
  refine ⟨fun {other handle} found => ?_, fun {left right handle} found also => ?_,
    fun handle => ?_, ?_⟩
  · rw [handles] at found
    simp only [after, progress]
    exact tracked.fresh found
  · rw [handles] at found also
    exact tracked.apart found also
  · rw [running, List.mem_filter, tracked.running]
    simp only [handles, ended, Bool.or_eq_false_iff, decide_eq_false_iff_not, bne_iff_ne]
    constructor
    · rintro ⟨⟨other, found, going⟩, different⟩
      refine ⟨other, found, going, ?_⟩
      rintro rfl
      exact different (Option.some.inj (found.symm.trans given))
    · rintro ⟨other, found, going, different⟩
      refine ⟨⟨other, found, going⟩, ?_⟩
      rintro rfl
      exact different (tracked.apart found given)
  · rw [running]
    exact tracked.once.filter _

/-- One turn keeps the progress right, whatever the test whose turn it is does. -/
theorem Tracked.advance {plans : List Plan} {sink : Sink} (tracked : crew.Tracked)
    (regular : crew.Regular plans sink) (orderly : ∀ plan ∈ plans, plan.Orderly) (turn : Nat) :
    (crew.advance turn).Tracked := by
  rcases crew.advance_cases turn with idle | ⟨handle, step, rest, failure, present, moved⟩
  · rwa [idle]
  · obtain ⟨bound, -⟩ := List.getElem?_eq_some_iff.mp present
    obtain ⟨plan, listed, steps⟩ := regular.plan_of_next present
    have mark := Task.advance_mark handle step rest failure crew.shared
    rw [moved]
    cases step with
    | announce path =>
      have first := (orderly plan listed).before_announcement steps
      exact tracked.announce bound first (congrArg Prod.fst mark) (congrArg Prod.snd mark)
    | conclude status =>
      have begun := (orderly plan listed).before_conclusion steps
      exact tracked.conclude present begun (congrArg Prod.fst mark) (congrArg Prod.snd mark)
    -- The other steps touch neither the progress nor what is observed of any test.
    | _ =>
      refine tracked.congr (congrArg Prod.snd mark)
        (handle?_after_of_kept present (congrArg Prod.fst mark) rfl) fun other => ?_
      rw [concluded_after]
      simp [Step.concluded?]

theorem Tracked.follow {plans : List Plan} {sink : Sink} (tracked : crew.Tracked)
    (regular : crew.Regular plans sink) (orderly : ∀ plan ∈ plans, plan.Orderly)
    (schedule : List Nat) : (crew.follow schedule).Tracked := by
  induction schedule generalizing crew with
  | nil => exact tracked
  | cons turn schedule ih =>
    exact ih (tracked.advance regular orderly turn) (regular.advance turn)

/-- The tests that run are exactly those under way. -/
theorem Tracked.length_running (tracked : crew.Tracked) :
    crew.shared.progress.running.length = crew.underWay := by
  let going := (List.range crew.tasks.length).filter fun turn =>
    crew.announced turn && !crew.concluded turn
  have handled : ∀ turn ∈ going, (crew.handle? turn).isSome = true := by
    intro turn member
    simp only [going, List.mem_filter, List.mem_range, Bool.and_eq_true] at member
    simp [handle?, member.1, member.2.1]
  have apart : (going.filterMap crew.handle?).Nodup :=
    List.Nodup.filterMap (fun _ _ _ => tracked.apart) (List.nodup_range.filter _)
  have same (handle : Nat) : handle ∈ crew.shared.progress.running.map Prod.fst ↔
      handle ∈ going.filterMap crew.handle? := by
    rw [tracked.running, List.mem_filterMap]
    constructor
    · rintro ⟨turn, given, pending⟩
      obtain ⟨begun, bound⟩ := announced_of_handle? given
      exact ⟨turn, by simp [going, begun, bound, pending], given⟩
    · rintro ⟨turn, member, given⟩
      simp only [going, List.mem_filter, Bool.and_eq_true, Bool.not_eq_true'] at member
      exact ⟨turn, given, member.2.2⟩
  calc crew.shared.progress.running.length
      = (crew.shared.progress.running.map Prod.fst).length := (List.length_map _).symm
    _ = (going.filterMap crew.handle?).length :=
      ((List.perm_ext_iff_of_nodup tracked.once apart).mpr same).length_eq
    _ = going.length := List.filterMap_length_eq_length.mpr handled
    _ = crew.underWay := List.countP_eq_length_filter.symm

end

/-! ### Finishing -/

section
variable {plans : List Plan} {sink : Sink} {crew : Crew}

/-- What is written down of a schedule that leaves no step is a shuffle of the steps that were
left. -/
theorem Regular.shuffle_follow (regular : crew.Regular plans sink) {schedule : List Nat}
    (finished : (crew.follow schedule).Finished) :
    ∃ more, (crew.follow schedule).history = crew.history ++ more ∧
      Shuffle (crew.tasks.map Task.remaining) (more.map Prod.snd) := by
  -- The schedule is followed from its front, since the first step is the first of the shuffle.
  induction schedule generalizing crew with
  | nil =>
    refine ⟨[], (List.append_nil _).symm, .done fun part member => ?_⟩
    obtain ⟨task, listed, rfl⟩ := List.mem_map.mp member
    exact finished task listed
  | cons turn schedule ih =>
    obtain ⟨more, history, shuffle⟩ := ih (regular.advance turn) finished
    rcases crew.advance_cases turn with idle | ⟨handle, step, rest, failure, present, moved⟩
    · rw [idle] at shuffle
      exact ⟨more, history.trans (by rw [idle]), shuffle⟩
    · obtain ⟨⟨own, stepped⟩, -⟩ :=
        Task.advance_working handle step rest failure regular.working
      have next : (crew.tasks.map Task.remaining)[turn]? = some (step :: rest) := by
        rw [List.getElem?_map, present, Option.map_some]
      rw [moved, stepped, after, List.map_set] at shuffle
      exact ⟨(turn, step) :: more, history.trans (by simp [moved, after]), .take next shuffle⟩

/-- Of a finished crew, every test has taken the steps of its plan. -/
theorem Regular.stepsOf_of_finished (regular : crew.Regular plans sink)
    (finished : crew.Finished) :
    (List.range plans.length).map crew.stepsOf = plans.map Plan.steps := by
  refine List.ext_getElem (by simp) fun turn bound _ => ?_
  have listed : turn < plans.length := by simpa using bound
  have steps := regular.steps turn
  rw [List.getElem?_eq_getElem listed, Option.map_some, Option.map_eq_some_iff] at steps
  obtain ⟨task, present, steps⟩ := steps
  rw [finished task (List.mem_of_getElem? present), List.append_nil] at steps
  simpa using steps

/-- Over orderly plans, the verdicts concluded are those reported. -/
private theorem count_concluded_flatten (orderly : ∀ plan ∈ plans, plan.Orderly) (status : Status) :
    ((plans.map Plan.steps).flatten.filterMap Step.concluded?).count status =
      (plans.map Plan.steps).countP fun steps =>
        (steps.filterMap Step.reported?).any (·.2 = status) := by
  induction plans with
  | nil => rfl
  | cons plan plans ih =>
    have first := (orderly plan List.mem_cons_self).count_concluded status
    have others := ih fun plan member => orderly plan (List.mem_cons_of_mem _ member)
    rw [List.map_cons, List.flatten_cons, List.filterMap_append, List.count_append, first, others,
      List.countP_cons, Nat.add_comm]

/-- Of a finished crew, the tests counted under a verdict are those that reported it. -/
theorem Regular.count_of_finished (regular : crew.Regular plans sink)
    (orderly : ∀ plan ∈ plans, plan.Orderly) (finished : crew.Finished)
    (shuffle : Shuffle (plans.map Plan.steps) (crew.history.map Prod.snd)) (status : Status) :
    crew.shared.progress.count status =
      (List.range plans.length).countP fun turn => crew.logged turn status := by
  calc crew.shared.progress.count status
      = ((crew.history.map Prod.snd).filterMap Step.concluded?).count status := by
        rw [Progress.count, regular.verdicts, Tally.count_addAll, List.filterMap_map]
        exact Nat.zero_add _
    _ = ((plans.map Plan.steps).flatten.filterMap Step.concluded?).count status :=
        (shuffle.perm.filterMap _).count_eq status
    _ = (plans.map Plan.steps).countP fun steps =>
        (steps.filterMap Step.reported?).any (·.2 = status) :=
        count_concluded_flatten orderly status
    _ = (List.range plans.length).countP fun turn => crew.logged turn status := by
        rw [← regular.stepsOf_of_finished finished, List.countP_map]
        rfl

/-- Of a finished crew, every test was announced, has its handle and is concluded. -/
theorem Regular.done_of_finished (regular : crew.Regular plans sink)
    (orderly : ∀ plan ∈ plans, plan.Orderly) (finished : crew.Finished) {turn : Nat}
    (listed : turn < plans.length) :
    (crew.handle? turn).isSome = true ∧ crew.concluded turn = true := by
  have bound := (regular.lt_length_iff turn).mpr listed
  obtain ⟨plan, listed, steps⟩ :=
    regular.plan_of_next (List.getElem?_eq_getElem bound)
  rw [finished _ (List.getElem_mem bound), List.append_nil] at steps
  obtain ⟨path, rest, opens, -⟩ := (orderly plan listed).opens
  obtain ⟨-, verdict, -, once⟩ := (orderly plan listed).verdict
  have begun : crew.announced turn = true := by
    simp [announced, ← steps, opens, Step.isAnnouncement]
  refine ⟨by simp [handle?, begun, bound], ?_⟩
  have member : verdict ∈ plan.steps.filterMap Step.concluded? := by simp [once]
  obtain ⟨step, taken, concludes⟩ := List.mem_filterMap.mp member
  rw [concluded, ← steps, List.any_eq_true]
  exact ⟨step, taken, by rw [concludes]; rfl⟩

private theorem underWay_of_finished (regular : crew.Regular plans sink)
    (orderly : ∀ plan ∈ plans, plan.Orderly) (finished : crew.Finished) : crew.underWay = 0 := by
  rw [underWay, List.countP_eq_zero]
  intro turn member
  have listed := (regular.lt_length_iff turn).mp (List.mem_range.mp member)
  simp [(regular.done_of_finished orderly finished listed).2]

end

end Crew

/-! ### Jobs -/

/-- A test to be executed, with all that it has for itself. -/
structure Job where
  test : TestCase
  settings : Settings := {}
  kernelLog : KernelLog := {}
  surroundings : Surroundings
  path : String

/-- The steps of the test, and how it is conducted. -/
def Job.plan (job : Job) : Plan :=
  job.test.plan job.settings job.kernelLog job.surroundings job.path

/-- The entries that the test has for the journal: those of its record, or none if it is only
announced. -/
def Job.entries (job : Job) : List Entry :=
  if job.settings.execute then
    (job.test.conduct job.settings job.kernelLog job.surroundings job.path).record.entries job.path
  else []

/-- Executes the test of a job. -/
def Job.execute (job : Job) (shared : Shared) : Execution :=
  job.test.execute job.settings job.kernelLog job.surroundings job.path shared

/-- Executes tests one after the other, each on what the one before it has left. -/
def executeAll (jobs : List Job) (shared : Shared) : Shared :=
  jobs.foldl (fun shared job => (job.execute shared).shared) shared

theorem Job.orderly_plan (job : Job) : job.plan.Orderly := by
  obtain ⟨test, settings, kernelLog, surroundings, path⟩ := job
  cases enabled : settings.execute with
  | false =>
    simp only [plan, TestCase.plan, enabled, Plan.of]
    exact ⟨⟨_, _, rfl, by simp [Step.isAnnouncement]⟩, path, .dryRun, rfl, rfl⟩
  | true =>
    refine ⟨?_, path, _, @reports_of_execute test settings kernelLog surroundings path {} enabled⟩
    simp only [plan, TestCase.plan, enabled, if_true, Plan.of]
    exact ⟨_, _, rfl, by simp [Step.isAnnouncement]⟩

theorem Job.entries_plan (job : Job) : job.plan.entries = job.entries := by
  obtain ⟨test, settings, kernelLog, surroundings, path⟩ := job
  cases enabled : settings.execute with
  | false =>
    rw [entries, if_neg (by simp [enabled])]
    exact (test.plan_of_dryRun kernelLog surroundings path enabled).2
  | true =>
    rw [entries, if_pos enabled]
    exact @entries_of_execute settings kernelLog surroundings path test {} enabled

/-- However the steps of tests interleave that share the progress and a journal on a working sink:
their handles differ, the tests that run are those announced and not yet concluded, and the journal
has grown by the lines of the entries written so far, each whole. Once no step is left, and every
schedule can go on to that point, none has failed, none runs, each is counted under the verdict
that it reported, and the entries in the journal are a shuffle of what each test writes. Executing
the tests one after the other is one of the schedules. -/
theorem executes_interleave_safely (jobs : List Job) (sink : Sink) (schedule : List Nat)
    (working : sink.Working) :
    let crew := (Crew.start (jobs.map Job.plan) sink).follow schedule
    (∀ left right handle, crew.handle? left = some handle → crew.handle? right = some handle →
      left = right) ∧
    crew.shared.progress.running.length = crew.underWay ∧
    crew.shared.sink.taken = sink.taken ++ crew.written.flatMap Entry.octets ∧
    pieces Utf8.lineFeed (crew.written.flatMap Entry.octets) =
      crew.written.map Entry.line ++ [[]] ∧
    (crew.Finished →
      (∀ turn < jobs.length, (crew.handle? turn).isSome = true) ∧
      (∀ task ∈ crew.tasks, task.failure = none) ∧
      crew.shared.progress.running = [] ∧
      (∀ status, crew.shared.progress.count status =
        (List.range jobs.length).countP fun turn => crew.logged turn status) ∧
      Shuffle (jobs.map Job.entries) crew.written) ∧
    (∃ more, (crew.follow more).Finished) ∧
    ∃ oneByOne, let last := (Crew.start (jobs.map Job.plan) sink).follow oneByOne
      last.Finished ∧ last.shared = executeAll jobs { sink } := by
  intro crew
  let plans := jobs.map Job.plan
  have orderly : ∀ plan ∈ plans, plan.Orderly := by
    intro plan member
    obtain ⟨job, -, rfl⟩ := List.mem_map.mp member
    exact job.orderly_plan
  have begin : (Crew.start plans sink).Regular plans sink := Crew.regular_start working
  have regular : crew.Regular plans sink := begin.follow schedule
  have tracked : crew.Tracked := (Crew.tracked_start plans sink).follow begin orderly schedule
  have oneByOne : ∃ schedule, ((Crew.start plans sink).follow schedule).Finished ∧
      ((Crew.start plans sink).follow schedule).shared = executeAll jobs { sink } := by
    have alone := Crew.exists_follow_executes plans sink
    rwa [List.foldl_map] at alone
  refine ⟨fun _ _ _ => tracked.apart, tracked.length_running, regular.taken,
    pieces_flatMap_octets crew.written, fun finished => ?_, crew.exists_finished, oneByOne⟩
  have merged : Shuffle (plans.map Plan.steps) (crew.history.map Prod.snd) := by
    obtain ⟨more, history, shuffle⟩ := begin.shuffle_follow finished
    rw [history]
    simpa [Crew.start, Function.comp_def] using shuffle
  refine ⟨fun turn listed => ?_, regular.sound, ?_, fun status => ?_, ?_⟩
  · exact (regular.done_of_finished orderly finished (by simpa [plans] using listed)).1
  · rw [← List.length_eq_zero_iff, tracked.length_running,
      Crew.underWay_of_finished regular orderly finished]
  · simpa [plans] using regular.count_of_finished orderly finished merged status
  · have entries := merged.filterMap Step.entry?
    have each : (plans.map Plan.steps).map (List.filterMap Step.entry?) = jobs.map Job.entries := by
      simp only [plans, List.map_map]
      exact List.map_congr_left fun job _ => job.entries_plan
    rw [each, List.filterMap_map] at entries
    exact entries

/-- A dry run, a test with two subtests, and a test that panics before it runs. -/
def mixedJobs : List Job :=
  [{ test := { run := fun _ => { outcome := .ok (.record {}) } }
     settings := { execute := false }, surroundings := ⟨.zero, "main"⟩, path := "dry" },
   { test :=
      { run := fun _ =>
          { outcome := .ok (.record
              { result := some .pass
                subtest := some (.ofList [("a", .pass), ("b", .fail)]) }) } }
     surroundings := ⟨.zero, "main"⟩, path := "split" },
   { test :=
      { before := .error (.panic (.text "no display"))
        run := fun _ => { outcome := .ok (.record {}) } }
     surroundings := ⟨.zero, "main"⟩, path := "broken" }]

/-- Turns for the three jobs, so that the entry of the broken test stands between the two of the
split one. -/
def mixedSchedule : List Nat := [1, 2, 0, 1, 2, 1, 0, 1, 2, 1, 0, 2, 2, 1]

/-- The three jobs at the end of the schedule, on a sink that takes seven octets a call. -/
def mixedCrew : Crew :=
  (Crew.start (mixedJobs.map Job.plan) { chunk := some 7 }).follow mixedSchedule

theorem executes_interleave_safely_of_mixedJobs :
    Sink.Working { chunk := some 7 } ∧ mixedCrew.Finished ∧
      mixedCrew.shared.progress.running = [] ∧ mixedCrew.shared.progress.count .fail = 1 ∧
      mixedCrew.written.map Entry.path = ["split/a", "broken", "split/b"] ∧
      Shuffle (mixedJobs.map Job.entries) mixedCrew.written := by
  have working : Sink.Working { chunk := some 7 } := ⟨by decide, by simp, by simp⟩
  have finished : mixedCrew.Finished := by
    have all : mixedCrew.tasks.all (·.remaining.isEmpty) = true := by decide +kernel
    exact fun task member => List.isEmpty_iff.mp (List.all_eq_true.mp all task member)
  obtain ⟨-, -, -, -, ended, -, -⟩ :=
    executes_interleave_safely mixedJobs _ mixedSchedule working
  obtain ⟨-, -, idle, -, shuffle⟩ := ended finished
  exact ⟨working, finished, idle, by decide +kernel, by decide +kernel, shuffle⟩

end Verdict
