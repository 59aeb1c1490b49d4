import Mathlib.Algebra.GroupWithZero.Nat
import Verdict.Proofs.Execution.Containment
/-! Tests under way together. They share the progress and the journal, and a schedule says whose
turn it is; a step is never divided, but between two steps of one test the others may take any
number of theirs. The steps are those that a test takes when it is executed alone, and however far
the tests have come, they can all be finished. -/
namespace Verdict

/-! ### Crews -/

def Step.isAnnouncement : Step → Bool
  | .announce _ => true
  | _ => false

/-- Tests under way together: each where it stands, what they share, and the steps taken so far,
each with the number of the test that took it. -/
structure Crew where
  tasks : List Task
  shared : Shared
  history : List (Nat × Step) := []

namespace Crew

/-- All tests before their first step, with fresh progress. -/
def start (plans : List Plan) (sink : Sink) : Crew where
  tasks := plans.map fun plan => { remaining := plan.steps }
  shared := { sink }

/-- The crew after one of its tests has taken a step. -/
def after (crew : Crew) (turn : Nat) (step : Step) (task : Task) (shared : Shared) : Crew where
  tasks := crew.tasks.set turn task
  shared := shared
  history := crew.history ++ [(turn, step)]

/-- One turn: the test with this number takes its next step, if there is one. -/
def advance (crew : Crew) (turn : Nat) : Crew :=
  match crew.tasks[turn]? with
  | none => crew
  | some task =>
    match task.remaining with
    | [] => crew
    | step :: _ =>
      let next := task.advance crew.shared
      crew.after turn step next.1 next.2.1

/-- The crew after all turns of a schedule. -/
def follow (crew : Crew) (schedule : List Nat) : Crew := schedule.foldl advance crew

/-- No test has a step left. -/
def Finished (crew : Crew) : Prop := ∀ task ∈ crew.tasks, task.remaining = []

section
variable (crew : Crew) (turn : Nat)

/-- The steps that a test has taken. -/
def stepsOf : List Step := (crew.history.filter (·.1 = turn)).map Prod.snd

def announced : Bool := (crew.stepsOf turn).any Step.isAnnouncement

def concluded : Bool := (crew.stepsOf turn).any (·.concluded?.isSome)

/-- Whether a test has reported this verdict. -/
def logged (status : Status) : Bool :=
  ((crew.stepsOf turn).filterMap Step.reported?).any (·.2 = status)

/-- The handle that a test was given, once it is announced. -/
def handle? : Option Nat :=
  if crew.announced turn then crew.tasks[turn]?.map Task.handle else none

/-- The number of tests that are announced and not yet concluded. -/
def underWay : Nat :=
  (List.range crew.tasks.length).countP fun turn => crew.announced turn && !crew.concluded turn

/-- The entries written so far, in the order of writing. -/
def written : List Entry := crew.history.filterMap fun taken => Step.entry? taken.2

end

/-! ### Single turns -/

section
variable {crew : Crew} {turn : Nat}

private theorem advance_of_next {task : Task} {step : Step} {rest : List Step}
    (present : crew.tasks[turn]? = some task) (next : task.remaining = step :: rest) :
    crew.advance turn = crew.after turn step (task.advance crew.shared).1
      (task.advance crew.shared).2.1 := by
  simp only [advance, present, next]

/-- A turn is for nothing, or it is the next step of the test with that number. -/
theorem advance_cases (crew : Crew) (turn : Nat) :
    crew.advance turn = crew ∨
      ∃ handle step rest failure, crew.tasks[turn]? = some ⟨handle, step :: rest, failure⟩ ∧
        crew.advance turn =
          crew.after turn step (Task.advance ⟨handle, step :: rest, failure⟩ crew.shared).1
            (Task.advance ⟨handle, step :: rest, failure⟩ crew.shared).2.1 := by
  cases present : crew.tasks[turn]? with
  | none => exact .inl (by simp only [advance, present])
  | some task =>
    obtain ⟨handle, remaining, failure⟩ := task
    cases remaining with
    | nil => exact .inl (by simp only [advance, present])
    | cons step rest =>
      exact .inr ⟨handle, step, rest, failure, rfl, advance_of_next present rfl⟩

variable {step : Step} {task old : Task} {shared : Shared}

theorem stepsOf_after (other : Nat) :
    (crew.after turn step task shared).stepsOf other =
      if other = turn then crew.stepsOf other ++ [step] else crew.stepsOf other := by
  unfold stepsOf after
  rw [List.filter_append, List.map_append]
  split
  next same => simp [same]
  next different => simp [Ne.symm different]

theorem filterMap_history_after {β : Type} (pick : Step → Option β) :
    (crew.after turn step task shared).history.filterMap (fun taken => pick taken.2) =
      crew.history.filterMap (fun taken => pick taken.2) ++ (pick step).toList := by
  cases picked : pick step <;> simp [after, picked]

private theorem announced_after (other : Nat) :
    (crew.after turn step task shared).announced other =
      (crew.announced other || (other = turn && step.isAnnouncement)) := by
  unfold announced
  rw [stepsOf_after]
  split <;> simp [*]

theorem concluded_after (other : Nat) :
    (crew.after turn step task shared).concluded other =
      (crew.concluded other || (other = turn && step.concluded?.isSome)) := by
  unfold concluded
  rw [stepsOf_after]
  split <;> simp [*]

theorem handle?_after (present : turn < crew.tasks.length) (other : Nat) :
    (crew.after turn step task shared).handle? other =
      if other = turn then
        if crew.announced turn || step.isAnnouncement then some task.handle else none
      else crew.handle? other := by
  unfold handle?
  rw [announced_after]
  by_cases same : other = turn
  · subst same
    simp [after, present]
  · simp [after, same, Ne.symm same]

/-- Apart from announcements, a step leaves all handles as they are. -/
theorem handle?_after_of_kept (present : crew.tasks[turn]? = some old)
    (kept : task.handle = old.handle) (silent : step.isAnnouncement = false) (other : Nat) :
    (crew.after turn step task shared).handle? other = crew.handle? other := by
  obtain ⟨bound, -⟩ := List.getElem?_eq_some_iff.mp present
  rw [handle?_after bound]
  by_cases same : other = turn
  · rw [if_pos same, silent, Bool.or_false, same, handle?, present, kept, Option.map_some]
  · rw [if_neg same]

theorem announced_of_handle? {handle : Nat} (given : crew.handle? turn = some handle) :
    crew.announced turn = true ∧ turn < crew.tasks.length := by
  unfold handle? at given
  split at given
  next begun =>
    obtain ⟨task, present, -⟩ := Option.map_eq_some_iff.mp given
    exact ⟨begun, (List.getElem?_eq_some_iff.mp present).1⟩
  next => cases given

end

/-! ### Going on -/

variable {crew : Crew}

/-- The number of steps that are left. -/
def stepsLeft (crew : Crew) : Nat := (crew.tasks.map (·.remaining.length)).sum

private theorem stepsLeft_advance_lt {turn : Nat} {task : Task}
    (present : crew.tasks[turn]? = some task)
    (busy : task.remaining ≠ []) : (crew.advance turn).stepsLeft < crew.stepsLeft := by
  obtain ⟨step, rest, next⟩ := List.exists_cons_of_ne_nil busy
  obtain ⟨bound, held⟩ := List.getElem?_eq_some_iff.mp present
  obtain ⟨before, later, listed, -, replaced⟩ :=
    @List.exists_of_set _ turn (task.advance crew.shared).1 crew.tasks bound
  have shorter := task.advance_shortens crew.shared busy
  rw [advance_of_next present next]
  simp only [stepsLeft, after, replaced]
  rw [listed, held]
  simp only [List.map_append, List.map_cons, List.sum_append, List.sum_cons]
  omega

/-- However far a crew has come, its tests can take all the steps that are left. -/
theorem exists_finished (crew : Crew) : ∃ schedule, (crew.follow schedule).Finished := by
  induction left : crew.stepsLeft using Nat.strongRecOn generalizing crew with
  | ind left ih =>
    by_cases busy : ∃ task ∈ crew.tasks, task.remaining ≠ []
    · obtain ⟨task, member, busy⟩ := busy
      obtain ⟨turn, present⟩ := List.mem_iff_getElem?.mp member
      obtain ⟨schedule, finishes⟩ :=
        ih _ (left ▸ stepsLeft_advance_lt present busy) (crew.advance turn) rfl
      exact ⟨turn :: schedule, finishes⟩
    · refine ⟨[], fun task member => ?_⟩
      exact Decidable.byContradiction fun remaining => busy ⟨task, member, remaining⟩

/-! ### Tests on their own -/

private theorem follow_append (first second : List Nat) :
    crew.follow (first ++ second) = (crew.follow first).follow second :=
  List.foldl_append

/-- A test whose turn it always is comes to what it comes to when it is executed alone, and leaves
the others where they stand. -/
theorem exists_follow_finish {turn : Nat} {task : Task} (present : crew.tasks[turn]? = some task) :
    ∃ schedule, (crew.follow schedule).tasks = crew.tasks.set turn (task.finish crew.shared).1 ∧
      (crew.follow schedule).shared = (task.finish crew.shared).2.1 := by
  obtain ⟨tasks, shared, history⟩ := crew
  simp only at present ⊢
  obtain ⟨bound, held⟩ := List.getElem?_eq_some_iff.mp present
  fun_induction Task.finish task shared generalizing tasks history
  case case1 task shared idle =>
    refine ⟨[], ?_, rfl⟩
    rw [← held, List.set_getElem_self]
    rfl
  case case2 task shared busy next last after events finished ih =>
    obtain ⟨step, rest, remaining⟩ := List.exists_cons_of_ne_nil busy
    obtain ⟨schedule, ended, left⟩ := ih (tasks.set turn next.1) (history ++ [(turn, step)])
      (List.getElem?_set_self bound) (by simpa using bound) (List.getElem_set_self _)
    have first : advance ⟨tasks, shared, history⟩ turn =
        ⟨tasks.set turn next.1, next.2.1, history ++ [(turn, step)]⟩ :=
      advance_of_next present remaining
    rw [finished, List.set_set] at ended
    rw [finished] at left
    refine ⟨turn :: schedule, ?_, ?_⟩
    · rw [follow, List.foldl_cons, first]
      exact ended
    · rw [follow, List.foldl_cons, first]
      exact left

private theorem remaining_finish (task : Task) (shared : Shared) :
    (task.finish shared).1.remaining = [] := by
  fun_induction Task.finish task shared
  case case1 task shared idle => exact idle
  case case2 task shared busy next last after events finished ih => rwa [finished] at ih

/-- Some tests are done, and the others take their turns one after the other, each until it is done
as well. They leave what executing them one after the other leaves. -/
private theorem exists_follow_rest (plans : List Plan) {done : List Task}
    (tasks : crew.tasks = done ++ plans.map fun plan => { remaining := plan.steps })
    (idle : ∀ task ∈ done, task.remaining = []) :
    ∃ schedule, (crew.follow schedule).Finished ∧ (crew.follow schedule).shared =
      plans.foldl (fun shared plan => (plan.execute shared).shared) crew.shared := by
  induction plans generalizing crew done with
  | nil =>
    rw [List.map_nil, List.append_nil] at tasks
    exact ⟨[], fun task member => idle task (tasks ▸ member), rfl⟩
  | cons plan plans ih =>
    let task : Task := { remaining := plan.steps }
    have present : crew.tasks[done.length]? = some task := by simp [tasks, task]
    obtain ⟨first, ended, left⟩ := exists_follow_finish present
    have others : (crew.follow first).tasks = done ++ [(task.finish crew.shared).1] ++
        plans.map fun plan => { remaining := plan.steps } := by
      simp [ended, tasks]
    obtain ⟨rest, finishes, leftLast⟩ := ih others fun other member => by
      rcases List.mem_append.mp member with old | new
      · exact idle other old
      · exact List.mem_singleton.mp new ▸ remaining_finish task crew.shared
    refine ⟨first ++ rest, ?_, ?_⟩
    · rwa [follow_append]
    · rw [follow_append, leftLast, left]
      rfl

/-- Executing tests one after the other is one of the schedules that they can follow. -/
theorem exists_follow_executes (plans : List Plan) (sink : Sink) :
    ∃ schedule, ((start plans sink).follow schedule).Finished ∧
      ((start plans sink).follow schedule).shared =
        plans.foldl (fun shared plan => (plan.execute shared).shared) { sink } :=
  exists_follow_rest plans (List.nil_append _).symm nofun

end Crew

end Verdict
