import Verdict.Execution
/-! Writing to a sink that works. Calls may be short or interrupted; still every line arrives whole
and in order, so what a test writes is what the sink has taken after it. -/
namespace Verdict

/-- A reaction that does no more than delay: something is taken, or the call is made again. -/
def Reaction.Harmless : Reaction → Prop
  | .take limit => 0 < limit
  | .interrupt => True
  | .fail _ | .panic => False

namespace Sink

/-- From now on every call for writing takes something or is interrupted, and flushing succeeds.
Whether the lock is poisoned does not matter. -/
structure Working (sink : Sink) : Prop where
  takes : sink.chunk ≠ some 0
  harmless {number : Nat} {reaction : Reaction} (planned : (number, reaction) ∈ sink.onWrite)
    (ahead : sink.writes ≤ number) : reaction.Harmless
  flushes {number : Nat} {ended : Written} (planned : (number, ended) ∈ sink.onFlush)
    (ahead : sink.flushes ≤ number) : ended = .ok

variable {sink : Sink}

private theorem Working.after_write (working : sink.Working) (taken : List UInt8) :
    Working { sink with writes := sink.writes + 1, taken } where
  takes := working.takes
  harmless planned ahead := working.harmless planned (Nat.le_of_succ_le ahead)
  flushes := working.flushes

private theorem Working.harmless_reaction (working : sink.Working) {size : Nat}
    (positive : 0 < size) : (sink.reaction size).Harmless := by
  unfold reaction
  cases found : sink.onWrite.lookup sink.writes with
  | some reaction =>
    obtain ⟨before, after, listed, -⟩ := List.lookup_eq_some_iff.mp found
    exact working.harmless (by rw [listed]; simp) (Nat.le_refl _)
  | none =>
    cases bound : sink.chunk with
    | none => exact positive
    | some chunk =>
      exact Nat.pos_of_ne_zero fun zero => working.takes (bound.trans (congrArg some zero))

/-- All octets arrive. The induction follows the calls: an interrupted call leaves the octets as
they are, any other takes some of them. -/
theorem Working.writeAll (working : sink.Working) (octets : List UInt8) :
    ∃ after : Sink, sink.writeAll octets = (after, .ok) ∧ after.Working ∧
      after.taken = sink.taken ++ octets := by
  have some {octets : List UInt8} (more : ¬ octets.isEmpty = true) : 0 < octets.length :=
    List.length_pos_iff.mpr (by simpa using more)
  fun_induction Sink.writeAll sink octets with
  | case1 sink octets finished =>
    rw [List.isEmpty_iff.mp finished, List.append_nil]
    exact ⟨sink, rfl, working, rfl⟩
  | case2 sink octets more next reacts ih => exact ih (working.after_write sink.taken)
  | case3 sink octets more next cause reacts =>
    have harmless := reacts ▸ working.harmless_reaction (some more)
    exact harmless.elim
  | case4 sink octets more next reacts =>
    have harmless := reacts ▸ working.harmless_reaction (some more)
    exact harmless.elim
  | case5 sink octets more next limit reacts size none =>
    have harmless := reacts ▸ working.harmless_reaction (some more)
    exact absurd none (Nat.ne_of_gt (Nat.lt_min.mpr ⟨harmless, some more⟩))
  | case6 sink octets more next limit reacts size takes ih =>
    obtain ⟨after, written, works, taken⟩ := ih (working.after_write _)
    refine ⟨after, written, works, ?_⟩
    rw [taken, List.append_assoc, List.take_append_drop]

private theorem Working.flush (working : sink.Working) :
    ∃ after : Sink, sink.flush = (after, .ok) ∧ after.Working ∧ after.taken = sink.taken := by
  have well : (sink.onFlush.lookup sink.flushes).getD .ok = .ok := by
    cases found : sink.onFlush.lookup sink.flushes with
    | none => rfl
    | some ended =>
      obtain ⟨before, after, listed, -⟩ := List.lookup_eq_some_iff.mp found
      exact working.flushes (by rw [listed]; simp) (Nat.le_refl _)
  refine ⟨{ sink with flushes := sink.flushes + 1 }, by rw [Sink.flush, well], ?_, rfl⟩
  exact ⟨working.takes, working.harmless, fun planned ahead =>
    working.flushes planned (Nat.le_of_succ_le ahead)⟩

theorem Working.writeEntry (working : sink.Working) (entry : Entry) :
    ∃ after : Sink, sink.writeEntry entry = (after, .ok) ∧ after.Working ∧
      after.taken = sink.taken ++ entry.octets := by
  obtain ⟨between, written, works, taken⟩ := working.writeAll entry.octets
  obtain ⟨after, flushed, worksAfter, takenAfter⟩ := works.flush
  refine ⟨after, ?_, worksAfter, by rw [takenAfter, taken]⟩
  simp only [Sink.writeEntry, locked_eq, writeLine, written, flushed]

/-! ### A poisoned lock -/

/-- The sink with a lock that nobody has poisoned. -/
def healed (sink : Sink) : Sink := { sink with poisoned := false }

private theorem writeAll_healed (sink : Sink) (octets : List UInt8) :
    sink.healed.writeAll octets =
      ((sink.writeAll octets).1.healed, (sink.writeAll octets).2) := by
  have same (sink : Sink) (size : Nat) : sink.healed.reaction size = sink.reaction size := rfl
  fun_induction Sink.writeAll sink octets <;> rw [writeAll] <;> grind [healed]

private theorem writeLine_healed (sink : Sink) (octets : List UInt8) :
    sink.healed.writeLine octets =
      ((sink.writeLine octets).1.healed, (sink.writeLine octets).2) := by
  simp only [writeLine, writeAll_healed]
  obtain ⟨after, ended⟩ := sink.writeAll octets
  cases ended <;> rfl

/-- An entry that makes the sink panic leaves the lock poisoned. -/
theorem poisoned_of_panicked {sink after : Sink} {entry : Entry}
    (panics : sink.writeEntry entry = (after, .panicked)) : after.poisoned = true := by
  rw [Sink.writeEntry, locked_eq] at panics
  rcases written : sink.writeLine entry.octets with ⟨left, ended⟩
  rw [written] at panics
  cases ended <;> cases panics
  rfl

/-- A poisoned lock changes neither what an entry leaves in the sink nor how writing it ends. -/
theorem writeEntry_healed (sink : Sink) (entry : Entry) :
    (sink.healed.writeEntry entry).1.healed = (sink.writeEntry entry).1.healed ∧
      (sink.healed.writeEntry entry).2 = (sink.writeEntry entry).2 := by
  simp only [Sink.writeEntry, locked_eq, writeLine_healed]
  obtain ⟨after, ended⟩ := sink.writeLine entry.octets
  cases ended <;> exact ⟨rfl, rfl⟩

end Sink

/-- The entry that a step writes, if it writes one. -/
def Step.entry? : Step → Option Entry
  | .write entry => some entry
  | _ => none

theorem filterMap_entry?_write (entries : List Entry) :
    (entries.map Step.write).filterMap Step.entry? = entries := by
  rw [List.filterMap_map]
  exact List.filterMap_some

namespace Task

/-- One step on a working sink: it is done, nothing fails, and the sink takes the line of its entry
or, if it writes none, nothing. -/
theorem advance_working (handle : Nat) (step : Step) (rest : List Step)
    (failure : Option ExecuteError) {shared : Shared} (working : shared.sink.Working) :
    (∃ own, (advance ⟨handle, step :: rest, failure⟩ shared).1 = ⟨own, rest, failure⟩) ∧
      (advance ⟨handle, step :: rest, failure⟩ shared).2.1.sink.Working ∧
      (advance ⟨handle, step :: rest, failure⟩ shared).2.1.sink.taken =
        shared.sink.taken ++ step.entry?.toList.flatMap Entry.octets := by
  cases step with
  | write entry =>
    obtain ⟨sink, written, works, taken⟩ := working.writeEntry entry
    simp only [advance, written]
    exact ⟨⟨handle, rfl⟩, works, by simpa [Step.entry?] using taken⟩
  | announce path => exact ⟨⟨_, rfl⟩, working, by simp [Step.entry?, advance]⟩
  | work events => exact ⟨⟨_, rfl⟩, working, by simp [Step.entry?, advance]⟩
  | report path status => exact ⟨⟨_, rfl⟩, working, by simp [Step.entry?, advance]⟩
  | conclude status => exact ⟨⟨_, rfl⟩, working, by simp [Step.entry?, advance]⟩

/-- A whole test on a working sink: all steps are done, nothing fails, and the sink has taken the
lines of its entries in their order, whatever else the steps did. -/
theorem finish_working (steps : List Step) (handle : Nat) (failure : Option ExecuteError)
    {shared : Shared} (working : shared.sink.Working) :
    (∃ own, (finish ⟨handle, steps, failure⟩ shared).1 = ⟨own, [], failure⟩) ∧
      (finish ⟨handle, steps, failure⟩ shared).2.1.sink.Working ∧
      (finish ⟨handle, steps, failure⟩ shared).2.1.sink.taken =
        shared.sink.taken ++ (steps.filterMap Step.entry?).flatMap Entry.octets := by
  induction steps generalizing handle shared with
  | nil =>
    rw [finish, dif_pos rfl]
    exact ⟨⟨handle, rfl⟩, working, by simp⟩
  | cons step rest ih =>
    obtain ⟨⟨next, stepped⟩, works, taken⟩ := advance_working handle step rest failure working
    obtain ⟨⟨own, finished⟩, worksLast, takenLast⟩ := ih next works
    rw [finish, dif_neg (by simp)]
    simp only [stepped]
    refine ⟨⟨own, finished⟩, worksLast, ?_⟩
    rw [takenLast, taken]
    cases entry : step.entry? <;> simp [entry]

end Task

/-- The entries that a plan writes, in their order. -/
def Plan.entries (plan : Plan) : List Entry := plan.steps.filterMap Step.entry?

/-- On a working sink an executed test does not fail, and its entries are written one after the
other behind what was there. -/
theorem Plan.execute_working (plan : Plan) {shared : Shared} (working : shared.sink.Working) :
    (plan.execute shared).failure = none ∧
      (plan.execute shared).shared.sink.taken =
        shared.sink.taken ++ plan.entries.flatMap Entry.octets := by
  obtain ⟨⟨own, finished⟩, -, taken⟩ := Task.finish_working plan.steps 0 none working
  exact ⟨congrArg Task.failure finished, taken⟩

end Verdict
