/-! Computations that may be refused: what was done when none of their steps was refused, and when
that is. -/
namespace Verdict

variable {ε α β σ : Type}

/-! ### What was done -/

theorem bind_eq_ok_iff {first : Except ε α} {next : α → Except ε β} {result : β} :
    (first >>= next) = .ok result ↔ ∃ value, first = .ok value ∧ next value = .ok result := by
  cases first <;> simp [bind, Except.bind]

theorem pure_eq_ok_iff {value result : α} :
    (pure value : Except ε α) = .ok result ↔ value = result := by
  simp [pure, Except.pure]

theorem map_eq_ok_iff {first : Except ε α} {change : α → β} {result : β} :
    change <$> first = .ok result ↔ ∃ value, first = .ok value ∧ change value = result := by
  cases first <;> simp [Functor.map, Except.map]

theorem mapError_eq_ok_iff {δ : Type} {first : Except ε α} {change : ε → δ} {result : α} :
    first.mapError change = .ok result ↔ first = .ok result := by
  cases first with
  | error refusal => exact ⟨nofun, nofun⟩
  | ok value =>
    constructor <;>
    · intro same
      cases same
      rfl

theorem toOption_eq_some_iff {result : Except ε α} {value : α} :
    result.toOption = some value ↔ result = .ok value := by
  cases result <;> simp [Except.toOption]

/-- Reading items one by one keeps of each item what it was read as. -/
theorem mapM_eq_ok {read : α → Except ε β} {means : α → Option β}
    (reads : ∀ item result, read item = .ok result → means item = some result)
    {items : List α} {results : List β} (accepted : items.mapM read = .ok results) :
    items.filterMap means = results := by
  induction items generalizing results with
  | nil => exact pure_eq_ok_iff.mp accepted
  | cons item items ih =>
    rw [List.mapM_cons, bind_eq_ok_iff] at accepted
    obtain ⟨result, first, accepted⟩ := accepted
    obtain ⟨rest, others, joined⟩ := bind_eq_ok_iff.mp accepted
    rw [List.filterMap_cons_some (reads item result first), ih others]
    exact pure_eq_ok_iff.mp joined

/-- If each step that is taken changes the state in one way, all steps together do so. -/
theorem foldlM_eq_ok {step : σ → α → Except ε σ} {change : σ → α → σ}
    (steps : ∀ state item next, step state item = .ok next → next = change state item)
    {items : List α} {state last : σ} (accepted : items.foldlM step state = .ok last) :
    last = items.foldl change state := by
  induction items generalizing state with
  | nil => exact (pure_eq_ok_iff.mp accepted).symm
  | cons item items ih =>
    rw [List.foldlM_cons, bind_eq_ok_iff] at accepted
    obtain ⟨next, first, others⟩ := accepted
    rw [List.foldl_cons, ← steps state item next first]
    exact ih others

/-! ### When nothing is refused -/

theorem bind_pure_accepted_iff {first : Except ε α} {change : α → β} :
    (∃ result, (first >>= fun value => pure (change value)) = .ok result) ↔
      ∃ value, first = .ok value := by
  cases first <;> simp [bind, Except.bind, pure, Except.pure]

theorem map_accepted_iff {first : Except ε α} {change : α → β} :
    (∃ result, change <$> first = .ok result) ↔ ∃ value, first = .ok value := by
  cases first <;> simp [Functor.map, Except.map]

/-- If no step depends on the state whether it is taken, all are taken exactly when each could be
taken on its own. -/
theorem foldlM_accepted_iff {step : σ → α → Except ε σ} {Good : α → Prop}
    (accepted : ∀ state item, (∃ next, step state item = .ok next) ↔ Good item)
    (items : List α) (state : σ) :
    (∃ last, items.foldlM step state = .ok last) ↔ ∀ item ∈ items, Good item := by
  induction items generalizing state with
  | nil => simp [pure, Except.pure]
  | cons item items ih =>
    rw [List.forall_mem_cons, ← accepted state item, List.foldlM_cons]
    cases taken : step state item with
    | error refusal => simp [bind, Except.bind]
    | ok next => simpa [bind, Except.bind] using ih next

theorem mapM_accepted_iff {read : α → Except ε β} {Good : α → Prop}
    (accepted : ∀ item, (∃ result, read item = .ok result) ↔ Good item) (items : List α) :
    (∃ results, items.mapM read = .ok results) ↔ ∀ item ∈ items, Good item := by
  induction items with
  | nil => simp [pure, Except.pure]
  | cons item items ih =>
    rw [List.forall_mem_cons, ← accepted item, ← ih, List.mapM_cons]
    cases read item with
    | error refusal => simp [bind, Except.bind]
    | ok result => cases items.mapM read <;> simp [bind, Except.bind, pure, Except.pure]

/-! ### Why something is refused -/

/-- The reason for a refusal, if there was one. -/
def refusal? : Except ε α → Option ε
  | .error refusal => some refusal
  | .ok _ => none

theorem refusal?_eq_some_iff {result : Except ε α} {refusal : ε} :
    refusal? result = some refusal ↔ result = .error refusal := by
  cases result <;> simp [refusal?]

theorem bind_pure_eq_error_iff {first : Except ε α} {change : α → β} {refusal : ε} :
    (first >>= fun value => pure (change value)) = .error refusal ↔ first = .error refusal := by
  cases first <;> simp [bind, Except.bind, pure, Except.pure]

/-- If the state plays no part in why a step is refused, it plays none in why all are. -/
theorem foldlM_eq_error {step : σ → α → Except ε σ}
    (refuses : ∀ {state item refusal}, step state item = .error refusal →
      ∀ other, step other item = .error refusal)
    {items : List α} {state : σ} {refusal : ε} (refused : items.foldlM step state = .error refusal)
    (other : σ) : items.foldlM step other = .error refusal := by
  induction items generalizing state other with
  | nil => cases refused
  | cons item items ih =>
    rw [List.foldlM_cons] at refused ⊢
    cases taken : step state item with
    | error first =>
      rw [taken] at refused
      rw [refuses taken other]
      exact refused
    | ok next =>
      rw [taken] at refused
      cases takenToo : step other item with
      | error first =>
        -- A refusal from the other state would be one from this state as well.
        rw [refuses takenToo state] at taken
        cases taken
      | ok otherNext => exact ih refused otherNext

end Verdict
