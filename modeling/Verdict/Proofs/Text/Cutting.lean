import Mathlib.Data.List.TakeDrop
import Verdict.Text.Basic
/-! Cutting and gluing are splitting and intercalating of lists. A text that was joined at a
separator is cut into the pieces of its parts, no piece has the separator, and pieces without it are
got back from what they were glued to. What is spanned up to a separator ends at the first one. -/
namespace Verdict

/-! ### Gluing -/

section
variable {α : Type} {separator : α}

/-- Pieces are glued as lists are intercalated. -/
theorem glue_eq_intercalate (parts : List (List α)) :
    glue separator parts = [separator].intercalate parts := by
  induction parts with
  | nil => rfl
  | cons part others ih =>
    cases others with
    | nil => simp [glue]
    | cons other others =>
      rw [glue, ih, List.intercalate_cons_cons, List.append_assoc, List.singleton_append]
      exact List.cons_ne_nil _ _

theorem glue_append {left right : List (List α)} (someLeft : left ≠ []) (someRight : right ≠ []) :
    glue separator (left ++ right) = glue separator left ++ separator :: glue separator right := by
  induction left with
  | nil => exact absurd rfl someLeft
  | cons part others ih =>
    cases others with
    | nil =>
      obtain ⟨next, rest, rfl⟩ := List.exists_cons_of_ne_nil someRight
      rfl
    | cons other others =>
      have joined := ih (List.cons_ne_nil _ _)
      simp only [List.cons_append, glue, List.append_assoc] at joined ⊢
      rw [joined]

end

/-! ### Cutting -/

section
variable {α : Type} [DecidableEq α] {separator : α}

/-- Texts are cut as lists are split. -/
theorem pieces_eq_splitOn (text : List α) : pieces separator text = text.splitOn separator := by
  induction text with
  | nil => rfl
  | cons head rest ih =>
    rw [List.splitOn_cons_eq_if_modifyHead, ← ih, pieces]
    by_cases cut : head = separator
    · simp [cut]
    · rw [if_neg cut, if_neg (by simpa using cut)]
      cases parts : pieces separator rest with
      | nil => exact absurd parts (pieces_ne_nil separator rest)
      | cons part others => rfl

theorem pieces_joined (first second : List α) :
    pieces separator (first ++ separator :: second) =
      pieces separator first ++ pieces separator second := by
  simp only [pieces_eq_splitOn, List.splitOn_append_cons_self]

theorem pieces_append {front text first : List α} {others : List (List α)}
    (absent : separator ∉ front) (cut : pieces separator text = first :: others) :
    pieces separator (front ++ text) = (front ++ first) :: others := by
  induction front with
  | nil => exact cut
  | cons head front ih =>
    rw [List.mem_cons, not_or] at absent
    rw [List.cons_append, pieces, if_neg (Ne.symm absent.1), ih absent.2]
    rfl

theorem pieces_of_absent {text : List α} (absent : separator ∉ text) :
    pieces separator text = [text] := by
  rw [pieces_eq_splitOn]
  exact List.splitOn_eq_singleton absent

theorem pieces_append_separator {front rest : List α} (absent : separator ∉ front) :
    pieces separator (front ++ separator :: rest) = front :: pieces separator rest := by
  rw [pieces_joined, pieces_of_absent absent]
  rfl

theorem not_mem_of_mem_pieces {text piece : List α} (member : piece ∈ pieces separator text) :
    separator ∉ piece := by
  induction text generalizing piece with
  | nil => simp_all [pieces]
  | cons head rest ih =>
    rw [pieces] at member
    by_cases cut : head = separator
    · rw [if_pos cut, List.mem_cons] at member
      rcases member with rfl | later
      · exact List.not_mem_nil
      · exact ih later
    · rw [if_neg cut] at member
      cases parts : pieces separator rest with
      | nil => exact absurd parts (pieces_ne_nil separator rest)
      | cons part others =>
        rw [parts] at ih member
        rcases List.mem_cons.mp member with rfl | later
        · rw [List.mem_cons, not_or]
          exact ⟨Ne.symm cut, ih List.mem_cons_self⟩
        · exact ih (List.mem_cons_of_mem _ later)

/-- Cutting undoes gluing if there is a piece and no piece has the separator. -/
theorem pieces_glue {parts : List (List α)} (nonempty : parts ≠ [])
    (absent : ∀ part ∈ parts, separator ∉ part) :
    pieces separator (glue separator parts) = parts := by
  rw [pieces_eq_splitOn, glue_eq_intercalate]
  exact List.splitOn_intercalate separator absent nonempty

/-! ### Spanning -/

theorem span_eq_cons_iff {text front back : List α} {mark : α} :
    text.span (· ≠ separator) = (front, mark :: back) ↔
      mark = separator ∧ separator ∉ front ∧ text = front ++ separator :: back := by
  rw [List.span_eq_takeWhile_dropWhile, Prod.mk.injEq]
  constructor
  · rintro ⟨rfl, rest⟩
    have ends := List.head?_dropWhile_not (fun item => decide (item ≠ separator)) text
    rw [rest] at ends
    have isSeparator : mark = separator := by simpa using ends
    refine ⟨isSeparator, fun member => ?_, ?_⟩
    · simpa using List.all_eq_true.mp List.all_takeWhile _ member
    · subst isSeparator
      rw [← rest, List.takeWhile_append_dropWhile]
  · rintro ⟨rfl, absent, rfl⟩
    have before : ∀ item ∈ front, decide (item ≠ mark) = true := by
      intro item member
      rw [decide_eq_true_eq]
      rintro rfl
      exact absent member
    rw [List.takeWhile_append_of_pos before, List.dropWhile_append_of_pos before]
    simp

end

end Verdict
