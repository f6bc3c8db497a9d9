import Mathlib.Data.List.Basic

/-!
Deleting inputs from a history. A machine takes its inputs one by one and answers each; some of them are to be
deleted, as their own answers may decide. If the two states are kept in a relation under which a kept input is
answered alike and a deleted one is not noticed, the other answers of the history are unchanged.
-/

namespace Unwinding

variable {S A O : Type} (step : S → A → S × O)

/-- The state after a history. -/
def after : S → List A → S
  | s, [] => s
  | s, a :: rest => after (step s a).1 rest

/-- The inputs of a history with their answers. -/
def answers : S → List A → List (A × O)
  | _, [] => []
  | s, a :: rest => (a, (step s a).2) :: answers (step s a).1 rest

/-- What a relation has to satisfy for the inputs that are not kept to be deleted. -/
structure Unnoticed (keep : A × O → Bool) (related : S → S → Prop) : Prop where
  kept : ∀ {s t a}, related s t → keep (a, (step s a).2) = true →
    (step t a).2 = (step s a).2 ∧ related (step s a).1 (step t a).1
  deleted : ∀ {s t a}, related s t → keep (a, (step s a).2) = false → related (step s a).1 t

variable {step} {keep : A × O → Bool} {related : S → S → Prop}

/-- The inputs of a history that are kept. -/
def purge (step : S → A → S × O) (keep : A × O → Bool) (s : S) (history : List A) : List A :=
  ((answers step s history).filter keep).map Prod.fst

theorem purge_cons_of_kept {s : S} {a : A} {rest : List A} (h : keep (a, (step s a).2) = true) :
    purge step keep s (a :: rest) = a :: purge step keep (step s a).1 rest := by
  rw [purge, answers, List.filter_cons_of_pos h, List.map_cons]
  rfl

theorem purge_cons_of_deleted {s : S} {a : A} {rest : List A} (h : keep (a, (step s a).2) = false) :
    purge step keep s (a :: rest) = purge step keep (step s a).1 rest := by
  rw [purge, answers, List.filter_cons_of_neg (by simp [h])]
  rfl

/-- The answers that are kept are those of the history that is kept. -/
theorem answers_purge (h : Unnoticed step keep related) {s t : S} (hrelated : related s t) (history : List A) :
    (answers step s history).filter keep = answers step t (purge step keep s history) := by
  induction history generalizing s t with
  | nil => rfl
  | cons a rest ih =>
      cases hkeep : keep (a, (step s a).2) with
      | true =>
          obtain ⟨hanswer, hnext⟩ := h.kept hrelated hkeep
          rw [purge_cons_of_kept hkeep, answers, answers, List.filter_cons_of_pos hkeep, ih hnext, hanswer]
      | false =>
          rw [purge_cons_of_deleted hkeep, answers, List.filter_cons_of_neg (by simp [hkeep]),
            ih (h.deleted hrelated hkeep)]

/-- The states after both histories are related. -/
theorem after_purge (h : Unnoticed step keep related) {s t : S} (hrelated : related s t) (history : List A) :
    related (after step s history) (after step t (purge step keep s history)) := by
  induction history generalizing s t with
  | nil => exact hrelated
  | cons a rest ih =>
      cases hkeep : keep (a, (step s a).2) with
      | true =>
          rw [purge_cons_of_kept hkeep]
          exact ih (h.kept hrelated hkeep).2
      | false =>
          rw [purge_cons_of_deleted hkeep]
          exact ih (h.deleted hrelated hkeep)

/-- Where the inputs alone decide, the kept ones are the filtered ones. -/
theorem purge_eq_filter (step : S → A → S × O) (test : A → Bool) (s : S) (history : List A) :
    purge step (fun answered => test answered.1) s history = history.filter test := by
  induction history generalizing s with
  | nil => rfl
  | cons a rest ih =>
      cases htest : test a with
      | true => rw [purge_cons_of_kept htest, ih, List.filter_cons_of_pos htest]
      | false => rw [purge_cons_of_deleted htest, ih, List.filter_cons_of_neg (by simp [htest])]

end Unwinding
