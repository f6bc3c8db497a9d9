import PtchanGateway.Unwinding

/-!
Metered machines. Some answers of a machine are spent at a time, and its state keeps the time from which the next
is due: an answer may be spent a tolerance before that time at most, and each puts it off by a period. Then the
answers that are spent within any stretch of time are at most what the stretch and the tolerance have room for,
in whatever order the times come.
-/

namespace Metering

open Unwinding

variable {S A O : Type} (step : S → A → S × O)

/-- A machine whose answers are spent as its due time allows. -/
structure Metered (inv : S → Prop) (due : S → Nat) (spent : A × O → Option Nat) (period tolerance : Nat) :
    Prop where
  kept : ∀ {s} a, inv s → inv (step s a).1
  later : ∀ {s} a, inv s → due s ≤ due (step s a).1
  spends : ∀ {s a time}, inv s → spent (a, (step s a).2) = some time →
    due s ≤ time + tolerance ∧ max (due s) time + period ≤ due (step s a).1

/-- The answer is spent within a stretch of time. -/
def within (spent : A × O → Option Nat) (start length : Nat) (answered : A × O) : Bool :=
  (spent answered).any fun time => start ≤ time && time ≤ start + length

variable {step} {inv : S → Prop} {due : S → Nat} {spent : A × O → Option Nat} {period tolerance : Nat}

theorem within_eq_true {start length : Nat} {answered : A × O} :
    within spent start length answered = true ↔
      ∃ time, spent answered = some time ∧ start ≤ time ∧ time ≤ start + length := by
  rw [within, Option.any_eq_true]
  simp only [Bool.and_eq_true, decide_eq_true_eq]

/-- The answers spent within a stretch, counted from the due time. -/
theorem Metered.countP_from (h : Metered step inv due spent period tolerance) (start length : Nat) {s : S}
    (hinv : inv s) (history : List A) :
    (answers step s history).countP (within spent start length) = 0 ∨
      (answers step s history).countP (within spent start length) * period + max (due s) start ≤
        start + length + tolerance + period := by
  induction history generalizing s with
  | nil => exact .inl rfl
  | cons a rest ih =>
      have hlater := h.later a hinv
      have hrest := ih (h.kept a hinv)
      rw [answers]
      by_cases hcounted : within spent start length (a, (step s a).2) = true
      · right
        obtain ⟨time, htime, hlow, hhigh⟩ := within_eq_true.mp hcounted
        obtain ⟨hdue, hput⟩ := h.spends hinv htime
        rw [List.countP_cons_of_pos hcounted, Nat.succ_mul]
        rcases hrest with hnone | hsome
        · rw [hnone, Nat.zero_mul]
          omega
        · omega
      · rw [List.countP_cons_of_neg hcounted]
        rcases hrest with hnone | hsome
        · exact .inl hnone
        · right
          omega

/-- A stretch of time has room for so many answers. -/
theorem Metered.countP_le (h : Metered step inv due spent period tolerance) (hperiod : 0 < period)
    (start length : Nat) {s : S} (hinv : inv s) (history : List A) :
    (answers step s history).countP (within spent start length) ≤ (length + tolerance) / period + 1 := by
  rcases h.countP_from start length hinv history with hnone | hsome
  · rw [hnone]
    exact Nat.zero_le _
  · have hroom : (answers step s history).countP (within spent start length) * period ≤
        length + tolerance + period := by omega
    calc (answers step s history).countP (within spent start length)
        ≤ (length + tolerance + period) / period := (Nat.le_div_iff_mul_le hperiod).mpr hroom
      _ = (length + tolerance) / period + 1 := Nat.add_div_right _ hperiod

end Metering
