import Mathlib.Logic.Basic
import Mathlib.Tactic.Common

/-! Runs of a transition system given by a partial step function. A run may be restricted to steps that
meet a condition on the state before and the action. An invariant is proved on one step and holds along
every run. -/

namespace RunSystem

variable {σ α : Type} (step : σ → α → Option σ) (ok : σ → α → Prop)

/-- A run whose steps all meet the condition. -/
inductive Path : σ → List α → σ → Prop where
  | nil (s : σ) : Path s [] s
  | cons {s s' s'' : σ} {a : α} {as : List α} :
      ok s a → step s a = some s' → Path s' as s'' → Path s (a :: as) s''

/-- Executes a list of actions as long as the condition holds. -/
def exec [∀ s a, Decidable (ok s a)] : σ → List α → Option σ
  | s, [] => some s
  | s, a :: as => if ok s a then (step s a).bind (exec · as) else none

variable {step ok}

theorem Path.of_exec [∀ s a, Decidable (ok s a)] {s s' : σ} {as : List α}
    (h : exec step ok s as = some s') : Path step ok s as s' := by
  induction as generalizing s with
  | nil =>
      rw [exec, Option.some.injEq] at h
      subst h
      exact .nil s
  | cons a as ih =>
      rw [exec] at h
      split_ifs at h with hok
      obtain ⟨s1, hstep, hrest⟩ := Option.bind_eq_some_iff.mp h
      exact .cons hok hstep (ih hrest)

/-- A concrete run and what a computation shows of its end. -/
theorem Path.exists_of_exec [∀ s a, Decidable (ok s a)] {s : σ} {as : List α} (p : σ → Prop) [DecidablePred p]
    (h : (exec step ok s as).any (fun s' => decide (p s')) = true) : ∃ s', Path step ok s as s' ∧ p s' := by
  cases hexec : exec step ok s as with
  | none =>
      rw [hexec] at h
      cases h
  | some s' =>
      rw [hexec] at h
      exact ⟨s', .of_exec hexec, of_decide_eq_true h⟩

/-- What one step preserves, a run preserves. -/
theorem Path.invariant (inv : σ → Prop)
    (hstep : ∀ s a s', inv s → ok s a → step s a = some s' → inv s')
    {s s' : σ} {as : List α} (h : Path step ok s as s') (hinit : inv s) : inv s' := by
  induction h with
  | nil => exact hinit
  | cons hok h _ ih => exact ih (hstep _ _ _ hinit hok h)

theorem Path.mono {ok' : σ → α → Prop} (himp : ∀ s a, ok s a → ok' s a) {s s' : σ} {as : List α}
    (h : Path step ok s as s') : Path step ok' s as s' := by
  induction h with
  | nil s => exact .nil s
  | cons hok h _ ih => exact .cons (himp _ _ hok) h ih

/-- What holds at the end of a run has held from its start on, or from a step on that made it hold. -/
theorem Path.since (p : σ → Prop) {s s' : σ} {as : List α} (h : Path step ok s as s') (hend : p s') :
    (p s ∧ Path step (fun s a => ok s a ∧ p s) s as s') ∨
      ∃ before a after s₀ s₁, as = before ++ a :: after ∧ Path step ok s before s₀ ∧ ok s₀ a ∧
        step s₀ a = some s₁ ∧ ¬p s₀ ∧ p s₁ ∧ Path step (fun s a => ok s a ∧ p s) s₁ after s' := by
  induction h with
  | nil s => exact .inl ⟨hend, .nil s⟩
  | @cons s s₁ s' a as hok hstep _ ih =>
      rcases ih hend with ⟨hheld, hpath⟩ | ⟨before, b, after, t₀, t₁, rfl, hbefore, hrest⟩
      · by_cases hp : p s
        · exact .inl ⟨hp, .cons ⟨hok, hp⟩ hstep hpath⟩
        · exact .inr ⟨[], a, as, s, s₁, rfl, .nil s, hok, hstep, hp, hheld, hpath⟩
      · exact .inr ⟨a :: before, b, after, t₀, t₁, rfl, .cons hok hstep hbefore, hrest⟩

theorem Path.append {s s' s'' : σ} {as bs : List α} (h : Path step ok s as s') (h' : Path step ok s' bs s'') :
    Path step ok s (as ++ bs) s'' := by
  induction h with
  | nil => exact h'
  | cons hok h _ ih => exact .cons hok h (ih h')

/-- An invariant that may speak of the actions taken so far. -/
theorem Path.invariant_along (inv : List α → σ → Prop) {s s' : σ} {as : List α} (h : Path step ok s as s')
    (hinit : inv [] s)
    (hstep : ∀ before t a t', Path step ok s before t → inv before t → ok t a → step t a = some t' →
      inv (before ++ [a]) t') : inv as s' := by
  suffices hfrom : ∀ before t as, Path step ok t as s' → Path step ok s before t → inv before t →
      inv (before ++ as) s' from hfrom [] s as h (.nil s) hinit
  intro before t as hpath
  induction hpath generalizing before with
  | nil =>
      intro _ hinv
      rw [List.append_nil]
      exact hinv
  | @cons t t' _ a as hok ha _ ih =>
      intro hbefore hinv
      rw [List.append_cons]
      exact ih h (before ++ [a]) (hbefore.append (.cons hok ha (.nil t'))) (hstep before t a t' hbefore hinv hok ha)

theorem Path.single {s s' : σ} {a : α} (hok : ok s a) (h : step s a = some s') : Path step ok s [a] s' :=
  .cons hok h (.nil s')

/-- Forward simulation: where every step is matched by a run of the other system, so is every run. -/
theorem Path.simulate {τ β : Type} {step' : τ → β → Option τ} {ok' : τ → β → Prop} (rel : σ → τ → Prop)
    (hstep : ∀ s a s' t, rel s t → ok s a → step s a = some s' → ∃ bs t', Path step' ok' t bs t' ∧ rel s' t')
    {s s' : σ} {t : τ} {as : List α} (h : Path step ok s as s') (hrel : rel s t) :
    ∃ bs t', Path step' ok' t bs t' ∧ rel s' t' := by
  induction h generalizing t with
  | nil => exact ⟨[], t, .nil t, hrel⟩
  | cons hok ha _ ih =>
      obtain ⟨bs, t₁, hbs, hrel₁⟩ := hstep _ _ _ _ hrel hok ha
      obtain ⟨cs, t₂, hcs, hrel₂⟩ := ih hrel₁
      exact ⟨bs ++ cs, t₂, hbs.append hcs, hrel₂⟩

/-- The steps of a kind that each use up some of a potential. -/
theorem Path.countP_le (kind : α → Bool) (inv : σ → Prop) (potential : σ → Nat)
    (hstep : ∀ s a s', inv s → ok s a → step s a = some s' →
      inv s' ∧ (kind a).toNat + potential s' ≤ potential s)
    {s s' : σ} {as : List α} (h : Path step ok s as s') (hinit : inv s) :
    as.countP kind + potential s' ≤ potential s := by
  induction h with
  | nil => exact Nat.le_of_eq (Nat.zero_add _)
  | @cons s s₁ s' a as hok ha _ ih =>
      obtain ⟨hinv, hpaid⟩ := hstep _ _ _ hinit hok ha
      have hhead : (a :: as).countP kind = as.countP kind + (kind a).toNat := by
        rw [List.countP_cons]
        cases kind a <;> rfl
      calc (a :: as).countP kind + potential s'
          = (kind a).toNat + (as.countP kind + potential s') := by rw [hhead]; omega
        _ ≤ (kind a).toNat + potential s₁ := Nat.add_le_add_left (ih hinv) _
        _ ≤ potential s := hpaid

end RunSystem
