import PtchanGateway.RateLimit
import PtchanGateway.Unwinding

/-! Isolation of the rate limits. A call asks two buckets at most, that of its integration and the global one of
its capability, so calls of the other capability go unnoticed, and what the integration's own bucket says
depends on that integration's calls alone. A bucket that refuses is left as it was, and the global one is then
not asked, so calls beyond an integration's quota could as well not have been made. -/

namespace PtchanGateway

open Config Unwinding

/-- A call of `check_reading` or `check_posting`, with the two clock readings it may need. -/
structure LimiterCall where
  integration : String
  capability : Capability
  times : Nat × Nat
  deriving DecidableEq, Repr

/-- A bucket that refuses keeps its state. -/
def KeepsRefused {Cell : Type} (governor : Governor Cell) : Prop :=
  ∀ cell time, (governor.check cell time).1 = false → (governor.check cell time).2 = cell

section Isolation

variable {Cell : Type} (governor : Governor Cell)

/-- One call: the limiters after it and its decision. -/
def decideCall (limiters : RateLimiters Cell) (call : LimiterCall) :
    RateLimiters Cell × Except RateLimitRejection Unit :=
  let checked := limiters.check governor call.integration call.capability call.times
  (checked.limiters, checked.result)

/-- The decisions of a sequence of calls. -/
def decisions (limiters : RateLimiters Cell) (calls : List LimiterCall) :
    List (LimiterCall × Except RateLimitRejection Unit) :=
  answers (decideCall governor) limiters calls

/-- The limiters a sequence of calls leaves. -/
def limitersAfter (limiters : RateLimiters Cell) (calls : List LimiterCall) : RateLimiters Cell :=
  after (decideCall governor) limiters calls

def rejectedByIntegration : LimiterCall × Except RateLimitRejection Unit → Bool
  | (_, .error .integration) => true
  | _ => false

theorem global_get_of_cell {limiters other : RateLimiters Cell} {capability : Capability}
    (h : limiters.cell .global capability = other.cell .global capability) :
    limiters.global.get capability = other.global.get capability :=
  Option.some.inj h

/-- Limiters with the same cells for one capability. -/
def SameCells (capability : Capability) (limiters other : RateLimiters Cell) : Prop :=
  ∀ scope, limiters.cell scope capability = other.cell scope capability

theorem sameCells_decide {limiters other : RateLimiters Cell} {call : LimiterCall}
    (h : SameCells call.capability limiters other) :
    (decideCall governor other call).2 = (decideCall governor limiters call).2 ∧
      SameCells call.capability (decideCall governor limiters call).1 (decideCall governor other call).1 := by
  have hglobal := global_get_of_cell (h .global)
  have hown := h (.integration call.integration)
  simp only [decideCall]
  constructor
  · rw [RateLimiters.result_check, RateLimiters.result_check, hown, hglobal]
  · intro scope
    by_cases hasked : scope = .integration call.integration ∨ scope = .global
    · rcases hasked with hscope | hscope
      · rw [hscope, RateLimiters.cell_own_check, RateLimiters.cell_own_check, hown]
      · rw [hscope, RateLimiters.cell_global_check, RateLimiters.cell_global_check, hown, hglobal]
    · have hother : ¬(call.capability = call.capability ∧
          (scope = .integration call.integration ∨ scope = .global)) := fun hsame => hasked hsame.2
      rw [RateLimiters.cell_other_check governor limiters call.times hother,
        RateLimiters.cell_other_check governor other call.times hother, h scope]

theorem unnoticed_capability (capability : Capability) :
    Unnoticed (decideCall governor) (fun answered => decide (answered.1.capability = capability))
      (SameCells capability) where
  kept := by
    intro limiters other call hsame hkeep
    obtain rfl : call.capability = capability := by simpa using hkeep
    exact sameCells_decide governor hsame
  deleted := by
    intro limiters other call hsame hkeep scope
    have hcapability : call.capability ≠ capability := by simpa using hkeep
    have hother : ¬(capability = call.capability ∧
        (scope = .integration call.integration ∨ scope = .global)) := fun h => hcapability h.1.symm
    simp only [decideCall]
    rw [RateLimiters.cell_other_check governor limiters call.times hother, hsame scope]

/-- The decisions for one capability are those of the calls of that capability alone. -/
theorem decisions_of_capability (limiters : RateLimiters Cell) (capability : Capability) (calls : List LimiterCall) :
    (decisions governor limiters calls).filter (fun answered => decide (answered.1.capability = capability)) =
      decisions governor limiters (calls.filter fun call => decide (call.capability = capability)) := by
  rw [decisions, answers_purge (unnoticed_capability governor capability) (fun _ => rfl),
    purge_eq_filter _ fun call : LimiterCall => decide (call.capability = capability)]
  rfl

/-- A call that asks the bucket of one integration and capability. -/
def LimiterCall.asks (name : String) (capability : Capability) (call : LimiterCall) : Bool :=
  decide (call.integration = name ∧ call.capability = capability)

theorem cell_own_decide {name : String} {capability : Capability} {call : LimiterCall}
    (h : call.asks name capability = true) (limiters : RateLimiters Cell) :
    (decideCall governor limiters call).1.cell (.integration name) capability =
      (limiters.cell (.integration name) capability).map fun cell => (governor.check cell call.times.1).2 := by
  obtain ⟨rfl, rfl⟩ : call.integration = name ∧ call.capability = capability := by
    simpa [LimiterCall.asks] using h
  exact limiters.cell_own_check governor call.times

theorem cell_own_decide_of_not_asks {name : String} {capability : Capability} {call : LimiterCall}
    (h : call.asks name capability = false) (limiters : RateLimiters Cell) :
    (decideCall governor limiters call).1.cell (.integration name) capability =
      limiters.cell (.integration name) capability := by
  apply limiters.cell_other_check governor call.times
  intro hasked
  obtain ⟨hcapability, hscope | hscope⟩ := hasked
  · have hname : name = call.integration := Scope.integration.inj hscope
    simp [LimiterCall.asks, hname, hcapability] at h
  · exact absurd hscope (by simp)

/-- An integration's bucket is where that integration's calls of the capability bring it. -/
theorem cell_own_after {name : String} {capability : Capability} {limiters other : RateLimiters Cell}
    (h : limiters.cell (.integration name) capability = other.cell (.integration name) capability)
    (calls : List LimiterCall) :
    (limitersAfter governor limiters calls).cell (.integration name) capability =
      (limitersAfter governor other (calls.filter (LimiterCall.asks name capability))).cell
        (.integration name) capability := by
  induction calls generalizing limiters other with
  | nil => exact h
  | cons call rest ih =>
      cases hasks : call.asks name capability with
      | true =>
          rw [List.filter_cons_of_pos hasks]
          apply ih
          rw [cell_own_decide governor hasks, cell_own_decide governor hasks, h]
      | false =>
          rw [List.filter_cons_of_neg (by simp [hasks])]
          apply ih
          rw [cell_own_decide_of_not_asks governor hasks, h]

theorem rejected_iff_ownAccepts (limiters : RateLimiters Cell) (call : LimiterCall) :
    (decideCall governor limiters call).2 = .error .integration ↔
      RateLimiters.ownAccepts governor (limiters.cell (.integration call.integration) call.capability)
        call.times.1 = false := by
  rw [decideCall, RateLimiters.result_check, RateLimiters.verdict]
  split
  · rename_i haccepts
    rw [haccepts]
    split <;> simp
  · rename_i hrefuses
    simpa using hrefuses

/-- Two histories with the same calls of an integration and capability reject its next call alike. -/
theorem rejected_of_same_calls (limiters : RateLimiters Cell) {earlier other : List LimiterCall} {call : LimiterCall}
    (h : earlier.filter (LimiterCall.asks call.integration call.capability) =
      other.filter (LimiterCall.asks call.integration call.capability)) :
    (decideCall governor (limitersAfter governor limiters earlier) call).2 = .error .integration ↔
      (decideCall governor (limitersAfter governor limiters other) call).2 = .error .integration := by
  have hcell : (limitersAfter governor limiters earlier).cell (.integration call.integration) call.capability =
      (limitersAfter governor limiters other).cell (.integration call.integration) call.capability := by
    rw [cell_own_after governor rfl earlier, h, ← cell_own_after governor rfl other]
  rw [rejected_iff_ownAccepts, rejected_iff_ownAccepts, hcell]

variable {governor}

theorem withOwn_of_refused (hkeeps : KeepsRefused governor) {limiters : RateLimiters Cell} {name : String}
    {capability : Capability} {time : Nat} {own : CapabilityRateLimiters Cell}
    (hown : limiters.integrations name = some own)
    (hrefused : (governor.check (own.get capability) time).1 = false) :
    limiters.withOwn governor own name capability time = limiters := by
  have hset : own.set (own.get capability) capability = own := by cases capability <;> rfl
  rw [RateLimiters.withOwn, hkeeps _ _ hrefused, hset, ← hown, Function.update_eq_self]

/-- A call its integration's bucket refuses leaves all limiters as they were. -/
theorem decide_of_rejected (hkeeps : KeepsRefused governor) {limiters : RateLimiters Cell} {call : LimiterCall}
    (h : (decideCall governor limiters call).2 = .error .integration) :
    (decideCall governor limiters call).1 = limiters := by
  have hglobal : ∀ limiters : RateLimiters Cell, ∀ checks,
      (limiters.checkGlobal governor call.capability call.times.2 checks).result ≠ .error .integration := by
    intro limiters checks
    simp only [RateLimiters.checkGlobal]
    split <;> simp
  rcases limiters.check_cases governor call.times call.integration call.capability with
    ⟨-, heq⟩ | ⟨own, hown, ⟨-, heq⟩ | ⟨hrefused, heq⟩⟩
  · rw [decideCall, heq] at h
    exact absurd h (hglobal _ [])
  · rw [decideCall, heq] at h
    exact absurd h (hglobal _ [⟨.integration call.integration, call.capability, true⟩])
  · rw [decideCall, heq]
    exact withOwn_of_refused hkeeps hown hrefused

theorem rejectedByIntegration_iff {call : LimiterCall} {decision : Except RateLimitRejection Unit} :
    rejectedByIntegration (call, decision) = true ↔ decision = .error .integration := by
  rcases decision with (_ | _) | _ <;> simp [rejectedByIntegration]

theorem unnoticed_rejected (hkeeps : KeepsRefused governor) :
    Unnoticed (decideCall governor) (fun answered => !rejectedByIntegration answered) Eq where
  kept := by
    intro limiters other call hsame _
    rw [hsame]
    exact ⟨rfl, rfl⟩
  deleted := by
    intro limiters other call hsame hrejected
    rw [← hsame]
    apply decide_of_rejected hkeeps
    exact rejectedByIntegration_iff.mp (by simpa using hrejected)

/-- The decisions for one capability do not see the calls of the other, whether a call is beyond its integration's
quota is decided by the earlier calls of that integration and capability, and calls beyond a quota change neither
another decision nor any bucket. -/
theorem buckets_are_isolated (hkeeps : KeepsRefused governor) (limiters : RateLimiters Cell) :
    (∀ capability calls,
      (decisions governor limiters calls).filter (fun answered => decide (answered.1.capability = capability)) =
        decisions governor limiters (calls.filter fun call => decide (call.capability = capability))) ∧
    (∀ earlier other call,
      earlier.filter (LimiterCall.asks call.integration call.capability) =
        other.filter (LimiterCall.asks call.integration call.capability) →
      ((decideCall governor (limitersAfter governor limiters earlier) call).2 = .error .integration ↔
        (decideCall governor (limitersAfter governor limiters other) call).2 = .error .integration)) ∧
    ∀ calls,
      let kept := (decisions governor limiters calls).filter fun answered => !rejectedByIntegration answered
      decisions governor limiters (kept.map Prod.fst) = kept ∧
        limitersAfter governor limiters (kept.map Prod.fst) = limitersAfter governor limiters calls := by
  refine ⟨decisions_of_capability governor limiters, ?_, ?_⟩
  · intro earlier other call hsame
    exact rejected_of_same_calls governor limiters hsame
  · intro calls
    have hunnoticed := unnoticed_rejected hkeeps
    exact ⟨(answers_purge hunnoticed rfl calls).symm, (after_purge hunnoticed rfl calls).symm⟩

namespace Sample

/-- A bucket of as many units as its burst, never refilled. -/
def countdown : Governor Nat := ⟨fun _ burst => burst.toNat, fun cell _ => (cell != 0, cell - 1)⟩

theorem keepsRefused_countdown : KeepsRefused countdown := by
  intro cell time hrefused
  obtain rfl : cell = 0 := by simpa [countdown] using hrefused
  rfl

/-- An integration that floods beyond its two units beside another one. -/
def flooded : RateLimiters Nat :=
  ⟨fun name => if name = "bridge" ∨ name = "mirror" then some ⟨2, 2⟩ else none, ⟨3, 3⟩⟩

def flood : List LimiterCall :=
  [⟨"bridge", .reading, 0, 0⟩, ⟨"bridge", .reading, 1, 1⟩, ⟨"bridge", .reading, 2, 2⟩, ⟨"bridge", .posting, 3, 3⟩,
    ⟨"bridge", .reading, 4, 4⟩, ⟨"mirror", .reading, 5, 5⟩]

theorem buckets_are_isolated_flood :
    ((decisions countdown flooded flood).map fun answered => rejectedByIntegration answered) =
        [false, false, true, false, true, false] ∧
      limitersAfter countdown flooded (((decisions countdown flooded flood).filter fun answered =>
        !rejectedByIntegration answered).map Prod.fst) = limitersAfter countdown flooded flood :=
  ⟨by decide, ((buckets_are_isolated keepsRefused_countdown flooded).2.2 flood).2⟩

end Sample

end Isolation

end PtchanGateway
