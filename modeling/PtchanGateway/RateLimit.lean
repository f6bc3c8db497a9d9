import PtchanGateway.Config
import Mathlib.Logic.Function.Basic

/-! The rate limiters (`rate_limit.rs`): one bucket for each integration and capability, and one global
bucket for each capability. A call asks the integration's bucket and then, if that accepts, the global one.
The bucket itself belongs to a library and is a parameter: a cell that is asked at a time, and answers. -/

namespace PtchanGateway

open Config

inductive Capability where
  | reading
  | posting
  deriving DecidableEq, Repr

inductive RateLimitRejection where
  | integration
  | global
  deriving DecidableEq, Repr

def RateLimitRejection.asStr : RateLimitRejection → String
  | .integration => "integration"
  | .global => "global"

/-- The library's limiter: a new one from its period in nanoseconds and its burst, and a check at a time. -/
structure Governor (Cell : Type) where
  direct : Nat → UInt32 → Cell
  check : Cell → Nat → Bool × Cell

structure CapabilityRateLimiters (Cell : Type) where
  reading : Cell
  posting : Cell

structure RateLimiters (Cell : Type) where
  integrations : String → Option (CapabilityRateLimiters Cell)
  global : CapabilityRateLimiters Cell

/-- Which bucket was asked. -/
inductive Scope where
  | integration (name : String)
  | global
  deriving DecidableEq, Repr

/-- One check of one bucket. -/
structure Check where
  scope : Scope
  capability : Capability
  accepted : Bool
  deriving DecidableEq, Repr

section Limiters

variable {Cell : Type} (governor : Governor Cell)

def limiter (cfg : RateLimitBucketConfig) : Except Chain Cell := do
  ensure (cfg.requests != 0) "rate limit requests must be greater than zero"
  ensure (cfg.burst != 0) "rate limit burst must be greater than zero"
  let replenish1Per := cfg.window.nanos / cfg.requests.toNat
  ensure (replenish1Per != 0) "rate limit window per request is too small"
  .ok (governor.direct replenish1Per cfg.burst)

namespace CapabilityRateLimiters

def new (cfg : RateLimitConfig) : Except Chain (CapabilityRateLimiters Cell) := do
  let reading ← context "create reading rate limiter" (limiter governor cfg.reading)
  let posting ← context "create posting rate limiter" (limiter governor cfg.posting)
  .ok ⟨reading, posting⟩

def get (limiters : CapabilityRateLimiters Cell) : Capability → Cell
  | .reading => limiters.reading
  | .posting => limiters.posting

def set (limiters : CapabilityRateLimiters Cell) (cell : Cell) : Capability → CapabilityRateLimiters Cell
  | .reading => { limiters with reading := cell }
  | .posting => { limiters with posting := cell }

def check (limiters : CapabilityRateLimiters Cell) (capability : Capability) (time : Nat) :
    Bool × CapabilityRateLimiters Cell :=
  let (accepted, cell) := governor.check (limiters.get capability) time
  (accepted, limiters.set cell capability)

end CapabilityRateLimiters

namespace RateLimiters

def new (integrations : List IntegrationConfig) (global : RateLimitConfig) : Except Chain (RateLimiters Cell) := do
  let entries ← integrations.mapM fun integration => do
    let limiters ← context ("create rate limiters for integration " ++ integration.name)
      (CapabilityRateLimiters.new governor integration.rateLimit)
    .ok (integration.name, limiters)
  let global ← context "create global rate limiters" (CapabilityRateLimiters.new governor global)
  .ok ⟨fun name => (collectBy Prod.fst entries name).map Prod.snd, global⟩

/-- What a call answered, the limiters after it and the checks it made. -/
structure Checked (Cell : Type) where
  result : Except RateLimitRejection Unit
  limiters : RateLimiters Cell
  checks : List Check

def checkGlobal (limiters : RateLimiters Cell) (capability : Capability) (time : Nat) (checks : List Check) :
    Checked Cell :=
  let (accepted, global) := limiters.global.check governor capability time
  ⟨if accepted then .ok () else .error .global, { limiters with global := global },
    checks ++ [⟨.global, capability, accepted⟩]⟩

/-- Each bucket reads the clock when it is asked. -/
def check (limiters : RateLimiters Cell) (integration : String) (capability : Capability) (times : Nat × Nat) :
    Checked Cell :=
  match limiters.integrations integration with
  | none => checkGlobal governor limiters capability times.2 []
  | some own =>
      let (accepted, own) := own.check governor capability times.1
      let limiters := { limiters with
        integrations := Function.update limiters.integrations integration (some own) }
      let checks := [⟨.integration integration, capability, accepted⟩]
      if accepted then checkGlobal governor limiters capability times.2 checks
      else ⟨.error .integration, limiters, checks⟩

/-- The cell behind a bucket. -/
def cell (limiters : RateLimiters Cell) : Scope → Capability → Option Cell
  | .integration name, capability => (limiters.integrations name).map fun own => own.get capability
  | .global, capability => some (limiters.global.get capability)

end RateLimiters

theorem CapabilityRateLimiters.get_set (limiters : CapabilityRateLimiters Cell) (cell : Cell)
    (capability other : Capability) :
    (limiters.set cell capability).get other = if other = capability then cell else limiters.get other := by
  cases capability <;> cases other <;> rfl

namespace RateLimiters

/-- An integration's bucket accepts, or there is none. -/
def ownAccepts (own : Option Cell) (time : Nat) : Bool := own.all fun cell => (governor.check cell time).1

/-- What a call answers, from the two cells it may ask. -/
def verdict (own : Option Cell) (global : Cell) (times : Nat × Nat) : Except RateLimitRejection Unit :=
  if ownAccepts governor own times.1 then
    if (governor.check global times.2).1 then .ok () else .error .global
  else .error .integration

variable (limiters : RateLimiters Cell) {name : String} {capability : Capability} (times : Nat × Nat)

/-- The limiters with the cell an integration's bucket is left with. -/
def withOwn (own : CapabilityRateLimiters Cell) (name : String) (capability : Capability) (time : Nat) :
    RateLimiters Cell :=
  let cell := (governor.check (own.get capability) time).2
  { limiters with
    integrations := Function.update limiters.integrations name (some (own.set cell capability)) }

/-- The three ways of a call: the integration has no bucket, its bucket accepts, or it refuses. -/
theorem check_cases (name : String) (capability : Capability) :
    (limiters.integrations name = none ∧
      limiters.check governor name capability times = limiters.checkGlobal governor capability times.2 []) ∨
    ∃ own, limiters.integrations name = some own ∧
      (((governor.check (own.get capability) times.1).1 = true ∧
        limiters.check governor name capability times =
          (limiters.withOwn governor own name capability times.1).checkGlobal governor capability times.2
            [⟨.integration name, capability, true⟩]) ∨
      ((governor.check (own.get capability) times.1).1 = false ∧
        limiters.check governor name capability times =
          ⟨.error .integration, limiters.withOwn governor own name capability times.1,
            [⟨.integration name, capability, false⟩]⟩)) := by
  rcases Option.eq_none_or_eq_some (limiters.integrations name) with hown | ⟨own, hown⟩
  · exact .inl ⟨hown, by simp only [RateLimiters.check, hown]⟩
  · refine .inr ⟨own, hown, ?_⟩
    by_cases haccepted : (governor.check (own.get capability) times.1).1 = true
    · refine .inl ⟨haccepted, ?_⟩
      simp only [RateLimiters.check, hown, CapabilityRateLimiters.check, haccepted, if_true]
      rfl
    · rw [Bool.not_eq_true] at haccepted
      refine .inr ⟨haccepted, ?_⟩
      simp only [RateLimiters.check, hown, CapabilityRateLimiters.check, haccepted, Bool.false_eq_true, if_false]
      rfl

theorem cell_withOwn (own : CapabilityRateLimiters Cell) {time : Nat} {scope : Scope} {other : Capability} :
    (limiters.withOwn governor own name capability time).cell scope other =
      if scope = .integration name then
        some (if other = capability then (governor.check (own.get capability) time).2 else own.get other)
      else limiters.cell scope other := by
  cases scope with
  | integration asked =>
      by_cases hasked : asked = name
      · simp [withOwn, cell, hasked, CapabilityRateLimiters.get_set]
      · simp [withOwn, cell, hasked]
  | global => rfl

theorem cell_checkGlobal {checks : List Check} {time : Nat} {scope : Scope} {other : Capability} :
    (limiters.checkGlobal governor capability time checks).limiters.cell scope other =
      if scope = .global ∧ other = capability then some (governor.check (limiters.global.get capability) time).2
      else limiters.cell scope other := by
  cases scope with
  | integration asked => rfl
  | global =>
      simp only [checkGlobal, cell, CapabilityRateLimiters.check, CapabilityRateLimiters.get_set, true_and]
      split <;> rfl

theorem result_check :
    (limiters.check governor name capability times).result =
      verdict governor (limiters.cell (.integration name) capability) (limiters.global.get capability) times := by
  rcases limiters.check_cases governor times name capability with
    ⟨hnone, heq⟩ | ⟨own, hown, ⟨haccepted, heq⟩ | ⟨hrefused, heq⟩⟩
  · simp only [heq, cell, hnone, verdict, ownAccepts]
    rfl
  · simp only [heq, cell, hown, verdict, ownAccepts, Option.map_some, Option.all_some, haccepted, if_true]
    rfl
  · simp only [heq, cell, hown, verdict, ownAccepts, Option.map_some, Option.all_some, hrefused, Bool.false_eq_true,
      if_false]

theorem cell_own_check :
    (limiters.check governor name capability times).limiters.cell (.integration name) capability =
      (limiters.cell (.integration name) capability).map fun cell => (governor.check cell times.1).2 := by
  rcases limiters.check_cases governor times name capability with ⟨hnone, heq⟩ | ⟨own, hown, ⟨-, heq⟩ | ⟨-, heq⟩⟩
  · rw [heq, cell_checkGlobal, if_neg (by simp), cell, hnone]
    rfl
  · rw [heq, cell_checkGlobal, if_neg (by simp), cell_withOwn, if_pos rfl, if_pos rfl, cell, hown]
    rfl
  · simp only [heq]
    rw [cell_withOwn, if_pos rfl, if_pos rfl, cell, hown]
    rfl

theorem cell_global_check :
    (limiters.check governor name capability times).limiters.cell .global capability =
      some (if ownAccepts governor (limiters.cell (.integration name) capability) times.1 then
        (governor.check (limiters.global.get capability) times.2).2 else limiters.global.get capability) := by
  rcases limiters.check_cases governor times name capability with
    ⟨hnone, heq⟩ | ⟨own, hown, ⟨haccepted, heq⟩ | ⟨hrefused, heq⟩⟩
  · rw [heq, cell_checkGlobal, if_pos ⟨rfl, rfl⟩, cell, hnone]
    rfl
  · rw [heq, cell_checkGlobal, if_pos ⟨rfl, rfl⟩, cell, hown]
    simp [ownAccepts, haccepted, withOwn]
  · simp only [heq]
    rw [cell_withOwn, if_neg (by simp)]
    simp [cell, hown, ownAccepts, hrefused]

/-- A call leaves the buckets of the other capability and of other integrations alone. -/
theorem cell_other_check {scope : Scope} {other : Capability}
    (h : ¬(other = capability ∧ (scope = .integration name ∨ scope = .global))) :
    (limiters.check governor name capability times).limiters.cell scope other = limiters.cell scope other := by
  have hglobal : ¬(scope = .global ∧ other = capability) := fun hsame => h ⟨hsame.2, .inr hsame.1⟩
  have hown : ∀ own, limiters.integrations name = some own →
      (limiters.withOwn governor own name capability times.1).cell scope other = limiters.cell scope other := by
    intro own hown
    rw [cell_withOwn]
    split
    · rename_i hscope
      rw [if_neg fun hsame => h ⟨hsame, .inl hscope⟩, hscope, cell, hown]
      rfl
    · rfl
  rcases limiters.check_cases governor times name capability with ⟨-, heq⟩ | ⟨own, hsome, ⟨-, heq⟩ | ⟨-, heq⟩⟩
  · rw [heq, cell_checkGlobal, if_neg hglobal]
  · rw [heq, cell_checkGlobal, if_neg hglobal, hown own hsome]
  · rw [heq]
    exact hown own hsome

end RateLimiters

end Limiters

end PtchanGateway
