import PtchanGateway.DurationRanges
import PtchanGateway.Metering

/-!
What the rate limits are for. In any stretch of time the requests to ptchan that are made for an integration, and
those that are made in all, are bounded by the settings of the bucket they are charged to, over every sequence of
requests to the gateway. The bucket belongs to a library; what is taken from it is that it replenishes one cell a
period and lets a cell come early by no more than the rest of a burst.
-/

namespace PtchanGateway

open TextRust Config Metering Unwinding

/-- A cell of a bucket that keeps the time at which the next one is due. -/
structure Meters {Cell : Type} (governor : Governor Cell) (period : Nat) (burst : UInt32) (inv : Cell → Prop)
    (due : Cell → Nat) : Prop where
  fresh : inv (governor.direct period burst)
  kept : ∀ {cell} time, inv cell → inv (governor.check cell time).2
  later : ∀ {cell} time, inv cell → due cell ≤ due (governor.check cell time).2
  accepts : ∀ {cell time}, inv cell → (governor.check cell time).1 = true →
    due cell ≤ time + (burst.toNat - 1) * period ∧ max (due cell) time + period ≤ due (governor.check cell time).2

/-- The library replenishes the buckets it can make at the rate they are made with. -/
def Replenishes {Cell : Type} (governor : Governor Cell) : Prop :=
  ∀ (period : Nat) (burst : UInt32), period ≠ 0 → burst ≠ 0 → period * burst.toNat ≤ nanosMax →
    ∃ inv due, Meters governor period burst inv due

def Config.RateLimitConfig.bucket (rateLimit : RateLimitConfig) : Capability → RateLimitBucketConfig
  | .reading => rateLimit.reading
  | .posting => rateLimit.posting

/-- The settings of a bucket. -/
inductive BucketSettings (config : Config) (capability : Capability) : Scope → RateLimitBucketConfig → Prop
  | integration {integration : IntegrationConfig} (h : integration ∈ config.integrations) :
      BucketSettings config capability (.integration integration.name) (integration.rateLimit.bucket capability)
  | global : BucketSettings config capability .global (config.runtime.rateLimit.bucket capability)

/-- The clock reading at which a bucket is asked for a call. -/
def Scope.time : Scope → Call → Nat
  | .integration _, call => call.times.1
  | .global, call => call.times.2

/-- A call names the integration of the bucket. -/
def Scope.covers : Scope → Call → Bool
  | .integration name, call => header call.request.headers "x-ptchan-integration" == some name
  | .global, _ => true

variable {Cell : Type} (lib : Libraries Cell)

/-- One request to the gateway. -/
def serveCall (state : AppState Cell) (call : Call) : AppState Cell × Handled Cell :=
  (state.serve lib call, handle lib state call)

/-- When a request to ptchan was charged to a bucket, if the call made one. -/
def chargedAt (scope : Scope) (capability : Capability) (answered : Call × Handled Cell) : Option Nat :=
  if answered.2.sent.isSome && scope.covers answered.1 && decide (answered.1.route.capability = capability) then
    some (scope.time answered.1)
  else none

variable {config : Config} {state : AppState Cell} {scope : Scope} {capability : Capability}

theorem chargedAt_eq_some {answered : Call × Handled Cell} {time : Nat} :
    chargedAt scope capability answered = some time ↔
      (∃ sent, answered.2.sent = some sent) ∧ scope.covers answered.1 = true ∧
        answered.1.route.capability = capability ∧ scope.time answered.1 = time := by
  unfold chargedAt
  split
  · rename_i h
    rw [Bool.and_eq_true, Bool.and_eq_true, decide_eq_true_eq, Option.isSome_iff_exists] at h
    rw [Option.some.injEq]
    exact ⟨fun htime => ⟨h.1.1, h.1.2, h.2, htime⟩, fun h => h.2.2.2⟩
  · rename_i h
    rw [Bool.and_eq_true, Bool.and_eq_true, decide_eq_true_eq, Option.isSome_iff_exists] at h
    constructor
    · intro hnone
      cases hnone
    · rintro ⟨hsent, hcovers, hcapability, -⟩
      exact absurd ⟨⟨hsent, hcovers⟩, hcapability⟩ h

/-- A request to ptchan is made for the integration that is charged, and both buckets have accepted it. -/
theorem accepted_of_sent (hbuilt : Built config state) (hresolved : Resolution config) {call : Call}
    (hsent : ∃ sent, (handle lib state call).sent = some sent) {name : String} {charged : Capability}
    (hcharged : Charged lib.governor call.times name charged state.rateLimiters (handle lib state call).limiters
      (handle lib state call).checks) :
    header call.request.headers "x-ptchan-integration" = some name ∧
      ∃ own global, state.rateLimiters.cell (.integration name) charged = some own ∧
        state.rateLimiters.cell .global charged = some global ∧ (lib.governor.check own call.times.1).1 = true ∧
        (lib.governor.check global call.times.2).1 = true := by
  obtain ⟨sent, hsent⟩ := hsent
  obtain ⟨integration, board, threadId, body, hmediated, -⟩ := mediated_of_sent lib hbuilt hresolved hsent
  obtain ⟨own, global, hown, hglobal, hchecks, -⟩ := hcharged
  rw [hmediated.checks, chargedChecks] at hchecks
  obtain ⟨hfirst, hrest⟩ := List.cons.inj hchecks
  rw [Check.mk.injEq, Scope.integration.injEq] at hfirst
  obtain ⟨hname, -, haccepted⟩ := hfirst
  rw [if_pos haccepted.symm] at hrest
  obtain ⟨hsecond, -⟩ := List.cons.inj hrest
  rw [Check.mk.injEq] at hsecond
  exact ⟨hname ▸ hmediated.named, own, global, hown, hglobal, haccepted.symm, hsecond.2.2.symm⟩

/-- A call leaves a bucket alone and makes no request charged to it, or asks the bucket, and a request that is
charged to it was accepted. -/
theorem cell_serve (hbuilt : Built config state) (hresolved : Resolution config) (call : Call) {cell : Cell}
    (hcell : state.rateLimiters.cell scope capability = some cell) :
    let handled := handle lib state call
    (handled.limiters.cell scope capability = some cell ∧ chargedAt scope capability (call, handled) = none) ∨
      handled.limiters.cell scope capability = some (lib.governor.check cell (scope.time call)).2 ∧
        ((chargedAt scope capability (call, handled)).isSome = true →
          (lib.governor.check cell (scope.time call)).1 = true) := by
  intro handled
  rcases charge_cases lib hbuilt hresolved call with
    ⟨integration, board, hauthorized, hcharged⟩ | ⟨hnone, hchecks, hlimiters⟩
  · have hsent := fun h => accepted_of_sent lib hbuilt hresolved h hcharged
    obtain ⟨own, global, hown, hglobal, -, hownAfter, hglobalAfter, hother⟩ := hcharged
    by_cases hasked : capability = call.route.capability ∧
        (scope = .integration integration.name ∨ scope = .global)
    · obtain ⟨rfl, rfl | rfl⟩ := hasked
      · right
        obtain rfl := Option.some.inj (hcell.symm.trans hown)
        refine ⟨hownAfter, fun hcharge => ?_⟩
        obtain ⟨time, htime⟩ := Option.isSome_iff_exists.1 hcharge
        obtain ⟨-, found, -, hfound, -, haccepted, -⟩ := hsent (chargedAt_eq_some.1 htime).1
        rw [Option.some.inj (hfound.symm.trans hcell)] at haccepted
        exact haccepted
      · obtain rfl := Option.some.inj (hcell.symm.trans hglobal)
        by_cases hfirst : (lib.governor.check own call.times.1).1 = true
        · right
          rw [if_pos hfirst] at hglobalAfter
          refine ⟨hglobalAfter, fun hcharge => ?_⟩
          obtain ⟨time, htime⟩ := Option.isSome_iff_exists.1 hcharge
          obtain ⟨-, -, found, -, hfound, -, haccepted⟩ := hsent (chargedAt_eq_some.1 htime).1
          rw [Option.some.inj (hfound.symm.trans hcell)] at haccepted
          exact haccepted
        · left
          rw [if_neg hfirst] at hglobalAfter
          refine ⟨hglobalAfter, Option.eq_none_iff_forall_ne_some.2 fun time htime => hfirst ?_⟩
          obtain ⟨-, found, -, hfound, -, haccepted, -⟩ := hsent (chargedAt_eq_some.1 htime).1
          rw [Option.some.inj (hfound.symm.trans hown)] at haccepted
          exact haccepted
    · left
      refine ⟨(hother scope capability hasked).trans hcell, ?_⟩
      refine Option.eq_none_iff_forall_ne_some.2 fun time htime => hasked ?_
      obtain ⟨hsome, hcovers, hcapability, -⟩ := chargedAt_eq_some.1 htime
      refine ⟨hcapability.symm, ?_⟩
      cases scope with
      | integration name =>
          left
          have hnamed := beq_iff_eq.1 hcovers
          rw [(hsent hsome).1, Option.some.injEq] at hnamed
          rw [hnamed]
      | global => exact .inr rfl
  · left
    refine ⟨by rw [hlimiters]; exact hcell, Option.eq_none_iff_forall_ne_some.2 fun time htime => ?_⟩
    obtain ⟨sent, hsent⟩ := (chargedAt_eq_some.1 htime).1
    obtain ⟨_, _, _, _, hmediated, -⟩ := mediated_of_sent lib hbuilt hresolved hsent
    cases hmediated.checks.symm.trans hchecks

/-- The limiters of a resolved configuration are made with its settings. -/
theorem cell_new {getSecret : String → String → Except Chain String} {parsers : Parsers} {file : FileConfig}
    (hresolve : resolve getSecret parsers file = .ok config) (hnew : AppState.new lib config = .ok state)
    {bucket : RateLimitBucketConfig} (hsettings : BucketSettings config capability scope bucket) :
    BucketAccepted bucket ∧ state.rateLimiters.cell scope capability = some (bucketOf lib.governor bucket) := by
  obtain ⟨resolved, hfrom⟩ := resolvedFrom_of_resolve hresolve
  have hlimits := limits_accepted hfrom
  have hglobal : LimitAccepted config.runtime.rateLimit := hfrom.runtime ▸ hfrom.accepted.rateLimit
  have hlimiters := limiters_of_accepted lib.governor hlimits hglobal
  rw [AppState.new, hlimiters] at hnew
  obtain rfl := Except.ok.inj hnew
  cases hsettings with
  | @integration integration hmem =>
      have hnames := (resolution_of_resolve hresolve).integrationNames
      have hentry : collectBy Prod.fst (config.integrations.map fun integration =>
          (integration.name, limitersOf lib.governor integration.rateLimit)) integration.name =
          some (integration.name, limitersOf lib.governor integration.rateLimit) := by
        refine (collectBy_eq_some_iff ?_).2 ⟨List.mem_map_of_mem hmem, rfl⟩
        rw [List.map_map]
        exact hnames
      have hown := congrArg (Option.map Prod.snd) hentry
      have haccepted := hlimits integration hmem
      cases capability with
      | reading => exact ⟨haccepted.reading, congrArg (Option.map (CapabilityRateLimiters.get · .reading)) hown⟩
      | posting => exact ⟨haccepted.posting, congrArg (Option.map (CapabilityRateLimiters.get · .posting)) hown⟩
  | global =>
      cases capability with
      | reading => exact ⟨hglobal.reading, rfl⟩
      | posting => exact ⟨hglobal.posting, rfl⟩

section Bounds

variable {inv : Cell → Prop} {due : Cell → Nat} {period : Nat} {burst : UInt32}

/-- The due time of a bucket. -/
def dueOf (due : Cell → Nat) (scope : Scope) (capability : Capability) (state : AppState Cell) : Nat :=
  ((state.rateLimiters.cell scope capability).map due).getD 0

/-- A state in which a configuration is served and the bucket is one of its kind. -/
def Stocked (config : Config) (inv : Cell → Prop) (scope : Scope) (capability : Capability)
    (state : AppState Cell) : Prop :=
  Built config state ∧ ∃ cell, state.rateLimiters.cell scope capability = some cell ∧ inv cell

/-- The gateway is a metered machine for each of its buckets. -/
theorem metered_serve (hmeters : Meters lib.governor period burst inv due) (hresolved : Resolution config)
    (scope : Scope) (capability : Capability) :
    Metered (serveCall lib) (Stocked config inv scope capability) (dueOf due scope capability)
      (chargedAt scope capability) period ((burst.toNat - 1) * period) := by
  have hstep : ∀ {state : AppState Cell} (call : Call) {cell : Cell}, Built config state →
      state.rateLimiters.cell scope capability = some cell →
      ((serveCall lib state call).1.rateLimiters.cell scope capability = some cell ∧
        chargedAt scope capability (call, (serveCall lib state call).2) = none) ∨
      (serveCall lib state call).1.rateLimiters.cell scope capability =
          some (lib.governor.check cell (scope.time call)).2 ∧
        ((chargedAt scope capability (call, (serveCall lib state call).2)).isSome = true →
          (lib.governor.check cell (scope.time call)).1 = true) :=
    fun call _ hbuilt hcell => cell_serve lib hbuilt hresolved call hcell
  constructor
  · rintro state call ⟨hbuilt, cell, hcell, hinv⟩
    refine ⟨hbuilt.serve lib call, ?_⟩
    rcases hstep call hbuilt hcell with ⟨hafter, -⟩ | ⟨hafter, -⟩
    · exact ⟨_, hafter, hinv⟩
    · exact ⟨_, hafter, hmeters.kept _ hinv⟩
  · rintro state call ⟨hbuilt, cell, hcell, hinv⟩
    rw [dueOf, dueOf, hcell]
    rcases hstep call hbuilt hcell with ⟨hafter, -⟩ | ⟨hafter, -⟩
    · rw [hafter]
    · rw [hafter]
      exact hmeters.later _ hinv
  · rintro state call time ⟨hbuilt, cell, hcell, hinv⟩ hspent
    rw [dueOf, dueOf, hcell]
    rcases hstep call hbuilt hcell with ⟨-, hnone⟩ | ⟨hafter, haccepted⟩
    · rw [hnone] at hspent
      cases hspent
    · rw [hafter]
      have htime : scope.time call = time := (chargedAt_eq_some.1 hspent).2.2.2
      rw [← htime]
      exact hmeters.accepts hinv (haccepted (by rw [hspent]; rfl))

end Bounds

/-- Whatever requests arrive, in whatever order and at whatever times: within any stretch of time the requests to
ptchan that one bucket is charged for are at most its burst and what it replenishes in that time. -/
theorem submissions_are_limited (hreplenishes : Replenishes lib.governor)
    {getSecret : String → String → Except Chain String} {parsers : Parsers} {file : FileConfig}
    (hresolve : resolve getSecret parsers file = .ok config) (hnew : AppState.new lib config = .ok state)
    {bucket : RateLimitBucketConfig} (hsettings : BucketSettings config capability scope bucket)
    (hfits : BucketFits bucket) (calls : List Call) (start length : Nat) :
    (answers (serveCall lib) state calls).countP (within (chargedAt scope capability) start length) ≤
      bucket.burst.toNat + length / (bucket.window.nanos / bucket.requests.toNat) := by
  obtain ⟨haccepted, hcell⟩ := cell_new lib hresolve hnew hsettings
  obtain ⟨inv, due, hmeters⟩ := hreplenishes _ _ haccepted.period haccepted.burst hfits
  have hmetered := metered_serve lib hmeters (resolution_of_resolve hresolve) scope capability
  have hstocked : Stocked config inv scope capability state := ⟨.new lib hnew, _, hcell, hmeters.fresh⟩
  have hperiod := Nat.pos_of_ne_zero haccepted.period
  have hburst : bucket.burst.toNat ≠ 0 := fun hzero => haccepted.burst (UInt32.toNat.inj hzero)
  have hbound := hmetered.countP_le hperiod start length hstocked calls
  rw [Nat.add_mul_div_right _ _ hperiod] at hbound
  omega

namespace Sample

/-- Buckets that keep their period, their burst and the time their next cell is due. -/
def cellRate : Governor (Nat × Nat × Nat) where
  direct := fun period burst => (period, burst.toNat, 0)
  check := fun cell time =>
    let (period, burst, due) := cell
    if due ≤ time + (burst - 1) * period then (true, period, burst, max due time + period) else (false, cell)

theorem replenishes_cellRate : Replenishes cellRate := by
  intro period burst _ _ _
  refine ⟨fun cell => cell.1 = period ∧ cell.2.1 = burst.toNat, fun cell => cell.2.2, ⟨rfl, rfl⟩, ?_, ?_, ?_⟩
  · rintro ⟨_, _, due⟩ time ⟨rfl, rfl⟩
    simp only [cellRate]
    split_ifs
    · exact ⟨rfl, rfl⟩
    · exact ⟨rfl, rfl⟩
  · rintro ⟨_, _, due⟩ time ⟨rfl, rfl⟩
    simp only [cellRate]
    split_ifs
    · exact Nat.le_trans (Nat.le_max_left due time) (Nat.le_add_right _ _)
    · exact Nat.le_refl due
  · rintro ⟨period, _, due⟩ time ⟨rfl, rfl⟩ haccepted
    simp only [cellRate] at haccepted ⊢
    split_ifs at haccepted ⊢ with hdue
    exact ⟨hdue, Nat.le_refl _⟩

def limitedLibraries : Libraries (Nat × Nat × Nat) := ⟨serde, replyMac, cellRate, extract, client⟩

/-- Of seven replies at once ptchan gets the burst. -/
theorem submissions_are_limited_burst :
    ∃ state, AppState.new limitedLibraries bridgeConfig = .ok state ∧
      let run := answers (serveCall limitedLibraries) state (List.replicate 7 replyCall)
      let counted := run.countP (within (chargedAt (.integration "bridge") .posting) 0 0)
      counted = 5 ∧ counted ≤ 5 := by
  have hresolve : resolve (fun _ _ => .ok "secret") parsers bridgeFile = .ok bridgeConfig := rfl
  have hmem : (⟨"bridge", ["i"], false, .default, "secret"⟩ : IntegrationConfig) ∈ bridgeConfig.integrations :=
    List.mem_cons_self
  have hsettings : BucketSettings bridgeConfig .posting (.integration "bridge")
      (RateLimitConfig.default.bucket .posting) := .integration hmem
  exact ⟨_, rfl, by decide +kernel,
    submissions_are_limited limitedLibraries replenishes_cellRate hresolve rfl hsettings (by decide) _ 0 0⟩

end Sample

end PtchanGateway
