import PtchanGateway.ConfigLookups

/-! Ranges of configured durations. The validator checks that windows and the retention are not too short, and
never that they are not too long, while the libraries hold a bucket's burst in 64 bits of nanoseconds, a span in
63 bits of milliseconds and a date in a few hundred thousand years (`rate_limit.rs`, `retention.rs`). A value
beyond these ranges makes the library panic; `none` is a panic here. -/

namespace PtchanGateway

open Config

/-- The library's quota: the time to regain one unit, in nanoseconds, and the most units held. -/
structure Quota where
  replenish1Per : Nat
  maxBurst : UInt32
  deriving DecidableEq, Repr

def Quota.withPeriod (replenish1Per : Nat) : Option Quota :=
  if replenish1Per = 0 then none else some ⟨replenish1Per, 1⟩

def Quota.allowBurst (quota : Quota) (burst : UInt32) : Quota := { quota with maxBurst := burst }

def nanosMax : Nat := 2 ^ 64 - 1

section Buckets

variable {Cell : Type}

/-- What is assumed of the library's constructor: it panics exactly when the period or the time to regain the whole
burst exceeds 64 bits of nanoseconds, and else makes the cell that the server works with. The release the
repository is locked to is a little more generous: it counts one unit of the burst less. -/
structure PanicsBeyondNanos (governor : Governor Cell) (direct : Quota → Option Cell) : Prop where
  fits_iff : ∀ quota : Quota, (direct quota).isSome = true ↔
    quota.replenish1Per ≤ nanosMax ∧ quota.replenish1Per * quota.maxBurst.toNat ≤ nanosMax
  makes : ∀ (quota : Quota) (cell : Cell), direct quota = some cell →
    cell = governor.direct quota.replenish1Per quota.maxBurst

section Limiter

variable (direct : Quota → Option Cell)

/-- `limiter`, with the panics of the library. -/
def limiterOrPanic (cfg : RateLimitBucketConfig) : Option (Except Chain Cell) :=
  if cfg.requests = 0 then some (bail "rate limit requests must be greater than zero")
  else if cfg.burst = 0 then some (bail "rate limit burst must be greater than zero")
  else
    match Quota.withPeriod (cfg.window.nanos / cfg.requests.toNat) with
    | none => some (bail "rate limit window per request is too small")
    | some quota => (direct (quota.allowBurst cfg.burst)).map Except.ok

theorem limiterOrPanic_of_accepted {bucket : RateLimitBucketConfig} (h : BucketAccepted bucket) :
    limiterOrPanic direct bucket =
      (direct ⟨bucket.window.nanos / bucket.requests.toNat, bucket.burst⟩).map Except.ok := by
  simp only [limiterOrPanic, if_neg h.requests, if_neg h.burst, Quota.withPeriod, if_neg h.period, Quota.allowBurst]

end Limiter

/-- Without a panic it is the limiter the server is built with. -/
theorem limiter_of_limiterOrPanic {governor : Governor Cell} {direct : Quota → Option Cell}
    (hdirect : PanicsBeyondNanos governor direct) {cfg : RateLimitBucketConfig} {result : Except Chain Cell}
    (h : limiterOrPanic direct cfg = some result) : limiter governor cfg = result := by
  unfold limiterOrPanic at h
  by_cases hrequests : cfg.requests = 0
  · rw [if_pos hrequests, Option.some.injEq] at h
    simp [limiter, hrequests, ← h, ensure, bail, bind, Except.bind]
  rw [if_neg hrequests] at h
  by_cases hburst : cfg.burst = 0
  · rw [if_pos hburst, Option.some.injEq] at h
    simp [limiter, hrequests, hburst, ← h, ensure, bail, bind, Except.bind]
  rw [if_neg hburst] at h
  by_cases hperiod : cfg.window.nanos / cfg.requests.toNat = 0
  · rw [Quota.withPeriod, if_pos hperiod, Option.some.injEq] at h
    simp [limiter, hrequests, hburst, hperiod, ← h, ensure, bail, bind, Except.bind]
  · rw [Quota.withPeriod, if_neg hperiod] at h
    obtain ⟨cell, hcell, hresult⟩ := Option.map_eq_some_iff.1 h
    have hmade := hdirect.makes _ cell hcell
    simp [limiter, hrequests, hburst, hperiod, ← hresult, hmade, Quota.allowBurst, ensure, bind, Except.bind]

/-- The time to regain the whole burst fits the library's counter. -/
def BucketFits (bucket : RateLimitBucketConfig) : Prop :=
  bucket.window.nanos / bucket.requests.toNat * bucket.burst.toNat ≤ nanosMax

instance (bucket : RateLimitBucketConfig) : Decidable (BucketFits bucket) := inferInstanceAs (Decidable (_ ≤ _))

theorem limiter_ok_iff {governor : Governor Cell} {direct : Quota → Option Cell}
    (hdirect : PanicsBeyondNanos governor direct) {bucket : RateLimitBucketConfig} (h : BucketAccepted bucket) :
    (∃ cell, limiterOrPanic direct bucket = some (.ok cell) ∧ limiter governor bucket = .ok cell) ↔
      BucketFits bucket := by
  have hburst : 1 ≤ bucket.burst.toNat := by
    rw [Nat.one_le_iff_ne_zero]
    intro hzero
    exact h.burst (UInt32.toNat.inj hzero)
  have hfits := hdirect.fits_iff ⟨bucket.window.nanos / bucket.requests.toNat, bucket.burst⟩
  have heq := limiterOrPanic_of_accepted direct h
  constructor
  · rintro ⟨cell, hcell, -⟩
    obtain ⟨made, hmade, -⟩ := Option.map_eq_some_iff.1 (heq.symm.trans hcell)
    rw [hmade] at hfits
    exact (hfits.1 rfl).2
  · intro hbucket
    have hperiod : bucket.window.nanos / bucket.requests.toNat ≤ nanosMax :=
      calc bucket.window.nanos / bucket.requests.toNat
          ≤ bucket.window.nanos / bucket.requests.toNat * bucket.burst.toNat := Nat.le_mul_of_pos_right _ hburst
        _ ≤ nanosMax := hbucket
    obtain ⟨cell, hcell⟩ := Option.isSome_iff_exists.1 (hfits.2 ⟨hperiod, hbucket⟩)
    rw [hcell, Option.map_some] at heq
    exact ⟨cell, heq, limiter_of_limiterOrPanic hdirect heq⟩

end Buckets

def dateTimeMin : Int := -8334601228800 * 10 ^ 9

def dateTimeMax : Int := 8210266876799 * 10 ^ 9 + 999999999

/-- A `DateTime<Utc>` in nanoseconds from the epoch: the years -262143 to 262142. -/
structure DateTime where
  nanos : Int
  inRange : dateTimeMin ≤ nanos ∧ nanos ≤ dateTimeMax
  deriving DecidableEq

def timeDeltaMax : Nat := (2 ^ 63 - 1) * 10 ^ 6

/-- `TimeDelta::from_std`: a span has at most 63 bits of milliseconds. -/
def timeDeltaFromStd (duration : Duration) : Option Nat :=
  if duration.nanos ≤ timeDeltaMax then some duration.nanos else none

def DateTime.checkedSubSigned (time : DateTime) (delta : Nat) : Option DateTime :=
  if h : dateTimeMin ≤ time.nanos - delta then
    some ⟨time.nanos - delta, h, Int.le_trans (Int.sub_le_self _ (Int.natCast_nonneg delta)) time.inRange.2⟩
  else none

inductive Pruned where
  | tooLarge
  | deliveredBefore (cutoff : DateTime)
  deriving DecidableEq

/-- `prune_once`, up to what the store is asked to delete. -/
def pruneOnce (now : DateTime) (retention : Duration) : Option Pruned :=
  match timeDeltaFromStd retention with
  | none => some .tooLarge
  | some retention => (now.checkedSubSigned retention).map .deliveredBefore

/-- What the cleanups of a task do, each at its time; a panic ends the task. -/
def cleanupLoop (retention : Duration) : List DateTime → List Pruned
  | [] => []
  | now :: later =>
      match pruneOnce now retention with
      | none => []
      | some pruned => pruned :: cleanupLoop retention later

/-- The cleanup takes its own exit or reaches back to a date. -/
def Prunes (now : DateTime) (retention : Duration) : Prop :=
  pruneOnce now retention = some .tooLarge ∨
    ∃ cutoff : DateTime, pruneOnce now retention = some (.deliveredBefore cutoff) ∧
      cutoff.nanos = now.nanos - retention.nanos

def RetentionFits (now : DateTime) (retention : Duration) : Prop :=
  timeDeltaMax < retention.nanos ∨ (retention.nanos : Int) ≤ now.nanos - dateTimeMin

/-- The three ways of a cleanup: the span is too large, the date is in range, or it is not. -/
theorem pruneOnce_cases (now : DateTime) (retention : Duration) :
    (timeDeltaMax < retention.nanos ∧ pruneOnce now retention = some .tooLarge) ∨
    (retention.nanos ≤ timeDeltaMax ∧ (retention.nanos : Int) ≤ now.nanos - dateTimeMin ∧
      ∃ cutoff : DateTime, pruneOnce now retention = some (.deliveredBefore cutoff) ∧
        cutoff.nanos = now.nanos - retention.nanos) ∨
    (retention.nanos ≤ timeDeltaMax ∧ now.nanos - dateTimeMin < retention.nanos ∧
      pruneOnce now retention = none) := by
  by_cases hspan : retention.nanos ≤ timeDeltaMax
  · refine .inr ?_
    simp only [pruneOnce, timeDeltaFromStd, if_pos hspan, DateTime.checkedSubSigned]
    by_cases hdate : dateTimeMin ≤ now.nanos - retention.nanos
    · rw [dif_pos hdate]
      exact .inl ⟨hspan, by omega, _, rfl, rfl⟩
    · rw [dif_neg hdate]
      exact .inr ⟨hspan, by omega, rfl⟩
  · refine .inl ⟨by omega, ?_⟩
    simp only [pruneOnce, timeDeltaFromStd, if_neg hspan]

theorem prunes_iff (now : DateTime) (retention : Duration) : Prunes now retention ↔ RetentionFits now retention := by
  rcases pruneOnce_cases now retention with ⟨hspan, heq⟩ | ⟨-, hdate, hcutoff⟩ | ⟨hspan, hdate, heq⟩
  · exact iff_of_true (.inl heq) (.inl hspan)
  · exact iff_of_true (.inr hcutoff) (.inr hdate)
  · apply iff_of_false
    · intro hprunes
      rcases hprunes with hlarge | ⟨cutoff, hcutoff, -⟩
      · exact absurd (heq.symm.trans hlarge) (by simp)
      · exact absurd (heq.symm.trans hcutoff) (by simp)
    · rw [RetentionFits]
      omega

theorem Prunes.isSome {now : DateTime} {retention : Duration} (h : Prunes now retention) :
    ∃ pruned, pruneOnce now retention = some pruned := by
  rcases h with hlarge | ⟨cutoff, hcutoff, -⟩
  · exact ⟨_, hlarge⟩
  · exact ⟨_, hcutoff⟩

/-- The cleanup task goes through all its times exactly when the retention fits at each of them. -/
theorem cleanup_survives_iff (retention : Duration) (times : List DateTime) :
    (cleanupLoop retention times).length = times.length ↔ ∀ now ∈ times, RetentionFits now retention := by
  induction times with
  | nil => simp [cleanupLoop]
  | cons now later ih =>
      rw [List.forall_mem_cons, ← ih, ← prunes_iff]
      by_cases hprunes : Prunes now retention
      · obtain ⟨pruned, heq⟩ := hprunes.isSome
        simp only [cleanupLoop, heq, List.length_cons, hprunes, true_and, Nat.add_right_cancel_iff]
      · rcases pruneOnce_cases now retention with ⟨-, heq⟩ | ⟨-, -, hcutoff⟩ | ⟨-, -, heq⟩
        · exact absurd (.inl heq) hprunes
        · exact absurd (.inr hcutoff) hprunes
        · simp [cleanupLoop, heq, hprunes]

/-- The buckets of the runtime and of all integrations. -/
def Config.FileConfig.buckets (file : FileConfig) : List RateLimitBucketConfig :=
  (file.runtime.rateLimit :: file.integrations.map FileIntegration.rateLimit).flatMap fun rateLimit =>
    [rateLimit.reading, rateLimit.posting]

theorem buckets_accepted {parsers : Parsers} {file : FileConfig} (h : validate parsers file = .ok ()) :
    ∀ bucket ∈ file.buckets, BucketAccepted bucket := by
  have haccepted := fileAccepted_of_validate h
  have hlimits : ∀ rateLimit ∈ file.runtime.rateLimit :: file.integrations.map FileIntegration.rateLimit,
      LimitAccepted rateLimit := by
    rw [List.forall_mem_cons, List.forall_mem_map]
    refine ⟨haccepted.rateLimit, ?_⟩
    intro integration hmem
    obtain ⟨before, after, hintegration⟩ := exists_accepted haccepted.integrations hmem
    exact limitAccepted_of_validate hintegration.rateLimit
  intro bucket hbucket
  obtain ⟨rateLimit, hmem, hof⟩ := List.mem_flatMap.1 hbucket
  rcases List.mem_pair.1 hof with hreading | hposting
  · exact hreading ▸ (hlimits rateLimit hmem).reading
  · exact hposting ▸ (hlimits rateLimit hmem).posting

/-- The buckets of an accepted file are built and its cleanup reaches back to a date exactly when each burst is
regained within 64 bits of nanoseconds and the retention is either no span at all or within the range of dates. -/
theorem accepted_durations_fit_iff {Cell : Type} {governor : Governor Cell} {direct : Quota → Option Cell}
    (hdirect : PanicsBeyondNanos governor direct) {parsers : Parsers} {file : FileConfig}
    (h : validate parsers file = .ok ()) (now : DateTime) :
    ((∀ bucket ∈ file.buckets,
        ∃ cell, limiterOrPanic direct bucket = some (.ok cell) ∧ limiter governor bucket = .ok cell) ∧
      Prunes now file.storage.eventRetention) ↔
    (∀ bucket ∈ file.buckets, BucketFits bucket) ∧ RetentionFits now file.storage.eventRetention := by
  have hbuckets : (∀ bucket ∈ file.buckets,
      ∃ cell, limiterOrPanic direct bucket = some (.ok cell) ∧ limiter governor bucket = .ok cell) ↔
        ∀ bucket ∈ file.buckets, BucketFits bucket :=
    forall₂_congr fun bucket hmem => limiter_ok_iff hdirect (buckets_accepted h bucket hmem)
  rw [hbuckets, prunes_iff]

namespace Sample

/-- July 2026. -/
def july : DateTime := ⟨1784462400 * 10 ^ 9, by decide⟩

/-- A constructor that panics as is assumed. -/
def directOrPanic (quota : Quota) : Option Nat :=
  if quota.replenish1Per ≤ nanosMax ∧ quota.replenish1Per * quota.maxBurst.toNat ≤ nanosMax then
    some (governor.direct quota.replenish1Per quota.maxBurst)
  else none

theorem panicsBeyondNanos : PanicsBeyondNanos governor directOrPanic where
  fits_iff quota := by rw [directOrPanic, Option.isSome_ite]
  makes quota cell h := by
    rw [directOrPanic, Option.ite_none_right_eq_some, Option.some.injEq] at h
    exact h.2.symm

theorem accepted_durations_fit_iff_bridge :
    validate parsers bridgeFile = .ok () ∧
      (∀ bucket ∈ bridgeFile.buckets,
        ∃ cell, limiterOrPanic directOrPanic bucket = some (.ok cell) ∧ limiter governor bucket = .ok cell) ∧
      Prunes july bridgeFile.storage.eventRetention := by
  have hvalidate : validate parsers bridgeFile = .ok () := rfl
  refine ⟨hvalidate, (accepted_durations_fit_iff panicsBeyondNanos hvalidate july).2 ⟨?_, .inr (by decide)⟩⟩
  decide

/-- One request in 600 years, and events kept for 300000 years. -/
def patientFile : FileConfig :=
  { bridgeFile with
    runtime := { bridgeFile.runtime with
      rateLimit := { bridgeFile.runtime.rateLimit with reading := ⟨1, ⟨600 * 31557600 * 10 ^ 9, by decide⟩, 1⟩ } }
    storage := { bridgeFile.storage with eventRetention := ⟨300000 * 31557600 * 10 ^ 9, by decide⟩ } }

/-- The file is accepted; its first bucket panics, and so does its cleanup. -/
theorem patient_file_panics :
    validate parsers patientFile = .ok () ∧
      limiterOrPanic directOrPanic patientFile.runtime.rateLimit.reading = none ∧
      pruneOnce july patientFile.storage.eventRetention = none ∧
      ¬((∀ bucket ∈ patientFile.buckets,
          ∃ cell, limiterOrPanic directOrPanic bucket = some (.ok cell) ∧ limiter governor bucket = .ok cell) ∧
        Prunes july patientFile.storage.eventRetention) := by
  have hpanics : limiterOrPanic directOrPanic patientFile.runtime.rateLimit.reading = none := by decide
  refine ⟨rfl, hpanics, by decide, ?_⟩
  intro h
  obtain ⟨cell, hcell, -⟩ := h.1 patientFile.runtime.rateLimit.reading List.mem_cons_self
  rw [hpanics] at hcell
  cases hcell

end Sample

end PtchanGateway
