import PtchanGateway.SocketSteps

/-! Readiness is never stale. The flag `upstream_joined` is up only while the supervisor is inside
`run_socket_once` on a connection that received the join, or is about to take it down. The flag
`auth_healthy` is up only if the last completed refresh left a cookie with a known expiry. -/

namespace PtchanGateway

open JsonValue Config Session RunSystem

namespace Session

variable {Jar : Type} {library : CookieLibrary Jar}

theorem nextRefreshDelay_eq_ok {cookie : SessionCookie Jar} {now : Int} {sleepFor : Nat}
    (h : nextRefreshDelay library cookie now = .ok sleepFor) :
    ∃ expiry, cookie.expiresAt library now = some expiry := by
  obtain ⟨expiry, hexpiry, _⟩ := bind_eq_ok.mp h
  exact ⟨expiry, orBail_eq_ok.mp hexpiry⟩

/-- The flag goes up only after a refresh that succeeded with a known expiry. -/
theorem succeeded_of_conclude {attempt : Attempt Jar} (h : (conclude library attempt).1 = true) :
    attempt.Succeeded library := by
  rw [conclude] at h
  cases hresult : attempt.result with
  | error err =>
      rw [hresult] at h
      cases h
  | ok updated =>
      rw [hresult] at h
      cases hdelay : nextRefreshDelay library attempt.cookie attempt.checkedAt with
      | error err => simp [hdelay] at h
      | ok sleepFor => exact ⟨⟨updated, hresult⟩, nextRefreshDelay_eq_ok hdelay⟩

/-- A step publishes an attempt, or keeps the last one and does not raise the flag. -/
theorem Task.step_cases {serde : Serde} {statusText : Nat → String} {baseUrl : String} {shutdown : Bool}
    {clock : Nat} {cookie : SessionCookie Jar} {task : Task Jar} {event : Event} {effect : Effect Jar}
    (h : task.step library serde statusText baseUrl shutdown clock cookie event = some effect) :
    (effect.task.last = task.last ∧ (effect.authHealthy = none ∨ effect.authHealthy = some false)) ∨
      ∃ attempt, effect.task.last = some attempt ∧ effect.authHealthy = some (conclude library attempt).1 := by
  cases event with
  | build outcome =>
      simp only [Task.step] at h
      split at h
      · cases h
        exact .inl ⟨rfl, .inl rfl⟩
      · cases h
        exact .inl ⟨rfl, .inl rfl⟩
      · cases h
  | proceed =>
      rw [Task.step] at h
      split at h
      · cases h
        exact .inl ⟨rfl, .inr rfl⟩
      · cases h
        exact .inl ⟨rfl, .inl rfl⟩
      · cases h
  | request now =>
      rw [Task.step] at h
      split at h
      · cases h
        exact .inl ⟨rfl, .inl rfl⟩
      · cases h
  | answer outcome =>
      rw [Task.step] at h
      split at h
      · split at h
        · cases h
          exact .inl ⟨rfl, .inl rfl⟩
        · cases h
          exact .inl ⟨rfl, .inl rfl⟩
      · cases h
  | body outcome now =>
      rw [Task.step] at h
      split at h
      · cases h
        exact .inl ⟨rfl, .inl rfl⟩
      · cases h
  | publish now =>
      rw [Task.step] at h
      split at h
      · rename_i result hpoint
        cases h
        exact .inr ⟨⟨result, cookie, now⟩, rfl, rfl⟩
      · cases h
  | elapsed | shutdownChanged =>
      rw [Task.step] at h
      split at h
      · split_ifs at h
        cases h
        exact .inl ⟨rfl, .inl rfl⟩
      · cases h

/-- The last completed refresh succeeded with a cookie of known expiry. -/
def Task.Verified (library : CookieLibrary Jar) (task : Task Jar) : Prop :=
  ∃ attempt, task.last = some attempt ∧ attempt.Succeeded library

theorem Task.step_verified {serde : Serde} {statusText : Nat → String} {baseUrl : String}
    {shutdown healthy : Bool} {clock : Nat} {cookie : SessionCookie Jar} {task : Task Jar} {event : Event}
    {effect : Effect Jar} (h : task.step library serde statusText baseUrl shutdown clock cookie event = some effect)
    (hbefore : healthy = true → task.Verified library) (hafter : effect.authHealthy.getD healthy = true) :
    effect.task.Verified library := by
  rcases Task.step_cases h with ⟨hlast, hnone | hfalse⟩ | ⟨attempt, hlast, hstored⟩
  · rw [hnone, Option.getD_none] at hafter
    rw [Verified, hlast]
    exact hbefore hafter
  · rw [hfalse, Option.getD_some] at hafter
    cases hafter
  · rw [hstored, Option.getD_some] at hafter
    exact ⟨attempt, hlast, succeeded_of_conclude hafter⟩

end Session

namespace Socket

/-- The supervisor is outside `run_socket_once`: at its start or the top of its loop, at an await, or after
its return. -/
def Point.outside : Point → Bool
  | .top | .authWait _ | .backoff _ | .returned => true
  | _ => false

/-- The supervisor is outside `run_socket_once` as above, or that is at an await. -/
def Point.awaits : Point → Bool
  | .running _ point => point.awaits
  | point => point.outside

/-- Where the flag may be up. -/
def Point.MayHold : Point → Prop
  | .leaving | .ended _ => True
  | .running _ point => point.Joined
  | _ => False

section Flag

variable {Jar Url : Type} {setup : Setup Jar Url} {shared : Shared Jar}

theorem Task.enter_mayHold {task : Task} {refreshAt : Nat} {point : RunPoint} {result : RunStep} {joined : Bool}
    (hsound : result.Sound setup.serde point) (hbefore : joined = true → point.Joined)
    (hafter : (task.enter refreshAt result).upstreamJoined.getD joined = true) :
    (task.enter refreshAt result).task.point.MayHold := by
  cases result with
  | goto after => exact hsound.2 (hbefore hafter)
  | store stored after => exact hsound.2 hafter
  | exit ended => trivial

theorem Task.step_mayHold {task : Task} {effect : Effect} {joined : Bool}
    (hstep : Task.Step setup shared task effect) (hmarked : task.Marked setup.serde)
    (hbefore : joined = true → task.point.MayHold) (hafter : effect.upstreamJoined.getD joined = true) :
    effect.task.point.MayHold := by
  cases hstep with
  | leaves | drops | refreshes => trivial
  | returns | waits | sleeps => cases hafter
  | runs hpoint hresult =>
      refine Task.enter_mayHold (RunPoint.step_sound hresult (hmarked.running _ _ hpoint)) (fun hjoined => ?_) hafter
      have hholds := hbefore hjoined
      rw [hpoint] at hholds
      exact hholds
  | checks hpoint | starts hpoint | holds hpoint | wakes hpoint | retries hpoint =>
      have hholds := hbefore hafter
      rw [hpoint] at hholds
      exact hholds.elim

end Flag

/-- `ready` when its loads are apart: the second flag is read in a later state. -/
def readyAcross (status later : Status) : Bool :=
  !status.upstreamRequired || (status.authHealthy && later.upstreamJoined)

structure Current {Jar Url : Type} (setup : Setup Jar Url) (s : System Jar) : Prop where
  marked : s.supervisor.Marked setup.serde
  joined : s.status.upstreamJoined = true → s.supervisor.point.MayHold
  healthy : s.status.authHealthy = true → s.refresher.Verified setup.cookies

section Runs

variable {Jar Url : Type} {setup : Setup Jar Url}

theorem current_init (upstreamRequired : Bool) (cookie : SessionCookie Jar) :
    Current setup (.init upstreamRequired cookie) :=
  ⟨Task.marked_of_idle _ rfl, nofun, nofun⟩

theorem Current.supervised {s : System Jar} {effect : Effect} (h : Current setup s)
    (hstep : Task.Step setup s.shared s.supervisor effect) :
    Current setup { s with
      supervisor := effect.task
      status := (effect.upstreamJoined.map s.status.setUpstreamJoined).getD s.status } := by
  obtain ⟨task, stored⟩ := effect
  refine ⟨h.marked.step hstep, fun hjoined => Task.step_mayHold hstep h.marked h.joined ?_,
    fun hhealthy => h.healthy ?_⟩
  · cases stored <;> exact hjoined
  · cases stored <;> exact hhealthy

theorem Current.refreshed {s : System Jar} {event : Session.Event} {effect : Session.Effect Jar}
    (h : Current setup s)
    (hstep : s.refresher.step setup.cookies setup.serde setup.statusText setup.baseUrl s.shutdown s.clock s.cookie
      event = some effect) :
    Current setup { s with
      refresher := effect.task
      cookie := effect.cookie
      status := (effect.authHealthy.map s.status.setAuthHealthy).getD s.status } := by
  obtain ⟨task, cookie, stored⟩ := effect
  refine ⟨h.marked, fun hjoined => h.joined ?_, fun hhealthy => Session.Task.step_verified hstep h.healthy ?_⟩
  · cases stored <;> exact hjoined
  · cases stored <;> exact hhealthy

theorem current_of_path {s s' : System Jar} {as : List Action} (h : Path (step setup) (fun _ _ => True) s as s')
    (hcurrent : Current setup s) : Current setup s' := by
  refine Path.invariant (Current setup) ?_ h hcurrent
  intro s a s' hinv _ hstep
  rcases step_cases hstep with
    ⟨hstatus, hsupervisor, hrefresher⟩ | ⟨effect, heffect, rfl⟩ | ⟨event, effect, heffect, rfl⟩
  · refine ⟨?_, ?_, ?_⟩
    · rw [hsupervisor]
      exact hinv.marked
    · rw [hstatus, hsupervisor]
      exact hinv.joined
    · rw [hstatus, hrefresher]
      exact hinv.healthy
  · exact hinv.supervised heffect
  · exact hinv.refreshed heffect

theorem Current.down {s : System Jar} (h : Current setup s) (houtside : s.supervisor.point.outside = true) :
    s.status.upstreamJoined = false := by
  rw [Bool.eq_false_iff]
  intro hjoined
  have hholds := h.joined hjoined
  cases hpoint : s.supervisor.point with
  | top | authWait | backoff | returned =>
      rw [hpoint] at hholds
      exact hholds
  | leaving | ended | checkingAuth | unhealthy | running =>
      rw [hpoint] at houtside
      cases houtside

/-- At an await the flag stands for a connection that received the join. -/
theorem Current.received {s : System Jar} (h : Current setup s) (hawaits : s.supervisor.point.awaits = true)
    (hjoined : s.status.upstreamJoined = true) :
    ∃ refreshAt point connection, s.supervisor.point = .running refreshAt point ∧
      point.connection? = some connection ∧ JoinedOn setup.serde connection.received := by
  have hholds := h.joined hjoined
  cases hpoint : s.supervisor.point with
  | running refreshAt point =>
      rw [hpoint] at hholds
      obtain ⟨connection, hconnection, htrue⟩ := hholds
      have hmarked := (h.marked.running _ _ hpoint).connection connection hconnection
      exact ⟨refreshAt, point, connection, rfl, hconnection, hmarked.mp htrue⟩
  | leaving | ended | checkingAuth | unhealthy =>
      rw [hpoint] at hawaits
      cases hawaits
  | top | authWait | backoff | returned =>
      rw [hpoint] at hholds
      exact hholds.elim

/-- Whatever the two tasks do, and in whatever order: outside `run_socket_once` the flag is down; at an await
it is up only inside `run_socket_once` on a connection that received the join; and readiness of a required
upstream, also when its two flags are read in different states, tells of a last refresh that succeeded. -/
theorem readiness_is_never_stale (setup : Setup Jar Url) {upstreamRequired : Bool} {cookie : SessionCookie Jar}
    {as bs : List Action} {s s' : System Jar}
    (h : Path (step setup) (fun _ _ => True) (.init upstreamRequired cookie) as s)
    (hlater : Path (step setup) (fun _ _ => True) s bs s') :
    (s.supervisor.point.outside = true → s.status.upstreamJoined = false) ∧
      (s.supervisor.point.awaits = true → s.status.upstreamJoined = true →
        ∃ refreshAt point connection, s.supervisor.point = .running refreshAt point ∧
          point.connection? = some connection ∧ JoinedOn setup.serde connection.received) ∧
      (s.status.upstreamRequired = true → s.status.ready = true → ∃ attempt, s.refresher.last = some attempt ∧
        attempt.Succeeded setup.cookies) ∧
      (s.status.upstreamRequired = true → readyAcross s.status s'.status = true →
        (∃ attempt, s.refresher.last = some attempt ∧ attempt.Succeeded setup.cookies) ∧
          s'.supervisor.point.outside = false) := by
  have hcurrent := current_of_path h (current_init upstreamRequired cookie)
  have hcurrent' := current_of_path hlater hcurrent
  refine ⟨hcurrent.down, hcurrent.received, fun hrequired hready => ?_, fun hrequired hready => ?_⟩
  · rw [Status.ready, hrequired, Bool.not_true, Bool.false_or, Bool.and_eq_true] at hready
    exact hcurrent.healthy hready.1
  · rw [readyAcross, hrequired, Bool.not_true, Bool.false_or, Bool.and_eq_true] at hready
    refine ⟨hcurrent.healthy hready.1, Bool.eq_false_iff.mpr fun houtside => ?_⟩
    rw [hcurrent'.down houtside] at hready
    exact Bool.false_ne_true hready.2

end Runs

namespace Sample

theorem readiness_is_never_stale_joined :
    ∃ s, Path (step setup) (fun _ _ => True) (.init true cookie) (refreshed ++ attempted (.ok ()) ++ joined) s ∧
      s.status.ready = true ∧ s.supervisor.point.awaits = true ∧
      (∃ attempt, s.refresher.last = some attempt ∧ attempt.Succeeded setup.cookies) ∧
      ∃ refreshAt point connection, s.supervisor.point = .running refreshAt point ∧
        point.connection? = some connection ∧ JoinedOn setup.serde connection.received := by
  have hrun : ∃ s, Path (step setup) (fun _ _ => True) (.init true cookie)
        (refreshed ++ attempted (.ok ()) ++ joined) s ∧
      (s.status = ⟨true, true, true⟩ ∧ s.supervisor.point.awaits = true) :=
    Path.exists_of_exec _ (by decide +kernel)
  obtain ⟨s, hpath, hstatus, hawaits⟩ := hrun
  have hready : s.status.ready = true := by rw [hstatus]; rfl
  obtain ⟨_, hreceived, hverified, _⟩ := readiness_is_never_stale setup hpath (.nil s)
  exact ⟨s, hpath, hready, hawaits, hverified (by rw [hstatus]) hready, hreceived hawaits (by rw [hstatus])⟩

end Sample

end Socket

end PtchanGateway
