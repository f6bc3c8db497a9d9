import PtchanGateway.SocketSteps

/-! The sleeps between connection attempts. The result of an attempt carries whether the room was joined, but
an error carries nothing and the periodic refresh always says that it was. So the sleep after an attempt
is the one due except after an error on a joined connection and after a refresh of one that had not
joined, and these keep to it only as the first attempt of the run. -/

namespace PtchanGateway

open JsonValue Config Session RunSystem

namespace Socket

/-- The sleep due after an attempt, given the attempts before it: the shortest if the room was joined,
otherwise twice the previous sleep up to the longest. -/
def SleepDue (serde : Serde) (older : List Attempt) (attempt : Attempt) : Prop :=
  (JoinedOn serde attempt.received → attempt.sleep = reconnectMin) ∧
    (¬JoinedOn serde attempt.received →
      attempt.sleep = match older.head? with
        | none => reconnectMin
        | some previous => min reconnectMax (2 * previous.sleep))

/-- The delay the supervisor holds before an attempt, given the attempts before it. -/
def delayBefore : List Attempt → Nat
  | [] => reconnectMin
  | previous :: _ => min (previous.sleep * 2) reconnectMax

/-- The sleep the supervisor takes after an attempt. -/
def SleepTaken (serde : Serde) (older : List Attempt) (attempt : Attempt) : Prop :=
  ∃ result, Ended.Consistent serde ⟨attempt.ending, attempt.received, result⟩ ∧
    attempt.sleep = delayAfter (delayBefore older) result

/-- The joined flag did not reach the supervisor: it was lost to an error, or made up by the refresh. -/
def FlagLost (serde : Serde) (attempt : Attempt) : Prop :=
  ((attempt.ending = .readError ∨ attempt.ending = .sendError) ∧ JoinedOn serde attempt.received) ∨
    (attempt.ending = .refresh ∧ ¬JoinedOn serde attempt.received)

/-- The supervisor holds the delay its attempts call for, and took the sleeps they called for. -/
structure Spaced (serde : Serde) (task : Task) : Prop where
  delay : (∀ wakeAt, task.point ≠ .backoff wakeAt) → task.delay = delayBefore task.attempts
  backoff : ∀ wakeAt, task.point = .backoff wakeAt → ∃ last older, task.attempts = last :: older ∧
    task.delay = last.sleep
  taken : ∀ attempt older, attempt :: older <:+ task.attempts → SleepTaken serde older attempt

section Spaced

variable {serde : Serde}

theorem reconnectMin_le_delayAfter {delay : Nat} {result : Except Chain Bool} (h : reconnectMin ≤ delay) :
    reconnectMin ≤ delayAfter delay result := by
  cases result with
  | ok joined =>
      rw [delayAfter]
      split_ifs
      · exact le_rfl
      · exact h
  | error err => exact h

/-- No sleep is shorter than the shortest. -/
theorem reconnectMin_le_sleep {attempts : List Attempt}
    (h : ∀ attempt older, attempt :: older <:+ attempts → SleepTaken serde older attempt) :
    ∀ attempt ∈ attempts, reconnectMin ≤ attempt.sleep := by
  induction attempts with
  | nil => exact nofun
  | cons last older ih =>
      have holder := ih fun attempt rest hsuffix => h attempt rest (hsuffix.trans (List.suffix_cons _ _))
      have hbefore : reconnectMin ≤ delayBefore older := by
        cases older with
        | nil => exact le_rfl
        | cons previous rest =>
            have hprevious := holder previous (List.mem_cons_self ..)
            rw [delayBefore, le_min_iff]
            exact ⟨by omega, by decide⟩
      intro attempt hmem
      rcases List.mem_cons.mp hmem with rfl | hmem
      · obtain ⟨result, _, hsleep⟩ := h attempt older List.suffix_rfl
        rw [hsleep]
        exact reconnectMin_le_delayAfter hbefore
      · exact holder attempt hmem

/-- After the first attempt the delay held is longer than the shortest. -/
theorem delayBefore_eq_reconnectMin_iff {older : List Attempt}
    (h : ∀ attempt ∈ older, reconnectMin ≤ attempt.sleep) : delayBefore older = reconnectMin ↔ older = [] := by
  cases older with
  | nil => exact iff_of_true rfl rfl
  | cons previous rest =>
      have hprevious := h previous (List.mem_cons_self ..)
      have hlonger : reconnectMin < delayBefore (previous :: rest) := by
        rw [delayBefore, lt_min_iff]
        have hpositive : 0 < reconnectMin := by decide
        exact ⟨by omega, by decide⟩
      exact iff_of_false hlonger.ne' (List.cons_ne_nil _ _)

theorem sleepDue_iff_delayBefore {older : List Attempt} {attempt : Attempt} :
    SleepDue serde older attempt ↔ (JoinedOn serde attempt.received → attempt.sleep = reconnectMin) ∧
      (¬JoinedOn serde attempt.received → attempt.sleep = delayBefore older) := by
  have hbefore : delayBefore older = match older.head? with
      | none => reconnectMin
      | some previous => min reconnectMax (2 * previous.sleep) := by
    cases older with
    | nil => rfl
    | cons previous rest =>
        rw [delayBefore, Nat.mul_comm, min_comm]
        rfl
  rw [SleepDue, hbefore]

/-- An attempt that left the delay as it was. -/
theorem sleepDue_of_delayBefore {older : List Attempt} {attempt : Attempt}
    (hmin : ∀ previous ∈ older, reconnectMin ≤ previous.sleep) (h : attempt.sleep = delayBefore older) :
    SleepDue serde older attempt ↔ (older ≠ [] → ¬JoinedOn serde attempt.received) := by
  have hfirst := delayBefore_eq_reconnectMin_iff hmin
  rw [sleepDue_iff_delayBefore, h]
  refine ⟨fun hdue hne hjoined => hne (hfirst.mp (hdue.1 hjoined)), fun hlost => ⟨fun hjoined => ?_, fun _ => rfl⟩⟩
  by_contra hdelay
  exact hlost (mt hfirst.mpr hdelay) hjoined

/-- An attempt that reset the delay. -/
theorem sleepDue_of_reconnectMin {older : List Attempt} {attempt : Attempt}
    (hmin : ∀ previous ∈ older, reconnectMin ≤ previous.sleep) (h : attempt.sleep = reconnectMin) :
    SleepDue serde older attempt ↔ (older ≠ [] → JoinedOn serde attempt.received) := by
  have hfirst := delayBefore_eq_reconnectMin_iff hmin
  rw [sleepDue_iff_delayBefore, h]
  refine ⟨fun hdue hne => ?_, fun hjoined => ⟨fun _ => rfl, fun hnot => ?_⟩⟩
  · by_contra hnot
    exact hne (hfirst.mp (hdue.2 hnot).symm)
  · by_contra hdelay
    exact hnot (hjoined (mt hfirst.mpr fun heq => hdelay heq.symm))

theorem not_joinedOn_nil : ¬JoinedOn serde [] := by
  intro h
  obtain ⟨text, hmem, _⟩ := h
  cases hmem

/-- The sleep taken is the one due, but where the flag is lost after the first attempt. -/
theorem sleepDue_iff {older : List Attempt} {attempt : Attempt} (htaken : SleepTaken serde older attempt)
    (hmin : ∀ previous ∈ older, reconnectMin ≤ previous.sleep) :
    SleepDue serde older attempt ↔ (older ≠ [] → ¬FlagLost serde attempt) := by
  obtain ⟨ending, received, sleep⟩ := attempt
  obtain ⟨result, hconsistent, hsleep⟩ := htaken
  cases ending with
  | left exit =>
      obtain ⟨joined, hresult, hjoined⟩ := hconsistent
      simp only at hresult hsleep hjoined
      subst hresult hsleep
      refine iff_of_true (sleepDue_iff_delayBefore.mpr ⟨fun h => ?_, fun h => ?_⟩) fun _ => by simp [FlagLost]
      · rw [delayAfter, if_pos (hjoined.mpr h)]
      · rw [delayAfter, if_neg (mt hjoined.mp h)]
  | refresh =>
      simp only [Ended.Consistent] at hconsistent
      rw [hconsistent, delayAfter, if_pos rfl] at hsleep
      rw [sleepDue_of_reconnectMin hmin hsleep]
      simp [FlagLost]
  | requestError | connectError =>
      obtain ⟨hreceived, err, hresult⟩ := hconsistent
      simp only at hreceived hresult
      rw [hresult, delayAfter] at hsleep
      rw [sleepDue_of_delayBefore hmin hsleep, hreceived]
      simp [FlagLost, not_joinedOn_nil]
  | readError | sendError =>
      obtain ⟨err, hresult⟩ := hconsistent
      simp only at hresult
      rw [hresult, delayAfter] at hsleep
      rw [sleepDue_of_delayBefore hmin hsleep]
      simp [FlagLost]

end Spaced

section Runs

variable {Jar Url : Type} {setup : Setup Jar Url} {shared : Shared Jar}

theorem spaced_start (serde : Serde) : Spaced serde .start := by
  refine ⟨fun _ => rfl, nofun, fun attempt older hsuffix => ?_⟩
  exact absurd (List.suffix_nil.mp hsuffix) (List.cons_ne_nil _ _)

/-- The delay and the attempts stay as they are, outside the backoff. -/
theorem Spaced.moved {serde : Serde} {task : Task} {point : Point} (h : Spaced serde task)
    (hbefore : ∀ wakeAt, task.point ≠ .backoff wakeAt) (hafter : ∀ wakeAt, point ≠ .backoff wakeAt) :
    Spaced serde { task with point := point } where
  delay := fun _ => h.delay hbefore
  backoff := fun wakeAt hpoint => absurd hpoint (hafter wakeAt)
  taken := h.taken

theorem Spaced.slept {serde : Serde} {task : Task} {ended : Ended} {wakeAt : Nat} (h : Spaced serde task)
    (hpoint : task.point = .ended ended) (hended : ended.Consistent serde) :
    Spaced serde ⟨.backoff wakeAt, delayAfter task.delay ended.result,
      ⟨ended.ending, ended.received, delayAfter task.delay ended.result⟩ :: task.attempts⟩ := by
  have hdelay := h.delay fun _ hbackoff => by
    rw [hpoint] at hbackoff
    cases hbackoff
  refine ⟨fun hnot => absurd rfl (hnot wakeAt), fun _ _ => ⟨_, _, rfl, rfl⟩, fun attempt older hsuffix => ?_⟩
  rcases List.suffix_cons_iff.mp hsuffix with heq | hsuffix
  · cases heq
    exact ⟨ended.result, hended, by rw [hdelay]⟩
  · exact h.taken attempt older hsuffix

theorem Spaced.retried {serde : Serde} {task : Task} {wakeAt : Nat} (h : Spaced serde task)
    (hpoint : task.point = .backoff wakeAt) :
    Spaced serde { task with point := .top, delay := min (task.delay * 2) reconnectMax } := by
  obtain ⟨last, older, hattempts, hdelay⟩ := h.backoff wakeAt hpoint
  refine ⟨fun _ => ?_, nofun, h.taken⟩
  simp only [hattempts, hdelay, delayBefore]

theorem Spaced.step {task : Task} {effect : Effect} (h : Spaced setup.serde task)
    (hmarked : task.Marked setup.serde) (hstep : Task.Step setup shared task effect) :
    Spaced setup.serde effect.task := by
  cases hstep with
  | sleeps hpoint => exact h.slept hpoint (hmarked.ended _ hpoint)
  | retries hpoint => exact h.retried hpoint
  | @runs refreshAt point event result hpoint hresult =>
      cases result <;> exact h.moved (by simp [hpoint]) nofun
  | _ => exact h.moved (by simp [*]) nofun

theorem spaced_of_path {upstreamRequired : Bool} {cookie : SessionCookie Jar} {as : List Action}
    {s : System Jar} (h : Path (step setup) (fun _ _ => True) (.init upstreamRequired cookie) as s) :
    s.supervisor.Marked setup.serde ∧ Spaced setup.serde s.supervisor := by
  refine Path.invariant (fun s : System Jar => s.supervisor.Marked setup.serde ∧ Spaced setup.serde s.supervisor)
    ?_ h ⟨Task.marked_of_idle _ rfl, spaced_start _⟩
  intro s a s' hinv _ hstep
  rcases step_cases hstep with ⟨_, hsupervisor, _⟩ | ⟨effect, heffect, rfl⟩ | ⟨event, effect, _, rfl⟩
  · rw [hsupervisor]
    exact hinv
  · exact ⟨hinv.1.step heffect, hinv.2.step hinv.1 heffect⟩
  · exact hinv

/-- In every run, each sleep is the one due exactly if no attempt after the first loses the flag. -/
theorem reconnects_back_off_iff (setup : Setup Jar Url) {upstreamRequired : Bool} {cookie : SessionCookie Jar}
    {as : List Action} {s : System Jar}
    (h : Path (step setup) (fun _ _ => True) (.init upstreamRequired cookie) as s) :
    (∀ attempt older, attempt :: older <:+ s.supervisor.attempts → SleepDue setup.serde older attempt) ↔
      ∀ attempt older, attempt :: older <:+ s.supervisor.attempts → older ≠ [] →
        ¬((attempt.ending = .readError ∨ attempt.ending = .sendError) ∧ JoinedOn setup.serde attempt.received) ∧
        ¬(attempt.ending = .refresh ∧ ¬JoinedOn setup.serde attempt.received) := by
  obtain ⟨_, hspaced⟩ := spaced_of_path h
  refine forall_congr' fun attempt => forall_congr' fun older => forall_congr' fun hsuffix => ?_
  rw [sleepDue_iff (hspaced.taken attempt older hsuffix) fun previous hmem => ?_, FlagLost, not_or]
  have hmem : previous ∈ s.supervisor.attempts := hsuffix.subset (List.mem_cons_of_mem _ hmem)
  exact reconnectMin_le_sleep hspaced.taken previous hmem

end Runs

namespace Sample

/-- A connection is refused. The next one joins the room and ends as given. -/
def refusedThenJoined (last : Option (Except String Message)) : List Action :=
  refreshed ++ attempted (.error "refused") ++
    [.supervise .proceed, .tick reconnectMin, .supervise .elapsed] ++ attempted (.ok ()) ++ joined ++
    [.supervise (.next last)]

theorem reconnects_back_off_iff_closed :
    ∃ s, Path (step setup) (fun _ _ => True) (.init true cookie)
        (refusedThenJoined none ++ [.supervise .closed, .supervise .proceed]) s ∧
      s.supervisor.attempts = [⟨.left .closed, [joinText], reconnectMin⟩, ⟨.connectError, [], reconnectMin⟩] ∧
      ∀ attempt older, attempt :: older <:+ s.supervisor.attempts → SleepDue setup.serde older attempt := by
  have hrun : ∃ s, Path (step setup) (fun _ _ => True) (.init true cookie)
        (refusedThenJoined none ++ [.supervise .closed, .supervise .proceed]) s ∧
      s.supervisor.attempts = [⟨.left .closed, [joinText], reconnectMin⟩, ⟨.connectError, [], reconnectMin⟩] :=
    Path.exists_of_exec _ (by decide +kernel)
  obtain ⟨s, hpath, hattempts⟩ := hrun
  refine ⟨s, hpath, hattempts, (reconnects_back_off_iff setup hpath).mpr ?_⟩
  rw [hattempts]
  intro attempt older hsuffix hne
  rcases List.suffix_cons_iff.mp hsuffix with heq | hsuffix
  · cases heq
    exact ⟨by simp, by simp⟩
  · have hlength := hsuffix.length_le
    simp only [List.length_cons, List.length_nil] at hlength
    exact absurd (List.eq_nil_of_length_eq_zero (by omega)) hne

/-- The read error after the join is followed by twice the shortest sleep. -/
theorem joined_read_error_backs_off :
    ∃ s, Path (step setup) (fun _ _ => True) (.init true cookie)
        (refusedThenJoined (some (.error "connection reset")) ++ [.supervise .proceed]) s ∧
      ¬∀ attempt older, attempt :: older <:+ s.supervisor.attempts → SleepDue setup.serde older attempt := by
  have hrun : ∃ s, Path (step setup) (fun _ _ => True) (.init true cookie)
        (refusedThenJoined (some (.error "connection reset")) ++ [.supervise .proceed]) s ∧
      s.supervisor.attempts = [⟨.readError, [joinText], 2 * reconnectMin⟩, ⟨.connectError, [], reconnectMin⟩] :=
    Path.exists_of_exec _ (by decide +kernel)
  obtain ⟨s, hpath, hattempts⟩ := hrun
  refine ⟨s, hpath, fun hdue => ?_⟩
  rw [hattempts] at hdue
  have hjoined : JoinedOn setup.serde [joinText] := by decide +kernel
  have hsleep := (hdue _ _ List.suffix_rfl).1 hjoined
  exact absurd hsleep (by decide)

end Sample

end Socket

end PtchanGateway
