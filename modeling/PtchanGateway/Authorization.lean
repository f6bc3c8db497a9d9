import PtchanGateway.Mediation

/-!
Authorization. A request is authenticated when it names a configured integration whose secret verifies it, and
authorized when the integration also has the capability and the board. Exactly the authorized requests are
charged, once, whatever comes of them later. The routes differ in how they refuse the others: reading looks
the integration up among all of them, posting only among those that may post.
-/

namespace PtchanGateway

open TextRfc3339 TextRust JsonValue Config Upstream

variable {Cell : Type} (lib : Libraries Cell) {config : Config} {state : AppState Cell}

/-- The body a signature covers on a route, if the request has one that can be read. -/
def Call.signedBody (call : Call) : Option (Option Bytes) :=
  match call.route with
  | .thread => some none
  | .reply => call.request.body.toOption.map some

/-- The request names a configured integration, and its secret verifies the request. -/
structure Authenticated (config : Config) (call : Call) (integration : IntegrationConfig) : Prop where
  configured : integration ∈ config.integrations
  named : header call.request.headers "x-ptchan-integration" = some integration.name
  verified : ∃ body, call.signedBody = some body ∧
    verifyRequestHeaders lib.mac call.now integration.secret call.request body = .ok ()

/-- The request is authenticated, the integration has the capability and the board is open to it. -/
structure Authorized (config : Config) (call : Call) (integration : IntegrationConfig) (board : String) : Prop where
  authenticated : Authenticated lib config call integration
  captured : ∃ text, lib.extract.path call.request.uri = .ok (board, text)
  capable : Capable config integration call.route.capability
  allowed : boardAllowed integration.allowedBoards board = true

theorem Authenticated.unique (hresolved : Resolution config) {call : Call} {integration other : IntegrationConfig}
    (h : Authenticated lib config call integration) (hother : Authenticated lib config call other) :
    other = integration := by
  have hname : other.name = integration.name := Option.some.inj (hother.named.symm.trans h.named)
  exact List.inj_on_of_nodup_map hresolved.integrationNames hother.configured h.configured hname

theorem integrations_eq_some (hbuilt : Built config state) (hresolved : Resolution config) {name : String}
    {integration : IntegrationConfig} :
    state.integrations name = some integration ↔ integration ∈ config.integrations ∧ integration.name = name := by
  rw [hbuilt.integrations]
  exact collectBy_eq_some_iff hresolved.integrationNames

/-- A posting that is looked up is that of the integration with its name. -/
theorem postingOf_of_postings (hbuilt : Built config state) (hresolved : Resolution config)
    {integration : IntegrationConfig} (hmem : integration ∈ config.integrations) {posting : PostingConfig}
    (h : state.postings integration.name = some posting) :
    posting ∈ config.postings ∧ PostingOf posting integration := by
  rw [hbuilt.postings] at h
  obtain ⟨hposting, hname⟩ := collectBy_eq_some h
  obtain ⟨other, hother, hof⟩ := hresolved.postings posting hposting
  have hsame : other = integration :=
    List.inj_on_of_nodup_map hresolved.integrationNames hother hmem (hof.name.symm.trans hname)
  exact ⟨hposting, hsame ▸ hof⟩

theorem isSome_postings_iff (hbuilt : Built config state) (hresolved : Resolution config)
    {integration : IntegrationConfig} (hmem : integration ∈ config.integrations) :
    (state.postings integration.name).isSome = true ↔ Capable config integration .posting := by
  constructor
  · intro h
    obtain ⟨posting, hposting⟩ := Option.isSome_iff_exists.1 h
    exact ⟨posting, postingOf_of_postings hbuilt hresolved hmem hposting⟩
  · rintro ⟨posting, hposting, hof⟩
    rw [hbuilt.postings, ← hof.name]
    exact isSome_collectBy hposting

/-! ### What the routes answer -/

theorem authenticate_of {α : Type} {mac : Bytes → Bytes → Bytes} {entries : String → Option α} {secret : α → String}
    {now : Instant} {request : Request} {body : Option Bytes} {name : String} {entry : α}
    (hname : header request.headers "x-ptchan-integration" = some name) (hentry : entries name = some entry)
    (hverified : verifyRequestHeaders mac now (secret entry) request body = .ok ()) :
    authenticate mac entries secret now request body = .ok entry := by
  rw [authenticate, hname, Option.bind_some, hentry]
  simp only [hverified]

/-- A read of an authenticated integration comes down to its preparation. -/
theorem verifiedReading_eq_ok (hbuilt : Built config state) (hresolved : Resolution config) {call : Call}
    (hroute : call.route = .thread) {integration : IntegrationConfig} :
    verifiedReading lib state call.now call.request = .ok integration ↔
      Authenticated lib config call integration := by
  constructor
  · intro h
    obtain ⟨name, hname, hlookup, hverified⟩ := authenticate_eq_ok h
    obtain ⟨hmem, rfl⟩ := (integrations_eq_some hbuilt hresolved).1 hlookup
    exact ⟨hmem, hname, none, by rw [Call.signedBody, hroute], hverified⟩
  · rintro ⟨hmem, hname, body, hbody, hverified⟩
    rw [Call.signedBody, hroute, Option.some.injEq] at hbody
    subst hbody
    exact authenticate_of hname ((integrations_eq_some hbuilt hresolved).2 ⟨hmem, rfl⟩) hverified

/-- A reply is authenticated as the posting of an authenticated integration that has one. -/
theorem authenticatePosting_eq_ok (hbuilt : Built config state) (hresolved : Resolution config) {call : Call}
    (hroute : call.route = .reply) {body : Bytes} (hbody : call.request.body = .ok body) {posting : PostingConfig} :
    authenticatePosting lib state call.now call.request body = .ok posting ↔
      ∃ integration, Authenticated lib config call integration ∧ PostingOf posting integration ∧
        state.postings integration.name = some posting := by
  have hsigned : call.signedBody = some (some body) := by
    rw [Call.signedBody, hroute, hbody]
    rfl
  constructor
  · intro h
    obtain ⟨name, hname, hlookup, hverified⟩ := authenticate_eq_ok h
    have hfound := hlookup
    rw [hbuilt.postings] at hfound
    obtain ⟨hposting, hnamed⟩ := collectBy_eq_some hfound
    obtain ⟨integration, hmem, hof⟩ := hresolved.postings posting hposting
    have hsame : name = integration.name := hnamed.symm.trans hof.name
    rw [hsame] at hname hlookup
    exact ⟨integration, ⟨hmem, hname, some body, hsigned, hof.secret ▸ hverified⟩, hof, hlookup⟩
  · rintro ⟨integration, ⟨-, hname, signed, hsame, hverified⟩, hof, hlookup⟩
    rw [hsigned, Option.some.injEq] at hsame
    subst hsame
    exact authenticate_of hname hlookup (hof.secret ▸ hverified)

/-- A refusal with a status and a code. -/
def Refusal (status : Nat) (code : ErrorCode) (response : Response) : Prop :=
  ∃ body, response = .error status body ∧ body.code = code

/-- The ways a call is answered. -/
inductive Answered (config : Config) (state : AppState Cell) (call : Call) : Handled Cell → Prop
  | unmatched {status : Nat} (hpath : lib.extract.path call.request.uri = .error status) :
      Answered config state call ⟨.rejection status, state.rateLimiters, [], none⟩
  | unread {status : Nat} (hroute : call.route = .reply) (hbody : call.request.body = .error status) :
      Answered config state call ⟨bodyRejection status, state.rateLimiters, [], none⟩
  | unknown (hbody : call.signedBody.isSome = true)
      (h : ∀ integration, Authenticated lib config call integration →
        call.route = .reply ∧ ¬Capable config integration .posting) :
      Answered config state call ⟨authError, state.rateLimiters, [], none⟩
  | incapable {integration : IntegrationConfig} (hpath : ∃ captures, lib.extract.path call.request.uri = .ok captures)
      (hroute : call.route = .thread) (h : Authenticated lib config call integration)
      (hincapable : ¬Capable config integration .reading) {message : String} :
      Answered config state call ⟨apiError 403 .capabilityNotEnabled message, state.rateLimiters, [], none⟩
  | forbidden {integration : IntegrationConfig} {board text : String}
      (hpath : lib.extract.path call.request.uri = .ok (board, text)) (h : Authenticated lib config call integration)
      (hcapable : Capable config integration call.route.capability)
      (hboard : boardAllowed integration.allowedBoards board = false) {message : String} :
      Answered config state call ⟨apiError 403 .boardNotAllowed message, state.rateLimiters, [], none⟩
  | charged {integration : IntegrationConfig} {board : String} (h : Authorized lib config call integration board)
      {response : Response} (hresponse : ¬Refusal 401 .unauthorized response) {sent : Option UpstreamRequest} :
      Answered config state call ⟨response,
        (state.rateLimiters.check lib.governor integration.name call.route.capability call.times).limiters,
        (state.rateLimiters.check lib.governor integration.name call.route.capability call.times).checks, sent⟩

/-! Later answers are never taken for a failed authentication. -/

theorem not_refusal_apiError {status other : Nat} {code refused : ErrorCode} {message : String}
    (h : code ≠ refused) : ¬Refusal other refused (apiError status code message) := by
  rintro ⟨body, hbody, hcode⟩
  cases hbody
  exact h hcode

theorem not_refusal_check {integration board : String} {threadId : Int64} {query : Option (Option UInt64)}
    {response : Response} (h : PreparedRead.check integration board threadId query = .error response) :
    ¬Refusal 401 .unauthorized response := by
  unfold PreparedRead.check at h
  split at h
  · cases h
    exact not_refusal_apiError (by decide)
  · split at h
    · cases h
      exact not_refusal_apiError (by decide)
    · split at h
      · cases h
        exact not_refusal_apiError (by decide)
      · cases h

theorem not_refusal_fetch (read : PreparedRead) :
    ¬Refusal 401 .unauthorized (PreparedRead.fetch lib state read).2 := by
  simp only [PreparedRead.fetch]
  split
  · rintro ⟨body, hbody, -⟩
    cases hbody
  · exact not_refusal_apiError (by decide)
  · exact not_refusal_apiError (by decide)

/-- A reply that was refused is refused by ptchan, or in an unknown state. -/
theorem code_of_replyOutcome {result : Except ReplyError ReplyResponse} {status : Nat} {code : ErrorCode}
    (h : Refusal status code (replyOutcome result)) :
    code = .replyStateUnknown ∨ ∃ err, result = .error (.upstream err) ∧ err.code = code := by
  obtain ⟨body, hbody, rfl⟩ := h
  unfold replyOutcome at hbody
  split at hbody
  · cases hbody
  · obtain ⟨-, rfl⟩ := Response.error.inj hbody
    exact .inr ⟨_, rfl, rfl⟩
  · obtain ⟨-, rfl⟩ := Response.error.inj hbody
    exact .inl rfl

theorem upstream_of_replyAnswer {client : Client} {baseUrl : String} {posting : PostingConfig} {board : String}
    {threadId : Int64} {answer : Answer} {err : UpstreamReplyError}
    (h : replyAnswer client baseUrl posting board threadId answer = .error (.upstream err)) :
    ∃ status body, err.code = classifyUpstreamError status body := by
  unfold replyAnswer at h
  split at h
  · cases h
  · rename_i status _
    split at h
    · cases h
    · rw [Except.error.injEq, ReplyError.upstream.injEq] at h
      refine ⟨status, "", ?_⟩
      rw [← h]
  · rename_i status body
    split at h
    · rw [Except.error.injEq, ReplyError.upstream.injEq] at h
      refine ⟨status, body, ?_⟩
      rw [← h]
    · split at h <;> cases h

theorem not_refusal_reply (writer : PostWriter) (client : Client) (posting : PostingConfig) (board : String)
    (threadId : Int64) (request : ReplyRequest) :
    ¬Refusal 401 .unauthorized (replyOutcome (writer.reply client posting board threadId request).2) := by
  intro h
  rcases code_of_replyOutcome h with hunknown | ⟨err, herror, hcode⟩
  · cases hunknown
  · obtain ⟨status, body, hclassified⟩ := upstream_of_replyAnswer herror
    have hmem := classifyUpstreamError_mem status body
    rw [hclassified.symm.trans hcode] at hmem
    exact absurd hmem (by decide)

theorem answered_thread (hbuilt : Built config state) (hresolved : Resolution config) {call : Call}
    (hroute : call.route = .thread) :
    Answered lib config state call (integrationThread lib state call.now call.times call.request) := by
  have hcapability : call.route.capability = .reading := by rw [hroute, Route.capability]
  unfold integrationThread
  split
  · rename_i status hpath
    exact .unmatched hpath
  rename_i board text hpath
  split
  · rename_i response herror
    rcases authenticate_cases lib.mac state.integrations IntegrationConfig.secret call.now call.request none with
      hfailed | ⟨entry, hfound⟩
    · cases hfailed.symm.trans herror
      refine .unknown (by rw [Call.signedBody, hroute]; rfl) fun integration hauthenticated => ?_
      rw [(verifiedReading_eq_ok lib hbuilt hresolved hroute).2 hauthenticated] at herror
      cases herror
    · cases hfound.symm.trans herror
  · rename_i integration hverified
    have hauthenticated := (verifiedReading_eq_ok lib hbuilt hresolved hroute).1 hverified
    simp only [PreparedRead.new]
    by_cases hreading : integration.reading = true
    · by_cases hallowed : integration.boardAllowed board = true
      · have hauthorized : Authorized lib config call integration board :=
          ⟨hauthenticated, ⟨text, hpath⟩, by rw [hcapability]; exact hreading, hallowed⟩
        have hcharged : ∀ response sent, ¬Refusal 401 .unauthorized response →
            Answered lib config state call ⟨response,
              (state.rateLimiters.check lib.governor integration.name .reading call.times).limiters,
              (state.rateLimiters.check lib.governor integration.name .reading call.times).checks, sent⟩ := by
          intro response sent hresponse
          rw [← hcapability]
          exact .charged hauthorized hresponse
        simp only [hreading, hallowed, Bool.not_true, Bool.false_eq_true, if_false]
        cases hchecked : (state.rateLimiters.check lib.governor integration.name .reading call.times).result with
        | error rejection => exact hcharged _ _ (not_refusal_apiError (by decide))
        | ok _ =>
            simp only
            cases hprepared : PreparedRead.check integration.name board ((parseI64 text).getD 0)
                (lib.extract.limit call.request.uri) with
            | error response => exact hcharged _ _ (not_refusal_check hprepared)
            | ok read => exact hcharged _ _ (not_refusal_fetch lib read)
      · simp only [hreading, hallowed, Bool.not_true, Bool.false_eq_true, if_false, Bool.not_false, if_true]
        exact .forbidden hpath hauthenticated (by rw [hcapability]; exact hreading) (Bool.not_eq_true _ ▸ hallowed)
    · simp only [hreading, Bool.not_false, if_true]
      exact .incapable ⟨_, hpath⟩ hroute hauthenticated hreading

theorem answered_reply (hbuilt : Built config state) (hresolved : Resolution config) {call : Call}
    (hroute : call.route = .reply) :
    Answered lib config state call (integrationReply lib state call.now call.times call.request) := by
  have hcapability : call.route.capability = .posting := by rw [hroute, Route.capability]
  unfold integrationReply
  split
  · rename_i status hpath
    exact .unmatched hpath
  rename_i board text hpath
  simp only [SignedReply.fromRequest, hpath]
  cases hbody : call.request.body with
  | error status => exact .unread hroute hbody
  | ok body =>
      simp only
      rcases authenticate_cases lib.mac state.postings PostingConfig.secret call.now call.request (some body) with
        hfailed | ⟨posting, hfound⟩
      · have herror : authenticatePosting lib state call.now call.request body = .error authError := hfailed
        rw [herror]
        refine .unknown (by rw [Call.signedBody, hroute, hbody]; rfl) fun integration hauthenticated =>
          ⟨hroute, fun hcapable => ?_⟩
        obtain ⟨posting, hposting⟩ := Option.isSome_iff_exists.1
          ((isSome_postings_iff hbuilt hresolved hauthenticated.configured).2 hcapable)
        have hof := postingOf_of_postings hbuilt hresolved hauthenticated.configured hposting
        rw [(authenticatePosting_eq_ok lib hbuilt hresolved hroute hbody).2
          ⟨integration, hauthenticated, hof.2, hposting⟩] at herror
        cases herror
      · have hposting : authenticatePosting lib state call.now call.request body = .ok posting := hfound
        obtain ⟨integration, hauthenticated, hof, hlookup⟩ :=
          (authenticatePosting_eq_ok lib hbuilt hresolved hroute hbody).1 hposting
        have hcapable : Capable config integration call.route.capability := by
          rw [hcapability, ← isSome_postings_iff hbuilt hresolved hauthenticated.configured, hlookup]
          rfl
        rw [hposting]
        simp only
        by_cases hallowed : posting.boardAllowed board = true
        · have hauthorized : Authorized lib config call integration board :=
            ⟨hauthenticated, ⟨text, hpath⟩, hcapable, hof.allowedBoards ▸ hallowed⟩
          have hcharged : ∀ response sent, ¬Refusal 401 .unauthorized response →
              Answered lib config state call ⟨response,
                (state.rateLimiters.check lib.governor posting.name .posting call.times).limiters,
                (state.rateLimiters.check lib.governor posting.name .posting call.times).checks, sent⟩ := by
            intro response sent hresponse
            rw [← hcapability, hof.name]
            exact .charged hauthorized hresponse
          simp only [hallowed, Bool.not_true, Bool.false_eq_true, if_false]
          cases hchecked : (state.rateLimiters.check lib.governor posting.name .posting call.times).result with
          | error rejection => exact hcharged _ _ (not_refusal_apiError (by decide))
          | ok _ =>
              simp only
              cases hreply : lib.extract.replyRequest body with
              | none => exact hcharged _ _ (not_refusal_apiError (by decide))
              | some reply =>
                  simp only
                  cases hvalid : validateReply board ((parseI64 text).getD 0) reply.message with
                  | error err => exact hcharged _ _ (not_refusal_apiError (by cases err <;> decide))
                  | ok _ => exact hcharged _ _ (not_refusal_reply _ _ _ _ _ _)
        · have hforbidden : boardAllowed integration.allowedBoards board = false := by
            rw [← hof.allowedBoards]
            exact Bool.not_eq_true _ ▸ hallowed
          simp only [hallowed, Bool.not_false, if_true]
          exact .forbidden hpath hauthenticated hcapable hforbidden

theorem answered_handle (hbuilt : Built config state) (hresolved : Resolution config) (call : Call) :
    Answered lib config state call (handle lib state call) := by
  cases hroute : call.route with
  | thread =>
      simp only [handle, hroute]
      exact answered_thread lib hbuilt hresolved hroute
  | reply =>
      simp only [handle, hroute]
      exact answered_reply lib hbuilt hresolved hroute

/-! ### Quota -/

/-- The checks of a charged call, from the answers of the two buckets. -/
def chargedChecks (name : String) (capability : Capability) (first second : Bool) : List Check :=
  ⟨.integration name, capability, first⟩ :: if first then [⟨.global, capability, second⟩] else []

/-- The integration's bucket was asked once, then the global one once if the first accepted, and every other
bucket is as it was. -/
def Charged (governor : Governor Cell) (times : Nat × Nat) (name : String) (capability : Capability)
    (before after : RateLimiters Cell) (checks : List Check) : Prop :=
  ∃ own global, before.cell (.integration name) capability = some own ∧ before.cell .global capability = some global ∧
    let first := governor.check own times.1
    let second := governor.check global times.2
    checks = chargedChecks name capability first.1 second.1 ∧
    after.cell (.integration name) capability = some first.2 ∧
    after.cell .global capability = some (if first.1 then second.2 else global) ∧
    ∀ scope other, ¬(other = capability ∧ (scope = .integration name ∨ scope = .global)) →
      after.cell scope other = before.cell scope other

theorem charged_check {governor : Governor Cell} {before : RateLimiters Cell} {name : String} {capability : Capability}
    {times : Nat × Nat} (hown : (before.integrations name).isSome = true) :
    Charged governor times name capability before (before.check governor name capability times).limiters
      (before.check governor name capability times).checks := by
  obtain ⟨own, hown⟩ := Option.isSome_iff_exists.1 hown
  have hcell : before.cell (.integration name) capability = some (own.get capability) := by
    rw [RateLimiters.cell, hown]
    rfl
  refine ⟨own.get capability, before.global.get capability, hcell, rfl, ?_, ?_, ?_, ?_⟩
  · rcases before.check_cases governor times name capability with
      ⟨hnone, -⟩ | ⟨found, hfound, ⟨haccepted, heq⟩ | ⟨hrefused, heq⟩⟩
    · rw [hown] at hnone
      cases hnone
    · obtain rfl := Option.some.inj (hown.symm.trans hfound)
      rw [heq, chargedChecks, haccepted]
      rfl
    · obtain rfl := Option.some.inj (hown.symm.trans hfound)
      rw [heq, chargedChecks, hrefused]
      rfl
  · rw [RateLimiters.cell_own_check, hcell]
    rfl
  · rw [RateLimiters.cell_global_check, hcell]
    rfl
  · exact fun scope other hother => RateLimiters.cell_other_check governor before times hother

/-- A call is authorized and charged, or not authorized and leaves every bucket alone. -/
theorem charge_cases (hbuilt : Built config state) (hresolved : Resolution config) (call : Call) :
    let handled := handle lib state call
    (∃ integration board, Authorized lib config call integration board ∧
      Charged lib.governor call.times integration.name call.route.capability state.rateLimiters handled.limiters
        handled.checks) ∨
      (∀ integration board, ¬Authorized lib config call integration board) ∧ handled.checks = [] ∧
        handled.limiters = state.rateLimiters := by
  have hanswered : Answered lib config state call (handle lib state call) := answered_handle lib hbuilt hresolved call
  generalize handle lib state call = handled at hanswered
  cases hanswered with
  | unmatched hpath =>
      refine .inr ⟨fun integration board h => ?_, rfl, rfl⟩
      obtain ⟨text, hcaptured⟩ := h.captured
      rw [hpath] at hcaptured
      cases hcaptured
  | unread hroute hbody =>
      refine .inr ⟨fun integration board h => ?_, rfl, rfl⟩
      obtain ⟨body, hsigned, -⟩ := h.authenticated.verified
      rw [Call.signedBody, hroute, hbody] at hsigned
      cases hsigned
  | unknown _ hunknown =>
      refine .inr ⟨fun integration board h => ?_, rfl, rfl⟩
      obtain ⟨hroute, hincapable⟩ := hunknown integration h.authenticated
      have hcapable := h.capable
      rw [hroute] at hcapable
      exact hincapable hcapable
  | incapable _ hroute hauthenticated hincapable =>
      refine .inr ⟨fun other board h => ?_, rfl, rfl⟩
      have hcapable := h.capable
      rw [hroute, hauthenticated.unique lib hresolved h.authenticated] at hcapable
      exact hincapable hcapable
  | forbidden hpath hauthenticated _ hforbidden =>
      refine .inr ⟨fun other board h => ?_, rfl, rfl⟩
      obtain ⟨text, hcaptured⟩ := h.captured
      rw [hpath, Except.ok.injEq, Prod.mk.injEq] at hcaptured
      have hallowed := h.allowed
      rw [hauthenticated.unique lib hresolved h.authenticated, ← hcaptured.1, hforbidden] at hallowed
      cases hallowed
  | charged hauthorized _ =>
      exact .inl ⟨_, _, hauthorized, charged_check (hbuilt.limiters _ hauthorized.authenticated.configured)⟩

/-- The check asked a bucket. -/
def Check.asks (scope : Scope) (capability : Capability) (check : Check) : Bool :=
  check.scope = scope && check.capability = capability

section Counting

variable (name : String) (capability : Capability) (first second : Bool)

theorem countP_integration (other : String) :
    (chargedChecks name capability first second).countP (Check.asks (.integration other) capability) =
      if other = name then 1 else 0 := by
  by_cases hname : other = name
  · cases first <;> simp [chargedChecks, Check.asks, hname]
  · have hne : ¬name = other := Ne.symm hname
    cases first <;> simp [chargedChecks, Check.asks, hname, hne]

theorem countP_global :
    (chargedChecks name capability first second).countP (Check.asks .global capability) = if first then 1 else 0 := by
  cases first <;> simp [chargedChecks, Check.asks]

end Counting

section Charged

variable {governor : Governor Cell} {times : Nat × Nat} {name : String} {capability : Capability}
  {before after : RateLimiters Cell} {checks : List Check}

/-- Of the integrations' buckets only the charged one was asked. -/
theorem Charged.asks_integration_iff (h : Charged governor times name capability before after checks)
    (other : String) : checks.countP (Check.asks (.integration other) capability) = 1 ↔ other = name := by
  obtain ⟨own, global, -, -, hchecks, -⟩ := h
  rw [hchecks, countP_integration]
  split_ifs with hname
  · exact iff_of_true rfl hname
  · exact iff_of_false (by decide) hname

/-- The global bucket was asked if the integration's accepted. -/
theorem Charged.asks_global_iff (h : Charged governor times name capability before after checks) :
    checks.countP (Check.asks .global capability) = 1 ↔
      ∃ own, before.cell (.integration name) capability = some own ∧ (governor.check own times.1).1 = true := by
  obtain ⟨own, global, hown, -, hchecks, -⟩ := h
  rw [hchecks, countP_global, hown]
  simp only [Option.some.injEq, exists_eq_left']
  split_ifs with haccepted
  · exact iff_of_true rfl haccepted
  · exact iff_of_false (by decide) haccepted

end Charged

/-- Quota is charged exactly for authorized requests: their integration's bucket is asked once and, if it
accepts, the global one once; no other request changes a bucket, and nothing is given back. -/
theorem quota_is_charged_exactly {getSecret : String → String → Except Chain String} {parsers : Parsers}
    {file : FileConfig} (hresolve : resolve getSecret parsers file = .ok config) (hserves : Serves lib config state)
    (call : Call) :
    let handled := handle lib state call
    (∀ integration board, Authorized lib config call integration board →
      Charged lib.governor call.times integration.name call.route.capability state.rateLimiters handled.limiters
        handled.checks) ∧
    ((∀ integration board, ¬Authorized lib config call integration board) →
      handled.checks = [] ∧ handled.limiters = state.rateLimiters) ∧
    (∀ integration ∈ config.integrations,
      handled.checks.countP (Check.asks (.integration integration.name) call.route.capability) = 1 ↔
        ∃ board, Authorized lib config call integration board) ∧
    (handled.checks.countP (Check.asks .global call.route.capability) = 1 ↔
      ∃ integration board own, Authorized lib config call integration board ∧
        state.rateLimiters.cell (.integration integration.name) call.route.capability = some own ∧
        (lib.governor.check own call.times.1).1 = true) := by
  intro handled
  have hresolved := resolution_of_resolve hresolve
  rcases charge_cases lib hserves.built hresolved call with
    ⟨integration, board, hauthorized, hcharged⟩ | ⟨hnone, hchecks, hlimiters⟩
  · have hsole : ∀ other otherBoard, Authorized lib config call other otherBoard → other = integration :=
      fun other otherBoard h => hauthorized.authenticated.unique lib hresolved h.authenticated
    refine ⟨?_, fun hnone => absurd hauthorized (hnone integration board), ?_, ?_⟩
    · intro other otherBoard hother
      rw [hsole other otherBoard hother]
      exact hcharged
    · intro other hmem
      rw [hcharged.asks_integration_iff]
      constructor
      · intro hname
        have hsame : other = integration := List.inj_on_of_nodup_map hresolved.integrationNames hmem
          hauthorized.authenticated.configured hname
        exact ⟨board, hsame ▸ hauthorized⟩
      · rintro ⟨otherBoard, hother⟩
        rw [hsole other otherBoard hother]
    · rw [hcharged.asks_global_iff]
      constructor
      · rintro ⟨own, hown, haccepted⟩
        exact ⟨integration, board, own, hauthorized, hown, haccepted⟩
      · rintro ⟨other, otherBoard, own, hother, hown, haccepted⟩
        rw [hsole other otherBoard hother] at hown
        exact ⟨own, hown, haccepted⟩
  · have hempty : handled.checks = [] := hchecks
    refine ⟨fun integration board h => absurd h (hnone integration board), fun _ => ⟨hchecks, hlimiters⟩, ?_, ?_⟩
    · intro integration hmem
      rw [hempty]
      apply iff_of_false (by simp)
      rintro ⟨board, h⟩
      exact hnone integration board h
    · rw [hempty]
      apply iff_of_false (by simp)
      rintro ⟨integration, board, own, h, -⟩
      exact hnone integration board h

/-- Failures of authorization are told apart, and told apart from failures of authentication. -/
structure Classified (config : Config) (state : AppState Cell) (call : Call) : Prop where
  capability : ∀ integration, Authenticated lib config call integration →
    ¬Capable config integration call.route.capability →
    Refusal 403 .capabilityNotEnabled (handle lib state call).response
  board : ∀ integration board text, Authenticated lib config call integration →
    Capable config integration call.route.capability → lib.extract.path call.request.uri = .ok (board, text) →
    boardAllowed integration.allowedBoards board = false → Refusal 403 .boardNotAllowed (handle lib state call).response
  unauthorized : Refusal 401 .unauthorized (handle lib state call).response →
    ∃ body, call.signedBody = some body ∧ ∀ integration ∈ config.integrations,
      header call.request.headers "x-ptchan-integration" = some integration.name →
      verifyRequestHeaders lib.mac call.now integration.secret call.request body ≠ .ok ()

theorem refusal_apiError (status : Nat) (code : ErrorCode) (message : String) :
    Refusal status code (apiError status code message) := ⟨_, rfl, rfl⟩

theorem not_refusal_rejection (status other : Nat) (code : ErrorCode) : ¬Refusal other code (.rejection status) := by
  rintro ⟨body, hbody, -⟩
  cases hbody

theorem not_refusal_bodyRejection (status other : Nat) : ¬Refusal other .unauthorized (bodyRejection status) := by
  unfold bodyRejection
  split
  · exact not_refusal_apiError (by decide)
  · exact not_refusal_apiError (by decide)

theorem Authenticated.not_unread {call : Call} {integration : IntegrationConfig}
    (h : Authenticated lib config call integration) (hroute : call.route = .reply) {status : Nat} :
    call.request.body ≠ .error status := by
  intro hbody
  obtain ⟨body, hsigned, -⟩ := h.verified
  rw [Call.signedBody, hroute, hbody] at hsigned
  cases hsigned

section Refusals

variable {call : Call} {handled : Handled Cell} {integration : IntegrationConfig}

/-- Reading tells an integration that may not read so. -/
theorem Answered.refuses_capability (h : Answered lib config state call handled) (hresolved : Resolution config)
    (hauthenticated : Authenticated lib config call integration)
    (hincapable : ¬Capable config integration call.route.capability) (hroute : call.route = .thread)
    {captures : String × String} (hcaptured : lib.extract.path call.request.uri = .ok captures) :
    Refusal 403 .capabilityNotEnabled handled.response := by
  cases h with
  | unmatched hpath =>
      rw [hcaptured] at hpath
      cases hpath
  | unread hreply _ => cases hroute.symm.trans hreply
  | unknown _ hunknown => cases hroute.symm.trans (hunknown integration hauthenticated).1
  | incapable _ _ _ _ => exact refusal_apiError _ _ _
  | forbidden _ h hcapable _ => exact absurd (h.unique lib hresolved hauthenticated ▸ hcapable) hincapable
  | charged h _ => exact absurd (h.authenticated.unique lib hresolved hauthenticated ▸ h.capable) hincapable

/-- Either route tells an integration that may not use the board so. -/
theorem Answered.refuses_board (h : Answered lib config state call handled) (hresolved : Resolution config)
    (hauthenticated : Authenticated lib config call integration)
    (hcapable : Capable config integration call.route.capability) {board text : String}
    (hcaptured : lib.extract.path call.request.uri = .ok (board, text))
    (hforbidden : boardAllowed integration.allowedBoards board = false) :
    Refusal 403 .boardNotAllowed handled.response := by
  cases h with
  | unmatched hpath =>
      rw [hcaptured] at hpath
      cases hpath
  | unread hroute hbody => exact absurd hbody (hauthenticated.not_unread lib hroute)
  | unknown _ hunknown =>
      obtain ⟨hroute, hincapable⟩ := hunknown integration hauthenticated
      rw [hroute] at hcapable
      exact absurd hcapable hincapable
  | incapable _ hroute h hincapable =>
      rw [hroute] at hcapable
      exact absurd (h.unique lib hresolved hauthenticated ▸ hcapable) hincapable
  | forbidden _ _ _ _ => exact refusal_apiError _ _ _
  | charged h _ =>
      obtain ⟨other, hother⟩ := h.captured
      rw [hcaptured, Except.ok.injEq, Prod.mk.injEq] at hother
      have hallowed := h.allowed
      rw [← hauthenticated.unique lib hresolved h.authenticated] at hforbidden
      rw [← hother.1, hforbidden] at hallowed
      cases hallowed

/-- A call is refused as unauthenticated if nobody signed it, or if it is a reply that nobody who may post
signed. -/
theorem Answered.of_unauthorized (h : Answered lib config state call handled)
    (hrefusal : Refusal 401 .unauthorized handled.response) :
    call.signedBody.isSome = true ∧ ∀ integration, Authenticated lib config call integration →
      call.route = .reply ∧ ¬Capable config integration .posting := by
  cases h with
  | unmatched _ => exact absurd hrefusal (not_refusal_rejection _ _ _)
  | unread _ _ => exact absurd hrefusal (not_refusal_bodyRejection _ _)
  | unknown hbody hunknown => exact ⟨hbody, hunknown⟩
  | incapable _ _ _ _ => exact absurd hrefusal (not_refusal_apiError (by decide))
  | forbidden _ _ _ _ => exact absurd hrefusal (not_refusal_apiError (by decide))
  | charged _ hresponse => exact absurd hrefusal hresponse

/-- Who may not use the route is told so only on the reading route. -/
theorem Answered.of_refused_capability (h : Answered lib config state call handled) (hresolved : Resolution config)
    (hauthenticated : Authenticated lib config call integration)
    (hrefusal : Refusal 403 .capabilityNotEnabled handled.response) :
    Capable config integration call.route.capability ∨
      call.route = .thread ∧ ∃ captures, lib.extract.path call.request.uri = .ok captures := by
  cases h with
  | unmatched _ => exact absurd hrefusal (not_refusal_rejection _ _ _)
  | unread hroute hbody => exact absurd hbody (hauthenticated.not_unread lib hroute)
  | unknown _ _ => exact absurd hrefusal (not_refusal_apiError (by decide))
  | incapable hpath hroute _ _ => exact .inr ⟨hroute, hpath⟩
  | forbidden _ _ _ _ => exact absurd hrefusal (not_refusal_apiError (by decide))
  | charged h _ => exact .inl (h.authenticated.unique lib hresolved hauthenticated ▸ h.capable)

end Refusals

/-- Both routes classify alike, but for a signed reply of an integration that may not post, which is refused as
if nobody had signed it. -/
theorem failures_are_classified_iff {getSecret : String → String → Except Chain String} {parsers : Parsers}
    {file : FileConfig} (hresolve : resolve getSecret parsers file = .ok config) (hserves : Serves lib config state)
    (call : Call) :
    Classified lib config state call ↔
      ∀ integration, Authenticated lib config call integration →
        Capable config integration call.route.capability ∨
          call.route = .thread ∧ ∃ captures, lib.extract.path call.request.uri = .ok captures := by
  have hresolved := resolution_of_resolve hresolve
  have hanswered := answered_handle lib hserves.built hresolved call
  constructor
  · intro hclassified integration hauthenticated
    by_cases hcapable : Capable config integration call.route.capability
    · exact .inl hcapable
    · have hrefusal := hclassified.capability integration hauthenticated hcapable
      exact hanswered.of_refused_capability lib hresolved hauthenticated hrefusal
  · intro hcondition
    refine ⟨?_, ?_, ?_⟩
    · intro integration hauthenticated hincapable
      obtain ⟨hroute, captures, hcaptured⟩ := (hcondition integration hauthenticated).resolve_left hincapable
      exact hanswered.refuses_capability lib hresolved hauthenticated hincapable hroute hcaptured
    · intro integration board text hauthenticated hcapable hcaptured hforbidden
      exact hanswered.refuses_board lib hresolved hauthenticated hcapable hcaptured hforbidden
    · intro hrefusal
      obtain ⟨hbody, hunknown⟩ := hanswered.of_unauthorized lib hrefusal
      obtain ⟨body, hbody⟩ := Option.isSome_iff_exists.1 hbody
      refine ⟨body, hbody, fun integration hmem hname hverified => ?_⟩
      have hauthenticated : Authenticated lib config call integration := ⟨hmem, hname, body, hbody, hverified⟩
      obtain ⟨hroute, hincapable⟩ := hunknown integration hauthenticated
      rcases hcondition integration hauthenticated with hcapable | ⟨hthread, -⟩
      · rw [hroute] at hcapable
        exact hincapable hcapable
      · cases hthread.symm.trans hroute

namespace Sample

/-- The reply is signed with the secret that every integration here has. -/
theorem authenticated_replyCall {config : Config} {integration : IntegrationConfig}
    (hmem : integration ∈ config.integrations) (hname : integration.name = "bridge")
    (hsecret : integration.secret = "secret") : Authenticated libraries config replyCall integration := by
  have hverified : (verifyRequestHeaders libraries.mac replyCall.now "secret" replyCall.request
      (some (asBytes "\x7b\"message\":\"hi\"\x7d"))).toOption = some () := by decide +kernel
  refine ⟨hmem, ?_, _, rfl, ?_⟩
  · rw [hname]
    decide +kernel
  · rw [hsecret]
    cases hresult : verifyRequestHeaders libraries.mac replyCall.now "secret" replyCall.request
        (some (asBytes "\x7b\"message\":\"hi\"\x7d")) with
    | error causes =>
        rw [hresult] at hverified
        cases hverified
    | ok _ => rfl

theorem authorized_replyCall :
    Authorized libraries bridgeConfig replyCall ⟨"bridge", ["i"], false, .default, "secret"⟩ "i" :=
  ⟨authenticated_replyCall List.mem_cons_self rfl rfl, ⟨"42", rfl⟩,
    ⟨bridge, List.mem_cons_self, rfl, rfl, rfl⟩, by decide⟩

theorem quota_is_charged_exactly_reply :
    resolve (fun _ _ => .ok "secret") parsers bridgeFile = .ok bridgeConfig ∧
      Serves libraries bridgeConfig bridgeState ∧
      Charged governor (0, 0) "bridge" .posting bridgeState.rateLimiters
        (handle libraries bridgeState replyCall).limiters (handle libraries bridgeState replyCall).checks := by
  have hresolve : resolve (fun _ _ => .ok "secret") parsers bridgeFile = .ok bridgeConfig := rfl
  have hserves : Serves libraries bridgeConfig bridgeState := .spawned rfl
  exact ⟨hresolve, hserves, (quota_is_charged_exactly libraries hresolve hserves replyCall).1 _ _ authorized_replyCall⟩

theorem failures_are_classified_iff_reply :
    resolve (fun _ _ => .ok "secret") parsers bridgeFile = .ok bridgeConfig ∧
      Serves libraries bridgeConfig bridgeState ∧ Classified libraries bridgeConfig bridgeState replyCall := by
  have hresolve : resolve (fun _ _ => .ok "secret") parsers bridgeFile = .ok bridgeConfig := rfl
  have hserves : Serves libraries bridgeConfig bridgeState := .spawned rfl
  refine ⟨hresolve, hserves, (failures_are_classified_iff libraries hresolve hserves replyCall).2 ?_⟩
  intro integration hauthenticated
  obtain rfl := List.mem_singleton.1 hauthenticated.configured
  exact .inl authorized_replyCall.capable

/-- The same integration when it may read and not post. -/
def readerFile : FileConfig :=
  { bridgeFile with integrations := [⟨"bridge", ["i"], some (), none, none, .default⟩] }

def reader : IntegrationConfig := ⟨"bridge", ["i"], true, .default, "secret"⟩

def readerConfig : Config := { bridgeConfig with integrations := [reader], postings := [] }

def readerState : AppState Nat :=
  { bridgeState with
    integrations := collectBy IntegrationConfig.name [reader]
    postings := collectBy PostingConfig.name []
    origins := .new [] }

/-- A signed reply of an integration that may not post is answered like an unsigned one. -/
theorem reader_reply_is_unauthorized :
    resolve (fun _ _ => .ok "secret") parsers readerFile = .ok readerConfig ∧
      Serves libraries readerConfig readerState ∧ Authenticated libraries readerConfig replyCall reader ∧
      ¬Capable readerConfig reader .posting ∧ (handle libraries readerState replyCall).response = authError ∧
      ¬Classified libraries readerConfig readerState replyCall := by
  have hauthenticated : Authenticated libraries readerConfig replyCall reader :=
    authenticated_replyCall List.mem_cons_self rfl rfl
  have hincapable : ¬Capable readerConfig reader .posting := by
    rintro ⟨posting, hposting, -⟩
    cases hposting
  have hresponse : (handle libraries readerState replyCall).response = authError := by decide +kernel
  refine ⟨rfl, .spawned rfl, hauthenticated, hincapable, hresponse, ?_⟩
  intro hclassified
  have hrefusal := hclassified.capability reader hauthenticated hincapable
  rw [hresponse] at hrefusal
  exact not_refusal_apiError (by decide) hrefusal

end Sample

end PtchanGateway
