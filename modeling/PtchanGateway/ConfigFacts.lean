import PtchanGateway.Config
import Mathlib.Data.List.Forall2
import Mathlib.Data.List.Nodup

/-! What an accepted configuration guarantees: `validate` leaves integrations with distinct names and
well-formed settings, and `resolve` keeps their order, their names and their boards and loads the
fingerprint secret whenever a webhook asks for it. -/

namespace PtchanGateway

namespace Config

variable {parsers : Parsers} {getSecret : String → String → Except Chain String}

theorem exists_of_forall₂ {α β : Type} {related : α → β → Prop} {left : List α} {right : List β}
    (h : List.Forall₂ related left right) {second : β} (hsecond : second ∈ right) :
    ∃ first ∈ left, related first second := by
  induction h with
  | nil => cases hsecond
  | cons hfirst _ ih =>
      rcases List.mem_cons.1 hsecond with rfl | hrest
      · exact ⟨_, List.mem_cons_self, hfirst⟩
      · obtain ⟨first, hmem, hrelated⟩ := ih hrest
        exact ⟨first, List.mem_cons_of_mem _ hmem, hrelated⟩

theorem collectBy_eq_some_iff {α : Type} {key : α → String} {values : List α} (hkeys : (values.map key).Nodup)
    {name : String} {value : α} : collectBy key values name = some value ↔ value ∈ values ∧ key value = name := by
  constructor
  · exact collectBy_eq_some
  · rintro ⟨hmem, rfl⟩
    obtain ⟨found, hfound⟩ := Option.isSome_iff_exists.1 (isSome_collectBy hmem)
    obtain ⟨hfoundMem, hkey⟩ := collectBy_eq_some hfound
    rw [hfound, List.inj_on_of_nodup_map hkeys hfoundMem hmem hkey]

theorem validateBoards_eq_ok {integrationName : String} {boards : List String} {result : Unit} :
    validateBoards integrationName boards = .ok result ↔ ∀ board ∈ boards, validBoardName board = true := by
  induction boards with
  | nil => simp [validateBoards]
  | cons board boards ih => simp [validateBoards, bind_eq_ok, ih]

/-- What `validate` finds out about one integration. -/
structure Accepted (seen : Seen) (integration : FileIntegration) (after : Seen) : Prop where
  name : validIntegrationName integration.name = true
  fresh : integration.name ∉ seen.names
  freshEnv : envSafeName integration.name ∉ seen.envNames
  capable : integration.reading.isSome ∨ integration.webhook.isSome ∨ integration.posting.isSome
  boards : ∀ board ∈ integration.allowedBoards, validBoardName board = true
  tripcode : validateTripcode seen.publicTripcodes integration.name integration.posting = .ok after.publicTripcodes
  rateLimit : validateRateLimit integration.name integration.rateLimit = .ok ()
  names : after.names = integration.name :: seen.names
  envNames : after.envNames = envSafeName integration.name :: seen.envNames

theorem accepted_of_validate {seen after : Seen} {integration : FileIntegration}
    (h : validateIntegration parsers seen integration = .ok after) : Accepted seen integration after := by
  simp only [validateIntegration, bind_unit_eq_ok, ensure_eq_ok, decide_eq_true_eq, validateBoards_eq_ok] at h
  obtain ⟨hname, hfresh, hfreshEnv, hcapable, hboards, -, h⟩ := h
  obtain ⟨publicTripcodes, htripcode, h⟩ := bind_eq_ok.1 h
  obtain ⟨hrate, h⟩ := bind_unit_eq_ok.1 h
  rw [Except.ok.injEq] at h
  subst h
  refine ⟨hname, hfresh, hfreshEnv, ?_, hboards, htripcode, hrate, rfl, rfl⟩
  simpa [or_assoc] using hcapable

/-- What each integration is checked for against those before it, all are told apart by. -/
theorem keys_of_validate (key : FileIntegration → String) (seenKeys : Seen → List String)
    (hfresh : ∀ {seen integration after}, Accepted seen integration after → key integration ∉ seenKeys seen)
    (hseen : ∀ {seen integration after}, Accepted seen integration after →
      seenKeys after = key integration :: seenKeys seen)
    {seen : Seen} {integrations : List FileIntegration} {result : Unit}
    (h : validateIntegrations parsers seen integrations = .ok result) :
    (integrations.map key).Nodup ∧ ∀ name ∈ integrations.map key, name ∉ seenKeys seen := by
  induction integrations generalizing seen with
  | nil => simp
  | cons integration integrations ih =>
      obtain ⟨after, hfirst, hrest⟩ := bind_eq_ok.1 h
      have haccepted := accepted_of_validate hfirst
      obtain ⟨hnodup, hunseen⟩ := ih hrest
      rw [hseen haccepted] at hunseen
      rw [List.map_cons]
      refine ⟨List.nodup_cons.2 ⟨fun hmem => ?_, hnodup⟩, ?_⟩
      · exact hunseen _ hmem List.mem_cons_self
      · rintro name hname hbefore
        rcases List.mem_cons.1 hname with rfl | hmem
        · exact hfresh haccepted hbefore
        · exact hunseen name hmem (List.mem_cons_of_mem _ hbefore)

theorem names_of_validate {seen : Seen} {integrations : List FileIntegration} {result : Unit}
    (h : validateIntegrations parsers seen integrations = .ok result) :
    (integrations.map FileIntegration.name).Nodup ∧
      ∀ name ∈ integrations.map FileIntegration.name, name ∉ seen.names :=
  keys_of_validate FileIntegration.name Seen.names Accepted.fresh Accepted.names h

/-- The names of the environment are told apart. -/
theorem env_names_of_validate {seen : Seen} {integrations : List FileIntegration} {result : Unit}
    (h : validateIntegrations parsers seen integrations = .ok result) :
    (integrations.map fun integration => envSafeName integration.name).Nodup :=
  (keys_of_validate (fun one => envSafeName one.name) Seen.envNames Accepted.freshEnv Accepted.envNames h).1

theorem exists_accepted {seen : Seen} {integrations : List FileIntegration} {result : Unit}
    (h : validateIntegrations parsers seen integrations = .ok result) {integration : FileIntegration}
    (hmem : integration ∈ integrations) : ∃ before after, Accepted before integration after := by
  induction integrations generalizing seen with
  | nil => cases hmem
  | cons first integrations ih =>
      obtain ⟨after, hfirst, hrest⟩ := bind_eq_ok.1 h
      rcases List.mem_cons.1 hmem with rfl | hlater
      · exact ⟨seen, after, accepted_of_validate hfirst⟩
      · exact ih hrest hlater

theorem valid_names_of_validate {seen : Seen} {integrations : List FileIntegration} {result : Unit}
    (h : validateIntegrations parsers seen integrations = .ok result) :
    ∀ integration ∈ integrations, validIntegrationName integration.name = true := by
  intro integration hmem
  obtain ⟨before, after, haccepted⟩ := exists_accepted h hmem
  exact haccepted.name

theorem tripcode_cases {seen after : List String} {integrationName : String} {posting : Option FilePosting}
    (h : validateTripcode seen integrationName posting = .ok after) :
    (posting = none ∧ after = seen) ∨
      ∃ given, posting = some given ∧ validPublicTripcode given.publicTripcode = true ∧
        given.publicTripcode ∉ seen ∧ after = given.publicTripcode :: seen := by
  unfold validateTripcode at h
  split at h
  · rw [Except.ok.injEq] at h
    exact .inl ⟨rfl, h.symm⟩
  · rename_i given
    simp only [validatePosting, bind_unit_eq_ok, ensure_eq_ok, decide_eq_true_eq, Except.ok.injEq] at h
    obtain ⟨⟨-, hvalid⟩, hfresh, rfl⟩ := h
    exact .inr ⟨given, rfl, hvalid, hfresh, rfl⟩

/-- The tripcodes of a file are well formed and told apart. -/
theorem tripcodes_of_validate {seen : Seen} {integrations : List FileIntegration} {result : Unit}
    (h : validateIntegrations parsers seen integrations = .ok result) :
    ((integrations.filterMap FileIntegration.posting).map FilePosting.publicTripcode).Nodup ∧
      ∀ tripcode ∈ (integrations.filterMap FileIntegration.posting).map FilePosting.publicTripcode,
        validPublicTripcode tripcode = true ∧ tripcode ∉ seen.publicTripcodes := by
  induction integrations generalizing seen with
  | nil => simp
  | cons integration integrations ih =>
      obtain ⟨after, hfirst, hrest⟩ := bind_eq_ok.1 h
      obtain ⟨hnodup, hunseen⟩ := ih hrest
      rcases tripcode_cases (accepted_of_validate hfirst).tripcode with
        ⟨hnone, hsame⟩ | ⟨given, hgiven, hvalid, hfresh, hafter⟩
      · rw [List.filterMap_cons_none hnone]
        exact ⟨hnodup, hsame ▸ hunseen⟩
      · rw [List.filterMap_cons_some hgiven, List.map_cons]
        rw [hafter] at hunseen
        refine ⟨List.nodup_cons.2 ⟨fun hmem => ?_, hnodup⟩, List.forall_mem_cons.2 ⟨⟨hvalid, hfresh⟩, ?_⟩⟩
        · exact (hunseen _ hmem).2 List.mem_cons_self
        · intro tripcode hmem
          exact ⟨(hunseen tripcode hmem).1, fun hseen => (hunseen tripcode hmem).2 (List.mem_cons_of_mem _ hseen)⟩

/-- What `validate` finds out about a bucket. -/
structure BucketAccepted (bucket : RateLimitBucketConfig) : Prop where
  requests : bucket.requests ≠ 0
  burst : bucket.burst ≠ 0
  within : bucket.burst ≤ bucket.requests
  period : bucket.window.nanos / bucket.requests.toNat ≠ 0

theorem bucketAccepted_of_validate {owner capability : String} {bucket : RateLimitBucketConfig} {result : Unit}
    (h : validateRateLimitBucket owner capability bucket = .ok result) : BucketAccepted bucket := by
  simp only [validateRateLimitBucket, bind_unit_eq_ok, ensure_eq_ok, bne_iff_ne, Bool.and_eq_true,
    decide_eq_true_eq] at h
  obtain ⟨hrequests, -, ⟨hburst, hwithin⟩, hperiod⟩ := h
  exact ⟨hrequests, hburst, hwithin, hperiod⟩

/-- Both buckets of an owner. -/
structure LimitAccepted (rateLimit : RateLimitConfig) : Prop where
  reading : BucketAccepted rateLimit.reading
  posting : BucketAccepted rateLimit.posting

theorem limitAccepted_of_validate {integrationName : String} {rateLimit : RateLimitConfig} {result : Unit}
    (h : validateRateLimit integrationName rateLimit = .ok result) : LimitAccepted rateLimit := by
  simp only [validateRateLimit, bind_unit_eq_ok] at h
  exact ⟨bucketAccepted_of_validate h.1, bucketAccepted_of_validate h.2⟩

/-- What `validate` finds out about the file as a whole. -/
structure FileAccepted (parsers : Parsers) (file : FileConfig) : Prop where
  retention : file.storage.eventRetention.nanos ≠ 0
  rateLimit : LimitAccepted file.runtime.rateLimit
  integrations : validateIntegrations parsers ⟨[], [], []⟩ file.integrations = .ok ()

theorem fileAccepted_of_validate {file : FileConfig} {result : Unit} (h : validate parsers file = .ok result) :
    FileAccepted parsers file := by
  simp only [validate, bind_unit_eq_ok, ensure_eq_ok, bne_iff_ne] at h
  obtain ⟨-, -, -, -, hretention, hreading, hposting, hintegrations⟩ := h
  exact ⟨hretention, ⟨bucketAccepted_of_validate hreading, bucketAccepted_of_validate hposting⟩, hintegrations⟩

/-! ### Resolution -/

/-- One integration of the file and what `resolve` makes of it. -/
structure Resolves (getSecret : String → String → Except Chain String) (integration : FileIntegration)
    (resolved : Resolved) : Prop where
  name : resolved.integration.name = integration.name
  allowedBoards : resolved.integration.allowedBoards = integration.allowedBoards
  reading : resolved.integration.reading = integration.reading.isSome
  webhook : resolved.webhook = resolveWebhook integration resolved.integration.secret
  posting : resolvePosting getSecret integration resolved.integration.secret = .ok resolved.posting

theorem resolves_of_resolve {integration : FileIntegration} {resolved : Resolved}
    (h : resolveIntegration getSecret integration = .ok resolved) : Resolves getSecret integration resolved := by
  simp only [resolveIntegration, bind_eq_ok, pure, Except.pure, Except.ok.injEq] at h
  obtain ⟨secret, -, posting, hposting, rfl⟩ := h
  exact ⟨rfl, rfl, rfl, rfl, hposting⟩

theorem forall₂_of_resolve {integrations : List FileIntegration} {resolved : List Resolved}
    (h : resolveIntegrations getSecret integrations = .ok resolved) :
    List.Forall₂ (Resolves getSecret) integrations resolved := by
  induction integrations generalizing resolved with
  | nil =>
      rw [resolveIntegrations, Except.ok.injEq] at h
      subst h
      exact .nil
  | cons integration integrations ih =>
      simp only [resolveIntegrations, bind_eq_ok, pure, Except.pure, Except.ok.injEq] at h
      obtain ⟨first, hfirst, rest, hrest, rfl⟩ := h
      exact .cons (resolves_of_resolve hfirst) (ih hrest)

theorem webhook_names_sublist {integrations : List FileIntegration} {resolved : List Resolved}
    (h : List.Forall₂ (Resolves getSecret) integrations resolved) :
    ((resolved.filterMap Resolved.webhook).map WebhookConfig.name).Sublist
      (integrations.map FileIntegration.name) := by
  induction h with
  | nil => exact List.Sublist.refl _
  | @cons integration first integrations rest hfirst _ ih =>
      rw [List.filterMap_cons, hfirst.webhook, resolveWebhook, List.map_cons]
      cases integration.webhook with
      | none => exact ih.cons _
      | some webhook => exact ih.cons_cons _

theorem integration_names_eq {integrations : List FileIntegration} {resolved : List Resolved}
    (h : List.Forall₂ (Resolves getSecret) integrations resolved) :
    (resolved.map Resolved.integration).map IntegrationConfig.name = integrations.map FileIntegration.name := by
  induction h with
  | nil => rfl
  | cons hfirst _ ih => rw [List.map_cons, List.map_cons, List.map_cons, hfirst.name, ih]

/-- A posting carries the name, the secret and the boards of its integration. -/
structure PostingOf (posting : PostingConfig) (integration : IntegrationConfig) : Prop where
  name : posting.name = integration.name
  secret : posting.secret = integration.secret
  allowedBoards : posting.allowedBoards = integration.allowedBoards

theorem Resolves.posting_cases {integration : FileIntegration} {resolved : Resolved}
    (h : Resolves getSecret integration resolved) :
    (integration.posting = none ∧ resolved.posting = none) ∨
      ∃ given posting, integration.posting = some given ∧ resolved.posting = some posting ∧
        posting.publicTripcode = given.publicTripcode ∧ PostingOf posting resolved.integration := by
  have hresolve := h.posting
  unfold resolvePosting at hresolve
  split at hresolve
  · rename_i hnone
    rw [Except.ok.injEq] at hresolve
    exact .inl ⟨hnone, hresolve.symm⟩
  · rename_i given hgiven
    simp only [bind_eq_ok, ensure_eq_ok, exists_const, pure, Except.pure, Except.ok.injEq] at hresolve
    obtain ⟨tripcodeSecret, -, postPassword, -, -, hposting⟩ := hresolve
    exact .inr ⟨given, _, hgiven, hposting.symm, rfl, h.name.symm, rfl, h.allowedBoards.symm⟩

theorem Resolves.postingOf {integration : FileIntegration} {resolved : Resolved} {posting : PostingConfig}
    (h : Resolves getSecret integration resolved) (hposting : resolved.posting = some posting) :
    PostingOf posting resolved.integration := by
  rcases h.posting_cases with ⟨-, hnone⟩ | ⟨given, found, -, hfound, -, hof⟩
  · rw [hposting] at hnone
    cases hnone
  · rw [hposting, Option.some.injEq] at hfound
    exact hfound ▸ hof

theorem exists_integration_of_posting {integrations : List FileIntegration} {resolved : List Resolved}
    (h : List.Forall₂ (Resolves getSecret) integrations resolved) {posting : PostingConfig}
    (hposting : posting ∈ resolved.filterMap Resolved.posting) :
    ∃ integration ∈ resolved.map Resolved.integration, PostingOf posting integration := by
  obtain ⟨entry, hentry, hsome⟩ := List.mem_filterMap.1 hposting
  obtain ⟨integration, -, hresolves⟩ := exists_of_forall₂ h hentry
  exact ⟨entry.integration, List.mem_map_of_mem hentry, hresolves.postingOf hsome⟩

theorem posting_names_sublist {integrations : List FileIntegration} {resolved : List Resolved}
    (h : List.Forall₂ (Resolves getSecret) integrations resolved) :
    ((resolved.filterMap Resolved.posting).map PostingConfig.name).Sublist
      (integrations.map FileIntegration.name) := by
  induction h with
  | nil => exact List.Sublist.refl _
  | cons hfirst _ ih =>
      rw [List.map_cons]
      rcases hfirst.posting_cases with ⟨-, hnone⟩ | ⟨_, posting, -, hposting, -, hof⟩
      · rw [List.filterMap_cons_none hnone]
        exact ih.cons _
      · rw [List.filterMap_cons_some hposting, List.map_cons, hof.name, hfirst.name]
        exact ih.cons_cons _

theorem posting_tripcodes_eq {integrations : List FileIntegration} {resolved : List Resolved}
    (h : List.Forall₂ (Resolves getSecret) integrations resolved) :
    (resolved.filterMap Resolved.posting).map PostingConfig.publicTripcode =
      (integrations.filterMap FileIntegration.posting).map FilePosting.publicTripcode := by
  induction h with
  | nil => rfl
  | cons hfirst _ ih =>
      rcases hfirst.posting_cases with ⟨hgiven, hnone⟩ | ⟨given, posting, hgiven, hposting, htripcode, -⟩
      · rw [List.filterMap_cons_none hnone, List.filterMap_cons_none hgiven, ih]
      · rw [List.filterMap_cons_some hposting, List.filterMap_cons_some hgiven, List.map_cons, List.map_cons,
          htripcode, ih]

theorem rate_limits_eq {integrations : List FileIntegration} {resolved : List Resolved}
    (h : resolveIntegrations getSecret integrations = .ok resolved) :
    (resolved.map Resolved.integration).map IntegrationConfig.rateLimit =
      integrations.map FileIntegration.rateLimit := by
  induction integrations generalizing resolved with
  | nil =>
      rw [resolveIntegrations, Except.ok.injEq] at h
      subst h
      rfl
  | cons integration integrations ih =>
      simp only [resolveIntegrations, bind_eq_ok, pure, Except.pure, Except.ok.injEq] at h
      obtain ⟨first, hfirst, rest, hrest, rfl⟩ := h
      simp only [resolveIntegration, bind_eq_ok, pure, Except.pure, Except.ok.injEq] at hfirst
      obtain ⟨secret, -, posting, -, rfl⟩ := hfirst
      rw [List.map_cons, List.map_cons, List.map_cons, ih hrest]

/-- A configuration and the parts it was put together from. -/
structure ResolvedFrom (parsers : Parsers) (getSecret : String → String → Except Chain String) (file : FileConfig)
    (resolved : List Resolved) (config : Config) : Prop where
  accepted : FileAccepted parsers file
  resolves : List.Forall₂ (Resolves getSecret) file.integrations resolved
  ptchan : config.ptchan = file.ptchan
  runtime : config.runtime = file.runtime
  storage : config.storage = file.storage
  integrations : config.integrations = resolved.map Resolved.integration
  webhooks : config.webhooks = resolved.filterMap Resolved.webhook
  postings : config.postings = resolved.filterMap Resolved.posting
  rateLimits : config.integrations.map IntegrationConfig.rateLimit = file.integrations.map FileIntegration.rateLimit
  fingerprint : resolveFingerprint getSecret config.webhooks = .ok config.fingerprintSecret

theorem resolvedFrom_of_resolve {file : FileConfig} {config : Config}
    (h : resolve getSecret parsers file = .ok config) :
    ∃ resolved, ResolvedFrom parsers getSecret file resolved config := by
  simp only [resolve, bind_eq_ok, context_eq_ok, pure, Except.pure, Except.ok.injEq] at h
  obtain ⟨_, hvalidate, resolved, hresolved, fingerprintSecret, hsecret, rfl⟩ := h
  exact ⟨resolved, fileAccepted_of_validate hvalidate, forall₂_of_resolve hresolved, rfl, rfl, rfl, rfl, rfl, rfl,
    rate_limits_eq hresolved, hsecret⟩

/-- A fingerprint secret is loaded exactly when a webhook asks for it. -/
theorem isSome_fingerprint_iff {webhooks : List WebhookConfig} {fingerprintSecret : Option String}
    (h : resolveFingerprint getSecret webhooks = .ok fingerprintSecret) :
    fingerprintSecret.isSome = true ↔ ∃ webhook ∈ webhooks, webhook.includePosterFingerprint = true := by
  rw [← List.any_eq_true]
  unfold resolveFingerprint at h
  split at h
  · rename_i hany
    cases hget : getSecret "PTCHAN_FINGERPRINT_SECRET" "fingerprint env PTCHAN_FINGERPRINT_SECRET" with
    | error err => simp [hget, Except.map] at h
    | ok secret =>
        rw [hget, Except.map, Except.ok.injEq] at h
        subst h
        exact iff_of_true rfl hany
  · rename_i hany
    rw [Except.ok.injEq] at h
    subst h
    exact iff_of_false Bool.false_ne_true hany

/-- A resolved configuration and what the gateway relies on. -/
structure Resolution (config : Config) : Prop where
  integrationNames : (config.integrations.map IntegrationConfig.name).Nodup
  postings : ∀ posting ∈ config.postings, ∃ integration ∈ config.integrations, PostingOf posting integration
  webhookNames : (config.webhooks.map WebhookConfig.name).Nodup
  fingerprintSecret : ∀ webhook ∈ config.webhooks, webhook.includePosterFingerprint = true →
    config.fingerprintSecret.isSome = true

theorem resolution_of_resolve {file : FileConfig} {config : Config}
    (h : resolve getSecret parsers file = .ok config) : Resolution config := by
  obtain ⟨resolved, hfrom⟩ := resolvedFrom_of_resolve h
  have hnames := (names_of_validate hfrom.accepted.integrations).1
  refine ⟨?_, ?_, ?_, ?_⟩
  · rw [hfrom.integrations, integration_names_eq hfrom.resolves]
    exact hnames
  · rw [hfrom.integrations, hfrom.postings]
    exact fun _ => exists_integration_of_posting hfrom.resolves
  · rw [hfrom.webhooks]
    exact (webhook_names_sublist hfrom.resolves).nodup hnames
  · intro webhook hwebhook hincludes
    exact (isSome_fingerprint_iff hfrom.fingerprint).2 ⟨webhook, hwebhook, hincludes⟩

/-- The names of a resolved configuration follow the rule for names. -/
theorem valid_names_of_resolve {file : FileConfig} {config : Config}
    (h : resolve getSecret parsers file = .ok config) :
    ∀ integration ∈ config.integrations, validIntegrationName integration.name = true := by
  obtain ⟨resolved, hfrom⟩ := resolvedFrom_of_resolve h
  intro integration hintegration
  have hname : integration.name ∈ file.integrations.map FileIntegration.name := by
    rw [← integration_names_eq hfrom.resolves, ← hfrom.integrations]
    exact List.mem_map_of_mem hintegration
  obtain ⟨given, hgiven, hsame⟩ := List.mem_map.1 hname
  rw [← hsame]
  exact valid_names_of_validate hfrom.accepted.integrations given hgiven

end Config

end PtchanGateway
