import PtchanGateway.Authorization
import PtchanGateway.Delivery

/-! Lookups in a resolved configuration. The gateway keeps its integrations, webhooks and postings in lists and
collects them into maps where it needs them, by name or by public tripcode; a map keeps the last of several
values under one key. The validator rejects every file in which this would lose one, so each map has one
entry for each element of its list, and whatever is found under one name belongs to one integration. -/

namespace PtchanGateway

open Config

/-- A map with one entry for each element of a list: under the key of the element, made from the element. -/
structure OneEntryEach {α β : Type} (key : α → String) (made : α → β → Prop) (values : List α)
    (entries : String → Option β) : Prop where
  keys : (values.map key).Nodup
  found : ∀ value ∈ values, ∃ entry, entries (key value) = some entry ∧ made value entry
  only : ∀ name entry, entries name = some entry → ∃ value ∈ values, key value = name ∧ made value entry

theorem oneEntryEach_collectBy {α : Type} {key : α → String} {values : List α} (hkeys : (values.map key).Nodup) :
    OneEntryEach key (fun value entry => entry = value) values (collectBy key values) where
  keys := hkeys
  found := fun value hvalue => ⟨value, (collectBy_eq_some_iff hkeys).2 ⟨hvalue, rfl⟩, rfl⟩
  only := fun _ entry h => ⟨entry, (collectBy_eq_some h).1, (collectBy_eq_some h).2, rfl⟩

/-- Entries that are made one by one and collected by the first component. -/
theorem oneEntryEach_pairs {α β : Type} {key : α → String} {made : α → β → Prop} {values : List α}
    {pairs : List (String × β)} (hkeys : (values.map key).Nodup)
    (hpairs : List.Forall₂ (fun value pair => pair.1 = key value ∧ made value pair.2) values pairs) :
    OneEntryEach key made values fun name => (collectBy Prod.fst pairs name).map Prod.snd := by
  have hsame : pairs.map Prod.fst = values.map key := by
    clear hkeys
    induction hpairs with
    | nil => rfl
    | cons hpair _ ih => rw [List.map_cons, List.map_cons, hpair.1, ih]
  refine ⟨hkeys, fun value hvalue => ?_, fun name entry hentry => ?_⟩
  · obtain ⟨pair, hmem, hkey, hmade⟩ := exists_of_forall₂ hpairs.flip hvalue
    have hpair := (collectBy_eq_some_iff (hsame ▸ hkeys)).2 ⟨hmem, hkey⟩
    exact ⟨pair.2, by rw [hpair, Option.map_some], hmade⟩
  · obtain ⟨pair, hpair, rfl⟩ := Option.map_eq_some_iff.1 hentry
    obtain ⟨hmem, rfl⟩ := collectBy_eq_some hpair
    obtain ⟨value, hvalue, hkey, hmade⟩ := exists_of_forall₂ hpairs hmem
    exact ⟨value, hvalue, hkey.symm, hmade⟩

section Limiters

variable {Cell : Type} (governor : Governor Cell)

/-- The bucket `limiter` makes of accepted settings. -/
def bucketOf (bucket : RateLimitBucketConfig) : Cell :=
  governor.direct (bucket.window.nanos / bucket.requests.toNat) bucket.burst

theorem limiter_of_accepted {bucket : RateLimitBucketConfig} (h : BucketAccepted bucket) :
    limiter governor bucket = .ok (bucketOf governor bucket) := by
  simp [limiter, ensure, bucketOf, h.requests, h.burst, h.period, bind, Except.bind]

def limitersOf (rateLimit : RateLimitConfig) : CapabilityRateLimiters Cell :=
  ⟨bucketOf governor rateLimit.reading, bucketOf governor rateLimit.posting⟩

theorem new_of_accepted {rateLimit : RateLimitConfig} (h : LimitAccepted rateLimit) :
    CapabilityRateLimiters.new governor rateLimit = .ok (limitersOf governor rateLimit) := by
  rw [CapabilityRateLimiters.new, limiter_of_accepted governor h.reading, limiter_of_accepted governor h.posting]
  rfl

theorem limiters_of_accepted {integrations : List IntegrationConfig} {global : RateLimitConfig}
    (h : ∀ integration ∈ integrations, LimitAccepted integration.rateLimit) (hglobal : LimitAccepted global) :
    RateLimiters.new governor integrations global =
      .ok ⟨fun name => (collectBy Prod.fst (integrations.map fun integration =>
        (integration.name, limitersOf governor integration.rateLimit)) name).map Prod.snd,
        limitersOf governor global⟩ := by
  have hentries : (integrations.mapM fun integration => do
      let limiters ← context ("create rate limiters for integration " ++ integration.name)
        (CapabilityRateLimiters.new governor integration.rateLimit)
      Except.ok (integration.name, limiters)) =
      .ok (integrations.map fun integration => (integration.name, limitersOf governor integration.rateLimit)) := by
    apply mapM_eq_ok
    intro integration hmem
    rw [new_of_accepted governor (h integration hmem)]
    rfl
  rw [RateLimiters.new, hentries, new_of_accepted governor hglobal]
  rfl

end Limiters

/-- A webhook carries the name, the secret and the boards of its integration. -/
structure WebhookOf (webhook : WebhookConfig) (integration : IntegrationConfig) : Prop where
  name : webhook.name = integration.name
  secret : webhook.secret = integration.secret
  allowedBoards : webhook.allowedBoards = integration.allowedBoards

/-- The lists of a configuration belong together. -/
structure Consistent (config : Config) : Prop where
  integrationNames : (config.integrations.map IntegrationConfig.name).Nodup
  webhookOf : ∀ webhook ∈ config.webhooks, ∃! integration,
    integration ∈ config.integrations ∧ WebhookOf webhook integration
  postingOf : ∀ posting ∈ config.postings, ∃! integration,
    integration ∈ config.integrations ∧ PostingOf posting integration
  oneWebhook : ∀ integration ∈ config.integrations,
    (config.webhooks.filter fun webhook => webhook.name == integration.name).length ≤ 1
  onePosting : ∀ integration ∈ config.integrations,
    (config.postings.filter fun posting => posting.name == integration.name).length ≤ 1
  fingerprintSecret : config.fingerprintSecret.isSome = true ↔
    ∃ webhook ∈ config.webhooks, webhook.includePosterFingerprint = true

section Lookups

variable {Cell : Type} (lib : Libraries Cell)

/-- The maps made from a configuration, the last four when the server is spawned. -/
structure Lossless (config : Config) (state : AppState Cell) : Prop where
  endpoints : OneEntryEach WebhookConfig.name (fun webhook entry => entry = webhook) config.webhooks
    (Delivery.endpoint? config.webhooks)
  integrations : OneEntryEach IntegrationConfig.name (fun integration entry => entry = integration)
    config.integrations state.integrations
  postings : OneEntryEach PostingConfig.name (fun posting entry => entry = posting) config.postings state.postings
  limiters : OneEntryEach IntegrationConfig.name
    (fun integration entry => CapabilityRateLimiters.new lib.governor integration.rateLimit = .ok entry)
    config.integrations state.rateLimiters.integrations
  origins : OneEntryEach PostingConfig.publicTripcode (fun posting entry => entry = posting.name) config.postings
    state.origins.get?

/-- Both routes authenticate a name alike, and a reply is limited by its own bucket. -/
structure Uniform (config : Config) (state : AppState Cell) : Prop where
  same : ∀ name integration posting, state.integrations name = some integration →
    state.postings name = some posting → PostingOf posting integration
  limited : ∀ now request body posting, authenticatePosting lib state now request body = .ok posting →
    ∃ integration ∈ config.integrations, PostingOf posting integration ∧
      ∃ own, state.rateLimiters.integrations posting.name = some own

variable {parsers : Parsers} {getSecret : String → String → Except Chain String} {file : FileConfig}
  {resolved : List Resolved} {config : Config} {state : AppState Cell}

/-- Names are distinct, so what has the name of an integration belongs to one only. -/
theorem existsUnique_of_name {α : Type} {name : α → String} {of : α → IntegrationConfig → Prop}
    (hnames : (config.integrations.map IntegrationConfig.name).Nodup)
    (hof : ∀ value integration, of value integration → name value = integration.name) {value : α}
    (h : ∃ integration ∈ config.integrations, of value integration) :
    ∃! integration, integration ∈ config.integrations ∧ of value integration := by
  obtain ⟨integration, hmem, hvalue⟩ := h
  refine ⟨integration, ⟨hmem, hvalue⟩, ?_⟩
  rintro other ⟨hother, hotherValue⟩
  apply List.inj_on_of_nodup_map hnames hother hmem
  exact (hof value other hotherValue).symm.trans (hof value integration hvalue)

theorem length_filter_le_one {α : Type} {key : α → String} {values : List α} (hkeys : (values.map key).Nodup)
    (name : String) : (values.filter fun value => key value == name).length ≤ 1 := by
  have hcount : (values.map key).count name ≤ 1 := List.nodup_iff_count_le_one.1 hkeys name
  rwa [List.count, List.countP_map, List.countP_eq_length_filter] at hcount

theorem webhookOf_of_resolves {integration : FileIntegration} {entry : Resolved} {webhook : WebhookConfig}
    (h : Resolves getSecret integration entry) (hwebhook : entry.webhook = some webhook) :
    WebhookOf webhook entry.integration := by
  rw [h.webhook, resolveWebhook, Option.map_eq_some_iff] at hwebhook
  obtain ⟨given, -, rfl⟩ := hwebhook
  exact ⟨h.name.symm, rfl, h.allowedBoards.symm⟩

theorem exists_integration_of_webhook (h : ResolvedFrom parsers getSecret file resolved config)
    {webhook : WebhookConfig} (hwebhook : webhook ∈ config.webhooks) :
    ∃ integration ∈ config.integrations, WebhookOf webhook integration := by
  rw [h.webhooks] at hwebhook
  obtain ⟨entry, hentry, hsome⟩ := List.mem_filterMap.1 hwebhook
  obtain ⟨given, -, hresolves⟩ := exists_of_forall₂ h.resolves hentry
  exact ⟨entry.integration, h.integrations ▸ List.mem_map_of_mem hentry, webhookOf_of_resolves hresolves hsome⟩

theorem posting_names_nodup (h : ResolvedFrom parsers getSecret file resolved config) :
    (config.postings.map PostingConfig.name).Nodup := by
  rw [h.postings]
  exact (posting_names_sublist h.resolves).nodup (names_of_validate h.accepted.integrations).1

theorem tripcodes_nodup (h : ResolvedFrom parsers getSecret file resolved config) :
    (config.postings.map PostingConfig.publicTripcode).Nodup := by
  rw [h.postings, posting_tripcodes_eq h.resolves]
  exact (tripcodes_of_validate h.accepted.integrations).1

theorem oneEntryEach_origins {postings : List PostingConfig}
    (h : (postings.map PostingConfig.publicTripcode).Nodup) :
    OneEntryEach PostingConfig.publicTripcode (fun posting entry => entry = posting.name) postings
      (OriginMatcher.new postings).get? := by
  apply oneEntryEach_pairs h
  rw [OriginMatcher.new, List.forall₂_map_right_iff, List.forall₂_same]
  exact fun posting _ => ⟨rfl, rfl⟩

theorem limits_accepted (h : ResolvedFrom parsers getSecret file resolved config) :
    ∀ integration ∈ config.integrations, LimitAccepted integration.rateLimit := by
  intro integration hmem
  have hlimit : integration.rateLimit ∈ file.integrations.map FileIntegration.rateLimit :=
    h.rateLimits ▸ List.mem_map_of_mem hmem
  obtain ⟨given, hgiven, hsame⟩ := List.mem_map.1 hlimit
  obtain ⟨before, after, haccepted⟩ := exists_accepted h.accepted.integrations hgiven
  rw [← hsame]
  exact limitAccepted_of_validate haccepted.rateLimit

theorem consistent_of_resolvedFrom (hresolution : Resolution config)
    (h : ResolvedFrom parsers getSecret file resolved config) : Consistent config where
  integrationNames := hresolution.integrationNames
  webhookOf := fun _ hwebhook => existsUnique_of_name hresolution.integrationNames (fun _ _ hof => hof.name)
    (exists_integration_of_webhook h hwebhook)
  postingOf := fun posting hposting => existsUnique_of_name hresolution.integrationNames (fun _ _ hof => hof.name)
    (hresolution.postings posting hposting)
  oneWebhook := fun _ _ => length_filter_le_one hresolution.webhookNames _
  onePosting := fun _ _ => length_filter_le_one (posting_names_nodup h) _
  fingerprintSecret := isSome_fingerprint_iff h.fingerprint

/-- The server can be spawned, and no map it starts with has lost an element. -/
theorem exists_lossless (hresolution : Resolution config) (h : ResolvedFrom parsers getSecret file resolved config) :
    ∃ state, AppState.new lib config = .ok state ∧ Lossless lib config state := by
  have hglobal : LimitAccepted config.runtime.rateLimit := h.runtime ▸ h.accepted.rateLimit
  have hlimiters := limiters_of_accepted lib.governor (limits_accepted h) hglobal
  refine ⟨_, by rw [AppState.new, hlimiters]; rfl, ?_⟩
  refine ⟨oneEntryEach_collectBy hresolution.webhookNames, oneEntryEach_collectBy hresolution.integrationNames,
    oneEntryEach_collectBy (posting_names_nodup h), oneEntryEach_pairs hresolution.integrationNames ?_,
    oneEntryEach_origins (tripcodes_nodup h)⟩
  rw [List.forall₂_map_right_iff, List.forall₂_same]
  exact fun integration hmem => ⟨rfl, new_of_accepted lib.governor (limits_accepted h integration hmem)⟩

theorem uniform_of_built (hresolution : Resolution config) (hbuilt : Built config state) :
    Uniform lib config state := by
  refine ⟨fun name integration posting hintegration hposting => ?_, fun now request body posting h => ?_⟩
  · obtain ⟨hmem, rfl⟩ := (integrations_eq_some hbuilt hresolution).1 hintegration
    exact (postingOf_of_postings hbuilt hresolution hmem hposting).2
  · obtain ⟨name, -, hlookup, -⟩ := authenticate_eq_ok h
    rw [hbuilt.postings] at hlookup
    obtain ⟨integration, hmem, hof⟩ := hresolution.postings posting (collectBy_eq_some hlookup).1
    exact ⟨integration, hmem, hof, Option.isSome_iff_exists.1 (hof.name ▸ hbuilt.limiters integration hmem)⟩

/-- Whatever file resolves, its lists belong together, no map made from them loses an element, and in every
state that is served both routes know a name by one secret and one list of boards. -/
theorem lookups_are_lossless (hresolve : resolve getSecret parsers file = .ok config) :
    Consistent config ∧ (∃ state, AppState.new lib config = .ok state ∧ Lossless lib config state) ∧
      ∀ state, Serves lib config state → Uniform lib config state := by
  have hresolution := resolution_of_resolve hresolve
  obtain ⟨resolved, hfrom⟩ := resolvedFrom_of_resolve hresolve
  exact ⟨consistent_of_resolvedFrom hresolution hfrom, exists_lossless lib hresolution hfrom,
    fun state hserves => uniform_of_built lib hresolution hserves.built⟩

end Lookups

namespace Sample

/-- One integration that reads and posts, and one with a webhook. -/
def sharedFile : FileConfig where
  ptchan := ⟨"https://ptchan.test/"⟩
  runtime := .default
  storage := ⟨"gateway.db", defaultEventRetention⟩
  integrations := [⟨"bridge", ["i"], some (), none, some ⟨some "Bridge", "!!abcdefghi="⟩, .default⟩,
    ⟨"alerts", [], none, some ⟨"http://alerts.test/", true⟩, none, .default⟩]

def sharedConfig : Config where
  ptchan := ⟨"https://ptchan.test/"⟩
  runtime := .default
  storage := ⟨"gateway.db", defaultEventRetention⟩
  integrations := [⟨"bridge", ["i"], true, .default, "secret"⟩, ⟨"alerts", [], false, .default, "secret"⟩]
  webhooks := [⟨"alerts", "http://alerts.test/", [], true, "secret"⟩]
  postings := [bridge]
  fingerprintSecret := some "secret"

theorem lookups_are_lossless_shared :
    resolve (fun _ _ => .ok "secret") parsers sharedFile = .ok sharedConfig ∧ Consistent sharedConfig ∧
      ∃ state, AppState.new libraries sharedConfig = .ok state ∧ Lossless libraries sharedConfig state := by
  have hresolve : resolve (fun _ _ => .ok "secret") parsers sharedFile = .ok sharedConfig := rfl
  obtain ⟨hconsistent, hlossless, -⟩ := lookups_are_lossless libraries hresolve
  exact ⟨hresolve, hconsistent, hlossless⟩

end Sample

end PtchanGateway
