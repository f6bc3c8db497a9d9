import PtchanGateway.ConfigFacts

/-!
The secrets `resolve` asks its source for. The variables of an integration are named by its name in capitals
and by the kind of secret; `validate` keeps the capitalised names apart and the kinds end in different letters,
so no two requests have one name. The requests go through the integrations in the order of the file, the
fingerprint secret comes last, and what comes after a failure is not asked for.
-/

namespace PtchanGateway

open TextRust Config

namespace Config

/-- What the source of secrets is called with. -/
structure Request where
  env : String
  description : String

/-- A computation that asks for secrets: what it asked for, in order, and its result. -/
structure Asking (α : Type) where
  asked : List Request
  result : Except Chain α

/-- A computation that asks for nothing. -/
def Asking.of {α : Type} (result : Except Chain α) : Asking α := ⟨[], result⟩

instance : Monad Asking where
  pure value := .of (.ok value)
  bind first next :=
    match first.result with
    | .ok value => ⟨first.asked ++ (next value).asked, (next value).result⟩
    | .error causes => ⟨first.asked, .error causes⟩

section Ask

variable (getSecret : String → String → Except Chain String)

def ask (env description : String) : Asking String := ⟨[⟨env, description⟩], getSecret env description⟩

/-- `resolvePosting` with its requests. -/
def askPosting (integration : FileIntegration) (secret : String) : Asking (Option PostingConfig) :=
  match integration.posting with
  | none => .of (.ok none)
  | some posting => do
      let tripcodeEnv := integrationTripcodeEnv integration.name
      let tripcodeSecret ← ask getSecret tripcodeEnv
        ("integration " ++ integration.name ++ " tripcode env " ++ tripcodeEnv)
      let passwordEnv := integrationPostPasswordEnv integration.name
      let postPassword ← ask getSecret passwordEnv
        ("integration " ++ integration.name ++ " post password env " ++ passwordEnv)
      let posting : PostingConfig := {
        name := integration.name
        allowedBoards := integration.allowedBoards
        displayName := posting.displayName
        secret := secret
        tripcodeSecret := tripcodeSecret
        publicTripcode := posting.publicTripcode
        postPassword := postPassword }
      .of (ensure (posting.formName.length ≤ postingNameMaxChars)
        ("integration " ++ integration.name ++ " posting name is " ++ toString posting.formName.length ++
          " characters; ptchan allows " ++ toString postingNameMaxChars ++ " or less"))
      pure (some posting)

/-- `resolveIntegration` with its requests. -/
def askIntegration (integration : FileIntegration) : Asking Resolved := do
  let secretEnv := integrationSecretEnv integration.name
  let secret ← ask getSecret secretEnv ("integration " ++ integration.name ++ " secret env " ++ secretEnv)
  let posting ← askPosting getSecret integration secret
  pure {
    integration := {
      name := integration.name
      allowedBoards := integration.allowedBoards
      reading := integration.reading.isSome
      rateLimit := integration.rateLimit
      secret := secret }
    webhook := resolveWebhook integration secret
    posting := posting }

/-- `resolveIntegrations` with its requests. -/
def askIntegrations : List FileIntegration → Asking (List Resolved)
  | [] => .of (.ok [])
  | integration :: integrations => do
      let first ← askIntegration getSecret integration
      let rest ← askIntegrations integrations
      pure (first :: rest)

/-- `resolveFingerprint` with its request. -/
def askFingerprint (webhooks : List WebhookConfig) : Asking (Option String) :=
  if webhooks.any WebhookConfig.includePosterFingerprint then do
    let secret ← ask getSecret "PTCHAN_FINGERPRINT_SECRET" "fingerprint env PTCHAN_FINGERPRINT_SECRET"
    pure (some secret)
  else .of (.ok none)

/-- `resolve` with its requests. -/
def askResolve (parsers : Parsers) (file : FileConfig) : Asking Config := do
  .of (context "validate config" (validate parsers file))
  let resolved ← askIntegrations getSecret file.integrations
  let webhooks := resolved.filterMap Resolved.webhook
  let fingerprintSecret ← askFingerprint getSecret webhooks
  pure {
    ptchan := file.ptchan
    runtime := file.runtime
    storage := file.storage
    integrations := resolved.map Resolved.integration
    webhooks := webhooks
    postings := resolved.filterMap Resolved.posting
    fingerprintSecret := fingerprintSecret }

end Ask

@[simp] theorem of_result {α : Type} (result : Except Chain α) : (Asking.of result).result = result := rfl

@[simp] theorem pure_result {α : Type} (value : α) : (pure value : Asking α).result = .ok value := rfl

@[simp] theorem ask_result (getSecret : String → String → Except Chain String) (env description : String) :
    (ask getSecret env description).result = getSecret env description := rfl

@[simp] theorem bind_result {α β : Type} (first : Asking α) (next : α → Asking β) :
    (first >>= next).result = first.result >>= fun value => (next value).result := by
  simp only [bind, Except.bind]
  cases first.result <;> rfl

section Result

variable (getSecret : String → String → Except Chain String)

theorem askPosting_result (integration : FileIntegration) (secret : String) :
    (askPosting getSecret integration secret).result = resolvePosting getSecret integration secret := by
  unfold askPosting resolvePosting
  cases integration.posting with
  | none => rfl
  | some posting =>
      simp only [bind_result, ask_result, of_result, pure_result]
      rfl

theorem askIntegration_result (integration : FileIntegration) :
    (askIntegration getSecret integration).result = resolveIntegration getSecret integration := by
  simp only [askIntegration, resolveIntegration, bind_result, ask_result, pure_result, askPosting_result]
  rfl

theorem askIntegrations_result (integrations : List FileIntegration) :
    (askIntegrations getSecret integrations).result = resolveIntegrations getSecret integrations := by
  induction integrations with
  | nil => rfl
  | cons integration integrations ih =>
      simp only [askIntegrations, resolveIntegrations, bind_result, pure_result, askIntegration_result, ih]
      rfl

theorem askFingerprint_result (webhooks : List WebhookConfig) :
    (askFingerprint getSecret webhooks).result = resolveFingerprint getSecret webhooks := by
  rw [askFingerprint, resolveFingerprint]
  split
  · rw [bind_result]
    simp only [ask, pure, Asking.of, bind, Except.bind]
    cases getSecret "PTCHAN_FINGERPRINT_SECRET" "fingerprint env PTCHAN_FINGERPRINT_SECRET" <;> rfl
  · rfl

/-- With its requests `resolve` has the result it has without them. -/
theorem askResolve_result (parsers : Parsers) (file : FileConfig) :
    (askResolve getSecret parsers file).result = resolve getSecret parsers file := by
  simp only [askResolve, resolve, bind_result, of_result, pure_result, askIntegrations_result, askFingerprint_result]
  rfl

end Result

/-! ### The requests -/

/-- What an integration needs: its shared secret, and with posting a tripcode and a post password. -/
def requiredBy (integration : FileIntegration) : List Request :=
  let secretEnv := integrationSecretEnv integration.name
  let tripcodeEnv := integrationTripcodeEnv integration.name
  let passwordEnv := integrationPostPasswordEnv integration.name
  ⟨secretEnv, "integration " ++ integration.name ++ " secret env " ++ secretEnv⟩ ::
    if integration.posting.isSome then
      [⟨tripcodeEnv, "integration " ++ integration.name ++ " tripcode env " ++ tripcodeEnv⟩,
        ⟨passwordEnv, "integration " ++ integration.name ++ " post password env " ++ passwordEnv⟩]
    else []

/-- A webhook of the integration wants fingerprints. -/
def wantsFingerprint (integration : FileIntegration) : Bool :=
  integration.webhook.any FileWebhook.includePosterFingerprint

/-- The fingerprint secret, when it is wanted. -/
def fingerprintRequest (wanted : Bool) : List Request :=
  if wanted then [⟨"PTCHAN_FINGERPRINT_SECRET", "fingerprint env PTCHAN_FINGERPRINT_SECRET"⟩] else []

/-- What a file needs. -/
def required (file : FileConfig) : List Request :=
  file.integrations.flatMap requiredBy ++ fingerprintRequest (file.integrations.any wantsFingerprint)

section Requests

variable {getSecret : String → String → Except Chain String}

/-- The computation makes these requests from the first on, and all of them with success if it succeeds. -/
structure Asks {α : Type} (getSecret : String → String → Except Chain String) (asking : Asking α)
    (requests : List Request) : Prop where
  begins : asking.asked <+: requests
  complete : ∀ value, asking.result = .ok value → asking.asked = requests ∧
    ∀ request ∈ requests, ∃ secret, getSecret request.env request.description = .ok secret

theorem Asks.of {α : Type} (result : Except Chain α) : Asks getSecret (.of result) [] :=
  ⟨List.prefix_rfl, fun _ _ => ⟨rfl, fun _ hrequest => absurd hrequest List.not_mem_nil⟩⟩

theorem Asks.ask (env description : String) : Asks getSecret (ask getSecret env description) [⟨env, description⟩] := by
  refine ⟨List.prefix_rfl, ?_⟩
  intro secret hsecret
  refine ⟨rfl, ?_⟩
  intro request hrequest
  rw [List.mem_singleton.mp hrequest]
  exact ⟨secret, hsecret⟩

theorem Asks.bind {α β : Type} {first : Asking α} {next : α → Asking β} {early late : List Request}
    (hfirst : Asks getSecret first early)
    (hnext : ∀ value, first.result = .ok value → Asks getSecret (next value) late) :
    Asks getSecret (first >>= next) (early ++ late) := by
  cases hresult : first.result with
  | error causes =>
      have hbind : (first >>= next) = ⟨first.asked, .error causes⟩ := by
        simp only [Bind.bind, hresult]
      rw [hbind]
      refine ⟨hfirst.begins.trans (List.prefix_append _ _), ?_⟩
      intro value hvalue
      cases hvalue
  | ok value =>
      have hbind : (first >>= next) = ⟨first.asked ++ (next value).asked, (next value).result⟩ := by
        simp only [Bind.bind, hresult]
      obtain ⟨hall, hhas⟩ := hfirst.complete value hresult
      have hrest := hnext value hresult
      rw [hbind, hall]
      refine ⟨(List.prefix_append_right_inj early).mpr hrest.begins, ?_⟩
      intro result hok
      obtain ⟨hmore, hhasMore⟩ := hrest.complete result hok
      refine ⟨by rw [hmore], ?_⟩
      intro request hrequest
      rcases List.mem_append.mp hrequest with hearly | hlate
      · exact hhas request hearly
      · exact hhasMore request hlate

/-- Work after the last request. -/
theorem Asks.then {α β : Type} {first : Asking α} {next : α → Except Chain β} {requests : List Request}
    (hfirst : Asks getSecret first requests) : Asks getSecret (first >>= fun value => .of (next value)) requests := by
  have h : Asks getSecret (first >>= fun value => .of (next value)) (requests ++ []) :=
    hfirst.bind fun value _ => Asks.of (next value)
  rwa [List.append_nil] at h

theorem asks_askPosting (integration : FileIntegration) (secret : String) :
    Asks getSecret (askPosting getSecret integration secret) (requiredBy integration).tail := by
  unfold askPosting requiredBy
  cases integration.posting with
  | none => exact Asks.of _
  | some posting =>
      have hlast : ∀ (checked : Except Chain Unit) (value : Option PostingConfig),
          Asks getSecret (Asking.of checked >>= fun _ => pure value) ([] : List Request) := by
        intro checked value
        exact (Asks.of checked).then
      exact (Asks.ask _ _).bind fun tripcodeSecret _ => (Asks.ask _ _).bind fun postPassword _ => hlast _ _

theorem asks_askIntegration (integration : FileIntegration) :
    Asks getSecret (askIntegration getSecret integration) (requiredBy integration) := by
  apply (Asks.ask _ _).bind
  intro secret _
  exact (asks_askPosting integration secret).then

theorem asks_askIntegrations (integrations : List FileIntegration) :
    Asks getSecret (askIntegrations getSecret integrations) (integrations.flatMap requiredBy) := by
  induction integrations with
  | nil => exact Asks.of _
  | cons integration integrations ih =>
      rw [List.flatMap_cons]
      exact (asks_askIntegration integration).bind fun first _ => ih.then

theorem asks_askFingerprint (webhooks : List WebhookConfig) :
    Asks getSecret (askFingerprint getSecret webhooks)
      (fingerprintRequest (webhooks.any WebhookConfig.includePosterFingerprint)) := by
  rw [askFingerprint, fingerprintRequest]
  split
  · exact (Asks.ask _ _).then
  · exact Asks.of _

/-- The resolved webhooks want fingerprints when those of the file do. -/
theorem any_webhooks {integrations : List FileIntegration} {resolved : List Resolved}
    (h : List.Forall₂ (Resolves getSecret) integrations resolved) :
    (resolved.filterMap Resolved.webhook).any WebhookConfig.includePosterFingerprint =
      integrations.any wantsFingerprint := by
  induction h with
  | nil => rfl
  | @cons integration first integrations rest hfirst _ ih =>
      have hwebhook := hfirst.webhook
      rw [List.any_cons, wantsFingerprint, ← ih]
      cases hgiven : integration.webhook with
      | none =>
          rw [resolveWebhook, hgiven, Option.map_none] at hwebhook
          rw [List.filterMap_cons_none hwebhook]
          rfl
      | some webhook =>
          rw [resolveWebhook, hgiven, Option.map_some] at hwebhook
          rw [List.filterMap_cons_some hwebhook]
          rfl

theorem asks_askResolve (parsers : Parsers) (file : FileConfig) :
    Asks getSecret (askResolve getSecret parsers file) (required file) := by
  unfold askResolve required
  rw [← List.nil_append (_ ++ _)]
  apply (Asks.of _).bind
  intro _ _
  apply (asks_askIntegrations file.integrations).bind
  intro resolved hresolved
  rw [askIntegrations_result] at hresolved
  rw [← any_webhooks (forall₂_of_resolve hresolved)]
  exact (asks_askFingerprint _).then

end Requests

/-- The kinds of secret, as their variables end. -/
def kinds : List String := ["_SECRET", "_TRIPCODE", "_POST_PASSWORD"]

def integrationEnv (integration : FileIntegration) (kind : String) : String :=
  "PTCHAN_INTEGRATION_" ++ envSafeName integration.name ++ kind

def kindsOf (integration : FileIntegration) : List String :=
  if integration.posting.isSome then kinds else ["_SECRET"]

theorem mem_kinds {integration : FileIntegration} {kind : String} (h : kind ∈ kindsOf integration) : kind ∈ kinds := by
  rw [kindsOf] at h
  split at h
  · exact h
  · rw [List.mem_singleton.mp h, kinds]
    exact List.mem_cons_self

theorem requiredBy_env (integration : FileIntegration) :
    (requiredBy integration).map Request.env = (kindsOf integration).map (integrationEnv integration) := by
  rw [kindsOf]
  unfold requiredBy
  split <;> rfl

/-- The kinds end in different letters. -/
theorem integrationEnv_inj {integration other : FileIntegration} {kind otherKind : String} (hkind : kind ∈ kinds)
    (hother : otherKind ∈ kinds) (h : integrationEnv integration kind = integrationEnv other otherKind) :
    envSafeName integration.name = envSafeName other.name ∧ kind = otherKind := by
  have hnonempty : ∀ kind ∈ kinds, kind.toList ≠ [] := by decide
  have hletters : ∀ kind ∈ kinds, ∀ other ∈ kinds,
      kind.toList.getLast? = other.toList.getLast? → kind = other := by decide
  unfold integrationEnv at h
  have hlast := congrArg (fun text => text.toList.getLast?) h
  simp only [String.toList_append, List.getLast?_append_of_ne_nil _ (hnonempty _ hkind),
    List.getLast?_append_of_ne_nil _ (hnonempty _ hother)] at hlast
  obtain rfl := hletters kind hkind otherKind hother hlast
  rw [String.append_left_inj, String.append_right_inj] at h
  exact ⟨h, rfl⟩

theorem requiredBy_nodup (integration : FileIntegration) : ((requiredBy integration).map Request.env).Nodup := by
  rw [requiredBy_env]
  have hkinds : (kindsOf integration).Nodup := by
    rw [kindsOf]
    split <;> decide
  apply List.Nodup.map_on _ hkinds
  intro kind hkind other hother heq
  exact (integrationEnv_inj (mem_kinds hkind) (mem_kinds hother) heq).2

theorem exists_kind {integration : FileIntegration} {env : String}
    (h : env ∈ (requiredBy integration).map Request.env) : ∃ kind ∈ kinds, env = integrationEnv integration kind := by
  rw [requiredBy_env] at h
  obtain ⟨kind, hkind, rfl⟩ := List.mem_map.mp h
  exact ⟨kind, mem_kinds hkind, rfl⟩

/-- The variable of the fingerprint secret is none of an integration's. -/
theorem integrationEnv_ne_fingerprint (integration : FileIntegration) (kind : String) :
    integrationEnv integration kind ≠ "PTCHAN_FINGERPRINT_SECRET" := by
  unfold integrationEnv
  intro h
  have hchars := congrArg (fun text => text.toList.take 8) h
  simp [String.toList_append] at hchars

/-- The variables of a file are told apart when its integrations are by their capitalised names. -/
theorem required_nodup {file : FileConfig} (h : (file.integrations.map fun one => envSafeName one.name).Nodup) :
    ((required file).map Request.env).Nodup := by
  have hintegrations : (file.integrations.flatMap fun one => (requiredBy one).map Request.env).Nodup := by
    rw [List.nodup_flatMap]
    refine ⟨fun integration _ => requiredBy_nodup integration, ?_⟩
    rw [List.Nodup, List.pairwise_map] at h
    apply h.imp
    intro first second hne env hfirst hsecond
    obtain ⟨kind, hkind, rfl⟩ := exists_kind hfirst
    obtain ⟨other, hother, heq⟩ := exists_kind hsecond
    exact hne (integrationEnv_inj hkind hother heq).1
  rw [required, fingerprintRequest, List.map_append, List.map_flatMap]
  split
  · refine List.nodup_append.mpr ⟨hintegrations, List.nodup_singleton _, ?_⟩
    intro env henv other hother
    obtain ⟨integration, -, hof⟩ := List.mem_flatMap.mp henv
    obtain ⟨kind, -, rfl⟩ := exists_kind hof
    rw [List.mem_singleton.mp hother]
    exact integrationEnv_ne_fingerprint integration kind
  · rwa [List.map_nil, List.append_nil]

def total (source : String → String → String) (env description : String) : Except Chain String :=
  .ok (source env description)

/-- The posting name of the integration does not fit when its tripcode secret is the source's. -/
def TooLong (source : String → String → String) (integration : FileIntegration) : Prop :=
  let tripcodeEnv := integrationTripcodeEnv integration.name
  ∃ posting, integration.posting = some posting ∧
    postingNameMaxChars < (trim (posting.displayName.getD integration.name) ++ "##" ++
      source tripcodeEnv ("integration " ++ integration.name ++ " tripcode env " ++ tripcodeEnv)).length

def Fails {α : Type} (result : Except Chain α) : Prop := ∃ causes, result = .error causes

theorem not_fails_iff {α : Type} {result : Except Chain α} : ¬Fails result ↔ ∃ value, result = .ok value := by
  cases result <;> simp [Fails]

theorem fails_bind_pure {α β : Type} (first : Except Chain α) (value : α → β) :
    Fails (first >>= fun given => pure (value given)) ↔ Fails first := by
  cases first <;> simp [Fails, bind, Except.bind, pure, Except.pure]

theorem fails_ensure {condition : Bool} {message : String} : Fails (ensure condition message) ↔ condition = false := by
  cases condition <;> simp [Fails, ensure, bail]

section Total

variable {source : String → String → String}

theorem total_bind {α : Type} (env description : String) (next : String → Except Chain α) :
    (total source env description >>= next) = next (source env description) := rfl

theorem ask_total_bind {α : Type} (env description : String) (next : String → Asking α) :
    (ask (total source) env description >>= next).asked =
      ⟨env, description⟩ :: (next (source env description)).asked := rfl

theorem bind_of_error {α β : Type} {first : Asking α} {next : α → Asking β} {causes : Chain}
    (h : first.result = .error causes) : (first >>= next) = ⟨first.asked, .error causes⟩ := by
  simp only [Bind.bind, h]

theorem bind_of_ok {α β : Type} {first : Asking α} {next : α → Asking β} {value : α} (h : first.result = .ok value) :
    (first >>= next) = ⟨first.asked ++ (next value).asked, (next value).result⟩ := by
  simp only [Bind.bind, h]

theorem bind_pure_asked {α β : Type} (first : Asking α) (value : α → β) :
    (first >>= fun given => pure (value given)).asked = first.asked := by
  cases h : first.result with
  | error causes => rw [bind_of_error h]
  | ok given =>
      rw [bind_of_ok h]
      exact List.append_nil _

theorem resolvePosting_total (integration : FileIntegration) (secret : String) :
    Fails (resolvePosting (total source) integration secret) ↔ TooLong source integration := by
  unfold resolvePosting TooLong
  cases integration.posting with
  | none => simp [Fails]
  | some posting =>
      simp only [total_bind, fails_bind_pure, fails_ensure, decide_eq_false_iff_not, not_le, Option.some.injEq,
        exists_eq_left']
      rfl

theorem resolveIntegration_total (integration : FileIntegration) :
    Fails (resolveIntegration (total source) integration) ↔ TooLong source integration := by
  rw [resolveIntegration, total_bind]
  calc
    _ ↔ Fails (resolvePosting (total source) integration _) := fails_bind_pure _ _
    _ ↔ TooLong source integration := resolvePosting_total integration _

/-- Every secret is asked for before the posting name is checked. -/
theorem askPosting_total (integration : FileIntegration) (secret : String) :
    (askPosting (total source) integration secret).asked = (requiredBy integration).tail := by
  unfold askPosting requiredBy
  cases integration.posting with
  | none => rfl
  | some posting =>
      simp only [ask_total_bind, bind_pure_asked]
      rfl

theorem askIntegration_total (integration : FileIntegration) :
    (askIntegration (total source) integration).asked = requiredBy integration := by
  rw [askIntegration, ask_total_bind, bind_pure_asked, askPosting_total]
  rfl

theorem resolveIntegrations_total {integrations : List FileIntegration}
    (h : ∀ one ∈ integrations, ¬TooLong source one) :
    ∃ resolved, resolveIntegrations (total source) integrations = .ok resolved := by
  induction integrations with
  | nil => exact ⟨[], rfl⟩
  | cons integration integrations ih =>
      have hshort := h integration List.mem_cons_self
      rw [← resolveIntegration_total, not_fails_iff] at hshort
      obtain ⟨first, hfirst⟩ := hshort
      obtain ⟨rest, hrest⟩ := ih fun one hone => h one (List.mem_cons_of_mem _ hone)
      refine ⟨first :: rest, ?_⟩
      rw [resolveIntegrations, hfirst, hrest]
      rfl

/-- The first integration whose posting name does not fit ends the requests, after its own. -/
theorem askIntegrations_stop {before : List FileIntegration} {integration : FileIntegration}
    (hbefore : ∀ one ∈ before, ¬TooLong source one) (hlong : TooLong source integration)
    (after : List FileIntegration) :
    Fails (askIntegrations (total source) (before ++ integration :: after)).result ∧
      (askIntegrations (total source) (before ++ integration :: after)).asked =
        (before ++ [integration]).flatMap requiredBy := by
  induction before with
  | nil =>
      obtain ⟨causes, hcauses⟩ := resolveIntegration_total integration |>.mpr hlong
      rw [← askIntegration_result] at hcauses
      rw [List.nil_append, askIntegrations, bind_of_error hcauses, askIntegration_total]
      exact ⟨⟨causes, rfl⟩, by rw [List.nil_append, List.flatMap_singleton]⟩
  | cons one before ih =>
      have hshort := hbefore one List.mem_cons_self
      rw [← resolveIntegration_total, not_fails_iff] at hshort
      obtain ⟨first, hfirst⟩ := hshort
      rw [← askIntegration_result] at hfirst
      obtain ⟨⟨causes, hcauses⟩, hasked⟩ := ih fun other hother => hbefore other (List.mem_cons_of_mem _ hother)
      rw [List.cons_append, askIntegrations, bind_of_ok hfirst, askIntegration_total, bind_pure_asked, hasked,
        bind_of_error hcauses]
      exact ⟨⟨causes, rfl⟩, by rw [List.cons_append, List.flatMap_cons]⟩

end Total

/-- What `resolve` asks for and what comes of it. -/
structure Requested (parsers : Parsers) (file : FileConfig) : Prop where
  distinct : ((required file).map Request.env).Nodup
  result : ∀ getSecret, (askResolve getSecret parsers file).result = resolve getSecret parsers file
  begins : ∀ getSecret, (askResolve getSecret parsers file).asked <+: required file
  whole : ∀ getSecret config, resolve getSecret parsers file = .ok config →
    (askResolve getSecret parsers file).asked = required file
  failing : ∀ getSecret, ∀ request ∈ required file, Fails (getSecret request.env request.description) →
    Fails (resolve getSecret parsers file)
  short : ∀ source, (∀ integration ∈ file.integrations, ¬TooLong source integration) →
    (∃ config, resolve (total source) parsers file = .ok config) ∧
      (askResolve (total source) parsers file).asked = required file
  long : ∀ source before integration after, file.integrations = before ++ integration :: after →
    (∀ one ∈ before, ¬TooLong source one) → TooLong source integration →
      Fails (resolve (total source) parsers file) ∧
        (askResolve (total source) parsers file).asked = (before ++ [integration]).flatMap requiredBy

/-- An accepted file needs variables of different names, and `resolve` asks for them in order and for no others:
for all of them if it succeeds, and with a source that has every secret, up to those of the first integration
whose posting name does not fit. Without any of them it fails. -/
theorem secrets_requested {parsers : Parsers} {file : FileConfig} (h : validate parsers file = .ok ()) :
    Requested parsers file := by
  have hwhole : ∀ getSecret config, resolve getSecret parsers file = .ok config →
      (askResolve getSecret parsers file).asked = required file := by
    intro getSecret config hconfig
    rw [← askResolve_result] at hconfig
    exact ((asks_askResolve parsers file).complete config hconfig).1
  refine ⟨?_, ?_, ?_, hwhole, ?_, ?_, ?_⟩
  · exact required_nodup (env_names_of_validate (fileAccepted_of_validate h).integrations)
  · intro getSecret
    exact askResolve_result getSecret parsers file
  · intro getSecret
    exact (asks_askResolve parsers file).begins
  · rintro getSecret request hrequest ⟨causes, hcauses⟩
    by_contra hok
    obtain ⟨config, hconfig⟩ := not_fails_iff.mp hok
    rw [← askResolve_result] at hconfig
    obtain ⟨secret, hsecret⟩ := ((asks_askResolve parsers file).complete config hconfig).2 request hrequest
    rw [hcauses] at hsecret
    cases hsecret
  · intro source hshort
    obtain ⟨resolved, hresolved⟩ := resolveIntegrations_total hshort
    have hfingerprint : ∃ fingerprintSecret,
        resolveFingerprint (total source) (resolved.filterMap Resolved.webhook) = .ok fingerprintSecret := by
      rw [resolveFingerprint]
      split
      · exact ⟨_, rfl⟩
      · exact ⟨_, rfl⟩
    obtain ⟨fingerprintSecret, hfingerprint⟩ := hfingerprint
    have hconfig : ∃ config, resolve (total source) parsers file = .ok config := by
      rw [resolve, h, hresolved]
      simp only [bind, Except.bind, context, hfingerprint, pure, Except.pure]
      exact ⟨_, rfl⟩
    obtain ⟨config, hconfig⟩ := hconfig
    exact ⟨⟨config, hconfig⟩, hwhole _ config hconfig⟩
  · intro source before integration after hfile hbefore hlong
    obtain ⟨⟨causes, hcauses⟩, hasked⟩ := askIntegrations_stop hbefore hlong after
    rw [← hfile] at hcauses hasked
    have hask : askResolve (total source) parsers file =
        ⟨(before ++ [integration]).flatMap requiredBy, .error causes⟩ := by
      rw [askResolve, h, context, bind_of_ok rfl, bind_of_error hcauses, hasked]
      rfl
    rw [← askResolve_result, hask]
    exact ⟨⟨causes, rfl⟩, rfl⟩

end Config

namespace Sample

def allParsed : Parsers := ⟨fun _ => .ok (), fun _ => .ok ()⟩

/-- The second name ends like the variable of a password of the first. -/
def postFile : FileConfig where
  ptchan := ⟨"https://ptchan.test"⟩
  runtime := .default
  storage := ⟨"gateway.db", defaultEventRetention⟩
  integrations := [⟨"a", [], none, none, some ⟨none, "!!abcdefghi="⟩, .default⟩,
    ⟨"a-post", [], none, some ⟨"http://post.test/", true⟩, none, .default⟩]

theorem secrets_requested_post :
    (required postFile).map Request.env = ["PTCHAN_INTEGRATION_A_SECRET", "PTCHAN_INTEGRATION_A_TRIPCODE",
      "PTCHAN_INTEGRATION_A_POST_PASSWORD", "PTCHAN_INTEGRATION_A_POST_SECRET", "PTCHAN_FINGERPRINT_SECRET"] ∧
      Requested allParsed postFile :=
  ⟨by rfl, secrets_requested rfl⟩

/-- The first posting name does not fit. -/
def longFile : FileConfig :=
  { postFile with integrations :=
      [⟨"a", [], none, none, some ⟨some "one name of many characters", "!!abcdefghi="⟩, .default⟩,
        ⟨"b", [], some (), none, none, .default⟩] }

/-- The secret of the second integration is not asked for, although the source has it. -/
theorem secrets_not_all_requested :
    ¬∀ (parsers : Parsers) (file : FileConfig) (source : String → String → String), validate parsers file = .ok () →
      (askResolve (total source) parsers file).asked.Perm (required file) := by
  intro hall
  have hperm := hall allParsed longFile (fun _ _ => "secret") rfl
  have hasked : (askResolve (total fun _ _ => "secret") allParsed longFile).asked.length = 3 := rfl
  have hrequired : (required longFile).length = 4 := rfl
  have hlength := hperm.length_eq
  omega

end Sample

end PtchanGateway
