import PtchanGateway.Mediation
import PtchanGateway.Session
import PtchanGateway.RunSystem

/-! Startup (`main.rs`, `load_from_env`, `spawn_http`). The process loads its configuration with the secrets of the
integrations, prepares the store and the clients, spawns the HTTP server and only then, if a webhook is configured,
reads the management cookie. From the moment the server is spawned, requests may be served between any two steps.
What the process meets outside (the environment, files, the database, the network) is a parameter. -/

namespace PtchanGateway.Startup

open TextRust Config Session RunSystem

/-- The surroundings of the process, and the libraries it uses at startup. -/
structure Host (Jar Raw : Type) where
  env : String → Except String String
  readToString : String → Except String String
  parse : String → Except String FileConfig
  parsers : Parsers
  initLogging : Except Chain Unit
  openStore : String → Except Chain Unit
  migrate : Except Chain Unit
  buildReader : Except Chain Unit
  buildWriter : Except Chain Unit
  bind : String → Except String Unit
  localAddr : Except String Unit
  cookies : CookieLibrary Jar
  headers : CookieHeaders Jar Raw
  now : Int

def requiredEnv (env : String → Except String String) (name description : String) : Except Chain String :=
  match env name with
  | .error err => .error [description ++ " is not set", err]
  | .ok value => if (trim value).isEmpty then bail (description ++ " is empty") else .ok value

def ptchanSessionCookie (env : String → Except String String) : Except Chain String :=
  requiredEnv env "PTCHAN_SESSION_COOKIE" "ptchan session cookie env PTCHAN_SESSION_COOKIE"

/-- The result of a library call as a chain of one cause. -/
def caused {α : Type} (result : Except String α) : Except Chain α := result.mapError fun err => [err]

section Steps

variable {Cell Jar Raw : Type} (lib : Libraries Cell) (host : Host Jar Raw)

/-- The file of `load_from_env`; the path of the database may come from the environment. -/
def loadFile : Except Chain FileConfig := do
  let path := match host.env "CONFIG_FILE" with
    | .ok path => path
    | .error _ => "config/dev.toml"
  let raw ← context ("read " ++ path) (caused (host.readToString path))
  let file ← context ("parse " ++ path) (caused (host.parse raw))
  match host.env "SQLITE_PATH" with
  | .ok sqlitePath =>
      if (trim sqlitePath).isEmpty then .ok file
      else .ok { file with storage := { file.storage with sqlitePath := sqlitePath } }
  | .error _ => .ok file

def loadFromEnv : Except Chain Config := do
  let file ← loadFile host
  resolve (requiredEnv host.env) host.parsers file

/-- `main` up to `run`. -/
def load : Except Chain Config := do
  let config ← context "load config" (loadFromEnv host)
  host.initLogging
  .ok config

/-- `run` up to the server. -/
def prepare (config : Config) : Except Chain Unit := do
  context "open sqlite" (host.openStore config.storage.sqlitePath)
  context "migrate sqlite" host.migrate
  context "create reading client" host.buildReader
  context "create posting writer" host.buildWriter

def spawnHttp (config : Config) : Except Chain (AppState Cell) := do
  runtimeAddr host.parsers config.runtime.httpAddr
  context "bind runtime http" (caused (host.bind config.runtime.httpAddr))
  context "runtime local addr" (caused host.localAddr)
  AppState.new lib config

/-- The management session, which only webhooks need. -/
def manageSession (config : Config) : Except Chain (Option (SessionCookie Jar)) :=
  if config.webhooks.isEmpty then .ok none
  else do
    let cookie ← context "load ptchan session cookie" (ptchanSessionCookie host.env)
    let cookieJar ← context "parse management session cookie"
      (SessionCookie.new host.cookies host.headers host.parsers cookie config.ptchan.baseUrl host.now)
    .ok (some cookieJar)

end Steps

/-- What `run` has reached. -/
inductive Point (Jar : Type) where
  | loading
  | loaded (config : Config)
  | prepared (config : Config)
  | spawned (config : Config)
  | started (config : Config) (cookie : Option (SessionCookie Jar))
  | failed (chain : Chain)

/-- The server, once it is spawned, and the requests it has served, the last one first. -/
structure Process (Cell Jar : Type) where
  point : Point Jar
  http : Option (AppState Cell)
  served : List Call

inductive Action where
  | proceed
  | request (call : Call)

namespace Process

variable {Cell Jar Raw : Type}

def init : Process Cell Jar := ⟨.loading, none, []⟩

/-- An error ends the process, and the server with it. -/
def fail (process : Process Cell Jar) (chain : Chain) : Process Cell Jar :=
  { process with point := .failed chain, http := none }

/-- A step that goes on with its result, or ends the process. -/
def next {α : Type} (process : Process Cell Jar) (result : Except Chain α) (goOn : α → Process Cell Jar) :
    Process Cell Jar :=
  match result with
  | .error chain => process.fail chain
  | .ok value => goOn value

theorem next_cases {α : Type} (process : Process Cell Jar) (result : Except Chain α) (goOn : α → Process Cell Jar) :
    (∃ chain, result = .error chain ∧ process.next result goOn = process.fail chain) ∨
      ∃ value, result = .ok value ∧ process.next result goOn = goOn value := by
  cases result with
  | error chain => exact .inl ⟨chain, rfl, rfl⟩
  | ok value => exact .inr ⟨value, rfl, rfl⟩

variable (lib : Libraries Cell) (host : Host Jar Raw)

def proceed (process : Process Cell Jar) : Option (Process Cell Jar) :=
  match process.point with
  | .loading => some (process.next (load host) fun config => { process with point := .loaded config })
  | .loaded config => some (process.next (prepare host config) fun () => { process with point := .prepared config })
  | .prepared config =>
      some (process.next (context "start runtime http server" (spawnHttp lib host config)) fun state =>
        { process with point := .spawned config, http := some state })
  | .spawned config =>
      some (process.next (manageSession host config) fun cookie => { process with point := .started config cookie })
  | .started _ _ => none
  | .failed _ => none

/-- The server answers a request whenever it runs. -/
def step (process : Process Cell Jar) : Action → Option (Process Cell Jar)
  | .proceed => process.proceed lib host
  | .request call => process.http.map fun state =>
      { process with http := some (state.serve lib call), served := call :: process.served }

/-- Some run of the process leads here. -/
def Reached (process : Process Cell Jar) : Prop :=
  ∃ actions, Path (step lib host) (fun _ _ => True) init actions process

end Process

section Facts

variable {Cell Jar Raw : Type} (lib : Libraries Cell) (host : Host Jar Raw)

/-- Everything up to the server succeeds. -/
structure Opens (config : Config) : Prop where
  loaded : load host = .ok config
  prepared : prepare host config = .ok ()
  spawned : ∃ state, spawnHttp lib host config = .ok state

/-- What is known of a process at each point. -/
def Known (process : Process Cell Jar) : Prop :=
  match process.point with
  | .loading => process.http = none ∧ process.served = []
  | .loaded config => process.http = none ∧ process.served = [] ∧ load host = .ok config
  | .prepared config =>
      process.http = none ∧ process.served = [] ∧ load host = .ok config ∧ prepare host config = .ok ()
  | .spawned config => Opens lib host config
  | .started config cookie => Opens lib host config ∧ manageSession host config = .ok cookie
  | .failed chain => process.http = none ∧
      (process.served = [] ∨ ∃ config, Opens lib host config ∧ manageSession host config = .error chain)

variable {lib host}

theorem known_proceed {process after : Process Cell Jar} (h : Known lib host process)
    (hstep : process.proceed lib host = some after) : Known lib host after := by
  obtain ⟨point, http, served⟩ := process
  cases point with
  | loading =>
      obtain ⟨rfl, rfl⟩ : http = none ∧ served = [] := h
      rw [← Option.some.inj hstep]
      rcases Process.next_cases ⟨.loading, none, []⟩ (load host) _ with ⟨chain, -, heq⟩ | ⟨config, hload, heq⟩
      · rw [heq]
        exact ⟨rfl, .inl rfl⟩
      · rw [heq]
        exact ⟨rfl, rfl, hload⟩
  | loaded config =>
      obtain ⟨rfl, rfl, hload⟩ : http = none ∧ served = [] ∧ load host = .ok config := h
      rw [← Option.some.inj hstep]
      rcases Process.next_cases ⟨.loaded config, none, []⟩ (prepare host config) _ with
        ⟨chain, -, heq⟩ | ⟨_, hprepare, heq⟩
      · rw [heq]
        exact ⟨rfl, .inl rfl⟩
      · rw [heq]
        exact ⟨rfl, rfl, hload, hprepare⟩
  | prepared config =>
      obtain ⟨rfl, rfl, hload, hprepare⟩ :
        http = none ∧ served = [] ∧ load host = .ok config ∧ prepare host config = .ok () := h
      rw [← Option.some.inj hstep]
      rcases Process.next_cases ⟨.prepared config, none, []⟩
        (context "start runtime http server" (spawnHttp lib host config)) _ with ⟨chain, -, heq⟩ | ⟨state, hspawn, heq⟩
      · rw [heq]
        exact ⟨rfl, .inl rfl⟩
      · rw [heq]
        exact ⟨hload, hprepare, state, context_eq_ok.1 hspawn⟩
  | spawned config =>
      have hopens : Opens lib host config := h
      rw [← Option.some.inj hstep]
      rcases Process.next_cases ⟨.spawned config, http, served⟩ (manageSession host config) _ with
        ⟨chain, hsession, heq⟩ | ⟨cookie, hsession, heq⟩
      · rw [heq]
        exact ⟨rfl, .inr ⟨config, hopens, hsession⟩⟩
      · rw [heq]
        exact ⟨hopens, hsession⟩
  | started config cookie => cases hstep
  | failed chain => cases hstep

/-- A request is served by a server that runs, so that it is not one of the points before it. -/
theorem known_request {process after : Process Cell Jar} {call : Call} (h : Known lib host process)
    (hstep : process.step lib host (.request call) = some after) : Known lib host after := by
  obtain ⟨point, http, served⟩ := process
  obtain ⟨state, rfl, rfl⟩ := Option.map_eq_some_iff.1 hstep
  cases point with
  | loading => cases h.1
  | loaded config => cases h.1
  | prepared config => cases h.1
  | spawned config => exact h
  | started config cookie => exact h
  | failed chain => cases h.1

theorem known_of_reached {process : Process Cell Jar} (h : process.Reached lib host) : Known lib host process := by
  obtain ⟨actions, hpath⟩ := h
  apply hpath.invariant (Known lib host)
  · intro before action after hbefore _ hstep
    cases action with
    | proceed => exact known_proceed hbefore hstep
    | request call => exact known_request hbefore hstep
  · exact ⟨rfl, rfl⟩

theorem opens_of_http {process : Process Cell Jar} (h : process.Reached lib host)
    (hhttp : process.http.isSome = true) : ∃ config, Opens lib host config ∧
      (process.point = .spawned config ∨ ∃ cookie, process.point = .started config cookie ∧
        manageSession host config = .ok cookie) := by
  have hknown := known_of_reached h
  obtain ⟨point, http, served⟩ := process
  cases point with
  | loading => exact absurd hknown.1 (Option.isSome_iff_ne_none.1 hhttp)
  | loaded config => exact absurd hknown.1 (Option.isSome_iff_ne_none.1 hhttp)
  | prepared config => exact absurd hknown.1 (Option.isSome_iff_ne_none.1 hhttp)
  | spawned config => exact ⟨config, hknown, .inl rfl⟩
  | started config cookie => exact ⟨config, hknown.1, .inr ⟨cookie, rfl, hknown.2⟩⟩
  | failed chain => exact absurd hknown.1 (Option.isSome_iff_ne_none.1 hhttp)

/-- The server is reached, and no request has been served yet. -/
theorem Opens.reached {config : Config} (h : Opens lib host config) :
    ∃ state, (Process.mk (.spawned config) (some state) [] : Process Cell Jar).Reached lib host := by
  obtain ⟨state, hspawn⟩ := h.spawned
  refine ⟨state, [.proceed, .proceed, .proceed], ?_⟩
  have hload : Process.init.step lib host .proceed =
      some (⟨.loaded config, none, []⟩ : Process Cell Jar) := by
    simp only [Process.step, Process.proceed, Process.init, h.loaded, Process.next]
  have hprepare : (⟨.loaded config, none, []⟩ : Process Cell Jar).step lib host .proceed =
      some ⟨.prepared config, none, []⟩ := by
    simp only [Process.step, Process.proceed, h.prepared, Process.next]
  have hhttp : (⟨.prepared config, none, []⟩ : Process Cell Jar).step lib host .proceed =
      some ⟨.spawned config, some state, []⟩ := by
    simp only [Process.step, Process.proceed, hspawn, context, Process.next]
  exact .cons trivial hload (.cons trivial hprepare (.cons trivial hhttp (.nil _)))

/-- A cookie that is refused ends a process that may have served any request by then. -/
theorem Opens.served_then_failed {config : Config} (h : Opens lib host config) {chain : Chain}
    (hfails : manageSession host config = .error chain) (call : Call) :
    ∃ process : Process Cell Jar, process.Reached lib host ∧ process.point = .failed chain ∧
      process.served = [call] := by
  obtain ⟨state, actions, hpath⟩ := h.reached
  have hrequest : (⟨.spawned config, some state, []⟩ : Process Cell Jar).step lib host (.request call) =
      some ⟨.spawned config, some (state.serve lib call), [call]⟩ := rfl
  have hproceed : (⟨.spawned config, some (state.serve lib call), [call]⟩ : Process Cell Jar).step lib host
      .proceed = some ⟨.failed chain, none, [call]⟩ := by
    simp only [Process.step, Process.proceed, hfails, Process.next, Process.fail]
  exact ⟨_, ⟨_, hpath.append (.cons trivial hrequest (.cons trivial hproceed (.nil _)))⟩, rfl, rfl⟩

/-! ### Required secrets -/

/-- A variable of the environment that is set and not blank. -/
def Found (env : String → Except String String) (name : String) : Prop :=
  ∃ value, env name = .ok value ∧ (trim value).isEmpty = false

theorem found_of_requiredEnv {env : String → Except String String} {name description value : String}
    (h : requiredEnv env name description = .ok value) : Found env name := by
  unfold requiredEnv at h
  split at h
  · cases h
  · rename_i found hfound
    split at h
    · cases h
    · rename_i hblank
      exact ⟨found, hfound, Bool.not_eq_true _ ▸ hblank⟩

/-- The environment has a cookie that the session accepts. -/
def CookieAccepted (host : Host Jar Raw) (baseUrl : String) : Prop :=
  ∃ value cookie, ptchanSessionCookie host.env = .ok value ∧
    SessionCookie.new host.cookies host.headers host.parsers value baseUrl host.now = .ok cookie

def HasWebhook (file : FileConfig) : Prop :=
  ∃ integration ∈ file.integrations, integration.webhook.isSome = true

/-- The secrets a file asks for are all there. -/
structure SecretsUsable (host : Host Jar Raw) (file : FileConfig) : Prop where
  shared : ∀ integration ∈ file.integrations, Found host.env (integrationSecretEnv integration.name)
  posting : ∀ integration ∈ file.integrations, integration.posting.isSome = true →
    Found host.env (integrationTripcodeEnv integration.name) ∧
      Found host.env (integrationPostPasswordEnv integration.name)
  fingerprint : ∀ integration ∈ file.integrations, ∀ webhook, integration.webhook = some webhook →
    webhook.includePosterFingerprint = true → Found host.env "PTCHAN_FINGERPRINT_SECRET"
  cookie : HasWebhook file → CookieAccepted host file.ptchan.baseUrl

theorem resolveIntegration_of_mem {getSecret : String → String → Except Chain String}
    {integrations : List FileIntegration} {resolved : List Resolved}
    (h : resolveIntegrations getSecret integrations = .ok resolved) {integration : FileIntegration}
    (hmem : integration ∈ integrations) :
    ∃ one ∈ resolved, resolveIntegration getSecret integration = .ok one := by
  induction integrations generalizing resolved with
  | nil => cases hmem
  | cons first integrations ih =>
      simp only [resolveIntegrations, bind_eq_ok, pure, Except.pure, Except.ok.injEq] at h
      obtain ⟨one, hone, rest, hrest, rfl⟩ := h
      rcases List.mem_cons.1 hmem with rfl | hlater
      · exact ⟨one, List.mem_cons_self, hone⟩
      · obtain ⟨later, hin, hlaterOk⟩ := ih hrest hlater
        exact ⟨later, List.mem_cons_of_mem _ hin, hlaterOk⟩

section Secrets

variable {file : FileConfig} {config : Config}
  (h : resolve (requiredEnv host.env) host.parsers file = .ok config)

include h

theorem resolved_of_mem {integration : FileIntegration} (hmem : integration ∈ file.integrations) :
    ∃ one, resolveIntegration (requiredEnv host.env) integration = .ok one ∧
      ∀ webhook, one.webhook = some webhook → webhook ∈ config.webhooks := by
  simp only [resolve, bind_eq_ok, context_eq_ok, pure, Except.pure, Except.ok.injEq] at h
  obtain ⟨_, -, resolved, hresolved, fingerprintSecret, -, rfl⟩ := h
  obtain ⟨one, hin, hone⟩ := resolveIntegration_of_mem hresolved hmem
  exact ⟨one, hone, fun webhook hwebhook => List.mem_filterMap.2 ⟨one, hin, hwebhook⟩⟩

theorem found_shared {integration : FileIntegration} (hmem : integration ∈ file.integrations) :
    Found host.env (integrationSecretEnv integration.name) := by
  obtain ⟨one, hone, -⟩ := resolved_of_mem h hmem
  simp only [resolveIntegration, bind_eq_ok] at hone
  obtain ⟨secret, hsecret, -⟩ := hone
  exact found_of_requiredEnv hsecret

theorem found_posting {integration : FileIntegration} (hmem : integration ∈ file.integrations)
    (hposting : integration.posting.isSome = true) :
    Found host.env (integrationTripcodeEnv integration.name) ∧
      Found host.env (integrationPostPasswordEnv integration.name) := by
  obtain ⟨one, hone, -⟩ := resolved_of_mem h hmem
  obtain ⟨posting, hsome⟩ := Option.isSome_iff_exists.1 hposting
  simp only [resolveIntegration, resolvePosting, hsome, bind_eq_ok] at hone
  obtain ⟨secret, -, resolvedPosting, ⟨tripcode, htripcode, password, hpassword, -⟩, -⟩ := hone
  exact ⟨found_of_requiredEnv htripcode, found_of_requiredEnv hpassword⟩

theorem webhook_of_mem {integration : FileIntegration} (hmem : integration ∈ file.integrations)
    {webhook : FileWebhook} (hwebhook : integration.webhook = some webhook) :
    ∃ resolved ∈ config.webhooks, resolved.includePosterFingerprint = webhook.includePosterFingerprint := by
  obtain ⟨one, hone, hin⟩ := resolved_of_mem h hmem
  have hof := (resolves_of_resolve hone).webhook
  rw [resolveWebhook, hwebhook, Option.map_some] at hof
  exact ⟨_, hin _ hof, rfl⟩

theorem found_fingerprint {integration : FileIntegration} (hmem : integration ∈ file.integrations)
    {webhook : FileWebhook} (hwebhook : integration.webhook = some webhook)
    (hincludes : webhook.includePosterFingerprint = true) : Found host.env "PTCHAN_FINGERPRINT_SECRET" := by
  obtain ⟨resolved, hresolved, hsame⟩ := webhook_of_mem h hmem hwebhook
  obtain ⟨_, hfrom⟩ := resolvedFrom_of_resolve h
  have hfingerprint := hfrom.fingerprint
  have hany : config.webhooks.any WebhookConfig.includePosterFingerprint = true :=
    List.any_eq_true.2 ⟨resolved, hresolved, hsame.trans hincludes⟩
  rw [resolveFingerprint, if_pos hany] at hfingerprint
  cases hsecret : requiredEnv host.env "PTCHAN_FINGERPRINT_SECRET" "fingerprint env PTCHAN_FINGERPRINT_SECRET" with
  | error chain =>
      rw [hsecret] at hfingerprint
      cases hfingerprint
  | ok secret => exact found_of_requiredEnv hsecret

/-- What `resolve` leaves to be found is the cookie. -/
theorem secretsUsable_iff :
    SecretsUsable host file ↔ (HasWebhook file → CookieAccepted host file.ptchan.baseUrl) := by
  constructor
  · intro hsecrets
    exact hsecrets.cookie
  · intro hcookie
    exact {
      shared := fun _ hmem => found_shared h hmem
      posting := fun _ hmem hposting => found_posting h hmem hposting
      fingerprint := fun _ hmem _ hwebhook hincludes => found_fingerprint h hmem hwebhook hincludes
      cookie := hcookie }

theorem webhooks_eq_nil_iff : config.webhooks = [] ↔ ¬HasWebhook file := by
  obtain ⟨resolved, hfrom⟩ := resolvedFrom_of_resolve h
  constructor
  · intro hnil hhas
    obtain ⟨integration, hmem, hsome⟩ := hhas
    obtain ⟨webhook, hwebhook⟩ := Option.isSome_iff_exists.1 hsome
    obtain ⟨found, hin, -⟩ := webhook_of_mem h hmem hwebhook
    rw [hnil] at hin
    cases hin
  · intro hnone
    rw [List.eq_nil_iff_forall_not_mem]
    intro webhook hin
    rw [hfrom.webhooks] at hin
    obtain ⟨one, hone, hwebhook⟩ := List.mem_filterMap.1 hin
    obtain ⟨integration, hmem, hof⟩ := exists_of_forall₂ hfrom.resolves hone
    rw [hof.webhook, resolveWebhook] at hwebhook
    apply hnone
    exact ⟨integration, hmem, by cases hgiven : integration.webhook <;> simp [hgiven] at hwebhook ⊢⟩

theorem manageSession_ok_iff :
    (∃ cookie, manageSession host config = .ok cookie) ↔
      (HasWebhook file → CookieAccepted host file.ptchan.baseUrl) := by
  obtain ⟨_, hfrom⟩ := resolvedFrom_of_resolve h
  by_cases hhas : HasWebhook file
  · have hsome : config.webhooks.isEmpty = false := by
      rw [List.isEmpty_eq_false_iff]
      intro hnil
      exact (webhooks_eq_nil_iff h).1 hnil hhas
    simp only [manageSession, hsome, Bool.false_eq_true, if_false, bind_eq_ok, context_eq_ok, hfrom.ptchan, hhas,
      true_implies]
    constructor
    · intro hok
      obtain ⟨-, value, hvalue, cookie, hcookie, -⟩ := hok
      exact ⟨value, cookie, hvalue, hcookie⟩
    · intro haccepted
      obtain ⟨value, cookie, hvalue, hcookie⟩ := haccepted
      exact ⟨some cookie, value, hvalue, cookie, hcookie, rfl⟩
  · have hnil : config.webhooks.isEmpty = true := by
      rw [List.isEmpty_iff]
      exact (webhooks_eq_nil_iff h).2 hhas
    constructor
    · intro _ hwebhook
      exact absurd hwebhook hhas
    · intro _
      exact ⟨none, by rw [manageSession, if_pos hnil]⟩

end Secrets

theorem Opens.file {config : Config} (h : Opens lib host config) :
    ∃ file, loadFile host = .ok file ∧ resolve (requiredEnv host.env) host.parsers file = .ok config := by
  have hload := h.loaded
  simp only [load, loadFromEnv, bind_eq_ok, context_eq_ok, Except.ok.injEq] at hload
  obtain ⟨loaded, ⟨file, hfile, hresolve⟩, _, -, rfl⟩ := hload
  exact ⟨file, hfile, hresolve⟩

variable (lib host)

/-- While requests are served no required secret is missing, and a startup that fails has served none. -/
structure SecretsBeforeTraffic : Prop where
  serving : ∀ process : Process Cell Jar, process.Reached lib host → process.http.isSome = true →
    ∃ file, loadFile host = .ok file ∧ SecretsUsable host file
  failing : ∀ process : Process Cell Jar, process.Reached lib host → ∀ chain, process.point = .failed chain →
    process.served = []

/-- Requests are served only after the cookie, if one is required, has been accepted. -/
def CookieBeforeTraffic : Prop :=
  ∀ process : Process Cell Jar, process.Reached lib host → process.http.isSome = true →
    ∃ file, loadFile host = .ok file ∧
      (HasWebhook file → ∃ config cookie, process.point = .started config (some cookie))

variable {lib host}

theorem secretsBeforeTraffic_iff :
    SecretsBeforeTraffic lib host ↔ ∀ file config, loadFile host = .ok file → Opens lib host config →
      HasWebhook file → CookieAccepted host file.ptchan.baseUrl := by
  constructor
  · intro h file config hfile hopens
    obtain ⟨state, hreached⟩ := hopens.reached
    obtain ⟨other, hother, hsecrets⟩ := h.serving _ hreached rfl
    obtain rfl : file = other := Except.ok.inj (hfile.symm.trans hother)
    exact hsecrets.cookie
  · intro h
    refine ⟨?_, ?_⟩
    · intro process hreached hhttp
      obtain ⟨config, hopens, -⟩ := opens_of_http hreached hhttp
      obtain ⟨file, hfile, hresolve⟩ := hopens.file
      exact ⟨file, hfile, (secretsUsable_iff hresolve).2 (h file config hfile hopens)⟩
    · intro process hreached chain hfailed
      have hknown := known_of_reached hreached
      simp only [Known, hfailed] at hknown
      rcases hknown.2 with hnone | ⟨config, hopens, hsession⟩
      · exact hnone
      · obtain ⟨file, hfile, hresolve⟩ := hopens.file
        obtain ⟨cookie, hcookie⟩ := (manageSession_ok_iff hresolve).2 (h file config hfile hopens)
        rw [hcookie] at hsession
        cases hsession

theorem cookieBeforeTraffic_iff :
    CookieBeforeTraffic lib host ↔ ∀ file config, loadFile host = .ok file → Opens lib host config →
      ¬HasWebhook file := by
  constructor
  · intro h file config hfile hopens hhas
    obtain ⟨state, hreached⟩ := hopens.reached
    obtain ⟨other, hother, hstarted⟩ := h _ hreached rfl
    obtain rfl : file = other := Except.ok.inj (hfile.symm.trans hother)
    obtain ⟨started, cookie, hpoint⟩ := hstarted hhas
    cases hpoint
  · intro h process hreached hhttp
    obtain ⟨config, hopens, -⟩ := opens_of_http hreached hhttp
    obtain ⟨file, hfile, -⟩ := hopens.file
    exact ⟨file, hfile, fun hhas => absurd hhas (h file config hfile hopens)⟩

variable (lib host)

/-- In every run, requests are served with all required secrets there, and none before a failure, exactly when a
host that gets as far as the server has a cookie the session accepts or no use for one; the cookie is looked at
before requests are served only in the latter case. -/
theorem secrets_before_traffic_iff :
    (SecretsBeforeTraffic lib host ↔ ∀ file config, loadFile host = .ok file → Opens lib host config →
      HasWebhook file → CookieAccepted host file.ptchan.baseUrl) ∧
    (CookieBeforeTraffic lib host ↔ ∀ file config, loadFile host = .ok file → Opens lib host config →
      ¬HasWebhook file) :=
  ⟨secretsBeforeTraffic_iff, cookieBeforeTraffic_iff⟩

end Facts

namespace Sample

open PtchanGateway.Sample

/-- The secrets of the integration with a webhook, but no cookie. -/
def env (name : String) : Except String String :=
  if name = "PTCHAN_INTEGRATION_ALERTS_SECRET" ∨ name = "PTCHAN_FINGERPRINT_SECRET" then .ok "secret"
  else .error "environment variable not found"

def host : Host (List (String × String)) (String × String) where
  env := env
  readToString := fun _ => .ok "toml"
  parse := fun _ => .ok file
  parsers := parsers
  initLogging := .ok ()
  openStore := fun _ => .ok ()
  migrate := .ok ()
  buildReader := .ok ()
  buildWriter := .ok ()
  bind := fun _ => .ok ()
  localAddr := .ok ()
  cookies := ⟨fun jar _ _ => jar, fun _ _ _ => [], fun jar _ _ _ => .ok jar⟩
  headers := ⟨[], fun _ => [], fun jar cookie _ _ => .ok (jar ++ [cookie])⟩
  now := 1784462400 * 10 ^ 9

def config : Config where
  ptchan := ⟨"https://ptchan.test"⟩
  runtime := .default
  storage := ⟨"gateway.db", defaultEventRetention⟩
  integrations := [⟨"alerts", ["i"], false, .default, "secret"⟩]
  webhooks := [⟨"alerts", "http://alerts.test/", ["i"], true, "secret"⟩]
  postings := []
  fingerprintSecret := some "secret"

theorem opens_host : Opens libraries host config := ⟨rfl, rfl, _, rfl⟩

/-- Without a cookie the process serves a request and then fails. -/
theorem served_without_cookie :
    (∃ process, Process.Reached libraries host process ∧ process.served = [replyCall] ∧
      process.point = .failed ["load ptchan session cookie",
        "ptchan session cookie env PTCHAN_SESSION_COOKIE is not set", "environment variable not found"]) ∧
      ¬SecretsBeforeTraffic libraries host := by
  have hfails : manageSession host config = .error ["load ptchan session cookie",
      "ptchan session cookie env PTCHAN_SESSION_COOKIE is not set", "environment variable not found"] := rfl
  obtain ⟨process, hreached, hfailed, hserved⟩ := opens_host.served_then_failed hfails replyCall
  refine ⟨⟨process, hreached, hserved, hfailed⟩, ?_⟩
  intro h
  have hnone := h.failing process hreached _ hfailed
  rw [hserved] at hnone
  cases hnone

end Sample

end PtchanGateway.Startup
