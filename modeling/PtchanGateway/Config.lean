import PtchanGateway.TextRust

/-! The configuration (`config.rs`, `config/file.rs`, `config/validation.rs`). `validate` checks the parsed
file, and `resolve` reads the secrets it asks for and splits each integration by capability. An error is
the chain of its messages, the outermost first. Parsing URLs and socket addresses belongs to libraries
and is a parameter, as is the source of the secrets. -/

namespace PtchanGateway

open TextRust

/-- A span of time in nanoseconds, in the range of the standard library's durations. -/
structure Duration where
  nanos : Nat
  inRange : nanos < 2 ^ 64 * 10 ^ 9
  deriving DecidableEq

namespace Config

abbrev Chain := List String

def context {α : Type} (message : String) : Except Chain α → Except Chain α
  | .ok value => .ok value
  | .error causes => .error (message :: causes)

def bail {α : Type} (message : String) : Except Chain α := .error [message]

/-- The early return of a check that fails. -/
def ensure (condition : Bool) (message : String) : Except Chain Unit := if condition then .ok () else bail message

/-- `Option::context`: the message of an absent value. -/
def orBail {α : Type} (message : String) : Option α → Except Chain α
  | some value => .ok value
  | none => bail message

theorem orBail_eq_ok {α : Type} {message : String} {option : Option α} {value : α} :
    orBail message option = .ok value ↔ option = some value := by
  cases option <;> simp [orBail, bail]

@[simp] theorem ensure_eq_ok {condition : Bool} {message : String} {result : Unit} :
    ensure condition message = .ok result ↔ condition = true := by
  cases condition <;> simp [ensure, bail]

theorem bind_eq_ok {α β : Type} {first : Except Chain α} {next : α → Except Chain β} {result : β} :
    (first >>= next) = .ok result ↔ ∃ value, first = .ok value ∧ next value = .ok result := by
  cases first <;> simp [bind, Except.bind]

theorem bind_unit_eq_ok {β : Type} {first : Except Chain Unit} {next : Unit → Except Chain β} {result : β} :
    (first >>= next) = .ok result ↔ first = .ok () ∧ next () = .ok result := by
  cases first <;> simp [bind, Except.bind]

theorem context_eq_ok {α : Type} {message : String} {result : Except Chain α} {value : α} :
    context message result = .ok value ↔ result = .ok value := by
  cases result <;> simp [context]

theorem mapM_eq_ok {α β : Type} {step : α → Except Chain β} {result : α → β} {values : List α}
    (h : ∀ value ∈ values, step value = .ok (result value)) : values.mapM step = .ok (values.map result) := by
  induction values with
  | nil => rfl
  | cons value values ih =>
      obtain ⟨hvalue, hvalues⟩ := List.forall_mem_cons.1 h
      rw [List.mapM_cons, hvalue, ih hvalues]
      rfl

theorem exists_of_mapM {α β : Type} {step : α → Except Chain β} {values : List α} {results : List β}
    (h : values.mapM step = .ok results) {value : α} (hvalue : value ∈ values) :
    ∃ result ∈ results, step value = .ok result := by
  induction values generalizing results with
  | nil => cases hvalue
  | cons first values ih =>
      simp only [List.mapM_cons, bind_eq_ok, pure, Except.pure, Except.ok.injEq] at h
      obtain ⟨head, hhead, tail, htail, rfl⟩ := h
      rcases List.mem_cons.1 hvalue with rfl | hrest
      · exact ⟨head, List.mem_cons_self, hhead⟩
      · obtain ⟨result, hmem, hresult⟩ := ih htail hrest
        exact ⟨result, List.mem_cons_of_mem _ hmem, hresult⟩

/-- The map a list of entries collects into: of several values under one key the last counts. -/
def collectBy {α : Type} (key : α → String) (values : List α) (name : String) : Option α :=
  values.reverse.find? fun value => key value == name

theorem collectBy_eq_some {α : Type} {key : α → String} {values : List α} {name : String} {value : α}
    (h : collectBy key values name = some value) : value ∈ values ∧ key value = name :=
  ⟨List.mem_reverse.1 (List.mem_of_find?_eq_some h), by simpa using List.find?_some h⟩

theorem isSome_collectBy {α : Type} {key : α → String} {values : List α} {value : α} (h : value ∈ values) :
    (collectBy key values (key value)).isSome = true := by
  rw [collectBy, List.find?_isSome]
  exact ⟨value, List.mem_reverse.2 h, beq_self_eq_true _⟩

structure PtchanConfig where
  baseUrl : String
  deriving DecidableEq

structure RateLimitBucketConfig where
  requests : UInt32
  window : Duration
  burst : UInt32
  deriving DecidableEq

structure RateLimitConfig where
  reading : RateLimitBucketConfig
  posting : RateLimitBucketConfig
  deriving DecidableEq

structure RuntimeConfig where
  httpAddr : String
  rateLimit : RateLimitConfig
  deriving DecidableEq

structure StorageConfig where
  sqlitePath : String
  eventRetention : Duration
  deriving DecidableEq

structure IntegrationConfig where
  name : String
  allowedBoards : List String
  reading : Bool
  rateLimit : RateLimitConfig
  secret : String
  deriving DecidableEq

structure WebhookConfig where
  name : String
  url : String
  allowedBoards : List String
  includePosterFingerprint : Bool
  secret : String
  deriving DecidableEq

structure PostingConfig where
  name : String
  allowedBoards : List String
  displayName : Option String
  secret : String
  tripcodeSecret : String
  publicTripcode : String
  postPassword : String
  deriving DecidableEq

def defaultRateLimitWindow : Duration := ⟨60 * 10 ^ 9, by decide⟩

def RateLimitConfig.default : RateLimitConfig where
  reading := ⟨120, defaultRateLimitWindow, 30⟩
  posting := ⟨30, defaultRateLimitWindow, 5⟩

def RuntimeConfig.default : RuntimeConfig where
  httpAddr := "0.0.0.0:8080"
  rateLimit := ⟨⟨1000, defaultRateLimitWindow, 200⟩, ⟨100, defaultRateLimitWindow, 20⟩⟩

def defaultEventRetention : Duration := ⟨14 * 24 * 3600 * 10 ^ 9, by decide⟩

/-- An empty list allows every board. -/
def boardAllowed (allowedBoards : List String) (board : String) : Bool :=
  allowedBoards.isEmpty || allowedBoards.any (· == board)

def IntegrationConfig.boardAllowed (integration : IntegrationConfig) (board : String) : Bool :=
  Config.boardAllowed integration.allowedBoards board

def WebhookConfig.boardAllowed (webhook : WebhookConfig) (board : String) : Bool :=
  Config.boardAllowed webhook.allowedBoards board

def PostingConfig.boardAllowed (posting : PostingConfig) (board : String) : Bool :=
  Config.boardAllowed posting.allowedBoards board

def PostingConfig.formName (posting : PostingConfig) : String :=
  trim (posting.displayName.getD posting.name) ++ "##" ++ posting.tripcodeSecret

def envSafeName (name : String) : String :=
  String.ofList (name.toList.map fun c => if isAsciiAlphanumeric c then toAsciiUppercase c else '_')

def integrationSecretEnv (name : String) : String := "PTCHAN_INTEGRATION_" ++ envSafeName name ++ "_SECRET"

def integrationTripcodeEnv (name : String) : String := "PTCHAN_INTEGRATION_" ++ envSafeName name ++ "_TRIPCODE"

def integrationPostPasswordEnv (name : String) : String :=
  "PTCHAN_INTEGRATION_" ++ envSafeName name ++ "_POST_PASSWORD"

def validPublicTripcode (tripcode : String) : Bool :=
  match (stripStart ['!', '!'] tripcode.toList).bind (stripEnd ['=']) with
  | none => false
  | some encoded =>
      encoded.length == 9 && encoded.all fun c => isAsciiAlphanumeric c || c == '+' || c == '/'

/-- The bytes are all ASCII, so that characters stand for bytes. -/
def validBoardName (board : String) : Bool :=
  !board.isEmpty && board.utf8ByteSize ≤ 32 && board.toList.all fun c => isAsciiAlphanumeric c || c == '_'

def validIntegrationName (name : String) : Bool :=
  !name.isEmpty && name.utf8ByteSize ≤ 64 &&
    name.toList.all fun c => isAsciiAlphanumeric c || c == '_' || c == '-'

end Config

open Config

/-- The resolved configuration. -/
structure Config where
  ptchan : PtchanConfig
  runtime : RuntimeConfig
  storage : StorageConfig
  integrations : List IntegrationConfig
  webhooks : List WebhookConfig
  postings : List PostingConfig
  fingerprintSecret : Option String
  deriving DecidableEq

namespace Config

structure FileWebhook where
  url : String
  includePosterFingerprint : Bool
  deriving DecidableEq

structure FilePosting where
  displayName : Option String
  publicTripcode : String
  deriving DecidableEq

structure FileIntegration where
  name : String
  allowedBoards : List String
  reading : Option Unit
  webhook : Option FileWebhook
  posting : Option FilePosting
  rateLimit : RateLimitConfig
  deriving DecidableEq

structure FileConfig where
  ptchan : PtchanConfig
  runtime : RuntimeConfig
  storage : StorageConfig
  integrations : List FileIntegration
  deriving DecidableEq

/-! ### Validation -/

def validateRateLimitBucket (owner capability : String) (rateLimit : RateLimitBucketConfig) :
    Except Chain Unit := do
  let setting := owner ++ " rate_limit." ++ capability
  ensure (rateLimit.requests != 0) (setting ++ " requests must be greater than zero")
  ensure (rateLimit.window.nanos != 0) (setting ++ " window must be greater than zero")
  ensure (rateLimit.burst != 0 && rateLimit.burst ≤ rateLimit.requests)
    (setting ++ " burst must be positive and no greater than requests")
  ensure (rateLimit.window.nanos / rateLimit.requests.toNat != 0)
    (setting ++ " window is too small for the configured request count")

def validateRateLimit (integrationName : String) (rateLimit : RateLimitConfig) : Except Chain Unit := do
  let owner := "integration " ++ integrationName
  validateRateLimitBucket owner "reading" rateLimit.reading
  validateRateLimitBucket owner "posting" rateLimit.posting

def validatePosting (integrationName : String) (posting : FilePosting) : Except Chain Unit := do
  ensure (!posting.displayName.any fun name => (trim name).isEmpty)
    ("integration " ++ integrationName ++ " posting display_name must not be empty")
  ensure (validPublicTripcode posting.publicTripcode)
    ("integration " ++ integrationName ++ " posting public_tripcode must be the 12-character public " ++
      "secure tripcode emitted by ptchan, including its !! prefix")

/-- Parsers of the libraries, with the text of their errors. -/
structure Parsers where
  url : String → Except String Unit
  socketAddr : String → Except String Unit

/-- The names `validate` has met. -/
structure Seen where
  names : List String
  envNames : List String
  publicTripcodes : List String

section Validate

variable (parsers : Parsers)

def parseUrl (message url : String) : Except Chain Unit :=
  match parsers.url url with
  | .ok () => .ok ()
  | .error err => .error [message, err]

def runtimeAddr (addr : String) : Except Chain Unit :=
  let normalized := match addr.toList with
    | ':' :: port => "0.0.0.0:" ++ String.ofList port
    | _ => addr
  match parsers.socketAddr normalized with
  | .ok () => .ok ()
  | .error err => .error ["parse address " ++ addr, err]

def validateBoards (integrationName : String) : List String → Except Chain Unit
  | [] => .ok ()
  | board :: boards => do
      ensure (validBoardName board) ("integration " ++ integrationName ++ " allowed board " ++ board ++ " is invalid")
      validateBoards integrationName boards

def validateWebhook (integrationName : String) : Option FileWebhook → Except Chain Unit
  | none => .ok ()
  | some webhook => parseUrl parsers ("integration " ++ integrationName ++ " webhook url must be absolute") webhook.url

/-- The checks on the posting capability, and the public tripcodes seen after it. -/
def validateTripcode (seen : List String) (integrationName : String) :
    Option FilePosting → Except Chain (List String)
  | none => .ok seen
  | some posting => do
      validatePosting integrationName posting
      ensure (posting.publicTripcode ∉ seen)
        ("integration " ++ integrationName ++ " posting public_tripcode conflicts with another integration")
      .ok (posting.publicTripcode :: seen)

/-- The checks on one integration, and the names seen after it. -/
def validateIntegration (seen : Seen) (integration : FileIntegration) : Except Chain Seen := do
  ensure (validIntegrationName integration.name)
    ("integration name " ++ integration.name ++
      " is invalid; use 1-64 ASCII letters, digits, underscores, or hyphens")
  ensure (integration.name ∉ seen.names) ("duplicate integration name " ++ integration.name)
  ensure (envSafeName integration.name ∉ seen.envNames)
    ("integration name " ++ integration.name ++ " conflicts with another integration environment name")
  ensure (!(integration.reading.isNone && integration.webhook.isNone && integration.posting.isNone))
    ("integration " ++ integration.name ++ " must enable at least one capability")
  validateBoards integration.name integration.allowedBoards
  validateWebhook parsers integration.name integration.webhook
  let publicTripcodes ← validateTripcode seen.publicTripcodes integration.name integration.posting
  validateRateLimit integration.name integration.rateLimit
  .ok ⟨integration.name :: seen.names, envSafeName integration.name :: seen.envNames, publicTripcodes⟩

def validateIntegrations : Seen → List FileIntegration → Except Chain Unit
  | _, [] => .ok ()
  | seen, integration :: integrations => do
      let seen ← validateIntegration parsers seen integration
      validateIntegrations seen integrations

def validate (file : FileConfig) : Except Chain Unit := do
  ensure (!(trim file.ptchan.baseUrl).isEmpty) "ptchan.base_url is required"
  parseUrl parsers "ptchan.base_url must be an absolute URL" file.ptchan.baseUrl
  context "runtime.http_addr is invalid" (runtimeAddr parsers file.runtime.httpAddr)
  ensure (!(trim file.storage.sqlitePath).isEmpty) "storage.sqlite_path is required"
  ensure (file.storage.eventRetention.nanos != 0) "storage.event_retention must be greater than zero"
  validateRateLimitBucket "runtime" "reading" file.runtime.rateLimit.reading
  validateRateLimitBucket "runtime" "posting" file.runtime.rateLimit.posting
  validateIntegrations parsers ⟨[], [], []⟩ file.integrations

end Validate

/-! ### Resolution -/

def postingNameMaxChars : Nat := 25

section Resolve

variable (getSecret : String → String → Except Chain String)

def resolveWebhook (integration : FileIntegration) (secret : String) : Option WebhookConfig :=
  integration.webhook.map fun webhook => {
    name := integration.name
    url := webhook.url
    allowedBoards := integration.allowedBoards
    includePosterFingerprint := webhook.includePosterFingerprint
    secret := secret }

def resolvePosting (integration : FileIntegration) (secret : String) : Except Chain (Option PostingConfig) :=
  match integration.posting with
  | none => .ok none
  | some posting => do
      let tripcodeEnv := integrationTripcodeEnv integration.name
      let tripcodeSecret ← getSecret tripcodeEnv
        ("integration " ++ integration.name ++ " tripcode env " ++ tripcodeEnv)
      let passwordEnv := integrationPostPasswordEnv integration.name
      let postPassword ← getSecret passwordEnv
        ("integration " ++ integration.name ++ " post password env " ++ passwordEnv)
      let posting : PostingConfig := {
        name := integration.name
        allowedBoards := integration.allowedBoards
        displayName := posting.displayName
        secret := secret
        tripcodeSecret := tripcodeSecret
        publicTripcode := posting.publicTripcode
        postPassword := postPassword }
      ensure (posting.formName.length ≤ postingNameMaxChars)
        ("integration " ++ integration.name ++ " posting name is " ++ toString posting.formName.length ++
          " characters; ptchan allows " ++ toString postingNameMaxChars ++ " or less")
      pure (some posting)

/-- One integration, split by capability. -/
structure Resolved where
  integration : IntegrationConfig
  webhook : Option WebhookConfig
  posting : Option PostingConfig

def resolveIntegration (integration : FileIntegration) : Except Chain Resolved := do
  let secretEnv := integrationSecretEnv integration.name
  let secret ← getSecret secretEnv ("integration " ++ integration.name ++ " secret env " ++ secretEnv)
  let posting ← resolvePosting getSecret integration secret
  pure {
    integration := {
      name := integration.name
      allowedBoards := integration.allowedBoards
      reading := integration.reading.isSome
      rateLimit := integration.rateLimit
      secret := secret }
    webhook := resolveWebhook integration secret
    posting := posting }

def resolveIntegrations : List FileIntegration → Except Chain (List Resolved)
  | [] => .ok []
  | integration :: integrations => do
      let first ← resolveIntegration getSecret integration
      let rest ← resolveIntegrations integrations
      pure (first :: rest)

/-- The fingerprint secret is read when a webhook asks for it. -/
def resolveFingerprint (webhooks : List WebhookConfig) : Except Chain (Option String) :=
  if webhooks.any WebhookConfig.includePosterFingerprint then
    (getSecret "PTCHAN_FINGERPRINT_SECRET" "fingerprint env PTCHAN_FINGERPRINT_SECRET").map some
  else .ok none

def resolve (parsers : Parsers) (file : FileConfig) : Except Chain Config := do
  context "validate config" (validate parsers file)
  let resolved ← resolveIntegrations getSecret file.integrations
  let webhooks := resolved.filterMap Resolved.webhook
  let fingerprintSecret ← resolveFingerprint getSecret webhooks
  pure {
    ptchan := file.ptchan
    runtime := file.runtime
    storage := file.storage
    integrations := resolved.map Resolved.integration
    webhooks := webhooks
    postings := resolved.filterMap Resolved.posting
    fingerprintSecret := fingerprintSecret }

end Resolve

end Config

end PtchanGateway
