import PtchanGateway.Runtime

/-! The flags of readiness (`runtime/status.rs`) and the management session (`session.rs`): the cookie, one
refresh of it, and the refresh task as a step function. Each await of the task ends a step, and so does
each access to a flag that another task reads. The cookie store is a library's and a parameter. Cookies
that have expired do not match, so what it answers depends on the time. -/

namespace PtchanGateway

open TextRust JsonValue Config

structure Status where
  upstreamJoined : Bool
  authHealthy : Bool
  upstreamRequired : Bool
  deriving DecidableEq, Repr

namespace Status

def new (upstreamRequired : Bool) : Status where
  upstreamJoined := false
  authHealthy := false
  upstreamRequired := upstreamRequired

def setUpstreamJoined (status : Status) (joined : Bool) : Status := { status with upstreamJoined := joined }

def setAuthHealthy (status : Status) (healthy : Bool) : Status := { status with authHealthy := healthy }

def ready (status : Status) : Bool := !status.upstreamRequired || (status.authHealthy && status.upstreamJoined)

end Status

namespace Session

/-- In nanoseconds, as all times here. -/
def sessionRefreshRetryInterval : Nat := 60 * 10 ^ 9

def sessionRefreshMaxSafetyMargin : Nat := 3600 * 10 ^ 9

inductive CookieExpiration where
  | atUtc (unixTimestamp : Int)
  | sessionEnd
  deriving DecidableEq, Repr

/-- What the gateway asks of the cookie store, at a URL and a time. -/
structure CookieLibrary (Jar : Type) where
  getRequestValues : Jar → String → Int → List (String × String)
  expirations : Jar → String → Int → List CookieExpiration
  parse : Jar → String → String → Int → Except String Jar

/-- How the store is filled from a `Cookie` header at startup. -/
structure CookieHeaders (Jar Raw : Type) where
  new : Jar
  splitParse : String → List (Except String Raw)
  insertRaw : Jar → Raw → String → Int → Except String Jar

structure SessionCookie (Jar : Type) where
  store : Jar
  url : String
  deriving DecidableEq

/-- The last record of the refresh task: what `refresh_once` gave, the cookie after it, and when the delay to
the next refresh was asked for. -/
structure Attempt (Jar : Type) where
  result : Except Chain Bool
  cookie : SessionCookie Jar
  checkedAt : Int

section Cookie

variable {Jar : Type} (library : CookieLibrary Jar)

/-- `DateTime::from_timestamp`, in nanoseconds. -/
def fromTimestamp (seconds : Int) : Option Int :=
  if -8334601228800 ≤ seconds ∧ seconds ≤ 8210266876799 then some (seconds * 10 ^ 9) else none

def expiryOf : CookieExpiration → Option Int
  | .atUtc expiresAt => fromTimestamp expiresAt
  | .sessionEnd => none

namespace SessionCookie

/-- The loop of `new` over the cookies of the header. -/
def insertAll {Raw : Type} (headers : CookieHeaders Jar Raw) (url : String) (now : Int) :
    Jar → List (Except String Raw) → Except Chain Jar
  | store, [] => .ok store
  | _, .error err :: _ => .error ["parse management Cookie header", err]
  | store, .ok cookie :: cookies =>
      match headers.insertRaw store cookie url now with
      | .error err => .error ["store management cookie", err]
      | .ok store => insertAll headers url now store cookies

def new {Raw : Type} (headers : CookieHeaders Jar Raw) (parsers : Parsers) (value baseUrl : String) (now : Int) :
    Except Chain (SessionCookie Jar) := do
  parseUrl parsers "parse ptchan base url for cookie store" baseUrl
  let store ← insertAll headers baseUrl now headers.new (headers.splitParse value)
  ensure (!(library.getRequestValues store baseUrl now).isEmpty)
    "management Cookie header did not contain any cookies"
  .ok ⟨store, baseUrl⟩

def get (cookie : SessionCookie Jar) (now : Int) : String :=
  "; ".intercalate ((library.getRequestValues cookie.store cookie.url now).map fun pair => pair.1 ++ "=" ++ pair.2)

def expiresAt (cookie : SessionCookie Jar) (now : Int) : Option Int :=
  ((library.expirations cookie.store cookie.url now).filterMap expiryOf).min?

/-- The loop of `merge`. What was stored before a value is refused stays stored. -/
def mergeAll (url : String) (now : Int) : Jar → List Bytes → Jar × Except Chain Unit
  | store, [] => (store, .ok ())
  | store, value :: updates =>
      match headerText value with
      | none => (store, .error ["ptchan Set-Cookie header was not text", "failed to convert header to a str"])
      | some text =>
          match library.parse store text url now with
          | .error err => (store, .error ["parse ptchan Set-Cookie header", err])
          | .ok store => mergeAll url now store updates

def merge (cookie : SessionCookie Jar) (updates : List Bytes) (now : Int) :
    SessionCookie Jar × Except Chain Bool :=
  let (store, result) := mergeAll library cookie.url now cookie.store updates
  ({ cookie with store := store }, result.map fun _ => !updates.isEmpty)

end SessionCookie

def ensureCookieHasExpiry (cookie : SessionCookie Jar) (now : Int) : Except Chain Unit :=
  if (cookie.expiresAt library now).isSome then .ok () else bail "validated management session has no known expiry"

def validateRecentJson : Json → Except Chain Unit
  | .arr _ => .ok ()
  | _ => bail "management recent response was not an array"

def nextRefreshDelay (cookie : SessionCookie Jar) (now : Int) : Except Chain Nat := do
  let expiresAt ← orBail "validated management session has no known expiry" (cookie.expiresAt library now)
  let remaining := (expiresAt - now).toNat
  .ok (remaining - min (remaining / 5) sessionRefreshMaxSafetyMargin)

def refreshUrl (baseUrl : String) : String := trimEndMatches '/' baseUrl ++ "/globalmanage/recent.json"

def refreshRequest (baseUrl : String) (cookie : SessionCookie Jar) (now : Int) : UpstreamRequest :=
  ⟨"GET", refreshUrl baseUrl, [("accept", "application/json"), ("cookie", cookie.get library now)], none⟩

structure RefreshResponse where
  status : Nat
  setCookies : List Bytes

/-- `refresh_once` up to the body: the cookies of a response that is a success. -/
def refreshHead (statusText : Nat → String) : Except String RefreshResponse → Except Chain (List Bytes)
  | .error err => .error [err]
  | .ok response =>
      if isSuccess response.status then .ok response.setCookies
      else bail ("refresh status " ++ statusText response.status)

/-- `refresh_once` from the body on, with the cookie it leaves. -/
def refreshBody (serde : Serde) (cookie : SessionCookie Jar) (setCookies : List Bytes) (now : Int) :
    Except String String → SessionCookie Jar × Except Chain Bool
  | .error err => (cookie, .error ["read refresh response body", err])
  | .ok body =>
      match serde.codec.read (asBytes body) with
      | .error err => (cookie, .error ["refresh response was not valid management JSON", err])
      | .ok value =>
          match context "refresh response was not management recent JSON" (validateRecentJson value) with
          | .error err => (cookie, .error err)
          | .ok () =>
              if setCookies.isEmpty then (cookie, (ensureCookieHasExpiry library cookie now).map fun _ => false)
              else
                match cookie.merge library setCookies now with
                | (cookie, .error err) => (cookie, .error err)
                | (cookie, .ok changed) => (cookie, (ensureCookieHasExpiry library cookie now).map fun _ => changed)

/-- The refresh succeeded and left a cookie whose expiry is known. -/
def Attempt.Succeeded (attempt : Attempt Jar) : Prop :=
  (∃ updated, attempt.result = .ok updated) ∧ ∃ expiry, attempt.cookie.expiresAt library attempt.checkedAt = some expiry

/-- The flag `refresh_loop` stores after an attempt, and how long it sleeps. -/
def conclude (attempt : Attempt Jar) : Bool × Nat :=
  match attempt.result with
  | .ok _ =>
      match nextRefreshDelay library attempt.cookie attempt.checkedAt with
      | .ok sleepFor => (true, sleepFor)
      | .error _ => (false, sessionRefreshRetryInterval)
  | .error _ => (false, sessionRefreshRetryInterval)

end Cookie

/-- Where the refresh task stands. -/
inductive Point where
  | starting
  | unbuilt
  | top
  | requesting
  | sending (request : UpstreamRequest)
  | reading (setCookies : List Bytes)
  | refreshed (result : Except Chain Bool)
  | sleeping (wakeAt : Nat)
  | stopped

/-- What lets the refresh task go on. -/
inductive Event where
  | build (outcome : Except String Unit)
  | proceed
  | request (now : Int)
  | answer (outcome : Except String RefreshResponse)
  | body (outcome : Except String String) (now : Int)
  | publish (now : Int)
  | elapsed
  | shutdownChanged

/-- The task's own state. The last attempt is a ghost: it is completed when its outcome is published. -/
structure Task (Jar : Type) where
  point : Point
  last : Option (Attempt Jar)

/-- A step of the task: its next state, the cookie, and the flag it stores, if any. -/
structure Effect (Jar : Type) where
  task : Task Jar
  cookie : SessionCookie Jar
  authHealthy : Option Bool

section Task

variable {Jar : Type} (library : CookieLibrary Jar) (serde : Serde) (statusText : Nat → String) (baseUrl : String)

def Task.start : Task Jar := ⟨.starting, none⟩

/-- One step of `refresh_loop`. Events the task does not wait for have no result. -/
def Task.step (shutdown : Bool) (clock : Nat) (cookie : SessionCookie Jar) (task : Task Jar) :
    Event → Option (Effect Jar)
  | .build outcome =>
      match task.point, outcome with
      | .starting, .error _ => some ⟨{ task with point := .unbuilt }, cookie, none⟩
      | .starting, .ok () => some ⟨{ task with point := .top }, cookie, none⟩
      | _, _ => none
  | .proceed =>
      match task.point with
      | .unbuilt => some ⟨{ task with point := .stopped }, cookie, some false⟩
      | .top => some ⟨{ task with point := if shutdown then .stopped else .requesting }, cookie, none⟩
      | _ => none
  | .request now =>
      match task.point with
      | .requesting => some ⟨{ task with point := .sending (refreshRequest library baseUrl cookie now) }, cookie, none⟩
      | _ => none
  | .answer outcome =>
      match task.point with
      | .sending _ =>
          match refreshHead statusText outcome with
          | .error err => some ⟨{ task with point := .refreshed (.error err) }, cookie, none⟩
          | .ok setCookies => some ⟨{ task with point := .reading setCookies }, cookie, none⟩
      | _ => none
  | .body outcome now =>
      match task.point with
      | .reading setCookies =>
          let (cookie, result) := refreshBody library serde cookie setCookies now outcome
          some ⟨{ task with point := .refreshed result }, cookie, none⟩
      | _ => none
  | .publish now =>
      match task.point with
      | .refreshed result =>
          let attempt := ⟨result, cookie, now⟩
          let (healthy, sleepFor) := conclude library attempt
          some ⟨⟨.sleeping (clock + sleepFor), some attempt⟩, cookie, some healthy⟩
      | _ => none
  | .elapsed =>
      match task.point with
      | .sleeping wakeAt => if wakeAt ≤ clock then some ⟨{ task with point := .top }, cookie, none⟩ else none
      | _ => none
  | .shutdownChanged =>
      match task.point with
      | .sleeping _ => if shutdown then some ⟨{ task with point := .top }, cookie, none⟩ else none
      | _ => none

end Task

end Session

end PtchanGateway
