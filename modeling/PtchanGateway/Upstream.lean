import PtchanGateway.Config
import PtchanGateway.Contract

/-!
Posts as ptchan sends them (`upstream.rs`). A value is read for the poster's identity, loses its `ip`
members, is refused if a sensitive name is left, and is decoded. The struct is read from an object by
name and from an array by position, as derived deserialization does. The library's reading of dates and
the text of its errors are parameters.
-/

namespace PtchanGateway

open TextRfc3339 TextRust JsonValue Config

/-- What the decoding libraries do. -/
structure Serde where
  codec : Codec
  date : String → Option Moment
  fault : Json → String × String

namespace Upstream

structure Country where
  code : Option String
  deriving DecidableEq

structure Post where
  date : Moment
  name : Option String
  country : Option Country
  board : String
  publicTripcode : Option String
  capcode : Option String
  donor : Option Bool
  subject : Option String
  message : Option String
  nomarkup : Option String
  thread : Option Int64
  id : Int64
  files : List Json
  quotes : List Json
  backlinks : List Json

structure DecodedPost where
  post : Post
  posterIdentity : Option String

def posterIdentitySource (value : Json) : Option String :=
  (((value.get? "ip").bind (Json.get? "cloak")).bind Json.asStr).map trim |>.filter fun source => !source.isEmpty

def dropIpFields (value : Json) : Json := eraseKey "ip" value

def isSensitive (key : String) : Bool := key == "raw" || key == "cloak" || key == "session" || key == "permissions"

mutual

def rejectSensitiveFields : Json → Except Chain Unit
  | .obj members => rejectSensitiveMembers members
  | .arr values => rejectSensitiveValues values
  | _ => .ok ()

def rejectSensitiveValues : List Json → Except Chain Unit
  | [] => .ok ()
  | value :: values => do
      rejectSensitiveFields value
      rejectSensitiveValues values

def rejectSensitiveMembers : List (String × Json) → Except Chain Unit
  | [] => .ok ()
  | (key, value) :: members => do
      ensure (!isSensitive key) ("upstream payload contains sensitive field " ++ key)
      rejectSensitiveFields value
      rejectSensitiveMembers members

end

mutual

theorem rejectSensitiveFields_eq_ok : ∀ value : Json,
    rejectSensitiveFields value = .ok () ↔ hasKey isSensitive value = false
  | .null => by simp [rejectSensitiveFields, hasKey]
  | .bool _ => by simp [rejectSensitiveFields, hasKey]
  | .num _ => by simp [rejectSensitiveFields, hasKey]
  | .str _ => by simp [rejectSensitiveFields, hasKey]
  | .arr values => by
      rw [rejectSensitiveFields, hasKey]
      exact rejectSensitiveValues_eq_ok values
  | .obj members => by
      rw [rejectSensitiveFields, hasKey]
      exact rejectSensitiveMembers_eq_ok members

theorem rejectSensitiveValues_eq_ok : ∀ values : List Json,
    rejectSensitiveValues values = .ok () ↔ hasKeyList isSensitive values = false
  | [] => by simp [rejectSensitiveValues, hasKeyList]
  | value :: values => by
      have hvalue := rejectSensitiveFields_eq_ok value
      have hvalues := rejectSensitiveValues_eq_ok values
      rw [hasKeyList, Bool.or_eq_false_iff, ← hvalue, ← hvalues, rejectSensitiveValues]
      simp [bind_unit_eq_ok]

theorem rejectSensitiveMembers_eq_ok : ∀ members : List (String × Json),
    rejectSensitiveMembers members = .ok () ↔ hasKeyMembers isSensitive members = false
  | [] => by simp [rejectSensitiveMembers, hasKeyMembers]
  | (key, value) :: members => by
      have hvalue := rejectSensitiveFields_eq_ok value
      have hmembers := rejectSensitiveMembers_eq_ok members
      rw [hasKeyMembers, Bool.or_eq_false_iff, Bool.or_eq_false_iff, ← hvalue, ← hmembers,
        rejectSensitiveMembers]
      simp [bind_unit_eq_ok, and_assoc]

end

/-- The fields of a struct: the members of an object, or the elements of an array that is not too long. -/
def structFields (names : List String) : Json → Option (String → Option Json)
  | .obj members => some fun name => lookup name members
  | .arr values => if values.length ≤ names.length then some fun name => values[names.idxOf name]? else none
  | _ => none

def requiredField {α : Type} (decode : Json → Option α) (field : Option Json) : Option α := field.bind decode

/-- An optional field is absent when it is missing or null. -/
def optionalField {α : Type} (decode : Json → Option α) : Option Json → Option (Option α)
  | none => some none
  | some .null => some none
  | some value => (decode value).map some

def decodeBool : Json → Option Bool
  | .bool b => some b
  | _ => none

/-- A list field is empty when it is missing. -/
def listField : Option Json → Option (List Json)
  | none => some []
  | some (.arr values) => some values
  | some _ => none

def decodeCountry (value : Json) : Option Country := do
  let field ← structFields ["code"] value
  let code ← optionalField Json.asStr (field "code")
  some ⟨code⟩

def postFields : List String :=
  ["date", "name", "country", "board", "tripcode", "capcode", "donor", "subject", "message", "nomarkup",
    "thread", "postId", "files", "quotes", "backlinks"]

def decodePost (date : String → Option Moment) (value : Json) : Option Post := do
  let field ← structFields postFields value
  some {
    date := ← requiredField (fun value => value.asStr.bind date) (field "date")
    name := ← optionalField Json.asStr (field "name")
    country := ← optionalField decodeCountry (field "country")
    board := ← requiredField Json.asStr (field "board")
    publicTripcode := ← optionalField Json.asStr (field "tripcode")
    capcode := ← optionalField Json.asStr (field "capcode")
    donor := ← optionalField decodeBool (field "donor")
    subject := ← optionalField Json.asStr (field "subject")
    message := ← optionalField Json.asStr (field "message")
    nomarkup := ← optionalField Json.asStr (field "nomarkup")
    thread := ← optionalField Json.asI64 (field "thread")
    id := ← requiredField Json.asI64 (field "postId")
    files := ← listField (field "files")
    quotes := ← listField (field "quotes")
    backlinks := ← listField (field "backlinks") }

section Decode

variable (serde : Serde)

/-- Printing the value and reading the post from the text is reading it from the value. -/
def postFromValue (value : Json) : Except Chain Post :=
  match decodePost serde.date value with
  | some post => .ok post
  | none =>
      let (path, inner) := serde.fault value
      bail ("decode upstream post at " ++ path ++ ": " ++ inner)

def DecodedPost.tryFrom (value : Json) : Except Chain DecodedPost := do
  let posterIdentity := posterIdentitySource value
  let value := dropIpFields value
  rejectSensitiveFields value
  let post ← postFromValue serde value
  pure ⟨post, posterIdentity⟩

def assertContractSafe (payload : Bytes) : Except Chain Unit :=
  match serde.codec.read payload with
  | .error err => .error ["decode encoded event payload", err]
  | .ok value => rejectSensitiveFields value

end Decode

end Upstream

end PtchanGateway
