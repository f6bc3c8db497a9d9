import PtchanGateway.JsonSchema
import PtchanGateway.SdkPosts

/-! The schemas that are published for the contract (`docs/contract/schemas`), and the JSON of the contract's
types against them. What the gateway writes passes its schema, except that a date outside the years 0 to 9999
is no `date-time`. -/

namespace PtchanGateway

open TextDigits TextCalendar TextRfc3339 JsonValue JsonSchema

/-- `date-time` of RFC 3339. The reader of the gateway also takes a blank for the mark and another minus. -/
def readDateTime (text : List Char) : Option Int := do
  let (_, text) ← readDate text
  let text ← (expect 'T' text).or (expect 't' text)
  let (_, _, text) ← readTime text
  let (_, text) ← readNano text
  if text.head? = some '−' then none else readZone text

def isDateTime (text : String) : Bool := (readDateTime text.toList).isSome

/-- The formats the schemas name. -/
def contractFormats (name : String) : Json → Bool
  | .str text => name != "date-time" || isDateTime text
  | .num (.int n) =>
      if name = "int64" then decide (-2 ^ 63 ≤ n ∧ n < 2 ^ 63)
      else if name = "uint" then decide (0 ≤ n ∧ n < 2 ^ 64)
      else if name = "uint16" then decide (0 ≤ n ∧ n < 2 ^ 16)
      else true
  | _ => true

def textSchema : Schema := .keywords [.type [.string]]

def optionalTextSchema : Schema := .keywords [.type [.string, .null]]

def idSchema : Schema := .keywords [.type [.integer], .format "int64"]

def dateSchema : Schema := .keywords [.type [.string], .format "date-time"]

def refsSchema : Schema := .keywords [.type [.array], .items (.keywords [.ref "PostRef"])]

/-- One text of a `oneOf`. -/
def constSchema (text : String) : Schema := .keywords [.type [.string], .const text]

def originKindSchema : Schema := .keywords [.oneOf [constSchema "integration"]]

def postOriginSchema : Schema := .keywords [
  .type [.object],
  .properties [("kind", .keywords [.ref "OriginKind"]), ("name", textSchema)],
  .required ["kind", "name"]]

def postRefSchema : Schema := .keywords [
  .type [.object],
  .properties [("board", textSchema), ("post_id", idSchema), ("thread_id", idSchema)],
  .required ["board", "thread_id", "post_id"]]

def postSchema : Schema := .keywords [
  .type [.object],
  .properties [
    ("attachment_count", .keywords [.type [.integer], .format "uint", .minimum 0]),
    ("board", textSchema),
    ("capcode", optionalTextSchema),
    ("country", optionalTextSchema),
    ("date", dateSchema),
    ("donor", .keywords [.type [.boolean, .null]]),
    ("message", optionalTextSchema),
    ("name", optionalTextSchema),
    ("origin", .keywords [.anyOf [.keywords [.ref "PostOrigin"], .keywords [.type [.null]]]]),
    ("post_id", idSchema),
    ("poster_fingerprint", optionalTextSchema),
    ("referenced_by", refsSchema),
    ("references", refsSchema),
    ("subject", optionalTextSchema),
    ("thread_id", idSchema),
    ("tripcode", optionalTextSchema),
    ("url", textSchema)],
  .required ["board", "thread_id", "post_id", "url", "date", "attachment_count"]]

def errorCodeSchema : Schema := .keywords [
  .type [.string],
  .enum ["unauthorized", "capability_not_enabled", "invalid_json", "invalid_query", "invalid_board",
    "invalid_thread_id", "missing_message", "message_too_long", "invalid_message", "board_not_allowed",
    "rate_limited", "thread_not_found", "upstream_unavailable", "captcha_required", "block_bypass_required",
    "thread_locked", "thread_reply_limit", "board_locked", "rejected", "reply_state_unknown", "payload_too_large"]]

def errorBodySchema : Schema := .keywords [
  .type [.object],
  .properties [
    ("code", .keywords [.ref "ErrorCode"]),
    ("message", textSchema),
    ("retryable", .keywords [.type [.boolean]]),
    ("upstream_status",
      .keywords [.type [.integer, .null], .format "uint16", .maximum 65535, .minimum 0])],
  .required ["code", "message", "retryable"]]

/-- `thread.schema.json`, without its definitions. -/
def threadSchema : Schema := .keywords [
  .type [.object],
  .properties [
    ("board", textSchema),
    ("posts", .keywords [.type [.array], .items (.keywords [.ref "Post"])]),
    ("thread_id", idSchema),
    ("truncated", .keywords [.type [.boolean]])],
  .required ["board", "thread_id", "posts", "truncated"]]

def threadDocument : Document where
  root := threadSchema
  defs := [("OriginKind", originKindSchema), ("Post", postSchema), ("PostOrigin", postOriginSchema),
    ("PostRef", postRefSchema)]

/-- `reply-request.schema.json`, without its definitions. -/
def replyRequestSchema : Schema := .keywords [
  .type [.object],
  .properties [("message", textSchema), ("sage", .keywords [.type [.boolean]])],
  .closed ["message", "sage"],
  .required ["message"]]

def replyRequestDocument : Document where
  root := replyRequestSchema
  defs := []

/-- `reply-response.schema.json`, without its definitions. -/
def replyResponseSchema : Schema := .keywords [
  .type [.object],
  .properties [
    ("board", textSchema),
    ("origin", .keywords [.ref "PostOrigin"]),
    ("post_id", idSchema),
    ("thread_id", idSchema),
    ("url", textSchema)],
  .required ["board", "thread_id", "post_id", "url", "origin"]]

def replyResponseDocument : Document where
  root := replyResponseSchema
  defs := [("OriginKind", originKindSchema), ("PostOrigin", postOriginSchema)]

/-- `error.schema.json`, without its definitions. -/
def errorSchema : Schema := .keywords [
  .type [.object],
  .properties [("error", .keywords [.ref "ErrorBody"])],
  .required ["error"]]

def errorDocument : Document where
  root := errorSchema
  defs := [("ErrorBody", errorBodySchema), ("ErrorCode", errorCodeSchema)]

def ReplyResponse.toJson (r : ReplyResponse) : Json :=
  .obj [("board", .str r.board), ("thread_id", intJson r.threadId), ("post_id", intJson r.postId),
    ("url", .str r.url), ("origin", r.origin.toJson)]

def ErrorBody.toJson (body : ErrorBody) : Json :=
  .obj ([("code", .str body.code.asStr), ("message", .str body.message), ("retryable", .bool body.retryable)] ++
    optionalMember "upstream_status" (fun status : Nat => .num (.int status)) body.upstreamStatus)

/-- `ErrorEnvelope`. -/
def ErrorBody.envelope (body : ErrorBody) : Json := .obj [("error", body.toJson)]

section Members

variable {refs : String → Json → Bool}

end Members

/-! ### Documents -/

section Documents

variable {document : Document}

end Documents

theorem lookup_eq_none_iff {name : String} {members : List (String × Json)} :
    lookup name members = none ↔ name ∉ members.map Prod.fst := by
  induction members with
  | nil => simp [lookup]
  | cons member members ih =>
      rw [lookup, List.map_cons, List.mem_cons, not_or]
      by_cases hname : member.1 = name
      · simp [hname]
      · rw [if_neg hname, ih]
        exact (and_iff_right (Ne.symm hname)).symm

namespace ReplyRequest

def asBool : Json → Option Bool
  | .bool flag => some flag
  | _ => none

/-- The members of an object one by one: an unknown name, a name given twice and a value of another type are
refused, and `sage` may be left out. -/
def visitMap (message : Option String) (sage : Option Bool) : List (String × Json) → Option ReplyRequest
  | [] => message.map fun message => ⟨message, sage.getD false⟩
  | (name, value) :: members =>
      if name = "message" then
        if message.isSome then none else value.asStr.bind fun text => visitMap (some text) sage members
      else if name = "sage" then
        if sage.isSome then none else (asBool value).bind fun flag => visitMap message (some flag) members
      else none

/-- The fields in the order of their declaration. -/
def visitSeq : List Json → Option ReplyRequest
  | [.str message] => some ⟨message, false⟩
  | [.str message, .bool sage] => some ⟨message, sage⟩
  | _ => none

/-- `ReplyRequest` from a value as it is written, with the members of its objects in the order of the text. -/
def ofValue : Json → Option ReplyRequest
  | .obj members => visitMap none none members
  | .arr values => visitSeq values
  | _ => none

/-- A field that has been found is not found again, and one that is found later has its type. -/
def Fits {α : Type} (encode : α → Json) (held : Option α) (found : Option Json) : Prop :=
  match held with
  | some _ => found = none
  | none => ∀ value, found = some value → ∃ given, value = encode given

/-- What is left of an object can be read. -/
structure Readable (message : Option String) (sage : Option Bool) (members : List (String × Json)) : Prop where
  nodup : (members.map Prod.fst).Nodup
  known : ∀ member ∈ members, member.1 = "message" ∨ member.1 = "sage"
  messageFits : Fits .str message (lookup "message" members)
  sageFits : Fits .bool sage (lookup "sage" members)
  complete : message.isSome = true ∨ (lookup "message" members).isSome = true

theorem readable_nil_iff (message : Option String) (sage : Option Bool) :
    Readable message sage [] ↔ message.isSome = true := by
  constructor
  · intro h
    simpa [lookup] using h.complete
  · intro hsome
    refine ⟨List.nodup_nil, List.forall_mem_nil _, ?_, ?_, .inl hsome⟩
    · cases message with
      | none => simp [Fits, lookup]
      | some _ => rfl
    · cases sage with
      | none => simp [Fits, lookup]
      | some _ => rfl

section Members

variable {message : Option String} {sage : Option Bool} {value : Json} {members : List (String × Json)}

theorem readable_message_iff :
    Readable message sage (("message", value) :: members) ↔
      message = none ∧ ∃ text, value = .str text ∧ Readable (some text) sage members := by
  constructor
  · intro h
    have hnodup := List.nodup_cons.mp h.nodup
    cases message with
    | some _ => simpa [Fits, lookup] using h.messageFits
    | none =>
        obtain ⟨text, rfl⟩ := h.messageFits value (by simp [lookup])
        refine ⟨rfl, text, rfl, hnodup.2, fun member hmem => h.known member (List.mem_cons_of_mem _ hmem),
          JsonGo.lookup_eq_none hnodup.1, ?_, .inl rfl⟩
        simpa [lookup] using h.sageFits
  · rintro ⟨rfl, text, rfl, h⟩
    have hnone : lookup "message" members = none := h.messageFits
    refine ⟨List.nodup_cons.mpr ⟨?_, h.nodup⟩, ?_, ?_, ?_, .inr ?_⟩
    · exact lookup_eq_none_iff.mp hnone
    · intro member hmem
      rcases List.mem_cons.mp hmem with rfl | hlater
      · exact .inl rfl
      · exact h.known member hlater
    · simp [Fits, lookup]
    · simpa [lookup] using h.sageFits
    · simp [lookup]

theorem readable_sage_iff :
    Readable message sage (("sage", value) :: members) ↔
      sage = none ∧ ∃ flag, value = .bool flag ∧ Readable message (some flag) members := by
  constructor
  · intro h
    have hnodup := List.nodup_cons.mp h.nodup
    cases sage with
    | some _ => simpa [Fits, lookup] using h.sageFits
    | none =>
        obtain ⟨flag, rfl⟩ := h.sageFits value (by simp [lookup])
        refine ⟨rfl, flag, rfl, hnodup.2, fun member hmem => h.known member (List.mem_cons_of_mem _ hmem), ?_,
          JsonGo.lookup_eq_none hnodup.1, ?_⟩
        · simpa [lookup] using h.messageFits
        · simpa [lookup] using h.complete
  · rintro ⟨rfl, flag, rfl, h⟩
    have hnone : lookup "sage" members = none := h.sageFits
    refine ⟨List.nodup_cons.mpr ⟨?_, h.nodup⟩, ?_, ?_, ?_, ?_⟩
    · exact lookup_eq_none_iff.mp hnone
    · intro member hmem
      rcases List.mem_cons.mp hmem with rfl | hlater
      · exact .inr rfl
      · exact h.known member hlater
    · simpa [lookup] using h.messageFits
    · simp [Fits, lookup]
    · simpa [lookup] using h.complete

end Members

theorem isSome_visitMap_iff (message : Option String) (sage : Option Bool) (members : List (String × Json)) :
    (visitMap message sage members).isSome = true ↔ Readable message sage members := by
  induction members generalizing message sage with
  | nil => rw [readable_nil_iff, visitMap, Option.isSome_map]
  | cons member members ih =>
      obtain ⟨name, value⟩ := member
      rw [visitMap]
      by_cases hmessage : name = "message"
      · subst hmessage
        rw [if_pos rfl, readable_message_iff]
        cases message with
        | some text => simp
        | none =>
            cases value with
            | str text => simp [Json.asStr, ih]
            | _ => simp [Json.asStr]
      · rw [if_neg hmessage]
        by_cases hsage : name = "sage"
        · subst hsage
          rw [if_pos rfl, readable_sage_iff]
          cases sage with
          | some flag => simp
          | none =>
              cases value with
              | bool flag => simp [asBool, ih]
              | _ => simp [asBool]
        · rw [if_neg hsage]
          refine iff_of_false nofun fun h => ?_
          rcases h.known (name, value) List.mem_cons_self with hname | hname
          · exact hmessage hname
          · exact hsage hname

theorem fits_text_iff (refs : String → Json → Bool) (found : Option Json) :
    (found.all fun value => textSchema.accepts contractFormats refs value) = true ↔ Fits .str none found := by
  cases found with
  | none => simp [Fits]
  | some value =>
      cases value with
      | _ => simp [Fits, textSchema, Schema.accepts, Kind.has]

theorem fits_bool_iff (refs : String → Json → Bool) (found : Option Json) :
    (found.all fun value => (Schema.keywords [.type [.boolean]]).accepts contractFormats refs value) = true ↔
      Fits .bool none found := by
  cases found with
  | none => simp [Fits]
  | some value =>
      cases value with
      | _ => simp [Fits, Schema.accepts, Kind.has]

/-- An object that gives no name twice passes the published schema exactly if it can be read. -/
theorem valid_obj_iff {members : List (String × Json)} (hnodup : (members.map Prod.fst).Nodup) :
    replyRequestDocument.valid contractFormats (.obj members) = true ↔ Readable none none members := by
  have hclosed : (Schema.closed ["message", "sage"]).accepts contractFormats
      (replyRequestDocument.refs contractFormats 0) (.obj members) = true ↔
        ∀ member ∈ members, member.1 = "message" ∨ member.1 = "sage" := by
    simp [Schema.accepts]
  have hrequired : (Schema.required ["message"]).accepts contractFormats (replyRequestDocument.refs contractFormats 0)
      (.obj members) = true ↔ (lookup "message" members).isSome = true := by
    simp [Schema.accepts]
  change replyRequestSchema.accepts contractFormats (replyRequestDocument.refs contractFormats 0)
    (.obj members) = true ↔ _
  rw [replyRequestSchema, Schema.accepts]
  simp only [acceptsAll_cons, acceptsAll_nil, Bool.and_eq_true, hclosed, hrequired]
  rw [Schema.accepts, Schema.accepts]
  simp only [acceptsMembers_cons, acceptsMembers_nil, Json.get?, Bool.and_eq_true, fits_text_iff, fits_bool_iff]
  constructor
  · rintro ⟨-, ⟨hmessage, hsage, -⟩, hknown, hcomplete, -⟩
    exact ⟨hnodup, hknown, hmessage, hsage, .inr hcomplete⟩
  · intro h
    refine ⟨rfl, ⟨h.messageFits, h.sageFits, trivial⟩, h.known, ?_, trivial⟩
    rcases h.complete with hheld | hcomplete
    · cases hheld
    · exact hcomplete

theorem isSome_visitSeq_iff (values : List Json) :
    (visitSeq values).isSome = true ↔
      (∃ message, values = [.str message]) ∨ ∃ message sage, values = [.str message, .bool sage] := by
  constructor
  · intro h
    unfold visitSeq at h
    split at h
    · exact .inl ⟨_, rfl⟩
    · exact .inr ⟨_, _, rfl⟩
    · cases h
  · rintro (⟨message, rfl⟩ | ⟨message, sage, rfl⟩)
    · rfl
    · rfl

theorem not_valid_of_not_object {value : Json} (h : Kind.object.has value = false) :
    replyRequestDocument.valid contractFormats value = false := by
  change replyRequestSchema.accepts contractFormats (replyRequestDocument.refs contractFormats 0) value = false
  rw [replyRequestSchema, Schema.accepts, acceptsAll_cons, Schema.accepts, List.any_cons, h]
  rfl

/-- Which values are read as a reply: the objects that pass the published schema and give no name twice, and the
arrays of the fields in their order, of which the schema knows nothing. -/
theorem isSome_ofValue_iff (value : Json) :
    (ofValue value).isSome = true ↔
      (replyRequestDocument.valid contractFormats value = true ∧
          ∀ members, value = .obj members → (members.map Prod.fst).Nodup) ∨
        (∃ message, value = .arr [.str message]) ∨ ∃ message sage, value = .arr [.str message, .bool sage] := by
  cases value with
  | obj members =>
      rw [ofValue, isSome_visitMap_iff]
      constructor
      · intro h
        refine .inl ⟨(valid_obj_iff h.nodup).mpr h, ?_⟩
        rintro _ ⟨⟩
        exact h.nodup
      · rintro (⟨hvalid, hnodup⟩ | ⟨_, heq⟩ | ⟨_, _, heq⟩)
        · exact (valid_obj_iff (hnodup members rfl)).mp hvalid
        · cases heq
        · cases heq
  | arr values =>
      rw [ofValue, isSome_visitSeq_iff, not_valid_of_not_object rfl]
      simp
  | _ =>
      rw [not_valid_of_not_object rfl]
      simp [ofValue]

end ReplyRequest

end PtchanGateway
