import PtchanGateway.Ingest
import Mathlib.Tactic.FinCases

/-!
What the outputs can tell about an upstream value. Nothing that is published depends on the members named
`ip`: they are gone before the value is checked or decoded, and the poster's identity read from them goes
into the pseudonyms alone. A contract post depends on the fields it is made of and on nothing else.
-/

namespace PtchanGateway

open TextRfc3339 TextRust JsonValue Config Upstream

section Redaction

variable (serde : Serde) (mac : Bytes → Bytes → Bytes) (baseUrl : String) (observedAt : Instant)
  {left right : Json}

theorem decodeAs_map_post (what : String) (h : eraseKey "ip" left = eraseKey "ip" right) :
    (decodeAs serde what left).map DecodedPost.post = (decodeAs serde what right).map DecodedPost.post := by
  have hdrop : dropIpFields left = dropIpFields right := by rw [dropIpFields, dropIpFields, h]
  simp only [decodeAs, DecodedPost.tryFrom, hdrop]
  cases rejectSensitiveFields (dropIpFields right) with
  | error causes => rfl
  | ok _ =>
      cases postFromValue serde (dropIpFields right) with
      | error causes => rfl
      | ok post => rfl

theorem contractPostFromValue_eq (value : Json) :
    contractPostFromValue serde baseUrl value =
      ((decodeAs serde "post" value).map DecodedPost.post).map (contractPost baseUrl) := by
  rw [contractPostFromValue]
  cases decodeAs serde "post" value with
  | error causes => rfl
  | ok decoded => rfl

/-- The parts of a built event that are published. -/
def BuiltEvent.published (built : BuiltEvent) : WebhookEvent × Bytes := (built.event, built.payload)

theorem gatewayEvent_map_published (value : Json) :
    (gatewayEvent serde baseUrl value observedAt).map BuiltEvent.published =
      ((decodeAs serde "newPost" value).map DecodedPost.post).map fun post =>
        (webhookEvent baseUrl post observedAt, serde.codec.write (webhookEvent baseUrl post observedAt).toJson) := by
  rw [gatewayEvent]
  cases decodeAs serde "newPost" value with
  | error causes => rfl
  | ok decoded =>
      simp only [bind, Except.bind, encodeEvent_eq]
      rfl

/-- Both preparations fail alike, or each webhook gets a delivery from both and one that is not given
fingerprints gets the same payload. -/
def SamePayloads (webhooks : List WebhookConfig) :
    Except Chain (List EventDelivery) → Except Chain (List EventDelivery) → Prop
  | .error causes, .error others => causes = others
  | .ok deliveries, .ok others =>
      ∃ pairs, deliveries = pairs.map Prod.fst ∧ others = pairs.map Prod.snd ∧
        List.Forall₂ (fun (webhook : WebhookConfig) (pair : EventDelivery × EventDelivery) =>
          pair.1.webhook = webhook.name ∧ pair.2.webhook = webhook.name ∧
            (webhook.includePosterFingerprint = false → pair.1.payload = pair.2.payload)) webhooks pairs
  | _, _ => False

theorem eventDelivery_of_unloaded (built : BuiltEvent) {webhook : WebhookConfig}
    (h : webhook.includePosterFingerprint = true) :
    eventDelivery serde mac built none webhook = bail "poster fingerprint secret is not loaded" := by
  simp only [eventDelivery, deliveredEvent, if_pos h]
  rfl

theorem samePayloads_of_event_eq {built other : BuiltEvent} (h : built.event = other.event)
    (webhooks : List WebhookConfig) (fingerprintSecret : Option String) :
    SamePayloads (admitted webhooks built.event.post.board)
      (eventDeliveries serde mac built webhooks fingerprintSecret)
      (eventDeliveries serde mac other webhooks fingerprintSecret) := by
  rw [eventDeliveries, eventDeliveries, ← h]
  change SamePayloads _ ((admitted webhooks built.event.post.board).mapM _)
    ((admitted webhooks built.event.post.board).mapM _)
  induction admitted webhooks built.event.post.board with
  | nil => exact ⟨[], rfl, rfl, .nil⟩
  | cons webhook rest ih =>
      rw [List.mapM_cons, List.mapM_cons]
      by_cases hloaded : webhook.includePosterFingerprint = true → fingerprintSecret.isSome = true
      · rw [eventDelivery_eq serde mac built hloaded, eventDelivery_eq serde mac other hloaded]
        generalize rest.mapM (eventDelivery serde mac built fingerprintSecret) = deliveries at ih
        generalize rest.mapM (eventDelivery serde mac other fingerprintSecret) = others at ih
        rcases deliveries with causes | deliveries <;> rcases others with causes' | others
        · exact ih
        · exact ih.elim
        · exact ih.elim
        · obtain ⟨pairs, rfl, rfl, hpairs⟩ := ih
          refine ⟨(_, _) :: pairs, rfl, rfl, .cons ⟨rfl, rfl, fun hpublic => ?_⟩ hpairs⟩
          simp only [personalEvent, hpublic, h, Bool.false_eq_true, if_false]
      · obtain ⟨hincludes, hnone⟩ := Classical.not_imp.1 hloaded
        rw [Option.not_isSome_iff_eq_none] at hnone
        subst hnone
        rw [eventDelivery_of_unloaded serde mac built hincludes, eventDelivery_of_unloaded serde mac other hincludes]
        rfl

end Redaction

/-- A field that is missing or null counts as absent. -/
def present : Option Json → Option Json
  | some .null => none
  | field => field

/-- A decoder that accepts a field reads the same from what is present of it. -/
def Reads {α : Type} (decode : Option Json → Option α) : Prop :=
  ∀ field result, decode field = some result → decode (present field) = some result

theorem Reads.eq {α : Type} {decode : Option Json → Option α} (hreads : Reads decode) {field other : Option Json}
    {result result' : α} (hfield : decode field = some result) (hother : decode other = some result')
    (h : present field = present other) : result = result' := by
  have hresult := hreads field result hfield
  rw [h, hreads other result' hother, Option.some.injEq] at hresult
  exact hresult.symm

theorem reads_requiredField {α : Type} {decode : Json → Option α} (hnull : decode .null = none) :
    Reads (requiredField decode) := by
  intro field result h
  unfold present
  split
  · rw [requiredField, Option.bind_some, hnull] at h
    cases h
  · exact h

theorem reads_optionalField {α : Type} (decode : Json → Option α) : Reads (optionalField decode) := by
  intro field result h
  unfold present
  split
  · exact h
  · exact h

theorem reads_listField : Reads listField := by
  intro field result h
  unfold present
  split
  · cases h
  · exact h

/-- The fields a post was decoded from. -/
structure DecodesTo (date : String → Option Moment) (field : String → Option Json) (post : Upstream.Post) :
    Prop where
  date : requiredField (fun value => value.asStr.bind date) (field "date") = some post.date
  name : optionalField Json.asStr (field "name") = some post.name
  country : optionalField decodeCountry (field "country") = some post.country
  board : requiredField Json.asStr (field "board") = some post.board
  publicTripcode : optionalField Json.asStr (field "tripcode") = some post.publicTripcode
  capcode : optionalField Json.asStr (field "capcode") = some post.capcode
  donor : optionalField decodeBool (field "donor") = some post.donor
  subject : optionalField Json.asStr (field "subject") = some post.subject
  message : optionalField Json.asStr (field "message") = some post.message
  nomarkup : optionalField Json.asStr (field "nomarkup") = some post.nomarkup
  thread : optionalField Json.asI64 (field "thread") = some post.thread
  id : requiredField Json.asI64 (field "postId") = some post.id
  files : listField (field "files") = some post.files
  quotes : listField (field "quotes") = some post.quotes
  backlinks : listField (field "backlinks") = some post.backlinks

theorem decodesTo_of_decodePost {date : String → Option Moment} {members : List (String × Json)}
    {post : Upstream.Post} (h : decodePost date (.obj members) = some post) :
    DecodesTo date (fun name => lookup name members) post := by
  obtain ⟨_, hdate, h⟩ := Option.bind_eq_some_iff.1 h
  obtain ⟨_, hname, h⟩ := Option.bind_eq_some_iff.1 h
  obtain ⟨_, hcountry, h⟩ := Option.bind_eq_some_iff.1 h
  obtain ⟨_, hboard, h⟩ := Option.bind_eq_some_iff.1 h
  obtain ⟨_, htripcode, h⟩ := Option.bind_eq_some_iff.1 h
  obtain ⟨_, hcapcode, h⟩ := Option.bind_eq_some_iff.1 h
  obtain ⟨_, hdonor, h⟩ := Option.bind_eq_some_iff.1 h
  obtain ⟨_, hsubject, h⟩ := Option.bind_eq_some_iff.1 h
  obtain ⟨_, hmessage, h⟩ := Option.bind_eq_some_iff.1 h
  obtain ⟨_, hnomarkup, h⟩ := Option.bind_eq_some_iff.1 h
  obtain ⟨_, hthread, h⟩ := Option.bind_eq_some_iff.1 h
  obtain ⟨_, hid, h⟩ := Option.bind_eq_some_iff.1 h
  obtain ⟨_, hfiles, h⟩ := Option.bind_eq_some_iff.1 h
  obtain ⟨_, hquotes, h⟩ := Option.bind_eq_some_iff.1 h
  obtain ⟨_, hbacklinks, h⟩ := Option.bind_eq_some_iff.1 h
  rw [Option.some.injEq] at h
  subst h
  exact ⟨hdate, hname, hcountry, hboard, htripcode, hcapcode, hdonor, hsubject, hmessage, hnomarkup, hthread, hid,
    hfiles, hquotes, hbacklinks⟩

/-- The code of a country, which is read from an object by name and from an array by position. -/
def countryCodeField : Json → Option Json
  | .obj members => lookup "code" members
  | .arr (code :: _) => some code
  | _ => none

def fileCount : Option Json → Nat
  | some (.arr values) => values.length
  | _ => 0

theorem fileCount_eq {field : Option Json} {files : List Json} (h : listField field = some files) :
    fileCount field = files.length := by
  unfold listField at h
  split at h
  · rw [Option.some.injEq] at h
    subst h
    rfl
  · rw [Option.some.injEq] at h
    subst h
    rfl
  · cases h

theorem decodeCountry_eq_some {value : Json} {country : Country} (h : decodeCountry value = some country) :
    optionalField Json.asStr (countryCodeField value) = some country.code := by
  cases value with
  | null => cases h
  | bool _ => cases h
  | num _ => cases h
  | str _ => cases h
  | obj members =>
      obtain ⟨code, hcode, h⟩ := Option.bind_eq_some_iff.1 h
      cases h
      exact hcode
  | arr values =>
      rcases values with - | ⟨first, - | ⟨second, rest⟩⟩
      · cases h
        rfl
      · obtain ⟨code, hcode, h⟩ := Option.bind_eq_some_iff.1 h
        cases h
        exact hcode
      · simp [decodeCountry, structFields] at h

theorem countryCode_eq {field : Option Json} {country : Option Country}
    (h : optionalField decodeCountry field = some country) :
    ∃ code, optionalField Json.asStr (field.bind countryCodeField) = some code ∧
      countryCode country = clean code := by
  unfold optionalField at h
  split at h
  · cases h
    exact ⟨none, rfl, rfl⟩
  · cases h
    exact ⟨none, rfl, rfl⟩
  · obtain ⟨country, hcountry, rfl⟩ := Option.map_eq_some_iff.1 h
    exact ⟨country.code, decodeCountry_eq_some hcountry, rfl⟩

/-- The members a contract post is made of, apart from the country and the files. -/
def contractMembers : List String :=
  ["date", "board", "postId", "thread", "name", "tripcode", "capcode", "donor", "subject", "message", "nomarkup",
    "quotes", "backlinks"]

/-- Two values agree on what a contract post is made of, where `code` reads the code of a country. -/
structure Agree (code : Json → Option Json) (left right : Json) : Prop where
  members : ∀ name ∈ contractMembers, present (left.get? name) = present (right.get? name)
  country : present ((left.get? "country").bind code) = present ((right.get? "country").bind code)
  files : fileCount (left.get? "files") = fileCount (right.get? "files")

theorem contractPost_eq_of_agree {date : String → Option Moment} {left right : List (String × Json)}
    {post other : Upstream.Post} (hpost : DecodesTo date (fun name => lookup name left) post)
    (hother : DecodesTo date (fun name => lookup name right) other)
    (h : Agree countryCodeField (.obj left) (.obj right)) (baseUrl : String) :
    contractPost baseUrl post = contractPost baseUrl other := by
  have hmember : ∀ {α : Type} {decode : Option Json → Option α} {result result' : α} (name : String),
      name ∈ contractMembers → Reads decode → decode (lookup name left) = some result →
      decode (lookup name right) = some result' → result = result' :=
    fun name hname hreads hleft hright => hreads.eq hleft hright (h.members name hname)
  have hdate := hmember "date" (by decide) (reads_requiredField rfl) hpost.date hother.date
  have hboard := hmember "board" (by decide) (reads_requiredField rfl) hpost.board hother.board
  have hid := hmember "postId" (by decide) (reads_requiredField rfl) hpost.id hother.id
  have hthread := hmember "thread" (by decide) (reads_optionalField _) hpost.thread hother.thread
  have hname := hmember "name" (by decide) (reads_optionalField _) hpost.name hother.name
  have htripcode := hmember "tripcode" (by decide) (reads_optionalField _) hpost.publicTripcode
    hother.publicTripcode
  have hcapcode := hmember "capcode" (by decide) (reads_optionalField _) hpost.capcode hother.capcode
  have hdonor := hmember "donor" (by decide) (reads_optionalField _) hpost.donor hother.donor
  have hsubject := hmember "subject" (by decide) (reads_optionalField _) hpost.subject hother.subject
  have hmessage := hmember "message" (by decide) (reads_optionalField _) hpost.message hother.message
  have hnomarkup := hmember "nomarkup" (by decide) (reads_optionalField _) hpost.nomarkup hother.nomarkup
  have hquotes := hmember "quotes" (by decide) reads_listField hpost.quotes hother.quotes
  have hbacklinks := hmember "backlinks" (by decide) reads_listField hpost.backlinks hother.backlinks
  have hcountry : countryCode post.country = countryCode other.country := by
    obtain ⟨code, hcode, heq⟩ := countryCode_eq hpost.country
    obtain ⟨code', hcode', heq'⟩ := countryCode_eq hother.country
    rw [heq, heq', (reads_optionalField Json.asStr).eq hcode hcode' h.country]
  have hfiles : post.files.length = other.files.length := by
    rw [← fileCount_eq hpost.files, ← fileCount_eq hother.files]
    exact h.files
  simp only [contractPost, hdate, hboard, hid, hthread, hname, htripcode, hcapcode, hdonor, hsubject, hmessage,
    hnomarkup, hquotes, hbacklinks, hcountry, hfiles]

section Outputs

variable (serde : Serde) (mac : Bytes → Bytes → Bytes) (baseUrl : String) (observedAt : Instant)

theorem decodesTo_of_contractPost {value : Json} {post : Post} (hobject : value.isObject = true)
    (h : contractPostFromValue serde baseUrl value = .ok post) :
    ∃ members decoded, eraseKey "ip" value = .obj members ∧
      DecodesTo serde.date (fun name => lookup name members) decoded ∧ post = contractPost baseUrl decoded := by
  obtain ⟨members, hmembers⟩ : ∃ members, eraseKey "ip" value = .obj members := by
    cases value with
    | obj members => exact ⟨_, rfl⟩
    | _ => cases hobject
  rw [contractPostFromValue, decodeAs, DecodedPost.tryFrom, dropIpFields, hmembers] at h
  cases hreject : rejectSensitiveFields (.obj members) with
  | error causes => simp [hreject, bail, bind, Except.bind] at h
  | ok _ =>
      cases hdecode : decodePost serde.date (.obj members) with
      | none => simp [hreject, postFromValue, hdecode, bail, bind, Except.bind] at h
      | some decoded =>
          simp only [hreject, postFromValue, hdecode, bind, Except.bind, pure, Except.pure, Except.ok.injEq] at h
          exact ⟨members, decoded, hmembers, decodesTo_of_decodePost hdecode, h.symm⟩

/-- The outputs do not depend on the members named `ip`, and a contract post depends on its own fields alone. -/
theorem outputs_hide_identity :
    (∀ left right, eraseKey "ip" left = eraseKey "ip" right →
      (gatewayEvent serde baseUrl left observedAt).map BuiltEvent.published =
        (gatewayEvent serde baseUrl right observedAt).map BuiltEvent.published ∧
      contractPostFromValue serde baseUrl left = contractPostFromValue serde baseUrl right ∧
      ∀ built other, gatewayEvent serde baseUrl left observedAt = .ok built →
        gatewayEvent serde baseUrl right observedAt = .ok other →
        ∀ (annotate : WebhookEvent → WebhookEvent) (webhooks : List WebhookConfig) (fingerprintSecret : Option String),
          SamePayloads (admitted webhooks (annotate built.event).post.board)
            (eventDeliveries serde mac { built with event := annotate built.event } webhooks fingerprintSecret)
            (eventDeliveries serde mac { other with event := annotate other.event } webhooks fingerprintSecret)) ∧
    ∀ left right post other, left.isObject = true → right.isObject = true →
      contractPostFromValue serde baseUrl left = .ok post → contractPostFromValue serde baseUrl right = .ok other →
      Agree countryCodeField (eraseKey "ip" left) (eraseKey "ip" right) → post = other := by
  refine ⟨fun left right hip => ⟨?_, ?_, ?_⟩, ?_⟩
  · rw [gatewayEvent_map_published, gatewayEvent_map_published, decodeAs_map_post serde "newPost" hip]
  · rw [contractPostFromValue_eq, contractPostFromValue_eq, decodeAs_map_post serde "post" hip]
  · intro built other hbuilt hother annotate webhooks fingerprintSecret
    have hpublished : built.published = other.published := by
      have heq := gatewayEvent_map_published serde baseUrl observedAt left
      rw [decodeAs_map_post serde "newPost" hip, ← gatewayEvent_map_published, hbuilt, hother] at heq
      exact Except.ok.inj heq
    have hevent : built.event = other.event := congrArg Prod.fst hpublished
    exact samePayloads_of_event_eq serde mac (congrArg annotate hevent) webhooks fingerprintSecret
  · intro left right post other hleft hright hpost hother hagree
    obtain ⟨members, decoded, hmembers, hdecoded, rfl⟩ := decodesTo_of_contractPost serde baseUrl hleft hpost
    obtain ⟨members', decoded', hmembers', hdecoded', rfl⟩ := decodesTo_of_contractPost serde baseUrl hright hother
    rw [hmembers, hmembers'] at hagree
    exact contractPost_eq_of_agree hdecoded hdecoded' hagree baseUrl

end Outputs

namespace Sample

def postFrom (country : Json) : Json :=
  .obj [("board", .str "i"), ("country", country), ("date", .str "2026-07-19T12:00:00Z"),
    ("postId", .num (.int 101))]

/-- What is decoded from it. -/
def decodedFrom (code : String) : Upstream.Post where
  date := ⟨63951681600, 0⟩
  name := none
  country := some ⟨some code⟩
  board := "i"
  publicTripcode := none
  capcode := none
  donor := none
  subject := none
  message := none
  nomarkup := none
  thread := none
  id := 101
  files := []
  quotes := []
  backlinks := []

theorem agree_postFrom {code : Json → Option Json} {country other : Json} (h : code country = code other)
    (hplain : eraseKey "ip" country = country) (hplain' : eraseKey "ip" other = other) :
    Agree code (eraseKey "ip" (postFrom country)) (eraseKey "ip" (postFrom other)) := by
  have herase : ∀ value, eraseKey "ip" value = value → eraseKey "ip" (postFrom value) = postFrom value := by
    intro value hvalue
    simp [postFrom, eraseKey, eraseKeyMembers, hvalue]
  rw [herase country hplain, herase other hplain']
  refine ⟨?_, congrArg present h, rfl⟩
  intro name hname
  fin_cases hname <;> rfl

/-- What is decoded from the sample value. -/
def plainPost : Upstream.Post := { decodedFrom "PT" with country := none }

/-- The sample value as it would be from a poster at another address. -/
def elsewhere : Json :=
  .obj [("board", .str "i"), ("date", .str "2026-07-19T12:00:00Z"), ("ip", .str "10.0.0.1"),
    ("postId", .num (.int 101))]

def publicWebhook : WebhookConfig := ⟨"alerts", "http://alerts.test/", ["i"], false, "secret"⟩

theorem outputs_hide_identity_cloak :
    (∃ built other, gatewayEvent serde "https://ptchan.test" value observedAt = .ok built ∧
      gatewayEvent serde "https://ptchan.test" elsewhere observedAt = .ok other ∧ built ≠ other ∧
      built.published = other.published ∧
      SamePayloads (admitted [publicWebhook] built.event.post.board)
        (eventDeliveries serde mac built [publicWebhook] none)
        (eventDeliveries serde mac other [publicWebhook] none)) ∧
    ∃ post other, contractPostFromValue serde "https://ptchan.test" (postFrom (.arr [.str "PT"])) = .ok post ∧
      contractPostFromValue serde "https://ptchan.test"
        (postFrom (.obj [("code", .str "PT"), ("name", .str "Portugal")])) = .ok other ∧ post = other := by
  have hhides := outputs_hide_identity serde mac "https://ptchan.test" observedAt
  constructor
  · have hvalue : DecodedPost.tryFrom serde value = .ok ⟨plainPost, some "c"⟩ := rfl
    have helsewhere : DecodedPost.tryFrom serde elsewhere = .ok ⟨plainPost, none⟩ := rfl
    have hip : eraseKey "ip" value = eraseKey "ip" elsewhere := by
      simp [value, elsewhere, eraseKey, eraseKeyMembers]
    obtain ⟨hpublished, -, hpayloads⟩ := hhides.1 value elsewhere hip
    obtain ⟨built, hbuilt, hidentity⟩ : ∃ built, gatewayEvent serde "https://ptchan.test" value observedAt = .ok built ∧
        built.posterIdentity = some "c" := ⟨_, gatewayEvent_of_decoded serde hvalue, rfl⟩
    obtain ⟨other, hother, hnone⟩ : ∃ other, gatewayEvent serde "https://ptchan.test" elsewhere observedAt = .ok other ∧
        other.posterIdentity = none := ⟨_, gatewayEvent_of_decoded serde helsewhere, rfl⟩
    rw [hbuilt, hother] at hpublished
    refine ⟨built, other, hbuilt, hother, ?_, Except.ok.inj hpublished,
      hpayloads built other hbuilt hother id [publicWebhook] none⟩
    rintro rfl
    rw [hidentity] at hnone
    cases hnone
  · refine ⟨contractPost "https://ptchan.test" (decodedFrom "PT"),
      contractPost "https://ptchan.test" (decodedFrom "PT"), rfl, rfl, ?_⟩
    exact hhides.2 (postFrom (.arr [.str "PT"])) (postFrom (.obj [("code", .str "PT"), ("name", .str "Portugal")]))
      _ _ rfl rfl rfl rfl (agree_postFrom rfl rfl rfl)

/-- The code of a country given as an array is published, although neither post has a member `country.code`. -/
theorem country_array_is_read :
    Agree (Json.get? "code") (eraseKey "ip" (postFrom (.arr [.str "PT"])))
        (eraseKey "ip" (postFrom (.arr [.str "FR"]))) ∧
      contractPostFromValue serde "https://ptchan.test" (postFrom (.arr [.str "PT"])) =
        .ok (contractPost "https://ptchan.test" (decodedFrom "PT")) ∧
      contractPostFromValue serde "https://ptchan.test" (postFrom (.arr [.str "FR"])) =
        .ok (contractPost "https://ptchan.test" (decodedFrom "FR")) ∧
      contractPost "https://ptchan.test" (decodedFrom "PT") ≠
        contractPost "https://ptchan.test" (decodedFrom "FR") := by
  refine ⟨agree_postFrom rfl rfl rfl, rfl, rfl, ?_⟩
  intro h
  exact absurd (congrArg Post.country h) (by decide)

end Sample

end PtchanGateway
