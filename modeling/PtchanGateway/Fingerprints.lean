import PtchanGateway.Deduplication
import PtchanGateway.Signing

/-!
Poster fingerprints. A fingerprint is a tag over the name of the webhook, a NUL and the identity. Identities
may hold NULs of their own, but names hold none, so the first NUL of an input ends its name. Under one secret
a poster keeps one fingerprint at a webhook, and a fingerprint that two posters or two webhooks share is a
collision of the tags.
-/

namespace PtchanGateway

open TextRfc3339 TextRust JsonValue Config Upstream Store

/-- What is tagged for an identity in a scope. -/
def fingerprintInput (scope source : String) : Bytes := asBytes scope ++ [0] ++ asBytes source

/-- A name has no NUL. -/
theorem zero_not_mem_of_valid {name : String} (h : validIntegrationName name = true) : 0 ∉ asBytes name := by
  simp only [validIntegrationName, Bool.and_eq_true, List.all_eq_true, Bool.or_eq_true, beq_iff_eq] at h
  have hchars : ∀ c ∈ name.toList, 0 < c.toNat ∧ c.toNat < 128 := by
    intro c hc
    rcases h.2 c hc with (halnum | rfl) | rfl
    · have := toNat_of_asciiAlphanumeric halnum
      omega
    · decide
    · decide
  rw [← String.ofList_toList (s := name), asBytes_ascii fun c hc => (hchars c hc).2]
  intro hzero
  obtain ⟨c, hc, hbyte⟩ := List.mem_map.mp hzero
  have hvalue := congrArg UInt8.toNat hbyte
  rw [UInt8.toNat_ofNat', UInt8.toNat_zero] at hvalue
  have := hchars c hc
  omega

/-- Inputs tell the scope and the identity. -/
theorem fingerprintInput_inj {scope other source otherSource : String} (hscope : validIntegrationName scope = true)
    (hother : validIntegrationName other = true) :
    fingerprintInput scope source = fingerprintInput other otherSource ↔ scope = other ∧ source = otherSource := by
  constructor
  · intro h
    simp only [fingerprintInput, List.append_assoc, List.singleton_append] at h
    obtain ⟨hname, hidentity⟩ :=
      append_separator_inj (zero_not_mem_of_valid hscope) (zero_not_mem_of_valid hother) h
    exact ⟨asBytes_inj hname, asBytes_inj hidentity⟩
  · rintro ⟨hname, hidentity⟩
    rw [hname, hidentity]

/-- The identity is the trimmed text at `/ip/cloak`, unless that is blank or no text. -/
theorem posterIdentitySource_eq_some {value : Json} {identity : String} :
    posterIdentitySource value = some identity ↔
      ∃ text, (value.get? "ip").bind (Json.get? "cloak") = some (.str text) ∧ trim text = identity ∧ identity ≠ "" := by
  have hstr : ∀ found : Json, ∀ text, found.asStr = some text ↔ found = .str text := by
    intro found text
    cases found <;> simp [Json.asStr]
  rw [posterIdentitySource, Option.filter_eq_some_iff, Option.map_eq_some_iff]
  constructor
  · rintro ⟨⟨text, htext, htrim⟩, hnonempty⟩
    obtain ⟨found, hfound, hasStr⟩ := Option.bind_eq_some_iff.mp htext
    rw [(hstr found text).mp hasStr] at hfound
    exact ⟨text, hfound, htrim, by simpa using hnonempty⟩
  · rintro ⟨text, hfound, htrim, hne⟩
    refine ⟨⟨text, ?_, htrim⟩, by simpa using hne⟩
    rw [hfound]
    rfl

section Webhooks

variable (mac : Bytes → Bytes → Bytes) (config : Config)

/-- The event that the webhook gets about the value has this fingerprint. -/
def Carries (webhook : WebhookConfig) (value : Json) (fingerprint : Option String) : Prop :=
  ∃ serde baseUrl observedAt built origin payload event, gatewayEvent serde baseUrl value observedAt = .ok built ∧
    deliveredEvent mac ⟨attributed built.event origin, payload, built.posterIdentity⟩ config.fingerprintSecret
      webhook = .ok event ∧ event.post.posterFingerprint = fingerprint

variable {mac config} {webhook otherWebhook : WebhookConfig} {value otherValue : Json}

theorem identity_of_gatewayEvent {serde : Serde} {baseUrl : String} {observedAt : Instant} {built : BuiltEvent}
    (h : gatewayEvent serde baseUrl value observedAt = .ok built) :
    built.posterIdentity = posterIdentitySource value ∧ built.event.post.posterFingerprint = none := by
  obtain ⟨decoded, hdecoded, rfl⟩ := decoded_of_gatewayEvent serde h
  exact ⟨identity_of_tryFrom hdecoded, rfl⟩

/-- The fingerprint is that of the value's identity in the webhook's scope. -/
theorem Carries.eq {fingerprint : Option String} (h : Carries mac config webhook value fingerprint) :
    (webhook.includePosterFingerprint = false ∧ fingerprint = none) ∨
      ∃ secret, webhook.includePosterFingerprint = true ∧ config.fingerprintSecret = some secret ∧
        fingerprint = posterFingerprint mac secret webhook.name (posterIdentitySource value) := by
  obtain ⟨serde, baseUrl, observedAt, built, origin, payload, event, hbuilt, hdelivered, rfl⟩ := h
  obtain ⟨hidentity, hnone⟩ := identity_of_gatewayEvent hbuilt
  unfold deliveredEvent at hdelivered
  cases hincludes : webhook.includePosterFingerprint with
  | false =>
      rw [hincludes, if_neg Bool.false_ne_true, Except.ok.injEq] at hdelivered
      rw [← hdelivered]
      exact .inl ⟨rfl, hnone⟩
  | true =>
      rw [hincludes, if_pos rfl] at hdelivered
      cases hsecret : config.fingerprintSecret with
      | none =>
          rw [hsecret] at hdelivered
          cases hdelivered
      | some secret =>
          rw [hsecret, Except.ok.injEq] at hdelivered
          refine .inr ⟨secret, rfl, rfl, ?_⟩
          rw [← hdelivered, ← hidentity]

theorem valid_webhook_name {getSecret : String → String → Except Chain String} {parsers : Parsers} {file : FileConfig}
    (h : resolve getSecret parsers file = .ok config) (hwebhook : webhook ∈ config.webhooks) :
    validIntegrationName webhook.name = true := by
  obtain ⟨resolved, hfrom⟩ := resolvedFrom_of_resolve h
  rw [hfrom.webhooks] at hwebhook
  have hname := (webhook_names_sublist hfrom.resolves).subset (List.mem_map_of_mem hwebhook)
  obtain ⟨given, hgiven, hsame⟩ := List.mem_map.mp hname
  rw [← hsame]
  exact valid_names_of_validate hfrom.accepted.integrations given hgiven

theorem isSome_carried {fingerprint : Option String} (h : Carries mac config webhook value fingerprint) :
    fingerprint.isSome = true ↔
      webhook.includePosterFingerprint = true ∧ (posterIdentitySource value).isSome = true := by
  rcases h.eq with ⟨hincludes, rfl⟩ | ⟨secret, hincludes, -, rfl⟩
  · simp [hincludes]
  · simp [hincludes, posterFingerprint]

/-- Equal tags are tags of equal inputs, unless they collide. -/
theorem input_of_carried {fingerprint : String} (h : Carries mac config webhook value (some fingerprint))
    (hother : Carries mac config otherWebhook otherValue (some fingerprint)) :
    ∃ secret source otherSource, config.fingerprintSecret = some secret ∧
      posterIdentitySource value = some source ∧ posterIdentitySource otherValue = some otherSource ∧
      (fingerprintInput webhook.name source = fingerprintInput otherWebhook.name otherSource ∨
        Collision mac (asBytes secret)) := by
  rcases h.eq with ⟨-, hnone⟩ | ⟨secret, -, hsecret, heq⟩
  · cases hnone
  rcases hother.eq with ⟨-, hnone⟩ | ⟨otherSecret, -, hotherSecret, hotherEq⟩
  · cases hnone
  rw [hsecret, Option.some.injEq] at hotherSecret
  subst hotherSecret
  obtain ⟨source, hsource, htag⟩ := Option.map_eq_some_iff.mp heq.symm
  obtain ⟨otherSource, hotherSource, hotherTag⟩ := Option.map_eq_some_iff.mp hotherEq.symm
  refine ⟨secret, source, otherSource, hsecret, hsource, hotherSource, ?_⟩
  have hhex := (String.append_right_inj _).mp (htag.trans hotherTag.symm)
  have hdecoded := congrArg (fun digits => hexDecode digits.toList) hhex
  rw [hexDecode_hexEncode, hexDecode_hexEncode, Option.some.injEq] at hdecoded
  by_cases hinput : fingerprintInput webhook.name source = fingerprintInput otherWebhook.name otherSource
  · exact .inl hinput
  · exact .inr ⟨_, _, hinput, hdecoded⟩

/-- The inputs of the tags determine the scope and the identity. So under a resolved configuration a poster has
one fingerprint in all that a webhook gets, and two posters or two webhooks have the same one only if the tags
collide; and a value without an identity gives none. -/
theorem fingerprints_are_scoped {getSecret : String → String → Except Chain String} {parsers : Parsers}
    {file : FileConfig} (hresolve : resolve getSecret parsers file = .ok config) (mac : Bytes → Bytes → Bytes) :
    (∀ scope other source otherSource, validIntegrationName scope = true → validIntegrationName other = true →
      (fingerprintInput scope source = fingerprintInput other otherSource ↔ scope = other ∧ source = otherSource)) ∧
    (∀ secret scope source, posterFingerprint mac secret scope (some source) =
      some ("hmac-sha256:" ++ hexEncode (mac (asBytes secret) (fingerprintInput scope source)))) ∧
    (∀ value identity, posterIdentitySource value = some identity ↔ ∃ text,
      (value.get? "ip").bind (Json.get? "cloak") = some (.str text) ∧ trim text = identity ∧ identity ≠ "") ∧
    (∀ webhook ∈ config.webhooks, ∀ value fingerprint, Carries mac config webhook value fingerprint →
      (fingerprint.isSome = true ↔
        webhook.includePosterFingerprint = true ∧ (posterIdentitySource value).isSome = true)) ∧
    (∀ webhook ∈ config.webhooks, ∀ value otherValue fingerprint otherFingerprint,
      posterIdentitySource value = posterIdentitySource otherValue →
      Carries mac config webhook value fingerprint → Carries mac config webhook otherValue otherFingerprint →
        fingerprint = otherFingerprint) ∧
    ∀ webhook ∈ config.webhooks, ∀ otherWebhook ∈ config.webhooks, ∀ value otherValue fingerprint,
      Carries mac config webhook value (some fingerprint) →
      Carries mac config otherWebhook otherValue (some fingerprint) →
        (webhook = otherWebhook ∧ posterIdentitySource value = posterIdentitySource otherValue) ∨
          ∃ secret, config.fingerprintSecret = some secret ∧ Collision mac (asBytes secret) := by
  refine ⟨?_, fun _ _ _ => rfl, fun _ _ => posterIdentitySource_eq_some, ?_, ?_, ?_⟩
  · intro scope other source otherSource hscope hother
    exact fingerprintInput_inj hscope hother
  · intro webhook _ value fingerprint h
    exact isSome_carried h
  · intro webhook _ value otherValue fingerprint otherFingerprint hidentity h hother
    rcases h.eq with ⟨hincludes, rfl⟩ | ⟨secret, hincludes, hsecret, rfl⟩
    · rcases hother.eq with ⟨-, rfl⟩ | ⟨_, hincluded, -⟩
      · rfl
      · rw [hincludes] at hincluded
        cases hincluded
    · rcases hother.eq with ⟨hexcluded, -⟩ | ⟨otherSecret, -, hotherSecret, rfl⟩
      · rw [hincludes] at hexcluded
        cases hexcluded
      · rw [hsecret, Option.some.injEq] at hotherSecret
        rw [hotherSecret, hidentity]
  · intro webhook hwebhook otherWebhook hotherWebhook value otherValue fingerprint h hother
    obtain ⟨secret, source, otherSource, hsecret, hsource, hotherSource, hinput | hcollision⟩ :=
      input_of_carried h hother
    · obtain ⟨hname, hidentity⟩ := (fingerprintInput_inj (valid_webhook_name hresolve hwebhook)
        (valid_webhook_name hresolve hotherWebhook)).mp hinput
      have hsame := List.inj_on_of_nodup_map (resolution_of_resolve hresolve).webhookNames hwebhook hotherWebhook hname
      exact .inl ⟨hsame, by rw [hsource, hotherSource, hidentity]⟩
    · exact .inr ⟨secret, hsecret, hcollision⟩

end Webhooks

namespace Sample

theorem fingerprints_are_scoped_announced :
    resolve (fun _ _ => .ok "secret") parsers file = .ok config ∧
      ∃ webhook ∈ config.webhooks, ∃ fingerprint, Carries mac config webhook value (some fingerprint) := by
  have hresolve : resolve (fun _ _ => .ok "secret") parsers file = .ok config := rfl
  obtain ⟨-, -, -, hsome, -, -⟩ := fingerprints_are_scoped hresolve mac
  obtain ⟨decoded, hdecoded⟩ : ∃ decoded, DecodedPost.tryFrom serde value = .ok decoded := ⟨_, rfl⟩
  have hbuilt : gatewayEvent serde "https://ptchan.test" value observedAt = .ok _ :=
    gatewayEvent_of_decoded serde hdecoded
  have hcarries : Carries mac config ⟨"alerts", "http://alerts.test/", ["i"], true, "secret"⟩ value _ :=
    ⟨serde, _, observedAt, _, none, [], _, hbuilt, rfl, rfl⟩
  obtain ⟨fingerprint, hfingerprint⟩ := Option.isSome_iff_exists.mp
    ((hsome _ List.mem_cons_self value _ hcarries).mpr ⟨rfl, rfl⟩)
  rw [hfingerprint] at hcarries
  exact ⟨hresolve, _, List.mem_cons_self, fingerprint, hcarries⟩

end Sample

end PtchanGateway
