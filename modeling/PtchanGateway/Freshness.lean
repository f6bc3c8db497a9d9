import PtchanGateway.Mediation
import PtchanGateway.Sdk

/-! The window in which a signed timestamp counts as fresh. The gateway drops the fraction of the skew before
it compares, so a request is accepted until the skew reaches 301 seconds; the Go client compares the skew as it
is. Both mean five minutes, and they differ in the second after. -/

namespace PtchanGateway

open TextRfc3339 TextRust TextGo JsonValue Config

/-- The two moments are at most five minutes apart, in either direction. -/
def Fresh (now stamp : Moment) : Prop := (now.signedDurationSince stamp).natAbs ≤ 300 * 10 ^ 9

instance freshDecidable (now stamp : Moment) : Decidable (Fresh now stamp) := by
  unfold Fresh
  infer_instance

/-- A request that carries a timestamp and a signature that matches. -/
structure Matching (mac : Bytes → Bytes → Bytes) (secret : String) (request : Request) (body : Option Bytes)
    (stamp : Moment) : Prop where
  signed : ∃ timestamp signature, header request.headers "x-ptchan-timestamp" = some timestamp ∧
    parseRfc3339 timestamp = some stamp ∧ header request.headers "x-ptchan-signature" = some signature ∧
    verifyRequestSignature mac secret timestamp request.method request.uri body signature = .ok ()

theorem verifyRequestHeaders_of_matching {mac : Bytes → Bytes → Bytes} {secret : String} {request : Request}
    {body : Option Bytes} {stamp : Moment} (h : Matching mac secret request body stamp) (now : Instant) :
    verifyRequestHeaders mac now secret request body = .ok () ↔
      (now.moment.signedDurationSince stamp).natAbs < 301 * 10 ^ 9 := by
  obtain ⟨timestamp, signature, htimestamp, hstamp, hsignature, hverified⟩ := h.signed
  have hskew : (now.moment.signedDurationSince stamp).natAbs / 10 ^ 9 ≤ requestMaxSkewSeconds ↔
      (now.moment.signedDurationSince stamp).natAbs < 301 * 10 ^ 9 := by
    rw [requestMaxSkewSeconds]
    omega
  simp only [verifyRequestHeaders, bind_eq_ok, orBail_eq_ok, ensure_eq_ok, decide_eq_true_eq, htimestamp,
    hsignature, Option.some.injEq]
  constructor
  · rintro ⟨_, rfl, parsed, hparsed, _, hwithin, -⟩
    rw [hstamp, Option.some.injEq] at hparsed
    exact hskew.1 (hparsed ▸ hwithin)
  · intro hwithin
    exact ⟨timestamp, rfl, stamp, hstamp, (), hskew.2 hwithin, signature, rfl, hverified⟩

namespace Sdk

def defaultWebhookMaxBodyBytes : Nat := 2 ^ 20

def defaultWebhookClockSkew : Nat := 5 * 60 * 10 ^ 9

def WebhookVerificationOptions.default (now : Moment) : WebhookVerificationOptions :=
  ⟨defaultWebhookMaxBodyBytes, defaultWebhookClockSkew, now⟩

/-- Everything `VerifyWebhookBody` checks but the age of the timestamp. -/
structure Verifiable (fault : Bytes → String) (mac : Bytes → Bytes → Bytes)
    (secret eventId timestamp gotSignature : String) (body : Bytes) (observed : Moment) (event : WebhookEvent) :
    Prop where
  nonblank : (trim secret).isEmpty = false
  size : body.length ≤ defaultWebhookMaxBodyBytes
  given : eventId ≠ "" ∧ timestamp ≠ "" ∧ gotSignature ≠ ""
  parsed : parseTime timestamp.toList = some observed
  signed : validSignature gotSignature (webhookSignature mac secret timestamp body) = true
  decoded : decodeWebhookEvent fault body = .ok event
  named : event.eventId = eventId

theorem verifyWebhookBody_of_verifiable {fault : Bytes → String} {mac : Bytes → Bytes → Bytes}
    {secret eventId timestamp gotSignature : String} {body : Bytes} {observed : Moment} {event : WebhookEvent}
    (h : Verifiable fault mac secret eventId timestamp gotSignature body observed event) (now : Moment) :
    verifyWebhookBody fault mac (.default now) secret eventId timestamp gotSignature body = .ok event ↔
      Fresh now observed := by
  have hskew : (WebhookVerificationOptions.default now).maxClockSkew = 300 * 10 ^ 9 := rfl
  have hsize : ¬(WebhookVerificationOptions.default now).maxBodyBytes < body.length := not_lt.2 h.size
  have hgiven : ¬(eventId = "" ∨ timestamp = "" ∨ gotSignature = "") := by
    rintro (hmissing | hmissing | hmissing)
    · exact h.given.1 hmissing
    · exact h.given.2.1 hmissing
    · exact h.given.2.2 hmissing
  have hnow : (WebhookVerificationOptions.default now).now = now := rfl
  unfold verifyWebhookBody
  rw [if_neg (by simp [h.nonblank]), if_neg hsize, if_neg hgiven, h.parsed]
  simp only [hskew, hnow]
  by_cases hold : 300 * 10 ^ 9 < (now.signedDurationSince observed).natAbs
  · rw [if_pos hold]
    exact iff_of_false (by simp) (not_le.2 hold)
  · rw [if_neg hold, h.signed, h.decoded]
    simp only [Bool.not_true, Bool.false_eq_true, if_false, ne_eq, h.named, not_true_eq_false]
    exact iff_of_true trivial (not_lt.1 hold)

/-- The client's rule: of a webhook that is in order but for its age, five minutes decide. -/
def WindowRule : Prop :=
  ∀ fault mac secret eventId timestamp gotSignature body observed event,
    Verifiable fault mac secret eventId timestamp gotSignature body observed event → ∀ now,
      (verifyWebhookBody fault mac (.default now) secret eventId timestamp gotSignature body = .ok event ↔
        Fresh now observed)

end Sdk

/-- The gateway keeps the rule of five minutes, and so agrees with the client, exactly at the timestamps that
are not in the second after the window. -/
theorem window_is_five_minutes_iff {mac : Bytes → Bytes → Bytes} {secret : String} {request : Request}
    {body : Option Bytes} {stamp : Moment} (h : Matching mac secret request body stamp) (now : Instant) :
    ((verifyRequestHeaders mac now secret request body = .ok () ↔ Fresh now.moment stamp) ∧ Sdk.WindowRule) ↔
      ¬(300 * 10 ^ 9 < (now.moment.signedDurationSince stamp).natAbs ∧
        (now.moment.signedDurationSince stamp).natAbs < 301 * 10 ^ 9) := by
  have hrule : Sdk.WindowRule := fun _ _ _ _ _ _ _ _ _ hverifiable now =>
    Sdk.verifyWebhookBody_of_verifiable hverifiable now
  rw [and_iff_left hrule, verifyRequestHeaders_of_matching h, Fresh]
  constructor
  · rintro hsame ⟨hlate, hwithin⟩
    exact absurd (hsame.1 hwithin) (not_le.2 hlate)
  · intro houtside
    constructor
    · intro hwithin
      exact not_lt.1 fun hlate => houtside ⟨hlate, hwithin⟩
    · intro hfresh
      exact lt_of_le_of_lt hfresh (by decide)

namespace Sample

theorem matching_reply : Matching replyMac "secret" replyCall.request
    (some (asBytes "\x7b\"message\":\"hi\"\x7d")) ⟨63951681600, 0⟩ :=
  ⟨"2026-07-19T12:00:00Z", "hmac-sha256=b2e859a93d776b58892ebaf202cb1945b5ed6780ba45e977220ad8df7a57b21b",
    by decide +kernel, by decide +kernel, by decide +kernel, by decide +kernel⟩

theorem window_is_five_minutes_reply :
    verifyRequestHeaders replyMac observedAt "secret" replyCall.request
        (some (asBytes "\x7b\"message\":\"hi\"\x7d")) = .ok () ↔ Fresh observedAt.moment ⟨63951681600, 0⟩ :=
  ((window_is_five_minutes_iff matching_reply observedAt).2 (by decide)).1

/-- The MAC of the read below under the secret below. -/
def lateMac (_ _ : Bytes) : Bytes :=
  [35, 87, 144, 115, 70, 72, 149, 47, 247, 94, 30, 106, 247, 150, 63, 225, 83, 158, 32, 220, 105, 102, 146, 18,
    61, 253, 99, 103, 196, 74, 151, 216]

/-- A read signed half a second too early. -/
def lateRead : Request where
  method := "GET"
  uri := ⟨"/integration/v1/threads/i/42", some "/integration/v1/threads/i/42"⟩
  headers := [("x-ptchan-integration", asBytes "bridge"), ("x-ptchan-timestamp", asBytes "2026-07-19T11:55:00.5Z"),
    ("x-ptchan-signature",
      asBytes "hmac-sha256=235790734648952ff75e1e6af7963fe1539e20dc696692123dfd6367c44a97d8")]
  body := .ok []

theorem late_read_is_accepted :
    Matching lateMac "secret" lateRead none ⟨63951681300, 500000000⟩ ∧
      ¬(verifyRequestHeaders lateMac observedAt "secret" lateRead none = .ok () ↔
        Fresh observedAt.moment ⟨63951681300, 500000000⟩) := by
  have hmatching : Matching lateMac "secret" lateRead none ⟨63951681300, 500000000⟩ :=
    ⟨"2026-07-19T11:55:00.5Z", "hmac-sha256=235790734648952ff75e1e6af7963fe1539e20dc696692123dfd6367c44a97d8",
      by decide +kernel, by decide +kernel, by decide +kernel, by decide +kernel⟩
  refine ⟨hmatching, ?_⟩
  rw [verifyRequestHeaders_of_matching hmatching]
  decide

end Sample

end PtchanGateway
