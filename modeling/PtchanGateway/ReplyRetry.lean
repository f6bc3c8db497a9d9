import PtchanGateway.Mediation

/-!
When a retry is advised. The answer to a submitted reply is judged by its status and, unless it is a success, by
words in its body; whether the gateway then advises a retry follows from the code alone. A reply may exist
after any answer but a 4xx, and yet the words of a rate limit are believed whatever the status.
-/

namespace PtchanGateway

open TextRust Config

/-- The words ptchan asks for patience with, and none of the words that are looked for before them. -/
def asksToWait (body : String) : Bool :=
  let haystack := String.ofList (body.toList.map toAsciiLowercase)
  !contains haystack "captcha" && !(contains haystack "block bypass" || contains haystack "bypass_minimal") &&
    (contains haystack "flood" || contains haystack "wait before")

theorem retryable_iff (code : ErrorCode) :
    code.retryable = true ↔ code = .rateLimited ∨ code = .upstreamUnavailable := by
  cases code <;> decide

theorem classifyUpstreamError_ne_unavailable (status : Nat) (body : String) :
    classifyUpstreamError status body ≠ .upstreamUnavailable := by
  have hmem := classifyUpstreamError_mem status body
  intro heq
  rw [heq] at hmem
  exact absurd hmem (by decide)

/-- Of an answer that is not 429 a retry is advised exactly if its body asks to wait. -/
theorem retryable_classify {status : Nat} (hstatus : status ≠ 429) (body : String) :
    (classifyUpstreamError status body).retryable = true ↔ asksToWait body = true := by
  rw [retryable_iff, or_iff_left (classifyUpstreamError_ne_unavailable status body)]
  simp only [classifyUpstreamError, asksToWait, beq_eq_false_iff_ne.2 hstatus, Bool.false_or]
  generalize String.ofList (body.toList.map toAsciiLowercase) = haystack
  cases contains haystack "captcha" with
  | true => simp
  | false =>
      cases contains haystack "block bypass" || contains haystack "bypass_minimal" with
      | true => simp
      | false =>
          cases contains haystack "flood" || contains haystack "wait before" with
          | true => simp
          | false =>
              simp only [Bool.false_eq_true, if_false, Bool.and_false, iff_false]
              split_ifs <;> decide

theorem not_retryable_unreadable {status : Nat} (hstatus : status ≠ 429) :
    (classifyUpstreamError status "").retryable = false := by
  rw [← Bool.not_eq_true, retryable_classify hstatus]
  decide +kernel

section Outcomes

variable (client : Client) (baseUrl : String) (posting : PostingConfig) (board : String) (threadId : Int64)

/-- The response to a reply whose submission came out so. -/
def submitted (answer : Answer) : Response := replyOutcome (replyAnswer client baseUrl posting board threadId answer)

/-- No answer, or a success that gives no number of the new post. -/
def Undecided : Answer → Prop
  | .failed _ => True
  | .answered status (.error _) => isSuccess status = true
  | .answered status (.ok body) => isSuccess status = true ∧ ∀ postId, client.createdPost body ≠ .ok (some postId)

/-- How the body of an answer is classified, read or not. -/
def bodyCode (status : Nat) (body : Except String String) : ErrorCode :=
  classifyUpstreamError status (body.toOption.getD "")

/-- The messages of a reply in an unknown state. -/
def undecidedMessages : List String :=
  ["ptchan may have accepted the reply; check the thread before retrying",
    "ptchan reply result is unknown; check the thread before retrying"]

/-- A response that advises a retry only where no reply can exist, and says nothing of the answer but its code. -/
structure RetrySafe (answer : Answer) : Prop where
  advised : ∀ status body, submitted client baseUrl posting board threadId answer = .error status body →
    body.retryable = true → ∃ upstream text, answer = .answered upstream text ∧ isClientError upstream = true
  undecided : Undecided client answer → ∃ message ∈ undecidedMessages,
    submitted client baseUrl posting board threadId answer = .error 502 ⟨.replyStateUnknown, message, false, none⟩
  accepted : ∀ response, submitted client baseUrl posting board threadId answer = .reply response →
    ∃ upstream body, answer = .answered upstream (.ok body) ∧ isSuccess upstream = true ∧
      client.createdPost body = .ok (some response.postId)
  silent : ∀ status body other, answer = .answered status body → isSuccess status = false →
    bodyCode status other = bodyCode status body →
    submitted client baseUrl posting board threadId (.answered status other) =
      submitted client baseUrl posting board threadId answer

/-- An answer that is neither a success nor a 4xx, and whose body asks to wait. -/
def Misread : Answer → Prop
  | .answered status (.ok body) => isSuccess status = false ∧ isClientError status = false ∧ asksToWait body = true
  | _ => False

/-- A rejection is answered with its code alone. -/
theorem submitted_of_rejected {status : Nat} (hstatus : isSuccess status = false) (body : Except String String) :
    submitted client baseUrl posting board threadId (.answered status body) =
      .error (postingStatusForUpstream status) ⟨bodyCode status body,
        UpstreamReplyError.publicMessage ⟨status, bodyCode status body⟩, (bodyCode status body).retryable,
        some status⟩ := by
  cases body with
  | error err => simp [submitted, replyAnswer, hstatus, replyOutcome, bodyCode, Except.toOption]
  | ok text => simp [submitted, replyAnswer, hstatus, replyOutcome, bodyCode, Except.toOption]

/-- A success is answered with its number, or not decided. -/
theorem submitted_of_success {status : Nat} (hstatus : isSuccess status = true) (body : Except String String) :
    (∃ text postId, body = .ok text ∧ client.createdPost text = .ok (some postId) ∧
      submitted client baseUrl posting board threadId (.answered status body) = .reply ⟨board, threadId, postId,
        threadUrl baseUrl board threadId ++ "#" ++ toString postId.toInt, ⟨.integration, posting.name⟩⟩) ∨
    (Undecided client (.answered status body) ∧ ∃ message ∈ undecidedMessages,
      submitted client baseUrl posting board threadId (.answered status body) =
        .error 502 ⟨.replyStateUnknown, message, false, none⟩) := by
  cases body with
  | error err =>
      refine .inr ⟨hstatus, _, List.mem_cons_self, ?_⟩
      simp [submitted, replyAnswer, hstatus, replyOutcome]
  | ok text =>
      cases hcreated : client.createdPost text with
      | error err =>
          refine .inr ⟨⟨hstatus, by simp [hcreated]⟩, _, List.mem_cons_self, ?_⟩
          simp [submitted, replyAnswer, hstatus, hcreated, replyOutcome]
      | ok created =>
          cases created with
          | none =>
              refine .inr ⟨⟨hstatus, by simp [hcreated]⟩, _, List.mem_cons_self, ?_⟩
              simp [submitted, replyAnswer, hstatus, hcreated, replyOutcome]
          | some postId =>
              refine .inl ⟨text, postId, rfl, hcreated, ?_⟩
              simp [submitted, replyAnswer, hstatus, hcreated, replyOutcome]

variable {client baseUrl posting board threadId}

theorem retrySafe_failed (err : String) : RetrySafe client baseUrl posting board threadId (.failed err) where
  advised := fun _ body hsubmitted hretryable => by
    obtain ⟨-, rfl⟩ := Response.error.inj hsubmitted
    cases hretryable
  undecided := fun _ => ⟨_, List.mem_cons_of_mem _ List.mem_cons_self, rfl⟩
  accepted := fun _ hsubmitted => by cases hsubmitted
  silent := fun _ _ _ hanswer => by cases hanswer

theorem retrySafe_success {status : Nat} (hstatus : isSuccess status = true) (body : Except String String) :
    RetrySafe client baseUrl posting board threadId (.answered status body) := by
  have hsilent : ∀ upstream text, Answer.answered status body = .answered upstream text →
      ¬isSuccess upstream = false := by
    rintro upstream text hanswer hnot
    cases hanswer
    rw [hstatus] at hnot
    cases hnot
  rcases submitted_of_success client baseUrl posting board threadId hstatus body with
    ⟨text, postId, rfl, hcreated, hsubmitted⟩ | ⟨-, message, hmessage, hsubmitted⟩
  · refine ⟨?_, ?_, ?_, fun upstream text other hanswer hnot => absurd hnot (hsilent upstream text hanswer)⟩
    · intro _ _ herror
      rw [hsubmitted] at herror
      cases herror
    · rintro ⟨-, hundecided⟩
      exact absurd hcreated (hundecided postId)
    · intro response hreply
      rw [hsubmitted] at hreply
      obtain rfl := Response.reply.inj hreply
      exact ⟨status, text, rfl, hstatus, hcreated⟩
  · refine ⟨?_, fun _ => ⟨message, hmessage, hsubmitted⟩, ?_,
      fun upstream text other hanswer hnot => absurd hnot (hsilent upstream text hanswer)⟩
    · intro _ body herror hretryable
      rw [hsubmitted] at herror
      obtain ⟨-, rfl⟩ := Response.error.inj herror
      cases hretryable
    · intro response hreply
      rw [hsubmitted] at hreply
      cases hreply

/-- A rejection is safe if it is a 4xx or its code is not retryable. -/
theorem retrySafe_rejected_iff {status : Nat} (hstatus : isSuccess status = false) (body : Except String String) :
    RetrySafe client baseUrl posting board threadId (.answered status body) ↔
      ((bodyCode status body).retryable = true → isClientError status = true) := by
  have hsubmitted := submitted_of_rejected client baseUrl posting board threadId hstatus
  constructor
  · intro h hretryable
    have hadvised := h.advised _ _ (hsubmitted body)
    generalize bodyCode status body = code at hadvised hretryable
    obtain ⟨upstream, text, hanswer, hclient⟩ := hadvised hretryable
    cases hanswer
    exact hclient
  · intro h
    refine ⟨?_, ?_, ?_, ?_⟩
    · intro _ _ herror hretryable
      rw [hsubmitted] at herror
      generalize bodyCode status body = code at h herror
      obtain ⟨-, rfl⟩ := Response.error.inj herror
      exact ⟨status, body, rfl, h hretryable⟩
    · intro hundecided
      have hsuccess : isSuccess status = true := by
        cases body with
        | error err => exact hundecided
        | ok text => exact hundecided.1
      rw [hstatus] at hsuccess
      cases hsuccess
    · intro response hreply
      rw [hsubmitted] at hreply
      cases hreply
    · intro upstream text other hanswer _ hcode
      cases hanswer
      rw [hsubmitted, hsubmitted, hcode]

theorem misread_iff {status : Nat} (hstatus : isSuccess status = false) (body : Except String String) :
    ((bodyCode status body).retryable = true → isClientError status = true) ↔ ¬Misread (.answered status body) := by
  by_cases hlimit : status = 429
  · have hclient : isClientError status = true := by
      rw [hlimit]
      decide
    apply iff_of_true (fun _ => hclient)
    cases body with
    | error err => exact id
    | ok text =>
        rintro ⟨-, hnot, -⟩
        rw [hclient] at hnot
        cases hnot
  · cases body with
    | error err =>
        refine iff_of_true (fun hretryable => ?_) id
        have hnever : (bodyCode status (.error err)).retryable = false := not_retryable_unreadable hlimit
        rw [hnever] at hretryable
        cases hretryable
    | ok text =>
        have hcode : (bodyCode status (.ok text)).retryable = true ↔ asksToWait text = true :=
          retryable_classify hlimit text
        rw [hcode, Misread, hstatus]
        cases isClientError status <;> simp

/-- A retry is advised only where no reply can exist, unless the answer was misread. -/
theorem retry_is_safe_iff (client : Client) (baseUrl : String) (posting : PostingConfig) (board : String)
    (threadId : Int64) (answer : Answer) :
    RetrySafe client baseUrl posting board threadId answer ↔ ¬Misread answer := by
  cases answer with
  | failed err => exact iff_of_true (retrySafe_failed err) id
  | answered status body =>
      cases hstatus : isSuccess status with
      | true =>
          apply iff_of_true (retrySafe_success hstatus body)
          cases body with
          | error err => exact id
          | ok text =>
              rintro ⟨hnot, -⟩
              rw [hstatus] at hnot
              cases hnot
      | false => rw [retrySafe_rejected_iff hstatus, misread_iff hstatus]

end Outcomes

namespace Sample

/-- A page of a proxy that asks to wait is taken for a rate limit. -/
theorem proxy_page_is_misread :
    ¬RetrySafe client "https://ptchan.test/" bridge "i" 42
      (.answered 503 (.ok "Service unavailable. Please wait before trying again.")) := by
  have hrejected : isSuccess 503 = false := by decide
  have hwaits : asksToWait "Service unavailable. Please wait before trying again." = true := by decide +kernel
  rw [retrySafe_rejected_iff hrejected, misread_iff hrejected, not_not]
  exact ⟨hrejected, by decide, hwaits⟩

end Sample

end PtchanGateway
