import PtchanGateway.Runtime

/-!
Every request to ptchan is mediated. Whatever a caller sends, a route reaches ptchan only after the named
integration's secret has verified the signature of exactly this request, the capability and the board have
been granted and both buckets have accepted; and what it then asks for is fixed by the configured base, the
board and the thread. The two pipelines order their checks differently, so each is inverted once.
-/

namespace PtchanGateway

open TextRfc3339 TextRust JsonValue Config Upstream

variable {Cell : Type} (lib : Libraries Cell) {config : Config} {state : AppState Cell}

/-- What `spawn_http` makes of a configuration, whatever requests have left in the buckets. -/
structure Built (config : Config) (state : AppState Cell) : Prop where
  threadReader : state.threadReader.baseUrl = config.ptchan.baseUrl
  postWriter : state.postWriter.baseUrl = config.ptchan.baseUrl
  integrations : state.integrations = collectBy IntegrationConfig.name config.integrations
  postings : state.postings = collectBy PostingConfig.name config.postings
  limiters : ∀ integration ∈ config.integrations,
    (state.rateLimiters.integrations integration.name).isSome = true

/-- The states in which a configuration is served. -/
inductive Serves (config : Config) : AppState Cell → Prop
  | spawned {state : AppState Cell} (h : AppState.new lib config = .ok state) : Serves config state
  | served {state : AppState Cell} (h : Serves config state) (call : Call) : Serves config (state.serve lib call)

theorem isSome_new {governor : Governor Cell} {integrations : List IntegrationConfig} {global : RateLimitConfig}
    {limiters : RateLimiters Cell} (h : RateLimiters.new governor integrations global = .ok limiters)
    {integration : IntegrationConfig} (hmem : integration ∈ integrations) :
    (limiters.integrations integration.name).isSome = true := by
  simp only [RateLimiters.new, bind_eq_ok, Except.ok.injEq] at h
  obtain ⟨entries, hentries, _, -, rfl⟩ := h
  obtain ⟨entry, hentry, hstep⟩ := exists_of_mapM hentries hmem
  simp only [bind_eq_ok, Except.ok.injEq] at hstep
  obtain ⟨own, -, rfl⟩ := hstep
  rw [Option.isSome_map]
  exact isSome_collectBy hentry

/-- A call of the limiters keeps the buckets that exist. -/
theorem isSome_check {governor : Governor Cell} {limiters : RateLimiters Cell} {integration name : String}
    {capability : Capability} {times : Nat × Nat} (h : (limiters.integrations name).isSome = true) :
    ((limiters.check governor integration capability times).limiters.integrations name).isSome = true := by
  unfold RateLimiters.check
  split
  · exact h
  · simp only [RateLimiters.checkGlobal]
    by_cases hname : name = integration
    · split <;> simp [hname]
    · split <;> simpa [Function.update_of_ne hname] using h

/-- Of an integration with a bucket both buckets have accepted. -/
theorem checks_of_accepted {governor : Governor Cell} {limiters : RateLimiters Cell} {name : String}
    {capability : Capability} {times : Nat × Nat} (hown : (limiters.integrations name).isSome = true)
    (h : (limiters.check governor name capability times).result = .ok ()) :
    (limiters.check governor name capability times).checks =
      [⟨.integration name, capability, true⟩, ⟨.global, capability, true⟩] := by
  obtain ⟨own, hown⟩ := Option.isSome_iff_exists.1 hown
  simp only [RateLimiters.check, hown, RateLimiters.checkGlobal] at h ⊢
  by_cases haccepted : (own.check governor capability times.1).1 = true
  · rw [if_pos haccepted] at h ⊢
    by_cases hglobal : (limiters.global.check governor capability times.2).1 = true
    · simp only [haccepted, hglobal, List.cons_append, List.nil_append]
    · rw [if_neg hglobal] at h
      cases h
  · rw [if_neg haccepted] at h
    cases h

/-- A request leaves the limiters alone or calls them once. -/
def OneCall (times : Nat × Nat) (before after : RateLimiters Cell) : Prop :=
  after = before ∨ ∃ name capability, after = (before.check lib.governor name capability times).limiters

theorem oneCall_prepared (times : Nat × Nat) (board threadId : String) (query : Option (Option UInt64))
    (integration : IntegrationConfig) :
    OneCall lib times state.rateLimiters
      (PreparedRead.new lib state times board threadId query integration).limiters := by
  simp only [PreparedRead.new]
  split
  · exact .inl rfl
  · split
    · exact .inl rfl
    · split <;> exact .inr ⟨_, _, rfl⟩

theorem oneCall_signed (now : Instant) (times : Nat × Nat) (request : Request) :
    OneCall lib times state.rateLimiters (SignedReply.fromRequest lib state now times request).limiters := by
  simp only [SignedReply.fromRequest]
  split
  · exact .inl rfl
  · split
    · exact .inl rfl
    · split
      · exact .inl rfl
      · split
        · exact .inl rfl
        · split
          · exact .inr ⟨_, _, rfl⟩
          · split <;> exact .inr ⟨_, _, rfl⟩

theorem oneCall_handle (call : Call) :
    OneCall lib call.times state.rateLimiters (handle lib state call).limiters := by
  cases hroute : call.route with
  | thread =>
      simp only [handle, hroute, integrationThread]
      split
      · exact .inl rfl
      · split
        · exact .inl rfl
        · split <;> exact oneCall_prepared lib ..
  | reply =>
      simp only [handle, hroute, integrationReply]
      split
      · exact .inl rfl
      · split
        · exact oneCall_signed lib ..
        · split <;> exact oneCall_signed lib ..

theorem Built.new (h : AppState.new lib config = .ok state) : Built config state := by
  obtain ⟨limiters, hlimiters, hstate⟩ := bind_eq_ok.1 h
  rw [Except.ok.injEq] at hstate
  subst hstate
  exact ⟨rfl, rfl, rfl, rfl, fun _ hmem => isSome_new hlimiters hmem⟩

theorem Built.serve (h : Built config state) (call : Call) : Built config (state.serve lib call) := by
  refine ⟨h.threadReader, h.postWriter, h.integrations, h.postings, fun integration hmem => ?_⟩
  have hcall : OneCall lib call.times state.rateLimiters (handle lib state call).limiters := oneCall_handle lib call
  rw [AppState.serve]
  rcases hcall with heq | ⟨name, capability, heq⟩
  · rw [heq]
    exact h.limiters integration hmem
  · rw [heq]
    exact isSome_check (h.limiters integration hmem)

theorem Serves.built (h : Serves lib config state) : Built config state := by
  induction h with
  | spawned h => exact .new lib h
  | served _ call ih => exact ih.serve lib call

/-- A timely request with the MAC that the secret gives to its timestamp, method, target and body. -/
structure SignedWith (now : Instant) (secret : String) (request : Request) (body : Option Bytes)
    (timestamp : String) (digits : List Char) : Prop where
  stamped : header request.headers "x-ptchan-timestamp" = some timestamp
  timely : ∃ moment, parseRfc3339 timestamp = some moment ∧
    (now.moment.signedDurationSince moment).natAbs / 10 ^ 9 ≤ requestMaxSkewSeconds
  signed : header request.headers "x-ptchan-signature" = some ("hmac-sha256=" ++ String.ofList digits)
  verified : hexDecode digits =
    some (lib.mac (asBytes secret) (signedBytes timestamp request.method request.uri.target body))

theorem signedWith_of_verify {now : Instant} {secret : String} {request : Request} {body : Option Bytes}
    (h : verifyRequestHeaders lib.mac now secret request body = .ok ()) :
    ∃ timestamp digits, SignedWith lib now secret request body timestamp digits := by
  simp only [verifyRequestHeaders, verifyRequestSignature, bind_eq_ok, orBail_eq_ok, ensure_eq_ok,
    decide_eq_true_eq, beq_iff_eq] at h
  obtain ⟨timestamp, htimestamp, moment, hmoment, _, hskew, signature, hsignature, digits, hdigits, _, htag, rfl⟩ := h
  rw [stripStart_eq_some] at hdigits
  refine ⟨timestamp, digits, htimestamp, ⟨moment, hmoment, hskew⟩, ?_, htag⟩
  rw [hsignature, Option.some.injEq, ← String.toList_inj, hdigits, String.toList_append]
  exact congrArg _ String.toList_ofList.symm

theorem authenticate_cases {α : Type} (mac : Bytes → Bytes → Bytes) (entries : String → Option α)
    (secret : α → String) (now : Instant) (request : Request) (body : Option Bytes) :
    authenticate mac entries secret now request body = .error authError ∨
      ∃ entry, authenticate mac entries secret now request body = .ok entry := by
  unfold authenticate
  split
  · exact .inl rfl
  · split
    · exact .inl rfl
    · exact .inr ⟨_, rfl⟩

theorem authenticate_eq_ok {α : Type} {mac : Bytes → Bytes → Bytes} {entries : String → Option α}
    {secret : α → String} {now : Instant} {request : Request} {body : Option Bytes} {entry : α}
    (h : authenticate mac entries secret now request body = .ok entry) :
    ∃ name, header request.headers "x-ptchan-integration" = some name ∧ entries name = some entry ∧
      verifyRequestHeaders mac now (secret entry) request body = .ok () := by
  unfold authenticate at h
  split at h
  · cases h
  · rename_i found hfound
    obtain ⟨name, hname, hlookup⟩ := Option.bind_eq_some_iff.1 hfound
    split at h
    · cases h
    · rename_i hverified
      rw [Except.ok.injEq] at h
      subst h
      exact ⟨name, hname, hlookup, hverified⟩

/-! ### The pipelines -/

/-- The checks a request has passed when it reaches ptchan, whichever of them came first. -/
structure Passed (state : AppState Cell) (call : Call) (capability : Capability) (name secret : String)
    (allowedBoards : List String) (body : Option Bytes) (board : String) (threadId : Int64) : Prop where
  named : header call.request.headers "x-ptchan-integration" = some name
  verified : verifyRequestHeaders lib.mac call.now secret call.request body = .ok ()
  captured : ∃ text, lib.extract.path call.request.uri = .ok (board, text) ∧ parseI64 text = some threadId
  allowed : boardAllowed allowedBoards board = true
  accepted : (state.rateLimiters.check lib.governor name capability call.times).result = .ok ()
  checks : (handle lib state call).checks =
    (state.rateLimiters.check lib.governor name capability call.times).checks
  board : validBoardName board = true
  positive : 0 < threadId.toInt

theorem parseI64_of_getD_pos {text : String} (h : 0 < ((parseI64 text).getD 0).toInt) :
    parseI64 text = some ((parseI64 text).getD 0) := by
  cases hparse : parseI64 text with
  | none => rw [hparse] at h; exact absurd h (by decide)
  | some threadId => rfl

theorem PreparedRead.check_eq_ok {integration board : String} {threadId : Int64} {query : Option (Option UInt64)}
    {read : PreparedRead} (h : PreparedRead.check integration board threadId query = .ok read) :
    validBoardName board = true ∧ 0 < threadId.toInt ∧ read.board = board ∧ read.threadId = threadId := by
  unfold PreparedRead.check at h
  split at h
  · cases h
  · rename_i hboard
    split at h
    · cases h
    · rename_i hpositive
      split at h
      · cases h
      · rw [Except.ok.injEq] at h
        subst h
        exact ⟨by simpa using hboard, Int.not_le.1 hpositive, rfl, rfl⟩

theorem PreparedRead.new_eq_ok {times : Nat × Nat} {board text : String} {query : Option (Option UInt64)}
    {integration : IntegrationConfig} {read : PreparedRead}
    (h : (PreparedRead.new lib state times board text query integration).result = .ok read) :
    let checked := state.rateLimiters.check lib.governor integration.name .reading times
    integration.reading = true ∧ integration.boardAllowed board = true ∧ checked.result = .ok () ∧
      (PreparedRead.new lib state times board text query integration).checks = checked.checks ∧
      PreparedRead.check integration.name board ((parseI64 text).getD 0) query = .ok read := by
  simp only [PreparedRead.new] at h ⊢
  split at h
  · cases h
  · rename_i hreading
    rw [if_neg hreading]
    split at h
    · cases h
    · rename_i hallowed
      rw [if_neg hallowed]
      split at h
      · cases h
      · rename_i haccepted
        exact ⟨by simpa using hreading, by simpa using hallowed, haccepted, rfl, h⟩

theorem PreparedRead.sent_fetch {read : PreparedRead} (hboard : validBoardName read.board = true)
    (hpositive : 0 < read.threadId.toInt) :
    (PreparedRead.fetch lib state read).1 =
      some (threadRequest state.threadReader.baseUrl read.board read.threadId) := by
  simp [PreparedRead.fetch, ThreadReader.fetchThread, hboard, Int.not_le.2 hpositive]

theorem SignedReply.fromRequest_eq_ok {now : Instant} {times : Nat × Nat} {request : Request} {board text : String}
    {signed : SignedReply} (hpath : lib.extract.path request.uri = .ok (board, text))
    (h : (SignedReply.fromRequest lib state now times request).result = .ok signed) :
    let checked := state.rateLimiters.check lib.governor signed.posting.name .posting times
    ∃ body, request.body = .ok body ∧ authenticatePosting lib state now request body = .ok signed.posting ∧
      signed.posting.boardAllowed board = true ∧ checked.result = .ok () ∧
      (SignedReply.fromRequest lib state now times request).checks = checked.checks ∧
      lib.extract.replyRequest body = some signed.body := by
  simp only [SignedReply.fromRequest, hpath] at h ⊢
  split at h
  · cases h
  · rename_i body hbody
    rw [hbody]
    split at h
    · cases h
    · rename_i posting hposting
      split at h
      · cases h
      · rename_i hallowed
        split at h
        · cases h
        · rename_i haccepted
          split at h
          · cases h
          · rename_i reply hreply
            rw [Except.ok.injEq] at h
            subst h
            refine ⟨body, rfl, hposting, by simpa using hallowed, haccepted, ?_, hreply⟩
            rw [if_neg hallowed]

/-- A read that is sent has been verified and prepared. -/
theorem prepared_of_sent {now : Instant} {times : Nat × Nat} {request : Request} {sent : UpstreamRequest}
    (h : (integrationThread lib state now times request).sent = some sent) :
    ∃ board text integration read, lib.extract.path request.uri = .ok (board, text) ∧
      verifiedReading lib state now request = .ok integration ∧
      let prepared := PreparedRead.new lib state times board text (lib.extract.limit request.uri) integration
      prepared.result = .ok read ∧ (integrationThread lib state now times request).checks = prepared.checks ∧
        (PreparedRead.fetch lib state read).1 = some sent := by
  simp only [integrationThread] at h ⊢
  split at h
  · cases h
  · rename_i board text hpath
    split at h
    · cases h
    · rename_i integration hverified
      split at h
      · cases h
      · rename_i read hprepared
        exact ⟨board, text, integration, read, hpath, hverified, hprepared, rfl, h⟩

/-- A reply that is sent has been signed and validated. -/
theorem signed_of_sent {now : Instant} {times : Nat × Nat} {request : Request} {sent : UpstreamRequest}
    (h : (integrationReply lib state now times request).sent = some sent) :
    ∃ board text reply, lib.extract.path request.uri = .ok (board, text) ∧
      let signed := SignedReply.fromRequest lib state now times request
      let threadId := (parseI64 text).getD 0
      signed.result = .ok reply ∧ (integrationReply lib state now times request).checks = signed.checks ∧
        validateReply board threadId reply.body.message = .ok () ∧
        (state.postWriter.reply lib.client reply.posting board threadId reply.body).1 = sent := by
  simp only [integrationReply] at h ⊢
  split at h
  · cases h
  · rename_i board text hpath
    split at h
    · cases h
    · rename_i reply hsigned
      split at h
      · cases h
      · rename_i hvalid
        exact ⟨board, text, reply, hpath, hsigned, rfl, hvalid, Option.some.inj h⟩

theorem validateReply_eq_ok {board message : String} {threadId : Int64}
    (h : validateReply board threadId message = .ok ()) : validBoardName board = true ∧ 0 < threadId.toInt := by
  unfold validateReply at h
  split at h
  · cases h
  · rename_i hboard
    split at h
    · cases h
    · rename_i hpositive
      exact ⟨by simpa using hboard, Int.not_le.1 hpositive⟩

theorem passed_of_read (hbuilt : Built config state) {call : Call} (hroute : call.route = .thread)
    {sent : UpstreamRequest} (h : (handle lib state call).sent = some sent) :
    ∃ integration ∈ config.integrations, ∃ board threadId, integration.reading = true ∧
      Passed lib state call .reading integration.name integration.secret integration.allowedBoards none
        board threadId ∧
      sent = threadRequest config.ptchan.baseUrl board threadId := by
  have hhandle : handle lib state call = integrationThread lib state call.now call.times call.request := by
    rw [handle, hroute]
  obtain ⟨board, text, integration, read, hpath, hverified, hprepared, hchecks, hsent⟩ :=
    prepared_of_sent lib (hhandle ▸ h)
  obtain ⟨hreading, hallowed, haccepted, hprechecks, hchecked⟩ := PreparedRead.new_eq_ok lib hprepared
  obtain ⟨hboard, hpositive, hreadBoard, hreadId⟩ := PreparedRead.check_eq_ok hchecked
  obtain ⟨name, hname, hlookup, hsigned⟩ := authenticate_eq_ok hverified
  rw [hbuilt.integrations] at hlookup
  obtain ⟨hmem, rfl⟩ := collectBy_eq_some hlookup
  rw [PreparedRead.sent_fetch lib (hreadBoard ▸ hboard) (hreadId ▸ hpositive), hreadBoard, hreadId,
    hbuilt.threadReader, Option.some.injEq] at hsent
  have hcaptured := parseI64_of_getD_pos hpositive
  refine ⟨integration, hmem, board, _, hreading, ⟨hname, hsigned, ⟨text, hpath, hcaptured⟩, hallowed, haccepted, ?_,
    hboard, hpositive⟩, hsent.symm⟩
  rw [hhandle, hchecks, hprechecks]

theorem passed_of_reply (hbuilt : Built config state) {call : Call} (hroute : call.route = .reply)
    {sent : UpstreamRequest} (h : (handle lib state call).sent = some sent) :
    ∃ posting ∈ config.postings, ∃ board threadId body reply, call.request.body = .ok body ∧
      lib.extract.replyRequest body = some reply ∧
      Passed lib state call .posting posting.name posting.secret posting.allowedBoards (some body) board threadId ∧
      sent = replyRequest config.ptchan.baseUrl posting board threadId reply := by
  have hhandle : handle lib state call = integrationReply lib state call.now call.times call.request := by
    rw [handle, hroute]
  obtain ⟨board, text, ⟨posting, reply⟩, hpath, hresult, hchecks, hvalid, hsent⟩ := signed_of_sent lib (hhandle ▸ h)
  obtain ⟨body, hbody, hauthenticated, hallowed, haccepted, hprechecks, hreply⟩ :=
    SignedReply.fromRequest_eq_ok lib hpath hresult
  obtain ⟨hboard, hpositive⟩ := validateReply_eq_ok hvalid
  obtain ⟨name, hname, hlookup, hsigned⟩ := authenticate_eq_ok hauthenticated
  rw [hbuilt.postings] at hlookup
  obtain ⟨hmem, rfl⟩ := collectBy_eq_some hlookup
  rw [PostWriter.reply, hbuilt.postWriter] at hsent
  have hcaptured := parseI64_of_getD_pos hpositive
  refine ⟨posting, hmem, board, _, body, reply, hbody, hreply, ⟨hname, hsigned, ⟨text, hpath, hcaptured⟩, hallowed,
    haccepted, ?_, hboard, hpositive⟩, hsent.symm⟩
  rw [hhandle, hchecks, hprechecks]

/-- The thread a form is submitted to. -/
def UpstreamRequest.thread? (sent : UpstreamRequest) : Option String := sent.form.bind (List.lookup "thread")

/-- A request to ptchan about a thread of a board. -/
inductive About (baseUrl board : String) (threadId : Int64) : Route → UpstreamRequest → Prop
  | read : About baseUrl board threadId .thread (threadRequest baseUrl board threadId)
  | reply (posting : PostingConfig) (reply : ReplyRequest) :
      About baseUrl board threadId .reply (replyRequest baseUrl posting board threadId reply)

section Addresses

variable {baseUrl board otherBoard : String} {threadId otherId : Int64}

theorem length_of_validBoardName (h : validBoardName board = true) : 1 ≤ board.length ∧ board.length ≤ 32 := by
  simp only [validBoardName, Bool.and_eq_true, decide_eq_true_eq, Bool.not_eq_true'] at h
  obtain ⟨⟨hnonempty, hsize⟩, -⟩ := h
  refine ⟨?_, (length_le_utf8ByteSize board).trans hsize⟩
  rw [Nat.one_le_iff_ne_zero]
  intro hzero
  rw [String.length_eq_zero_iff.1 hzero] at hnonempty
  cases hnonempty

theorem chars_of_validBoardName (h : validBoardName board = true) :
    ∀ c ∈ board.toList, isAsciiAlphanumeric c = true ∨ c = '_' := by
  simp only [validBoardName, Bool.and_eq_true, List.all_eq_true, Bool.or_eq_true, beq_iff_eq] at h
  exact h.2

theorem slash_not_mem (h : validBoardName board = true) : '/' ∉ board.toList := by
  intro hslash
  exact absurd (chars_of_validBoardName h '/' hslash) (by decide)

/-- What stands before a slash and what stands after it are told apart. -/
theorem split_at_slash {rest others : String} (hboard : '/' ∉ board.toList) (hother : '/' ∉ otherBoard.toList)
    (h : board ++ ("/" ++ rest) = otherBoard ++ ("/" ++ others)) : board = otherBoard ∧ rest = others := by
  simp only [← String.toList_inj, String.toList_append] at h ⊢
  exact append_separator_inj hboard hother h

theorem threadJsonUrl_eq (baseUrl board : String) (threadId : Int64) :
    threadJsonUrl baseUrl board threadId =
      trimEndMatches '/' baseUrl ++
        ("/" ++ (board ++ ("/" ++ ("thread/" ++ (toString threadId.toInt ++ ".json"))))) := by
  have hthread : "/thread/" = "/" ++ "thread/" := rfl
  simp only [threadJsonUrl, hthread, String.append_assoc]

theorem postingUrl_eq (baseUrl board : String) :
    postingUrl baseUrl board =
      trimEndMatches '/' baseUrl ++ ("/" ++ ("forms" ++ ("/" ++ ("board/" ++ (board ++ "/post"))))) := by
  have hforms : "/forms/board/" = "/" ++ ("forms" ++ ("/" ++ "board/")) := rfl
  simp only [postingUrl, hforms, String.append_assoc]

theorem threadJsonUrl_inj (hboard : validBoardName board = true) (hother : validBoardName otherBoard = true)
    (h : threadJsonUrl baseUrl board threadId = threadJsonUrl baseUrl otherBoard otherId) :
    board = otherBoard ∧ threadId = otherId := by
  rw [threadJsonUrl_eq, threadJsonUrl_eq, String.append_right_inj, String.append_right_inj] at h
  obtain ⟨heq, hrest⟩ := split_at_slash (slash_not_mem hboard) (slash_not_mem hother) h
  rw [String.append_right_inj, String.append_left_inj] at hrest
  exact ⟨heq, Int64.toInt_inj.mp (toString_inj hrest)⟩

theorem postingUrl_inj (h : postingUrl baseUrl board = postingUrl baseUrl otherBoard) : board = otherBoard := by
  rwa [postingUrl, postingUrl, String.append_left_inj, String.append_right_inj] at h

theorem threadJsonUrl_ne_postingUrl (hboard : validBoardName board = true) :
    threadJsonUrl baseUrl board threadId ≠ postingUrl baseUrl otherBoard := by
  intro h
  rw [threadJsonUrl_eq, postingUrl_eq, String.append_right_inj, String.append_right_inj] at h
  obtain ⟨-, hrest⟩ := split_at_slash (slash_not_mem hboard) (by decide) h
  have hhead := congrArg (fun text => text.toList.head?) hrest
  simp [String.toList_append] at hhead

theorem thread?_replyRequest (posting : PostingConfig) (reply : ReplyRequest) :
    (replyRequest baseUrl posting board threadId reply).thread? = some (toString threadId.toInt) := rfl

/-- For a fixed base the address and the submitted thread determine the route, the board and the thread. -/
theorem About.determined {route otherRoute : Route} {sent other : UpstreamRequest}
    (hsent : About baseUrl board threadId route sent) (hother : About baseUrl otherBoard otherId otherRoute other)
    (hboard : validBoardName board = true) (hotherBoard : validBoardName otherBoard = true)
    (hurl : sent.url = other.url) (hthread : sent.thread? = other.thread?) :
    route = otherRoute ∧ board = otherBoard ∧ threadId = otherId := by
  cases hsent with
  | read =>
      cases hother with
      | read => exact ⟨rfl, threadJsonUrl_inj hboard hotherBoard hurl⟩
      | reply => exact absurd hurl (threadJsonUrl_ne_postingUrl hboard)
  | reply =>
      cases hother with
      | read => exact absurd hurl.symm (threadJsonUrl_ne_postingUrl hotherBoard)
      | reply =>
          rw [thread?_replyRequest, thread?_replyRequest, Option.some.injEq] at hthread
          exact ⟨rfl, postingUrl_inj hurl, Int64.toInt_inj.mp (toString_inj hthread)⟩

end Addresses

/-! ### Mediation -/

def Route.capability : Route → Capability
  | .thread => .reading
  | .reply => .posting

/-- The board and the thread in the path of a call. -/
def Captures (call : Call) (board : String) (threadId : Int64) : Prop :=
  ∃ text, lib.extract.path call.request.uri = .ok (board, text) ∧ parseI64 text = some threadId

theorem Captures.unique {call : Call} {board otherBoard : String} {threadId otherId : Int64}
    (h : Captures lib call board threadId) (hother : Captures lib call otherBoard otherId) :
    board = otherBoard ∧ threadId = otherId := by
  obtain ⟨text, hpath, hparse⟩ := h
  obtain ⟨otherText, hotherPath, hotherParse⟩ := hother
  rw [hpath, Except.ok.injEq, Prod.mk.injEq] at hotherPath
  obtain ⟨rfl, rfl⟩ := hotherPath
  rw [hparse, Option.some.injEq] at hotherParse
  exact ⟨rfl, hotherParse⟩

/-- Reading is a flag of an integration, posting a configuration beside it. -/
def Capable (config : Config) (integration : IntegrationConfig) : Capability → Prop
  | .reading => integration.reading = true
  | .posting => ∃ posting ∈ config.postings, PostingOf posting integration

/-- What is known of a call that reaches ptchan: the integration it names has signed it and may do it. -/
structure Mediated (config : Config) (state : AppState Cell) (call : Call) (integration : IntegrationConfig)
    (board : String) (threadId : Int64) (body : Option Bytes) : Prop where
  configured : integration ∈ config.integrations
  named : header call.request.headers "x-ptchan-integration" = some integration.name
  sole : ∀ other ∈ config.integrations, other.name = integration.name → other = integration
  signed : ∃ timestamp digits, SignedWith lib call.now integration.secret call.request body timestamp digits
  capable : Capable config integration call.route.capability
  boardAllowed : integration.allowedBoards = [] ∨ board ∈ integration.allowedBoards
  checks : (handle lib state call).checks =
    [⟨.integration integration.name, call.route.capability, true⟩, ⟨.global, call.route.capability, true⟩]
  captured : Captures lib call board threadId
  boardLength : 1 ≤ board.length ∧ board.length ≤ 32
  boardChars : ∀ c ∈ board.toList, isAsciiAlphanumeric c = true ∨ c = '_'
  positive : 0 < threadId.toInt

/-- What a mediated call asks, and the body its signature covers. -/
inductive Asks (config : Config) (call : Call) (integration : IntegrationConfig) (board : String)
    (threadId : Int64) : Option Bytes → UpstreamRequest → Prop
  | read (hroute : call.route = .thread) (headers : List (String × String)) :
      Asks config call integration board threadId none {
        method := "GET"
        url := trimEndMatches '/' config.ptchan.baseUrl ++ "/" ++ board ++ "/thread/" ++
          toString threadId.toInt ++ ".json"
        headers := headers
        form := none }
  | reply (hroute : call.route = .reply) {body : Bytes} (hbody : call.request.body = .ok body)
      {reply : ReplyRequest} (hreply : lib.extract.replyRequest body = some reply) {posting : PostingConfig}
      (hposting : posting ∈ config.postings) (hof : PostingOf posting integration)
      (headers : List (String × String)) :
      Asks config call integration board threadId (some body) {
        method := "POST"
        url := trimEndMatches '/' config.ptchan.baseUrl ++ "/forms/board/" ++ board ++ "/post"
        headers := headers
        form := some ([("thread", toString threadId.toInt), ("message", reply.message)] ++
          (if reply.sage then [("email", "sage")] else []) ++
          [("name", posting.formName), ("postpassword", posting.postPassword)]) }

/-- The checks of a pipeline make a call mediated. -/
theorem Passed.mediated (hbuilt : Built config state) (hresolved : Resolution config)
    {integration : IntegrationConfig} (hmem : integration ∈ config.integrations) {call : Call} {board : String}
    {threadId : Int64} {body : Option Bytes} (hcapable : Capable config integration call.route.capability)
    (h : Passed lib state call call.route.capability integration.name integration.secret
      integration.allowedBoards body board threadId) :
    Mediated lib config state call integration board threadId body := by
  refine {
    configured := hmem
    named := h.named
    sole := fun other hother hname => List.inj_on_of_nodup_map hresolved.integrationNames hother hmem hname
    signed := signedWith_of_verify lib h.verified
    capable := hcapable
    boardAllowed := ?_
    checks := h.checks.trans (checks_of_accepted (hbuilt.limiters _ hmem) h.accepted)
    captured := h.captured
    boardLength := length_of_validBoardName h.board
    boardChars := chars_of_validBoardName h.board
    positive := h.positive }
  simpa [boardAllowed] using h.allowed

/-- A call that reaches ptchan asks about the thread in its path. -/
theorem about_of_sent (hbuilt : Built config state) {call : Call} {sent : UpstreamRequest}
    (h : (handle lib state call).sent = some sent) :
    ∃ board threadId, Captures lib call board threadId ∧ validBoardName board = true ∧ 0 < threadId.toInt ∧
      About config.ptchan.baseUrl board threadId call.route sent := by
  cases hroute : call.route with
  | thread =>
      obtain ⟨_, -, board, threadId, -, hpassed, rfl⟩ := passed_of_read lib hbuilt hroute h
      exact ⟨board, threadId, hpassed.captured, hpassed.board, hpassed.positive, .read⟩
  | reply =>
      obtain ⟨posting, -, board, threadId, _, reply, -, -, hpassed, rfl⟩ := passed_of_reply lib hbuilt hroute h
      exact ⟨board, threadId, hpassed.captured, hpassed.board, hpassed.positive, .reply posting reply⟩

theorem mediated_of_sent (hbuilt : Built config state) (hresolved : Resolution config) {call : Call}
    {sent : UpstreamRequest} (h : (handle lib state call).sent = some sent) :
    ∃ integration board threadId body, Mediated lib config state call integration board threadId body ∧
      Asks lib config call integration board threadId body sent := by
  cases hroute : call.route with
  | thread =>
      obtain ⟨integration, hmem, board, threadId, hreading, hpassed, rfl⟩ := passed_of_read lib hbuilt hroute h
      have hcapability : call.route.capability = .reading := by rw [hroute, Route.capability]
      rw [← hcapability] at hpassed
      refine ⟨integration, board, threadId, none, hpassed.mediated lib hbuilt hresolved hmem ?_, .read hroute _⟩
      rw [hcapability]
      exact hreading
  | reply =>
      obtain ⟨posting, hposting, board, threadId, body, reply, hbody, hreply, hpassed, rfl⟩ :=
        passed_of_reply lib hbuilt hroute h
      obtain ⟨integration, hmem, hof⟩ := hresolved.postings posting hposting
      have hcapability : call.route.capability = .posting := by rw [hroute, Route.capability]
      rw [← hcapability, hof.name, hof.secret, hof.allowedBoards] at hpassed
      refine ⟨integration, board, threadId, some body, hpassed.mediated lib hbuilt hresolved hmem ?_,
        .reply hroute hbody hreply hposting hof _⟩
      rw [hcapability]
      exact ⟨posting, hposting, hof⟩

/-- Complete mediation: whatever is sent to ptchan was signed with the secret of the integration the request
names, within its capabilities and boards and accepted by both buckets, and asks about the thread in the
path; and for a fixed base nothing else asks for the same. -/
theorem upstream_is_mediated {getSecret : String → String → Except Chain String} {parsers : Parsers}
    {file : FileConfig} (hresolve : resolve getSecret parsers file = .ok config) (hserves : Serves lib config state)
    {call : Call} {sent : UpstreamRequest} (hsent : (handle lib state call).sent = some sent) :
    ∃ integration board threadId body, Mediated lib config state call integration board threadId body ∧
      Asks lib config call integration board threadId body sent ∧
      ∀ (other : Config) (served : AppState Cell) (second : Call) (asked : UpstreamRequest),
        other.ptchan.baseUrl = config.ptchan.baseUrl → Serves lib other served →
        (handle lib served second).sent = some asked → asked.url = sent.url → asked.thread? = sent.thread? →
        second.route = call.route ∧ Captures lib second board threadId := by
  obtain ⟨integration, board, threadId, body, hmediated, hasks⟩ :=
    mediated_of_sent lib hserves.built (resolution_of_resolve hresolve) hsent
  refine ⟨integration, board, threadId, body, hmediated, hasks, ?_⟩
  intro other served second asked hbase hother hasked hurl hthread
  obtain ⟨_, _, hcaptured, hboard, -, habout⟩ := about_of_sent lib hserves.built hsent
  obtain ⟨rfl, rfl⟩ := hmediated.captured.unique lib hcaptured
  obtain ⟨otherBoard, otherId, hotherCaptured, hotherBoard, -, hotherAbout⟩ :=
    about_of_sent lib hother.built hasked
  rw [hbase] at hotherAbout
  obtain ⟨hroute, rfl, rfl⟩ := hotherAbout.determined habout hotherBoard hboard hurl hthread
  exact ⟨hroute, hotherCaptured⟩

namespace Sample

/-- The MAC of the reply below under the secret below. -/
def replyMac (_ _ : Bytes) : Bytes :=
  [178, 232, 89, 169, 61, 119, 107, 88, 137, 46, 186, 242, 2, 203, 25, 69, 181, 237, 103, 128,
    186, 69, 233, 119, 34, 10, 216, 223, 122, 87, 178, 27]

/-- Buckets that hold their burst. -/
def governor : Governor Nat := ⟨fun _ burst => burst.toNat, fun cell _ => (cell != 0, cell - 1)⟩

def extract : Extractors where
  path := fun _ => .ok ("i", "42")
  limit := fun _ => some none
  replyRequest := fun _ => some ⟨"hi", false⟩

def client : Client where
  send := fun _ => .answered 200 (.ok "\x7b\"postId\":43\x7d")
  statusText := fun _ => "200 OK"
  createdPost := fun _ => .ok (some 43)

def libraries : Libraries Nat := ⟨serde, replyMac, governor, extract, client⟩

def bridgeFile : FileConfig where
  ptchan := ⟨"https://ptchan.test/"⟩
  runtime := .default
  storage := ⟨"gateway.db", defaultEventRetention⟩
  integrations := [⟨"bridge", ["i"], none, none, some ⟨some "Bridge", "!!abcdefghi="⟩, .default⟩]

def bridge : PostingConfig := ⟨"bridge", ["i"], some "Bridge", "secret", "secret", "!!abcdefghi=", "secret"⟩

def bridgeConfig : Config where
  ptchan := ⟨"https://ptchan.test/"⟩
  runtime := .default
  storage := ⟨"gateway.db", defaultEventRetention⟩
  integrations := [⟨"bridge", ["i"], false, .default, "secret"⟩]
  webhooks := []
  postings := [bridge]
  fingerprintSecret := none

def bridgeState : AppState Nat where
  threadReader := ⟨"https://ptchan.test/"⟩
  postWriter := ⟨"https://ptchan.test/"⟩
  integrations := collectBy IntegrationConfig.name bridgeConfig.integrations
  postings := collectBy PostingConfig.name [bridge]
  origins := .new [bridge]
  rateLimiters := ⟨fun name => (collectBy Prod.fst [("bridge", ⟨30, 5⟩)] name).map Prod.snd, ⟨200, 20⟩⟩

def replyCall : Call where
  route := .reply
  request := {
    method := "POST"
    uri := ⟨"/integration/v1/threads/i/42/replies", some "/integration/v1/threads/i/42/replies"⟩
    headers := [("x-ptchan-integration", asBytes "bridge"), ("x-ptchan-timestamp", asBytes "2026-07-19T12:00:00Z"),
      ("x-ptchan-signature",
        asBytes "hmac-sha256=b2e859a93d776b58892ebaf202cb1945b5ed6780ba45e977220ad8df7a57b21b")]
    body := .ok (asBytes "\x7b\"message\":\"hi\"\x7d") }
  now := observedAt
  times := (0, 0)

theorem upstream_is_mediated_reply :
    resolve (fun _ _ => .ok "secret") parsers bridgeFile = .ok bridgeConfig ∧
      Serves libraries bridgeConfig bridgeState ∧
      (handle libraries bridgeState replyCall).sent =
        some (replyRequest "https://ptchan.test/" bridge "i" 42 ⟨"hi", false⟩) ∧
      ∃ integration board threadId body,
        Mediated libraries bridgeConfig bridgeState replyCall integration board threadId body := by
  have hresolve : resolve (fun _ _ => .ok "secret") parsers bridgeFile = .ok bridgeConfig := rfl
  have hserves : Serves libraries bridgeConfig bridgeState := .spawned rfl
  have hsent : (handle libraries bridgeState replyCall).sent =
      some (replyRequest "https://ptchan.test/" bridge "i" 42 ⟨"hi", false⟩) := by decide +kernel
  obtain ⟨integration, board, threadId, body, hmediated, -⟩ := upstream_is_mediated libraries hresolve hserves hsent
  exact ⟨hresolve, hserves, hsent, integration, board, threadId, body, hmediated⟩

end Sample

end PtchanGateway
