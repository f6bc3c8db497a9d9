import PtchanGateway.ConfigLookups
import PtchanGateway.SdkThreads
import PtchanGateway.ThreadSelection

/-!
Replies and how they are seen again. The answer to a reply and the contract post of a later observation are
built by different code; both name the board, the thread and the post, spell the same address and attribute
the post to the same integration. Attribution is by public tripcode, which the validator keeps distinct and
free of surrounding whitespace.
-/

namespace PtchanGateway

open TextRfc3339 TextRust JsonValue Config Upstream

/-- The public tripcode of a post is that of a posting, up to surrounding whitespace. -/
def SignedBy (posting : PostingConfig) (value : Json) : Prop :=
  ∃ code, (value.get? "tripcode").bind Json.asStr = some code ∧ trim code = trim posting.publicTripcode

/-- An upstream object that reports a post of a posting. -/
structure Reported (posting : PostingConfig) (board : String) (threadId postId : Int64) (value : Json) : Prop where
  object : value.isObject = true
  signed : SignedBy posting value
  id : (value.get? "postId").bind Json.asI64 = some postId
  board : (value.get? "board").bind Json.asStr = some board
  thread : (value.get? "thread").bind Json.asI64 = some threadId

/-- A reply within its thread that reports such a post; the board and the thread may be left out. -/
structure ReportedReply (posting : PostingConfig) (board : String) (threadId postId : Int64)
    (reply : List (String × Json)) : Prop where
  signed : SignedBy posting (.obj reply)
  id : (lookup "postId" reply).bind Json.asI64 = some postId
  board : lookup "board" reply = none ∨ (lookup "board" reply).bind Json.asStr = some board
  thread : lookup "thread" reply = none ∨ (lookup "thread" reply).bind Json.asI64 = some threadId

/-- A post and the answer to a reply that say the same. -/
structure Agrees (post : Post) (response : ReplyResponse) : Prop where
  board : post.board = response.board
  threadId : post.threadId = response.threadId
  id : post.id = response.postId
  url : post.url = response.url
  origin : post.origin = some response.origin

theorem ReportedReply.reported {posting : PostingConfig} {board : String} {threadId postId : Int64}
    {reply : List (String × Json)} (h : ReportedReply posting board threadId postId reply) :
    Reported posting board threadId postId (replyCandidate board threadId reply) := by
  have hmember : ∀ name, (replyCandidate board threadId reply).get? name =
      if "thread" = name then some ((lookup "thread" reply).getD (intJson threadId))
      else if "board" = name then some ((lookup "board" reply).getD (.str board)) else lookup name reply := by
    intro name
    rw [replyCandidate, Json.get?, ensureThread, Sdk.lookup_ensureMember, ensureBoard, Sdk.lookup_ensureMember,
      Sdk.lookup_ensureMember, if_neg (show "board" ≠ "thread" by decide)]
  refine ⟨rfl, ?_, ?_, ?_, ?_⟩
  · obtain ⟨code, hcode, htrim⟩ := h.signed
    refine ⟨code, ?_, htrim⟩
    rw [hmember, if_neg (by decide), if_neg (by decide)]
    exact hcode
  · rw [hmember, if_neg (by decide), if_neg (by decide)]
    exact h.id
  · rw [hmember, if_neg (by decide), if_pos rfl, Option.bind_some]
    rcases h.board with habsent | hgiven
    · rw [habsent]
      rfl
    · obtain ⟨given, hgiven, hboard⟩ := Option.bind_eq_some_iff.1 hgiven
      rw [hgiven]
      exact hboard
  · rw [hmember, if_pos rfl, Option.bind_some]
    rcases h.thread with habsent | hgiven
    · rw [habsent]
      exact Sdk.asI64_intJson threadId
    · obtain ⟨given, hgiven, hthread⟩ := Option.bind_eq_some_iff.1 hgiven
      rw [hgiven]
      exact hthread

section Decode

variable {serde : Serde} {value : Json} {decoded : DecodedPost}

theorem publicTripcode_of_tryFrom (hobject : value.isObject = true)
    (h : DecodedPost.tryFrom serde value = .ok decoded) :
    decoded.post.publicTripcode = (value.get? "tripcode").bind Json.asStr := by
  cases value with
  | obj members =>
      simp only [DecodedPost.tryFrom, bind_eq_ok, pure, Except.pure, Except.ok.injEq] at h
      obtain ⟨-, -, post, hpost, rfl⟩ := h
      unfold postFromValue at hpost
      split at hpost
      · rename_i found hfound
        cases hpost
        have hdecodes := decodesTo_of_decodePost hfound
        rw [Sdk.optionalField_eq_bind rfl hdecodes.publicTripcode, Sdk.lookup_eraseKeyMembers (by decide),
          Sdk.bind_asStr_map_eraseKey]
        rfl
      · cases hpost
  | _ => cases hobject

theorem exists_decoded {baseUrl : String} {post : Post}
    (h : contractPostFromValue serde baseUrl value = .ok post) :
    ∃ decoded, DecodedPost.tryFrom serde value = .ok decoded ∧ post = contractPost baseUrl decoded.post := by
  rw [contractPostFromValue, decodeAs] at h
  cases htry : DecodedPost.tryFrom serde value with
  | error err => simp [htry, bind, Except.bind, bail] at h
  | ok decoded =>
      simp only [htry, bind, Except.bind, pure, Except.pure, Except.ok.injEq] at h
      exact ⟨decoded, rfl, h.symm⟩

end Decode

section Attribution

variable {parsers : Parsers} {getSecret : String → String → Except Chain String} {file : FileConfig}
  {resolved : List Resolved} {config : Config}

/-- A public tripcode stands between two exclamation marks and an equals sign. -/
theorem trim_of_valid {tripcode : String} (h : validPublicTripcode tripcode = true) : trim tripcode = tripcode := by
  unfold validPublicTripcode at h
  split at h
  · cases h
  · rename_i encoded hencoded
    obtain ⟨rest, hrest, hencoded⟩ := Option.bind_eq_some_iff.1 hencoded
    rw [stripStart_eq_some] at hrest
    rw [stripEnd_eq_some] at hencoded
    rw [hencoded] at hrest
    have hfirst : isWhitespace '!' = false := by decide
    have hlast : isWhitespace '=' = false := by decide
    have hkeep : dropEndWhile isWhitespace (tripcode.toList.dropWhile isWhitespace) = tripcode.toList := by
      rw [hrest, List.cons_append, List.dropWhile_cons, hfirst, if_neg Bool.false_ne_true, dropEndWhile]
      simp [hlast]
    rw [trim, hkeep, String.ofList_toList]

theorem valid_tripcode (h : ResolvedFrom parsers getSecret file resolved config) {posting : PostingConfig}
    (hposting : posting ∈ config.postings) : validPublicTripcode posting.publicTripcode = true := by
  have hmem : posting.publicTripcode ∈ config.postings.map PostingConfig.publicTripcode := List.mem_map_of_mem hposting
  rw [h.postings, posting_tripcodes_eq h.resolves] at hmem
  exact ((tripcodes_of_validate h.accepted.integrations).2 _ hmem).1

theorem tripcode_ne_empty (h : ResolvedFrom parsers getSecret file resolved config) {posting : PostingConfig}
    (hposting : posting ∈ config.postings) : posting.publicTripcode ≠ "" := by
  have hvalid := valid_tripcode h hposting
  intro hempty
  rw [hempty] at hvalid
  exact absurd hvalid (by decide)

theorem clean_eq_some_iff {value : Option String} {text : String} (htext : text ≠ "") :
    clean value = some text ↔ value.map trim = some text := by
  cases value with
  | none => simp [clean]
  | some given =>
      simp only [clean, Option.bind_some, Option.map_some, Option.some.injEq]
      constructor
      · intro h
        split at h
        · cases h
        · exact Option.some.inj h
      · intro h
        have hnonempty : (trim given).isEmpty = false := by
          rw [h]
          simpa using htext
        rw [if_neg (by simp [hnonempty]), h]

/-- A post is attributed to the posting whose tripcode it shows, whatever whitespace is around it. -/
theorem origin_iff (h : ResolvedFrom parsers getSecret file resolved config) (baseUrl : String)
    (post : Upstream.Post) (name : String) :
    ((OriginMatcher.new config.postings).annotatePost (contractPost baseUrl post)).origin =
        some ⟨.integration, name⟩ ↔
      ∃ posting ∈ config.postings, posting.name = name ∧
        post.publicTripcode.map trim = some posting.publicTripcode := by
  have horigins := oneEntryEach_origins (tripcodes_nodup h)
  have hsame : ((OriginMatcher.new config.postings).annotatePost (contractPost baseUrl post)).origin =
      ((clean post.publicTripcode).bind (OriginMatcher.new config.postings).get?).map
        fun name => ⟨.integration, name⟩ := rfl
  rw [hsame, Option.map_eq_some_iff]
  constructor
  · rintro ⟨found, hfound, hname⟩
    obtain rfl : found = name := by injection hname
    obtain ⟨code, hcode, hget⟩ := Option.bind_eq_some_iff.1 hfound
    obtain ⟨posting, hposting, rfl, rfl⟩ := horigins.only code found hget
    exact ⟨posting, hposting, rfl, (clean_eq_some_iff (tripcode_ne_empty h hposting)).1 hcode⟩
  · rintro ⟨posting, hposting, rfl, hcode⟩
    obtain ⟨found, hfound, rfl⟩ := horigins.found posting hposting
    refine ⟨posting.name, ?_, rfl⟩
    rw [(clean_eq_some_iff (tripcode_ne_empty h hposting)).2 hcode]
    exact hfound

theorem posting_unique (h : ResolvedFrom parsers getSecret file resolved config) {posting other : PostingConfig}
    (hposting : posting ∈ config.postings) (hother : other ∈ config.postings) (hname : other.name = posting.name) :
    other = posting :=
  List.inj_on_of_nodup_map (posting_names_nodup h) hother hposting hname

theorem response_of_reply {writer : PostWriter} {client : Client} {posting : PostingConfig} {board : String}
    {threadId : Int64} {request : ReplyRequest} {response : ReplyResponse}
    (h : (writer.reply client posting board threadId request).2 = .ok response) :
    response = ⟨board, threadId, response.postId,
      threadUrl writer.baseUrl board threadId ++ "#" ++ toString response.postId.toInt,
      ⟨.integration, posting.name⟩⟩ := by
  simp only [PostWriter.reply, replyAnswer] at h
  split at h
  · cases h
  · split at h <;> cases h
  · split at h
    · cases h
    · split at h
      · cases h
      · cases h
      · cases h
        rfl

/-- An observation that is decoded agrees with the answer. -/
theorem agrees_of_reported (h : ResolvedFrom parsers getSecret file resolved config) {posting : PostingConfig}
    (hposting : posting ∈ config.postings) {baseUrl : String} {client : Client} {board : String} {threadId : Int64}
    {request : ReplyRequest} {response : ReplyResponse}
    (hreply : (PostWriter.reply ⟨baseUrl⟩ client posting board threadId request).2 = .ok response)
    {serde : Serde} {value : Json} {decoded : DecodedPost}
    (hreported : Reported posting board threadId response.postId value)
    (hdecoded : DecodedPost.tryFrom serde value = .ok decoded) :
    Agrees ((OriginMatcher.new config.postings).annotatePost (contractPost baseUrl decoded.post)) response := by
  have hread := Sdk.readFrom_of_tryFrom hreported.object hdecoded
  have hboard : decoded.post.board = board := Option.some.inj (hread.board.symm.trans hreported.board)
  have hid : decoded.post.id = response.postId := Option.some.inj (hread.id.symm.trans hreported.id)
  have hthread : decoded.post.thread = some threadId := hread.thread.symm.trans hreported.thread
  have horigin := (origin_iff h baseUrl decoded.post posting.name).2 ⟨posting, hposting, rfl, by
    obtain ⟨code, hcode, htrim⟩ := hreported.signed
    rw [publicTripcode_of_tryFrom hreported.object hdecoded, hcode, Option.map_some, htrim,
      trim_of_valid (valid_tripcode h hposting)]⟩
  rw [response_of_reply hreply]
  refine ⟨hboard, ?_, hid, ?_, horigin⟩
  · change decoded.post.thread.getD decoded.post.id = threadId
    rw [hthread, Option.getD_some]
  · change trimEndMatches '/' baseUrl ++ "/" ++ decoded.post.board ++ "/thread/" ++
      toString (decoded.post.thread.getD decoded.post.id).toInt ++ ".html#" ++ toString decoded.post.id.toInt = _
    rw [hthread, Option.getD_some, hboard, hid, threadUrl]
    simp only [String.append_assoc]
    rfl

/-- A post that was read is kept, or it is as old as every post that was. -/
theorem kept_or_omitted {limit : Nat} {posts : List Post} {thread : Thread} (h : Selects limit posts thread)
    {post : Post} (hpost : post ∈ posts) :
    post ∈ thread.posts ∨ (thread.truncated = true ∧ ∀ kept ∈ thread.posts, post.id.toInt ≤ kept.id.toInt) := by
  obtain ⟨omitted, hsorted, holder⟩ := h.suffix
  rcases List.mem_append.1 (hsorted.perm.mem_iff.2 hpost) with hold | hkept
  · refine .inr ⟨h.truncated.2 ?_, holder post hold⟩
    have hlength := hsorted.perm.length_eq
    have hselected := h.length
    have hsome := List.length_pos_of_mem hold
    rw [List.length_append] at hlength
    omega
  · exact .inl hkept

/-- A reply and a later observation of it agree: whatever ptchan reports of the post through `newPost` or in its
thread, if it is decoded at all, is annotated with the coordinates, the address and the origin that the
answer gave; and a post is attributed to a posting exactly when it shows its tripcode. -/
theorem reply_and_observation_agree (hresolve : resolve getSecret parsers file = .ok config) (serde : Serde)
    (baseUrl : String) :
    (∀ posting ∈ config.postings, ∀ client board threadId request response,
      (PostWriter.reply ⟨baseUrl⟩ client posting board threadId request).2 = .ok response →
      (∀ value observedAt built, Reported posting board threadId response.postId value →
        gatewayEvent serde baseUrl value observedAt = .ok built →
        Agrees ((OriginMatcher.new config.postings).annotatePost built.event.post) response) ∧
      ∀ root limit thread reply, threadFromValue serde baseUrl board threadId (.obj root) limit = .ok thread →
        reply ∈ replyObjects root → ReportedReply posting board threadId response.postId reply →
        ∃ post, contractPostFromValue serde baseUrl (replyCandidate board threadId reply) = .ok post ∧
          Agrees ((OriginMatcher.new config.postings).annotatePost post) response ∧
          ((OriginMatcher.new config.postings).annotatePost post ∈
              ((OriginMatcher.new config.postings).annotateThread thread).posts ∨
            (thread.truncated = true ∧ ∀ kept ∈ thread.posts, post.id.toInt ≤ kept.id.toInt))) ∧
    ∀ post name,
      ((OriginMatcher.new config.postings).annotatePost (contractPost baseUrl post)).origin =
          some ⟨.integration, name⟩ ↔
        ∃ posting ∈ config.postings, posting.name = name ∧
          (∀ other ∈ config.postings, other.name = name → other = posting) ∧
          post.publicTripcode.map trim = some posting.publicTripcode := by
  obtain ⟨resolved, hfrom⟩ := resolvedFrom_of_resolve hresolve
  refine ⟨fun posting hposting client board threadId request response hreply => ⟨?_, ?_⟩, ?_⟩
  · intro value observedAt built hreported hbuilt
    obtain ⟨decoded, hdecoded, rfl⟩ := decoded_of_gatewayEvent serde hbuilt
    exact agrees_of_reported hfrom hposting hreply hreported hdecoded
  · intro root limit thread reply hthread hmem hreported
    obtain ⟨-, root', posts, hroot, hposts, hselects⟩ :=
      readThread_of_threadFromValue serde baseUrl board threadId hthread
    obtain rfl : root = root' := Json.obj.inj hroot
    have hcandidate : replyCandidate board threadId reply ∈ candidates board threadId root :=
      List.mem_cons_of_mem _ (List.mem_map_of_mem hmem)
    obtain ⟨post, hpost, hread⟩ := exists_of_mapM hposts hcandidate
    obtain ⟨decoded, hdecoded, rfl⟩ := exists_decoded hread
    refine ⟨_, hread, agrees_of_reported hfrom hposting hreply hreported.reported hdecoded, ?_⟩
    exact (kept_or_omitted hselects hpost).imp_left List.mem_map_of_mem
  · intro post name
    rw [origin_iff hfrom]
    constructor
    · rintro ⟨posting, hposting, rfl, htripcode⟩
      exact ⟨posting, hposting, rfl, fun other hother hname => posting_unique hfrom hposting hother hname, htripcode⟩
    · rintro ⟨posting, hposting, hname, -, htripcode⟩
      exact ⟨posting, hposting, hname, htripcode⟩

end Attribution

namespace Sample

/-- The reply as ptchan announces it, its tripcode padded. -/
def announcedReply : Json :=
  .obj [("board", .str "i"), ("date", .str "2026-07-19T12:00:00Z"), ("postId", .num (.int 43)),
    ("thread", .num (.int 42)), ("tripcode", .str " !!abcdefghi=\n")]

theorem reply_and_observation_agree_bridge :
    ∃ response built,
      (PostWriter.reply ⟨"https://ptchan.test/"⟩ client bridge "i" 42 ⟨"hi", false⟩).2 = .ok response ∧
      gatewayEvent serde "https://ptchan.test/" announcedReply observedAt = .ok built ∧
      Agrees ((OriginMatcher.new bridgeConfig.postings).annotatePost built.event.post) response := by
  have hresolve : resolve (fun _ _ => .ok "secret") parsers bridgeFile = .ok bridgeConfig := rfl
  obtain ⟨hagree, -⟩ := reply_and_observation_agree hresolve serde "https://ptchan.test/"
  have hposting : bridge ∈ bridgeConfig.postings := List.mem_singleton.2 rfl
  have hreported : Reported bridge "i" 42 43 announcedReply :=
    ⟨rfl, ⟨" !!abcdefghi=\n", rfl, by decide⟩, rfl, rfl, rfl⟩
  refine ⟨_, _, rfl, gatewayEvent_of_decoded serde rfl, ?_⟩
  exact (hagree bridge hposting client "i" 42 ⟨"hi", false⟩ _ rfl).1 announcedReply observedAt _ hreported
    (gatewayEvent_of_decoded serde rfl)

end Sample

end PtchanGateway
