import PtchanGateway.Ingest
import PtchanGateway.Ptchan
import PtchanGateway.QueueOrder

/-! What a read selects of a thread. The opening object and every reply that is an object are candidates, with
the board and the thread filled in where they name none. If one of them cannot be decoded the whole read
fails; else the posts are put in the order of their numbers and the last of them are kept. -/

namespace PtchanGateway

open TextRfc3339 TextRust JsonValue Config Upstream QueueOrder

theorem exists_error_of_mapM {α β : Type} {step : α → Except Chain β} {values : List α} :
    (∃ err, values.mapM step = .error err) ↔ ∃ value ∈ values, ∃ err, step value = .error err := by
  induction values with
  | nil => simp [pure, Except.pure]
  | cons value values ih =>
      rw [List.exists_mem_cons_iff, ← ih, List.mapM_cons]
      cases step value with
      | error err => simp [bind, Except.bind]
      | ok result => cases values.mapM step <;> simp [bind, Except.bind, pure, Except.pure]

def members? : Json → Option (List (String × Json))
  | .obj members => some members
  | _ => none

/-- The replies of a thread that are objects. -/
def replyObjects (root : List (String × Json)) : List (List (String × Json)) :=
  match lookup "replies" root with
  | some (.arr values) => values.filterMap members?
  | _ => []

/-- The opening object of a thread with its board. -/
def openingCandidate (board : String) (root : List (String × Json)) : Json :=
  .obj (ensureBoard board (root.filter fun member => member.1 ≠ "replies"))

/-- A reply with its board and its thread. -/
def replyCandidate (board : String) (threadId : Int64) (reply : List (String × Json)) : Json :=
  .obj (ensureThread threadId (ensureBoard board reply))

/-- The objects the posts of a thread are read from, in the order they came. -/
def candidates (board : String) (threadId : Int64) (root : List (String × Json)) : List Json :=
  openingCandidate board root :: (replyObjects root).map (replyCandidate board threadId)

section Read

variable (serde : Serde) (baseUrl board : String) (threadId : Int64)

theorem replyPosts_eq_mapM (replies : List Json) :
    replyPosts serde baseUrl board threadId replies =
      ((replies.filterMap members?).map (replyCandidate board threadId)).mapM
        (contractPostFromValue serde baseUrl) := by
  induction replies with
  | nil => rfl
  | cons reply replies ih =>
      cases reply with
      | obj members =>
          have hmembers : members? (.obj members) = some members := rfl
          rw [replyPosts, ih, List.filterMap_cons_some hmembers, List.map_cons, List.mapM_cons]
          rfl
      | null => exact ih
      | bool b => exact ih
      | num n => exact ih
      | str text => exact ih
      | arr values => exact ih

/-- The thread made of its posts. -/
def threadOf (limit : Nat) (posts : List Post) : Thread :=
  let ordered := posts.insertionSort fun left right => left.id.toInt ≤ right.id.toInt
  ⟨board, threadId, ordered.drop (ordered.length - limit), limit < ordered.length⟩

theorem threadFromValue_obj (root : List (String × Json)) (limit : Nat) :
    threadFromValue serde baseUrl board threadId (.obj root) limit =
      ((candidates board threadId root).mapM (contractPostFromValue serde baseUrl)).map
        (threadOf board threadId limit) := by
  have hreplies : replyPosts serde baseUrl board threadId (match lookup "replies" root with
      | some (.arr values) => values
      | _ => []) =
      ((replyObjects root).map (replyCandidate board threadId)).mapM (contractPostFromValue serde baseUrl) := by
    rw [replyPosts_eq_mapM, replyObjects]
    split <;> rfl
  rw [threadFromValue, candidates, List.mapM_cons, ← hreplies]
  simp only [openingCandidate]
  cases contractPostFromValue serde baseUrl
      (.obj (ensureBoard board (root.filter fun member => member.1 ≠ "replies"))) with
  | error err => rfl
  | ok opening =>
      cases replyPosts serde baseUrl board threadId (match lookup "replies" root with
          | some (.arr values) => values
          | _ => []) with
      | error err => rfl
      | ok posts => rfl

end Read

/-- A thread keeps the last posts of a list, in the stable order of their numbers. -/
structure Selects (limit : Nat) (posts : List Post) (thread : Thread) : Prop where
  suffix : ∃ omitted, StablySorted (fun post : Post => post.id.toInt) posts (omitted ++ thread.posts) ∧
    ∀ old ∈ omitted, ∀ kept ∈ thread.posts, old.id.toInt ≤ kept.id.toInt
  ordered : thread.posts.Pairwise fun earlier later => earlier.id.toInt ≤ later.id.toInt
  length : thread.posts.length = min limit posts.length
  truncated : thread.truncated = true ↔ limit < posts.length

theorem selects_threadOf (board : String) (threadId : Int64) (limit : Nat) (posts : List Post) :
    Selects limit posts (threadOf board threadId limit posts) := by
  have hsorted := stablySorted_insertionSort (fun post : Post => post.id.toInt) posts
  have hlength := hsorted.perm.length_eq
  simp only [threadOf]
  generalize posts.insertionSort (fun left right => left.id.toInt ≤ right.id.toInt) = ordered at hsorted hlength
  have hsplit : ordered.take (ordered.length - limit) ++ ordered.drop (ordered.length - limit) = ordered :=
    List.take_append_drop _ _
  have hpairs := hsorted.ordered
  rw [← hsplit, List.pairwise_append] at hpairs
  refine ⟨⟨_, hsplit.symm ▸ hsorted, hpairs.2.2⟩, hpairs.2.1, ?_, ?_⟩
  · rw [List.length_drop]
    omega
  · rw [decide_eq_true_eq, hlength]

/-- A sensitive name is left once the members named `ip` are gone. -/
def Sensitive (value : Json) : Prop := hasKey isSensitive (dropIpFields value) = true

theorem any_eraseKeyMembers (dropped : String) (test : String → Bool) (members : List (String × Json)) :
    hasKeyMembers test (eraseKeyMembers dropped members) = true ↔
      ∃ member ∈ members, member.1 ≠ dropped ∧
        (test member.1 || hasKey test (eraseKey dropped member.2)) = true := by
  induction members with
  | nil => simp [eraseKeyMembers, hasKeyMembers]
  | cons member members ih =>
      rw [List.exists_mem_cons_iff, ← ih, eraseKeyMembers]
      by_cases hname : member.1 = dropped
      · simp [hname]
      · rw [if_neg hname, hasKeyMembers, Bool.or_eq_true]
        simp [hname]

/-- Filling in a member leaves a sensitive one where it is. -/
theorem sensitive_ensureMember {name : String} {value : Json} {members : List (String × Json)}
    (h : Sensitive (.obj members)) : Sensitive (.obj (ensureMember name value members)) := by
  rw [Sensitive, dropIpFields, eraseKey, hasKey, any_eraseKeyMembers] at h ⊢
  obtain ⟨member, hmem, hmember⟩ := h
  refine ⟨member, ?_, hmember⟩
  rw [ensureMember]
  split
  · exact hmem
  · exact (List.mem_orderedInsert _).2 (.inr hmem)

section Failures

variable (serde : Serde) (baseUrl board : String) (threadId : Int64)

/-- A candidate that is refused or cannot be decoded. -/
def Unfit (value : Json) : Prop := Sensitive value ∨ decodePost serde.date (dropIpFields value) = none

theorem tryFrom_eq_error_iff (value : Json) :
    (∃ err, DecodedPost.tryFrom serde value = .error err) ↔ Unfit serde value := by
  have hreject := rejectSensitiveFields_eq_ok (dropIpFields value)
  rw [Unfit, Sensitive, DecodedPost.tryFrom]
  cases hcheck : rejectSensitiveFields (dropIpFields value) with
  | error err =>
      rw [hcheck] at hreject
      simp only [reduceCtorEq, false_iff, Bool.not_eq_false] at hreject
      simp [hreject, bind, Except.bind]
  | ok _ =>
      rw [hcheck] at hreject
      simp only [true_iff] at hreject
      rw [hreject, postFromValue]
      cases decodePost serde.date (dropIpFields value) <;>
        simp [bind, Except.bind, bail, pure, Except.pure]

theorem contractPostFromValue_eq_error_iff (value : Json) :
    (∃ err, contractPostFromValue serde baseUrl value = .error err) ↔ Unfit serde value := by
  rw [← tryFrom_eq_error_iff, contractPostFromValue, decodeAs]
  cases DecodedPost.tryFrom serde value <;> simp [bind, Except.bind, bail, pure, Except.pure]

theorem threadFromValue_eq_error_iff (root : List (String × Json)) (limit : Nat) :
    (∃ err, threadFromValue serde baseUrl board threadId (.obj root) limit = .error err) ↔
      ∃ candidate ∈ candidates board threadId root, Unfit serde candidate := by
  simp only [← contractPostFromValue_eq_error_iff serde baseUrl]
  rw [← exists_error_of_mapM, threadFromValue_obj]
  cases (candidates board threadId root).mapM (contractPostFromValue serde baseUrl) <;> simp [Except.map]

/-- One reply with a sensitive member fails the read. -/
theorem threadFromValue_of_sensitive {root reply : List (String × Json)} (hreply : reply ∈ replyObjects root)
    (h : Sensitive (.obj reply)) (limit : Nat) :
    ∃ err, threadFromValue serde baseUrl board threadId (.obj root) limit = .error err := by
  apply (threadFromValue_eq_error_iff serde baseUrl board threadId root limit).2
  refine ⟨replyCandidate board threadId reply, ?_, .inl ?_⟩
  · exact List.mem_cons_of_mem _ (List.mem_map_of_mem hreply)
  · exact sensitive_ensureMember (sensitive_ensureMember h)

/-- What a read gives: the thread that was asked for, with what was selected of the posts of its candidates. -/
structure ReadThread (value : Json) (limit : Nat) (thread : Thread) : Prop where
  place : thread.board = board ∧ thread.id = threadId
  posts : ∃ root posts, value = .obj root ∧
    (candidates board threadId root).mapM (contractPostFromValue serde baseUrl) = .ok posts ∧
    Selects limit posts thread

theorem readThread_of_threadFromValue {value : Json} {limit : Nat} {thread : Thread}
    (h : threadFromValue serde baseUrl board threadId value limit = .ok thread) :
    ReadThread serde baseUrl board threadId value limit thread := by
  cases value with
  | obj root =>
      rw [threadFromValue_obj] at h
      cases hposts : (candidates board threadId root).mapM (contractPostFromValue serde baseUrl) with
      | error err =>
          rw [hposts] at h
          cases h
      | ok posts =>
          rw [hposts, Except.map, Except.ok.injEq] at h
          subst h
          exact ⟨⟨rfl, rfl⟩, root, posts, rfl, hposts, selects_threadOf board threadId limit posts⟩
  | _ => cases h

theorem length_of_mapM {α β : Type} {step : α → Except Chain β} {values : List α} {results : List β}
    (h : values.mapM step = .ok results) : results.length = values.length := by
  induction values generalizing results with
  | nil =>
      cases h
      rfl
  | cons value values ih =>
      simp only [List.mapM_cons, bind_eq_ok, pure, Except.pure, Except.ok.injEq] at h
      obtain ⟨head, -, tail, htail, rfl⟩ := h
      rw [List.length_cons, List.length_cons, ih htail]

theorem ReadThread.length {value : Json} {limit : Nat} {thread : Thread}
    (h : ReadThread serde baseUrl board threadId value limit thread) (hlimit : 1 ≤ limit) :
    1 ≤ thread.posts.length ∧ thread.posts.length ≤ limit := by
  obtain ⟨root, posts, -, hposts, hselects⟩ := h.posts
  have hlength := length_of_mapM hposts
  rw [candidates, List.length_cons] at hlength
  have hselected := hselects.length
  omega

theorem threadFromValue_of_fetch {client : Client} {limit : Nat} {thread : Thread}
    (h : (ThreadReader.fetchThread ⟨baseUrl⟩ serde client board threadId limit).2 = .ok (some thread)) :
    ∃ value, threadFromValue serde baseUrl board threadId value (min (max limit 1) maxThreadLimit) = .ok thread := by
  unfold ThreadReader.fetchThread at h
  split at h
  · cases h
  · split at h
    · cases h
    · simp only [threadAnswer] at h
      split at h
      · cases h
      · split at h
        · cases h
        · split at h
          · cases h
          · split at h
            · cases h
            · split at h
              · cases h
              · rename_i value _
                cases hread : threadFromValue serde baseUrl board threadId value
                    (min (max limit 1) maxThreadLimit) with
                | error err =>
                    rw [hread] at h
                    cases h
                | ok found =>
                    rw [hread, Except.map, Except.ok.injEq, Option.some.injEq] at h
                    exact ⟨value, h ▸ hread⟩

/-- Thread selection is exact: a read keeps the last posts of all candidates in the stable order of their
numbers, and fails exactly when the value is no object or a candidate is unfit. -/
theorem thread_selection_is_exact :
    (∀ value limit thread, threadFromValue serde baseUrl board threadId value limit = .ok thread →
      ReadThread serde baseUrl board threadId value limit thread) ∧
    (∀ value limit, (∃ err, threadFromValue serde baseUrl board threadId value limit = .error err) ↔
      value.isObject = false ∨ ∃ root, value = .obj root ∧
        ∃ candidate ∈ candidates board threadId root, Unfit serde candidate) ∧
    (∀ root limit reply, reply ∈ replyObjects root → Sensitive (.obj reply) →
      ∃ err, threadFromValue serde baseUrl board threadId (.obj root) limit = .error err) ∧
    ∀ client limit thread,
      (ThreadReader.fetchThread ⟨baseUrl⟩ serde client board threadId limit).2 = .ok (some thread) →
      1 ≤ thread.posts.length ∧ thread.posts.length ≤ 200 := by
  refine ⟨fun value limit thread => readThread_of_threadFromValue serde baseUrl board threadId, ?_, ?_, ?_⟩
  · intro value limit
    cases value with
    | obj root =>
        rw [threadFromValue_eq_error_iff]
        simp [Json.isObject]
    | _ => simp [Json.isObject, threadFromValue, bail]
  · intro root limit reply hreply hsensitive
    exact threadFromValue_of_sensitive serde baseUrl board threadId hreply hsensitive limit
  · intro client limit thread hfetch
    obtain ⟨value, hvalue⟩ := threadFromValue_of_fetch serde baseUrl board threadId hfetch
    have hread := readThread_of_threadFromValue serde baseUrl board threadId hvalue
    obtain ⟨hone, hmost⟩ := hread.length serde baseUrl board threadId (by simp [maxThreadLimit])
    exact ⟨hone, hmost.trans (Nat.min_le_right _ _)⟩

end Failures

namespace Sample

def replyOf (id : Int) : Json := .obj [("date", .str "2026-07-19T12:00:00Z"), ("postId", .num (.int id))]

def rootOf (replies : List Json) : List (String × Json) :=
  [("date", .str "2026-07-19T12:00:00Z"), ("postId", .num (.int 42)), ("replies", .arr replies)]

/-- A ptchan that has the thread without replies. -/
def threadClient : Client where
  send _ := .answered 200 (.ok "\x7b\"date\":\"2026-07-19T12:00:00Z\",\"postId\":42\x7d")
  statusText _ := "200 OK"
  createdPost _ := .ok none

/-- The last two of three posts, a reply that fails the read, and a thread of one post. -/
theorem thread_selection_is_exact_truncated :
    (∃ thread, thread.truncated = true ∧ thread.posts.map Post.id = [43, 44] ∧
      ReadThread serde "https://ptchan.test" "i" 42 (.obj (rootOf [replyOf 44, .null, replyOf 43])) 2 thread) ∧
    (∃ err, threadFromValue serde "https://ptchan.test" "i" 42 (.obj (rootOf [.obj [("session", .null)]])) 2 =
      .error err) ∧
    ∃ thread, (ThreadReader.fetchThread ⟨"https://ptchan.test"⟩ serde threadClient "i" 42 0).2 = .ok (some thread) ∧
      1 ≤ thread.posts.length ∧ thread.posts.length ≤ 200 := by
  obtain ⟨hread, -, hsensitive, hlength⟩ := thread_selection_is_exact serde "https://ptchan.test" "i" 42
  refine ⟨?_, ?_, ?_⟩
  · have hsome : (threadFromValue serde "https://ptchan.test" "i" 42
        (.obj (rootOf [replyOf 44, .null, replyOf 43])) 2).toOption.map
          (fun thread => (thread.truncated, thread.posts.map Post.id)) = some (true, [43, 44]) := by decide +kernel
    cases hthread : threadFromValue serde "https://ptchan.test" "i" 42
        (.obj (rootOf [replyOf 44, .null, replyOf 43])) 2 with
    | error err =>
        rw [hthread] at hsome
        cases hsome
    | ok thread =>
        rw [hthread] at hsome
        simp only [Except.toOption, Option.map_some, Option.some.injEq, Prod.mk.injEq] at hsome
        exact ⟨thread, hsome.1, hsome.2, hread _ _ _ hthread⟩
  · exact hsensitive _ _ [("session", .null)] List.mem_cons_self (by rw [Sensitive]; decide +kernel)
  · have hsome : ((ThreadReader.fetchThread ⟨"https://ptchan.test"⟩ serde threadClient "i" 42 0).2.toOption.any
        Option.isSome) = true := by decide +kernel
    cases hfetch : (ThreadReader.fetchThread ⟨"https://ptchan.test"⟩ serde threadClient "i" 42 0).2 with
    | error err =>
        rw [hfetch] at hsome
        cases hsome
    | ok found =>
        cases found with
        | none =>
            rw [hfetch] at hsome
            cases hsome
        | some thread => exact ⟨thread, rfl, hlength threadClient 0 thread hfetch⟩

end Sample

end PtchanGateway
