import PtchanGateway.Ptchan
import PtchanGateway.SdkUpstream

/-!
Threads through the Go client. The gateway fills in the board and the thread of a post that names none, takes
what a post does name as it is, and orders the posts by number; the client wants all of them in the thread it
asked for and in the order of their dates.
-/

namespace PtchanGateway.Sdk

open TextRfc3339 TextRust JsonValue JsonGo Config Upstream

/-- Moments that stand in the order of time. -/
def InOrder (earlier later : Moment) : Prop := ¬before later earlier

instance : IsTrans Moment InOrder where
  trans first second third hfirst hsecond := by
    simp only [InOrder, before] at *
    omega

theorem validatePosts_eq_ok {requested : ThreadRef} {index : Nat} {previous : Option Moment} {posts : List Post} :
    validatePosts requested index previous posts = .ok () ↔
      (∀ post ∈ posts, ValidPost post ∧ post.threadRef = requested) ∧
        (previous.toList ++ posts.map Post.date).IsChain InOrder := by
  induction posts generalizing index previous with
  | nil => cases previous <;> simp [validatePosts]
  | cons post posts ih =>
      have hchain : (previous.toList ++ (post :: posts).map Post.date).IsChain InOrder ↔
          ¬(previous.any fun date => before post.date date) = true ∧
            ((some post.date).toList ++ posts.map Post.date).IsChain InOrder := by
        cases previous <;> simp [InOrder]
      rw [hchain, List.forall_mem_cons, ← validatePost_eq_ok]
      unfold validatePosts
      cases hvalid : validatePost post with
      | error err => simp
      | ok _ =>
          by_cases hplace : post.threadRef = requested
          · by_cases hbefore : (previous.any fun date => before post.date date) = true
            · simp [hplace, hbefore]
            · have hrest := @ih (index + 1) (some post.date)
              simpa [hplace, hbefore] using hrest
          · simp [hplace]

theorem validatePosts_start {requested : ThreadRef} {posts : List Post} :
    validatePosts requested 0 none posts = .ok () ↔
      (∀ post ∈ posts, ValidPost post ∧ post.threadRef = requested) ∧
        posts.Pairwise fun earlier later => InOrder earlier.date later.date := by
  rw [validatePosts_eq_ok, Option.toList_none, List.nil_append, List.isChain_iff_pairwise, List.pairwise_map]

theorem thread_safe (thread : PtchanGateway.Thread) : Safe 5 thread.toJson :=
  .obj (.cons "board" (by decide) (.str _ _) <| .cons "thread_id" (by decide) (.intJson _ _) <|
    .cons "posts" (by decide) (.arr Post.toJson_safe _) <| .cons "truncated" (by decide) (.bool _ _) <|
    .nil _ []) (by decide)

theorem decodeThread_toJson (thread : PtchanGateway.Thread) :
    decodeThread (sorted thread.toJson) =
      ((thread.posts.map fun post => sorted post.toJson).mapM decodePost).map fun posts =>
        ⟨thread.board, thread.id, some posts, thread.truncated⟩ := by
  let members : List (String × Json) := [("board", .str thread.board), ("thread_id", intJson thread.id),
    ("posts", .arr (thread.posts.map Post.toJson)), ("truncated", .bool thread.truncated)]
  have hplain : PlainNames members := ⟨by simp [members], by simp [members, foldName]; decide⟩
  have hboard : lookup "board" members = some (.str thread.board) := by simp [members, lookup]
  have hid : lookup "thread_id" members = some (intJson thread.id) := by simp [members, lookup]
  have hposts : lookup "posts" members = some (.arr (thread.posts.map Post.toJson)) := by simp [members, lookup]
  have htruncated : lookup "truncated" members = some (.bool thread.truncated) := by simp [members, lookup]
  have hrequired : requireFields (mapOrder members) ["board", "thread_id", "posts", "truncated"] = true := by
    simp only [requireFields, mapMember_mapOrder hplain, List.all_cons, List.all_nil, hboard, hid, hposts, htruncated,
      Option.map_some, Option.any_some, isNull_sorted]
    rfl
  have hslice : pointerField (decodeSlice decodePost) none [sorted (.arr (thread.posts.map Post.toJson))] =
      ((thread.posts.map fun post => sorted post.toJson).mapM decodePost).map some := by
    rw [pointerField_singleton _ _ rfl, sorted, sortedList_eq_map, decodeSlice, List.map_map]
    rfl
  have hflag : valueField JsonGo.decodeBool false [sorted (.bool thread.truncated)] = some thread.truncated :=
    valueField_singleton _ _ rfl
  change decodeThread (sorted (.obj members)) = _
  rw [sorted_obj, decodeThread, if_pos hrequired]
  simp only [fieldValues_mapOrder hplain, hboard, hid, hposts, htruncated, Option.map_some, Option.toList_some,
    valueField_text, valueField_int, hslice, hflag]
  generalize (thread.posts.map fun post => sorted post.toJson).mapM decodePost = decoded
  cases decoded with
  | none => rfl
  | some posts => rfl

/-- A post as the client holds it, once it could be decoded. -/
def heldPost (post : PtchanGateway.Post) : Post :=
  viewPost post post.date (Int64.ofInt post.attachmentCount.toNat)

/-- A post that can be decoded. -/
def Legible (post : PtchanGateway.Post) : Prop :=
  post.date.InEra ∧ post.date.frac < 10 ^ 9 ∧ post.attachmentCount.toNat < 2 ^ 63

theorem decodePosts_eq_some {posts : List PtchanGateway.Post} {held : List Post}
    (hregular : ∀ post ∈ posts, post.date.Regular) :
    (posts.map fun post => sorted post.toJson).mapM decodePost = some held ↔
      (∀ post ∈ posts, Legible post) ∧ held = posts.map heldPost := by
  induction posts generalizing held with
  | nil => simp [eq_comm]
  | cons post posts ih =>
      obtain ⟨hfirst, hrest⟩ := List.forall_mem_cons.1 hregular
      rw [List.map_cons, List.mapM_cons, List.forall_mem_cons, List.map_cons]
      simp only [Option.bind_eq_bind, Option.bind_eq_some_iff, decodePost_eq_some hfirst, ih hrest, Option.pure_def,
        Option.some.injEq]
      constructor
      · rintro ⟨_, ⟨hera, hfrac, hcount, rfl⟩, _, ⟨hposts, rfl⟩, rfl⟩
        exact ⟨⟨⟨hera, hfrac, hcount⟩, hposts⟩, rfl⟩
      · rintro ⟨⟨⟨hera, hfrac, hcount⟩, hposts⟩, rfl⟩
        exact ⟨_, ⟨hera, hfrac, hcount, rfl⟩, _, ⟨hposts, rfl⟩, rfl⟩

/-- What the client demands of a thread. -/
theorem takesThread_iff {thread : PtchanGateway.Thread} {requested : ThreadRef}
    (hregular : ∀ post ∈ thread.posts, post.date.Regular) :
    (∃ held, decodeThread (sorted thread.toJson) = some held ∧ validateThread held requested = .ok ()) ↔
      (thread.board ≠ "" ∧ 0 < thread.id.toInt ∧ ⟨thread.board, thread.id⟩ = requested) ∧
        (∀ post ∈ thread.posts, CompletePost post ∧ ⟨post.board, post.threadId⟩ = requested) ∧
        thread.posts.Pairwise fun earlier later => InOrder earlier.date later.date := by
  have hposts : (∀ post ∈ thread.posts, Legible post) →
      (validatePosts requested 0 none (thread.posts.map heldPost) = .ok () ↔
        (∀ post ∈ thread.posts, CompletePost post ∧ ⟨post.board, post.threadId⟩ = requested) ∧
          thread.posts.Pairwise fun earlier later => InOrder earlier.date later.date) := by
    intro hlegible
    rw [validatePosts_start, List.forall_mem_map, List.pairwise_map]
    apply and_congr_left'
    apply forall₂_congr
    intro post hpost
    obtain ⟨hera, hfrac, hcount⟩ := hlegible post hpost
    rw [heldPost, validPost_viewPost hera hfrac hcount]
    rfl
  have hplace : ∀ held : Thread, held = ⟨thread.board, thread.id, some (thread.posts.map heldPost), thread.truncated⟩ →
      (validateThread held requested = .ok () ↔
        (thread.board ≠ "" ∧ 0 < thread.id.toInt ∧ ⟨thread.board, thread.id⟩ = requested) ∧
          validatePosts requested 0 none (thread.posts.map heldPost) = .ok ()) := by
    rintro held rfl
    have hcheck : validateThread ⟨thread.board, thread.id, some (thread.posts.map heldPost), thread.truncated⟩
        requested =
        if thread.board = "" ∨ thread.id.toInt ≤ 0 ∨ (⟨thread.board, thread.id⟩ : ThreadRef) ≠ requested then
          .error "coordinates and posts are required and must match the requested thread"
        else validatePosts requested 0 none (thread.posts.map heldPost) := rfl
    rw [hcheck]
    split
    · rename_i h
      constructor
      · intro hok
        cases hok
      · rintro ⟨⟨hboard, hid, hsame⟩, -⟩
        rcases h with h | h | h
        · exact absurd h hboard
        · exact absurd hid (not_lt.2 h)
        · exact absurd hsame h
    · rename_i h
      simp only [not_or, not_le, not_not] at h
      exact ⟨fun hok => ⟨h, hok⟩, fun hok => hok.2⟩
  rw [decodeThread_toJson]
  constructor
  · rintro ⟨held, hdecoded, hvalid⟩
    obtain ⟨posts, hmap, rfl⟩ := Option.map_eq_some_iff.1 hdecoded
    obtain ⟨hlegible, rfl⟩ := (decodePosts_eq_some hregular).1 hmap
    obtain ⟨hthread, hvalid⟩ := (hplace _ rfl).1 hvalid
    exact ⟨hthread, (hposts hlegible).1 hvalid⟩
  · rintro ⟨hthread, hvalid⟩
    have hlegible : ∀ post ∈ thread.posts, Legible post := by
      intro post hpost
      obtain ⟨hcomplete, -⟩ := hvalid.1 post hpost
      exact ⟨hcomplete.date.inEra, hcomplete.date.plain, hcomplete.attachmentCount⟩
    refine ⟨_, Option.map_eq_some_iff.2 ⟨_, (decodePosts_eq_some hregular).2 ⟨hlegible, rfl⟩, rfl⟩, ?_⟩
    exact (hplace _ rfl).2 ⟨hthread, (hposts hlegible).2 hvalid⟩

section SideBySide

variable {α β : Type} {R : α → β → Prop} {left : List α} {right : List β}

theorem forall_mem_iff_of_forall₂ (h : List.Forall₂ R left right) {P : α → Prop} {Q : β → Prop}
    (hiff : ∀ a b, R a b → (P a ↔ Q b)) : (∀ a ∈ left, P a) ↔ ∀ b ∈ right, Q b := by
  induction h with
  | nil => simp
  | cons hfirst _ ih => rw [List.forall_mem_cons, List.forall_mem_cons, hiff _ _ hfirst, ih]

theorem map_eq_of_forall₂ (h : List.Forall₂ R left right) {γ : Type} {f : α → γ} {g : β → γ}
    (heq : ∀ a b, R a b → f a = g b) : left.map f = right.map g := by
  induction h with
  | nil => rfl
  | cons hfirst _ ih => rw [List.map_cons, List.map_cons, heq _ _ hfirst, ih]

variable {r : α → α → Prop} {s : β → β → Prop} [DecidableRel r] [DecidableRel s]

/-- Sorting keeps the elements side by side. -/
theorem forall₂_insertionSort (hrel : ∀ a b, R a b → ∀ a' b', R a' b' → (r a a' ↔ s b b'))
    (h : List.Forall₂ R left right) : List.Forall₂ R (left.insertionSort r) (right.insertionSort s) := by
  have hinsert : ∀ {a b} {left : List α} {right : List β}, R a b → List.Forall₂ R left right →
      List.Forall₂ R (left.orderedInsert r a) (right.orderedInsert s b) := by
    intro a b left right hab h
    induction h with
    | nil => exact .cons hab .nil
    | @cons a' b' left right hfirst hrest ih =>
        rw [List.orderedInsert, List.orderedInsert]
        by_cases hle : r a a'
        · rw [if_pos hle, if_pos ((hrel a b hab a' b' hfirst).1 hle)]
          exact .cons hab (.cons hfirst hrest)
        · rw [if_neg hle, if_neg fun hle' => hle ((hrel a b hab a' b' hfirst).2 hle')]
          exact .cons hfirst ih
  induction h with
  | nil => exact .nil
  | cons hfirst _ ih => exact hinsert hfirst ih

end SideBySide

/-! ### Threads as they come -/

/-- A post of a thread as ptchan gives it: the opening one or a reply. -/
structure Entry where
  value : Json
  reply : Bool

namespace Entry

def id (entry : Entry) : Int := (((entry.value.get? "postId").bind Json.asI64).getD 0).toInt

def date (read : String → Option Moment) (entry : Entry) : Moment :=
  (((entry.value.get? "date").bind Json.asStr).bind read).getD ⟨0, 0⟩

/-- The post is of the thread that was asked for. A reply that names no thread is. -/
structure InPlace (board : String) (threadId : Int64) (entry : Entry) : Prop where
  board : ∀ given, (entry.value.get? "board").bind Json.asStr = some given → given = board
  thread : (entry.reply = true → (entry.value.get? "thread").isSome = true) →
    ((entry.value.get? "thread").bind Json.asI64).or ((entry.value.get? "postId").bind Json.asI64) = some threadId

/-- The post with what the gateway fills in. -/
def completed (board : String) (threadId : Int64) (entry : Entry) : Json :=
  match entry.value with
  | .obj members =>
      if entry.reply then .obj (ensureThread threadId (ensureBoard board members))
      else .obj (ensureBoard board (members.filter fun member => member.1 ≠ "replies"))
  | value => value

end Entry

def entries (value : Json) : List Entry :=
  ⟨value, false⟩ :: ((elements (value.get? "replies")).filter Json.isObject).map fun reply => ⟨reply, true⟩

/-- The last posts in the order of their numbers. -/
def selected (value : Json) (limit : Nat) : List Entry :=
  let ordered := (entries value).insertionSort fun left right => left.id ≤ right.id
  ordered.drop (ordered.length - limit)

theorem lookup_orderedInsert {key name : String} {value : Json} {members : List (String × Json)}
    (hkey : lookup key members = none) :
    lookup name (members.orderedInsert (fun left right => left.1 ≤ right.1) (key, value)) =
      if key = name then some value else lookup name members := by
  induction members with
  | nil => rfl
  | cons member members ih =>
      obtain ⟨other, held⟩ := member
      rw [lookup] at hkey
      split at hkey
      · cases hkey
      · rename_i hother
        rw [List.orderedInsert]
        split
        · rfl
        · rw [lookup, ih hkey, lookup]
          by_cases hname : other = name
          · rw [if_pos hname, if_pos hname, if_neg (hname ▸ Ne.symm hother)]
          · rw [if_neg hname, if_neg hname]

theorem lookup_ensureMember (key name : String) (value : Json) (members : List (String × Json)) :
    lookup name (ensureMember key value members) =
      if key = name then some ((lookup key members).getD value) else lookup name members := by
  rw [ensureMember]
  cases hkey : lookup key members with
  | none =>
      rw [if_neg (by simp), lookup_orderedInsert hkey]
      rfl
  | some held =>
      rw [if_pos Option.isSome_some]
      split
      · rename_i hname
        rw [← hname, hkey]
        rfl
      · rfl

theorem lookup_filter {name dropped : String} (hname : name ≠ dropped) (members : List (String × Json)) :
    lookup name (members.filter fun member => member.1 ≠ dropped) = lookup name members := by
  induction members with
  | nil => rfl
  | cons member members ih =>
      rw [List.filter_cons]
      split
      · rw [lookup, lookup, ih]
      · rename_i hdropped
        simp only [ne_eq, decide_not, Bool.not_eq_true', decide_eq_false_iff_not, not_not] at hdropped
        rw [ih, lookup, if_neg (hdropped ▸ Ne.symm hname)]

section Completed

variable {board : String} {threadId : Int64} {entry : Entry} {members : List (String × Json)}

theorem completed_reply (hvalue : entry.value = .obj members) (hreply : entry.reply = true) :
    entry.completed board threadId = .obj (ensureThread threadId (ensureBoard board members)) := by
  simp only [Entry.completed, hvalue, hreply, if_true]

theorem completed_opening (hvalue : entry.value = .obj members) (hreply : entry.reply = false) :
    entry.completed board threadId =
      .obj (ensureBoard board (members.filter fun member => member.1 ≠ "replies")) := by
  simp only [Entry.completed, hvalue, hreply, Bool.false_eq_true, if_false]

theorem get?_completed (hvalue : entry.value = .obj members) {name : String} (hboard : "board" ≠ name)
    (hthread : "thread" ≠ name) (hreplies : name ≠ "replies") :
    (entry.completed board threadId).get? name = entry.value.get? name := by
  cases hreply : entry.reply with
  | true =>
      rw [completed_reply hvalue hreply, hvalue, Json.get?, Json.get?, ensureThread, lookup_ensureMember,
        if_neg hthread, ensureBoard, lookup_ensureMember, if_neg hboard]
  | false =>
      rw [completed_opening hvalue hreply, hvalue, Json.get?, Json.get?, ensureBoard, lookup_ensureMember,
        if_neg hboard, lookup_filter hreplies]

theorem board_completed (hvalue : entry.value = .obj members) :
    (entry.completed board threadId).get? "board" = some ((entry.value.get? "board").getD (.str board)) := by
  cases hreply : entry.reply with
  | true =>
      rw [completed_reply hvalue hreply, hvalue, Json.get?, Json.get?, ensureThread, lookup_ensureMember,
        if_neg (by decide), ensureBoard, lookup_ensureMember, if_pos rfl]
  | false =>
      rw [completed_opening hvalue hreply, hvalue, Json.get?, Json.get?, ensureBoard, lookup_ensureMember,
        if_pos rfl, lookup_filter (by decide)]

theorem thread_completed (hvalue : entry.value = .obj members) :
    (entry.completed board threadId).get? "thread" =
      if entry.reply then some ((entry.value.get? "thread").getD (intJson threadId))
      else entry.value.get? "thread" := by
  cases hreply : entry.reply with
  | true =>
      rw [completed_reply hvalue hreply, hvalue, Json.get?, Json.get?, ensureThread, lookup_ensureMember,
        if_pos rfl, ensureBoard, lookup_ensureMember, if_neg (by decide), if_pos rfl]
  | false =>
      rw [completed_opening hvalue hreply, hvalue, Json.get?, Json.get?, ensureBoard, lookup_ensureMember,
        if_neg (by decide), lookup_filter (by decide), if_neg Bool.false_ne_true]

theorem asI64_intJson (n : Int64) : (intJson n).asI64 = some n := by
  have hlow := n.le_toInt
  have hhigh := n.toInt_lt
  rw [intJson, Json.asI64, if_pos ⟨hlow, hhigh⟩, Int64.ofInt_toInt]

/-- The post stands where it was asked for exactly when the entry says nothing else. -/
theorem inPlace_iff {date : String → Option Moment} {post : Upstream.Post} (hvalue : entry.value = .obj members)
    (hread : ReadFrom date (entry.completed board threadId) post) :
    (post.board = board ∧ post.thread.getD post.id = threadId) ↔ entry.InPlace board threadId := by
  have hboard := hread.board
  have hthread := hread.thread
  have hid := hread.id
  rw [board_completed hvalue, Option.bind_some] at hboard
  rw [thread_completed hvalue] at hthread
  rw [get?_completed hvalue (by decide) (by decide) (by decide)] at hid
  have hplace : post.board = board ↔
      ∀ given, (entry.value.get? "board").bind Json.asStr = some given → given = board := by
    cases hgiven : entry.value.get? "board" with
    | none =>
        rw [hgiven] at hboard
        exact iff_of_true (Option.some.inj hboard).symm fun given h => nomatch h
    | some given =>
        rw [hgiven, Option.getD_some] at hboard
        rw [Option.bind_some, hboard]
        exact ⟨fun h given hsome => (Option.some.inj hsome).symm.trans h, fun h => h _ rfl⟩
  have hnumber : ∀ given : Option Int64, given = post.thread →
      (given.or (some post.id) = some threadId ↔ post.thread.getD post.id = threadId) := by
    rintro given rfl
    cases post.thread <;> simp
  have hwhere : post.thread.getD post.id = threadId ↔
      ((entry.reply = true → (entry.value.get? "thread").isSome = true) →
        ((entry.value.get? "thread").bind Json.asI64).or ((entry.value.get? "postId").bind Json.asI64) =
          some threadId) := by
    rw [hid]
    cases hreply : entry.reply with
    | false =>
        rw [hreply, if_neg Bool.false_ne_true] at hthread
        simp [← hnumber _ hthread]
    | true =>
        rw [hreply, if_pos rfl, Option.bind_some] at hthread
        cases hgiven : entry.value.get? "thread" with
        | none =>
            rw [hgiven, Option.getD_none, asI64_intJson] at hthread
            simp [← hthread]
        | some given =>
            rw [hgiven, Option.getD_some] at hthread
            simp [← hnumber _ hthread]
  rw [hplace, hwhere]
  exact ⟨fun h => ⟨h.1, h.2⟩, fun h => ⟨h.board, h.thread⟩⟩

theorem presentable_completed {date : String → Option Moment} (hvalue : entry.value = .obj members) :
    Presentable date (entry.completed board threadId) ↔ Presentable date entry.value := by
  have hsame : ∀ name, "board" ≠ name → "thread" ≠ name → name ≠ "replies" →
      (entry.completed board threadId).get? name = entry.value.get? name :=
    fun name hboard hthread hreplies => get?_completed hvalue hboard hthread hreplies
  have hid := hsame "postId" (by decide) (by decide) (by decide)
  have hdate := hsame "date" (by decide) (by decide) (by decide)
  have hfiles := hsame "files" (by decide) (by decide) (by decide)
  have hquotes := hsame "quotes" (by decide) (by decide) (by decide)
  have hbacklinks := hsame "backlinks" (by decide) (by decide) (by decide)
  constructor
  · rintro ⟨h₁, h₂, h₃, h₄⟩
    rw [hid] at h₁
    rw [hdate] at h₂
    rw [hfiles] at h₃
    rw [hquotes, hbacklinks] at h₄
    exact ⟨h₁, h₂, h₃, h₄⟩
  · rintro ⟨h₁, h₂, h₃, h₄⟩
    refine ⟨?_, ?_, ?_, ?_⟩
    · rwa [hid]
    · rwa [hdate]
    · rwa [hfiles]
    · rwa [hquotes, hbacklinks]

end Completed

section Served

variable {serde : Serde} {baseUrl board : String} {threadId : Int64}

/-- A contract post and the entry it was made from. -/
def MadeFrom (serde : Serde) (baseUrl board : String) (threadId : Int64) (entry : Entry) (post : PtchanGateway.Post) :
    Prop :=
  ∃ members decoded, entry.value = .obj members ∧ ReadFrom serde.date (entry.completed board threadId) decoded ∧
    post = contractPost baseUrl decoded

theorem madeFrom_of_ok {entry : Entry} {members : List (String × Json)} {post : PtchanGateway.Post}
    (hvalue : entry.value = .obj members)
    (h : contractPostFromValue serde baseUrl (entry.completed board threadId) = .ok post) :
    MadeFrom serde baseUrl board threadId entry post := by
  have hshape : ∃ completed, entry.completed board threadId = .obj completed := by
    cases hreply : entry.reply with
    | true => exact ⟨_, completed_reply hvalue hreply⟩
    | false => exact ⟨_, completed_opening hvalue hreply⟩
  obtain ⟨completed, hcompleted⟩ := hshape
  rw [hcompleted] at h
  obtain ⟨dropped, decoded, hdropped, hdecoded, rfl⟩ := decodesTo_of_contractPost serde baseUrl rfl h
  refine ⟨members, decoded, hvalue, ?_, rfl⟩
  rw [hcompleted]
  obtain rfl : eraseKeyMembers "ip" completed = dropped := Json.obj.inj hdropped
  exact readFrom_of_decodesTo hdecoded

theorem MadeFrom.id_eq {entry : Entry} {post : PtchanGateway.Post}
    (h : MadeFrom serde baseUrl board threadId entry post) : entry.id = post.id.toInt := by
  obtain ⟨members, decoded, hvalue, hread, rfl⟩ := h
  have hid := hread.id
  rw [get?_completed hvalue (by decide) (by decide) (by decide)] at hid
  rw [Entry.id, hid]
  rfl

theorem MadeFrom.date_eq {entry : Entry} {post : PtchanGateway.Post}
    (h : MadeFrom serde baseUrl board threadId entry post) : entry.date serde.date = post.date := by
  obtain ⟨members, decoded, hvalue, hread, rfl⟩ := h
  have hdate := hread.date
  rw [get?_completed hvalue (by decide) (by decide) (by decide)] at hdate
  rw [Entry.date, hdate]
  rfl

theorem madeFrom_replies {replies : List Json} {posts : List PtchanGateway.Post}
    (h : replyPosts serde baseUrl board threadId replies = .ok posts) :
    List.Forall₂ (MadeFrom serde baseUrl board threadId)
      ((replies.filter Json.isObject).map fun reply => ⟨reply, true⟩) posts := by
  induction replies generalizing posts with
  | nil =>
      cases h
      exact .nil
  | cons reply replies ih =>
      cases reply with
      | obj members =>
          rw [replyPosts] at h
          obtain ⟨post, hpost, h⟩ := bind_eq_ok.1 h
          obtain ⟨others, hothers, h⟩ := bind_eq_ok.1 h
          cases h
          exact .cons (madeFrom_of_ok rfl hpost) (ih hothers)
      | _ => exact ih h

theorem madeFrom_of_thread {value : Json} {limit : Nat} {thread : PtchanGateway.Thread}
    (h : threadFromValue serde baseUrl board threadId value limit = .ok thread) :
    thread.board = board ∧ thread.id = threadId ∧
      List.Forall₂ (MadeFrom serde baseUrl board threadId) (selected value limit) thread.posts := by
  cases value with
  | obj root =>
      simp only [threadFromValue] at h
      obtain ⟨opening, hopening, h⟩ := bind_eq_ok.1 h
      obtain ⟨posts, hposts, h⟩ := bind_eq_ok.1 h
      cases h
      refine ⟨rfl, rfl, ?_⟩
      have hentries : List.Forall₂ (MadeFrom serde baseUrl board threadId) (entries (.obj root)) (opening :: posts) :=
        .cons (madeFrom_of_ok rfl hopening) (madeFrom_replies hposts)
      have hordered := forall₂_insertionSort (r := fun left right => left.id ≤ right.id)
        (s := fun left right => left.id.toInt ≤ right.id.toInt)
        (fun a b hab a' b' hab' => by rw [hab.id_eq, hab'.id_eq]) hentries
      rw [selected, hordered.length_eq]
      exact List.forall₂_drop _ hordered
  | _ => cases h

/-- The thread is the one asked for, its posts are in the order of their dates and the client takes it. -/
structure ServedThread (serde : Serde) (matcher : OriginMatcher) (board : String) (threadId : Int64)
    (thread : PtchanGateway.Thread) : Prop where
  place : ∀ post ∈ thread.posts, post.board = board ∧ post.threadId = threadId
  chronological : thread.posts.Pairwise fun earlier later => InOrder earlier.date later.date
  taken : ∃ held, (unmarshal (serde.codec.write (matcher.annotateThread thread).toJson)).bind decodeThread = some held ∧
    validateThread held ⟨board, threadId⟩ = .ok ()

theorem unmarshal_thread (hserde : Documented serde) (thread : PtchanGateway.Thread) :
    unmarshal (serde.codec.write thread.toJson) = some (sorted thread.toJson) := by
  have hsafe := thread_safe thread
  rw [hserde.write _ hsafe.plain, unmarshal,
    JsonText.codec.read_write _ hsafe.plain (Nat.lt_of_le_of_lt hsafe.shallow (by decide))]
  rfl

theorem regular_of_madeFrom (hserde : Documented serde) {entry : Entry} {post : PtchanGateway.Post}
    (h : MadeFrom serde baseUrl board threadId entry post) : post.date.Regular := by
  obtain ⟨members, decoded, -, hread, rfl⟩ := h
  obtain ⟨text, -, htext⟩ := Option.bind_eq_some_iff.1 hread.date
  exact hserde.date text _ htext

/-- The client takes the annotated thread that it asked for when every post is complete and of the thread, and
the posts are in the order of their dates. -/
theorem takes_annotated_iff (hserde : Documented serde) (matcher : OriginMatcher) {thread : PtchanGateway.Thread}
    (hboard : thread.board ≠ "") (hid : 0 < thread.id.toInt) (hregular : ∀ post ∈ thread.posts, post.date.Regular) :
    (∃ held, (unmarshal (serde.codec.write (matcher.annotateThread thread).toJson)).bind decodeThread = some held ∧
      validateThread held ⟨thread.board, thread.id⟩ = .ok ()) ↔
      (∀ post ∈ thread.posts, CompletePost (matcher.annotatePost post) ∧ post.board = thread.board ∧
        post.threadId = thread.id) ∧
        thread.posts.Pairwise fun earlier later => InOrder earlier.date later.date := by
  have hannotated : ∀ post ∈ (matcher.annotateThread thread).posts, post.date.Regular := by
    intro post hpost
    obtain ⟨original, horiginal, rfl⟩ := List.mem_map.1 hpost
    exact hregular original horiginal
  have hfront : thread.board ≠ "" ∧ 0 < thread.id.toInt ∧
      (⟨thread.board, thread.id⟩ : ThreadRef) = ⟨thread.board, thread.id⟩ := ⟨hboard, hid, rfl⟩
  rw [unmarshal_thread hserde, Option.bind_some, takesThread_iff hannotated]
  refine (and_iff_right hfront).trans (and_congr ?_ ?_)
  · rw [OriginMatcher.annotateThread, List.forall_mem_map]
    simp only [ThreadRef.mk.injEq]
    rfl
  · rw [OriginMatcher.annotateThread, List.pairwise_map]
    rfl

/-- What the client wants of a post, read off what the post was made from. -/
theorem MadeFrom.wanted_iff {matcher : OriginMatcher}
    (hnames : ∀ tripcode name, matcher.get? tripcode = some name → name ≠ "") (hboard : board ≠ "")
    (hthread : 0 < threadId.toInt) {entry : Entry} {post : PtchanGateway.Post}
    (h : MadeFrom serde baseUrl board threadId entry post) :
    entry.InPlace board threadId ∧ Presentable serde.date entry.value ↔
      (post.board = board ∧ post.threadId = threadId) ∧ CompletePost (matcher.annotatePost post) := by
  obtain ⟨members, decoded, hvalue, hread, rfl⟩ := h
  have hsame : Presentable serde.date (entry.completed board threadId) ↔ Presentable serde.date entry.value :=
    presentable_completed hvalue
  rw [← inPlace_iff hvalue hread, ← hsame, completePost_iff hread baseUrl hnames]
  constructor
  · rintro ⟨⟨hplace, hid⟩, hpresentable⟩
    exact ⟨⟨hplace, hid⟩, hplace ▸ hboard, hid ▸ hthread, hpresentable⟩
  · rintro ⟨hplace, -, -, hpresentable⟩
    exact ⟨hplace, hpresentable⟩

/-- A thread is served as promised exactly when the posts that were selected are of the thread, as the client
wants them and dated in the order of their numbers; the gateway serves the others as well. -/
theorem served_threads_match_iff {getSecret : String → String → Except Chain String} {parsers : Parsers}
    {file : FileConfig} {config : Config} (hresolve : resolve getSecret parsers file = .ok config)
    (hserde : Documented serde) (hboard : validBoardName board = true) (hthread : 0 < threadId.toInt) {value : Json}
    {limit : Nat} {thread : PtchanGateway.Thread}
    (h : threadFromValue serde baseUrl board threadId value limit = .ok thread) :
    ServedThread serde (.new config.postings) board threadId thread ↔
      (∀ entry ∈ selected value limit, entry.InPlace board threadId ∧ Presentable serde.date entry.value) ∧
        (selected value limit).Pairwise fun earlier later =>
          InOrder (earlier.date serde.date) (later.date serde.date) := by
  obtain ⟨rfl, rfl, hmade⟩ := madeFrom_of_thread h
  have hnonempty : thread.board ≠ "" := by
    intro hempty
    rw [hempty] at hboard
    exact absurd hboard (by decide)
  have hposts := forall_mem_iff_of_forall₂ hmade fun entry post hentry =>
    hentry.wanted_iff (name_ne_empty hresolve) hnonempty hthread
  have hdates : ((selected value limit).Pairwise fun earlier later =>
      InOrder (earlier.date serde.date) (later.date serde.date)) ↔
      thread.posts.Pairwise fun earlier later => InOrder earlier.date later.date := by
    have heq := map_eq_of_forall₂ hmade fun entry post hentry => hentry.date_eq
    rw [← List.pairwise_map (f := fun entry : Entry => entry.date serde.date), heq, List.pairwise_map]
  have hregular : ∀ post ∈ thread.posts, post.date.Regular :=
    (forall_mem_iff_of_forall₂ hmade fun entry post hentry =>
      iff_of_true trivial (regular_of_madeFrom hserde hentry)).1 fun _ _ => trivial
  have htakes := takes_annotated_iff hserde (.new config.postings) hnonempty hthread hregular
  rw [hposts, hdates]
  constructor
  · rintro ⟨hplace, hordered, htaken⟩
    obtain ⟨hcomplete, -⟩ := htakes.1 htaken
    exact ⟨fun post hpost => ⟨hplace post hpost, (hcomplete post hpost).1⟩, hordered⟩
  · rintro ⟨hgood, hordered⟩
    refine ⟨fun post hpost => (hgood post hpost).1, hordered, htakes.2 ⟨fun post hpost => ?_, hordered⟩⟩
    obtain ⟨hplace, hcomplete⟩ := hgood post hpost
    exact ⟨hcomplete, hplace⟩

end Served

end PtchanGateway.Sdk

namespace PtchanGateway.Sample

open TextRfc3339 TextRust JsonValue Config Upstream

def openingPost (replies : List Json) : Json :=
  .obj [("date", .str "2026-07-19T12:00:00Z"), ("postId", .num (.int 100)), ("replies", .arr replies)]

def threadReply : Json := .obj [("date", .str "2026-07-19T12:01:00Z"), ("postId", .num (.int 101))]

/-- A reply that names another board. -/
def foreignReply : Json :=
  .obj [("board", .str "b"), ("date", .str "2026-07-19T12:01:00Z"), ("postId", .num (.int 101))]

theorem served_threads_match_iff_reply :
    resolve (fun _ _ => .ok "secret") parsers file = .ok config ∧
      ∃ thread, threadFromValue serde "https://ptchan.test" "i" 100 (openingPost [threadReply]) 50 = .ok thread ∧
        Sdk.ServedThread serde (.new config.postings) "i" 100 thread := by
  have hresolve : resolve (fun _ _ => .ok "secret") parsers file = .ok config := rfl
  obtain ⟨thread, hthread⟩ : ∃ thread,
      threadFromValue serde "https://ptchan.test" "i" 100 (openingPost [threadReply]) 50 = .ok thread := ⟨_, rfl⟩
  have hnoon : serde.date "2026-07-19T12:00:00Z" = some ⟨63951681600, 0⟩ := by decide
  have hlater : serde.date "2026-07-19T12:01:00Z" = some ⟨63951681660, 0⟩ := by decide
  have hselected : Sdk.selected (openingPost [threadReply]) 50 =
      [⟨openingPost [threadReply], false⟩, ⟨threadReply, true⟩] := rfl
  refine ⟨hresolve, thread, hthread, ?_⟩
  apply (Sdk.served_threads_match_iff hresolve documented (by decide) (by decide) hthread).2
  rw [hselected]
  have hpositive : (0 : Int) < (100 : Int64).toInt ∧ (0 : Int) < (101 : Int64).toInt := by decide
  have hplace : (⟨openingPost [threadReply], false⟩ : Sdk.Entry).InPlace "i" 100 :=
    ⟨fun _ hgiven => (nomatch hgiven), fun _ => rfl⟩
  have hreply : (⟨threadReply, true⟩ : Sdk.Entry).InPlace "i" 100 :=
    ⟨fun _ hgiven => (nomatch hgiven), fun hnamed => absurd (hnamed rfl) (by decide)⟩
  have hfirst : Sdk.Presentable serde.date (openingPost [threadReply]) :=
    presentable_of rfl hpositive.1 rfl hnoon ⟨⟨by decide, by decide⟩, by decide, by decide⟩ rfl rfl rfl
  have hsecond : Sdk.Presentable serde.date threadReply :=
    presentable_of rfl hpositive.2 rfl hlater ⟨⟨by decide, by decide⟩, by decide, by decide⟩ rfl rfl rfl
  constructor
  · intro entry hentry
    rcases List.mem_cons.1 hentry with rfl | hentry
    · exact ⟨hplace, hfirst⟩
    · obtain rfl := List.mem_singleton.1 hentry
      exact ⟨hreply, hsecond⟩
  · apply List.pairwise_pair.2
    change Sdk.InOrder ((serde.date "2026-07-19T12:00:00Z").getD ⟨0, 0⟩)
      ((serde.date "2026-07-19T12:01:00Z").getD ⟨0, 0⟩)
    rw [hnoon, hlater, Sdk.InOrder]
    decide

/-- The gateway serves a reply of another board as part of the thread. -/
theorem foreign_reply_is_served :
    resolve (fun _ _ => .ok "secret") parsers file = .ok config ∧ validBoardName "i" = true ∧
      ∃ thread, threadFromValue serde "https://ptchan.test" "i" 100 (openingPost [foreignReply]) 50 = .ok thread ∧
        (∃ post ∈ thread.posts, post.board = "b") ∧
        ¬Sdk.ServedThread serde (.new config.postings) "i" 100 thread := by
  obtain ⟨thread, hthread⟩ : ∃ thread,
      threadFromValue serde "https://ptchan.test" "i" 100 (openingPost [foreignReply]) 50 = .ok thread := ⟨_, rfl⟩
  have hboards : thread.posts.map Post.board = ["i", "b"] := by
    cases hthread
    rfl
  have hforeign : ∃ post ∈ thread.posts, post.board = "b" := by
    apply List.mem_map.1
    rw [hboards]
    decide
  refine ⟨rfl, by decide, thread, hthread, hforeign, ?_⟩
  intro hserved
  obtain ⟨post, hpost, hboard⟩ := hforeign
  have hplace := (hserved.place post hpost).1
  rw [hboard] at hplace
  exact absurd hplace (by decide)

end PtchanGateway.Sample
