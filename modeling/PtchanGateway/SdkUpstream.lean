import PtchanGateway.JsonPath
import PtchanGateway.Privacy
import PtchanGateway.SdkPosts

/-!
Upstream posts and the Go client. What a contract post is made of can be read off the upstream value as it
came, since the members named `ip` are none of it; and so can whether the client takes the post.
-/

namespace PtchanGateway.Sdk

open TextRfc3339 TextRust JsonValue Config Upstream

/-- The libraries as documented: dates are read as regular moments, and texts are compact JSON. -/
structure Documented (serde : Serde) : Prop where
  date : ∀ text m, serde.date text = some m → m.Regular
  write : ∀ value, plain value = true → serde.codec.write value = JsonText.codec.write value

theorem lookup_eraseKeyMembers {dropped name : String} (hname : name ≠ dropped) (members : List (String × Json)) :
    lookup name (eraseKeyMembers dropped members) = (lookup name members).map (eraseKey dropped) := by
  induction members with
  | nil => rfl
  | cons member members ih =>
      obtain ⟨key, value⟩ := member
      rw [eraseKeyMembers, lookup]
      by_cases hkey : key = dropped
      · rw [if_pos hkey, ih, if_neg (hkey ▸ hname.symm)]
      · rw [if_neg hkey, lookup, ih]
        split <;> rfl

theorem asStr_eraseKey (dropped : String) (value : Json) : (eraseKey dropped value).asStr = value.asStr := by
  cases value <;> simp only [eraseKey, Json.asStr]

theorem asI64_eraseKey (dropped : String) (value : Json) : (eraseKey dropped value).asI64 = value.asI64 := by
  cases value <;> simp only [eraseKey, Json.asI64]

section Erased

variable (dropped : String) (field : Option Json)

theorem bind_asStr_map_eraseKey : (field.map (eraseKey dropped)).bind Json.asStr = field.bind Json.asStr := by
  cases field with
  | none => rfl
  | some value => exact asStr_eraseKey dropped value

theorem bind_asI64_map_eraseKey : (field.map (eraseKey dropped)).bind Json.asI64 = field.bind Json.asI64 := by
  cases field with
  | none => rfl
  | some value => exact asI64_eraseKey dropped value

end Erased

/-- The elements of an array. -/
def elements : Option Json → List Json
  | some (.arr values) => values
  | _ => []

theorem listField_map_eraseKey {dropped : String} {field : Option Json} {values : List Json}
    (h : listField (field.map (eraseKey dropped)) = some values) :
    values = (elements field).map (eraseKey dropped) := by
  cases field with
  | none =>
      cases h
      rfl
  | some value =>
      cases value with
      | arr elements =>
          simp only [Option.map_some, eraseKey, listField, Option.some.injEq] at h
          rw [← h, eraseKeyList_eq_map]
          rfl
      | _ => cases h

theorem optionalField_eq_bind {α : Type} {decode : Json → Option α} (hnull : decode .null = none)
    {field : Option Json} {result : Option α} (h : optionalField decode field = some result) :
    result = field.bind decode := by
  unfold optionalField at h
  split at h
  · cases h
    rfl
  · cases h
    exact hnull.symm
  · obtain ⟨read, hread, rfl⟩ := Option.map_eq_some_iff.1 h
    exact hread.symm

/-- The members of a value that the coordinates, the date and the references of a post come from. -/
structure ReadFrom (date : String → Option Moment) (value : Json) (post : Upstream.Post) : Prop where
  board : (value.get? "board").bind Json.asStr = some post.board
  thread : (value.get? "thread").bind Json.asI64 = post.thread
  id : (value.get? "postId").bind Json.asI64 = some post.id
  date : ((value.get? "date").bind Json.asStr).bind date = some post.date
  files : fileCount (value.get? "files") = post.files.length
  quotes : post.quotes = (elements (value.get? "quotes")).map dropIpFields
  backlinks : post.backlinks = (elements (value.get? "backlinks")).map dropIpFields

theorem fileCount_eq_length (field : Option Json) : fileCount field = (elements field).length := by
  rcases field with - | value
  · rfl
  · cases value <;> rfl

theorem readFrom_of_decodesTo {date : String → Option Moment} {members : List (String × Json)}
    {post : Upstream.Post}
    (h : DecodesTo date (fun name => lookup name (eraseKeyMembers "ip" members)) post) :
    ReadFrom date (.obj members) post := by
  have hfield : ∀ name, name ≠ "ip" →
      lookup name (eraseKeyMembers "ip" members) = (lookup name members).map (eraseKey "ip") :=
    fun name hname => lookup_eraseKeyMembers hname members
  have hdate := h.date
  have hboard := h.board
  have hthread := optionalField_eq_bind rfl h.thread
  have hid := h.id
  have hfiles := h.files
  have hquotes := h.quotes
  have hbacklinks := h.backlinks
  rw [hfield _ (by decide)] at hdate hboard hthread hid hfiles hquotes hbacklinks
  rw [requiredField, bind_asStr_map_eraseKey] at hboard
  rw [requiredField, bind_asI64_map_eraseKey] at hid
  rw [bind_asI64_map_eraseKey] at hthread
  rw [requiredField, ← Option.bind_assoc, bind_asStr_map_eraseKey] at hdate
  refine ⟨hboard, hthread.symm, hid, hdate, ?_, listField_map_eraseKey hquotes, listField_map_eraseKey hbacklinks⟩
  rw [fileCount_eq_length, listField_map_eraseKey hfiles, List.length_map]
  rfl

theorem readFrom_of_tryFrom {serde : Serde} {value : Json} {decoded : DecodedPost} (hobject : value.isObject = true)
    (h : DecodedPost.tryFrom serde value = .ok decoded) : ReadFrom serde.date value decoded.post := by
  cases value with
  | obj members =>
      simp only [DecodedPost.tryFrom, Config.bind_eq_ok, pure, Except.pure, Except.ok.injEq] at h
      obtain ⟨-, -, post, hpost, rfl⟩ := h
      apply readFrom_of_decodesTo
      apply decodesTo_of_decodePost
      unfold postFromValue at hpost
      split at hpost
      · rename_i found hfound
        cases hpost
        exact hfound
      · cases hpost
  | _ => cases hobject

/-- A positive number, if there is a number. -/
def Positive (number : Option Int64) : Prop := ∀ n, number = some n → 0 < n.toInt

/-- An element of `quotes` or `backlinks` that names a post by a positive number, or names none. -/
def PositiveRef : Json → Prop
  | .num n => Positive (Json.asI64 (.num n))
  | .str text => Positive (parseI64 text)
  | .obj members =>
      let postId := ((lookup "postId" members).or (lookup "post_id" members)).bind Json.asI64
      let threadId := ((lookup "thread" members).or (lookup "thread_id" members)).bind Json.asI64
      Positive postId ∧ (postId.isSome = true → Positive threadId)
  | _ => True

theorem ne_empty_of_clean {value : Option String} {cleaned : String} (h : clean value = some cleaned) :
    cleaned ≠ "" := by
  obtain ⟨text, -, h⟩ := Option.bind_eq_some_iff.1 h
  simp only at h
  split at h
  · cases h
  · rename_i hnonempty
    cases h
    intro hempty
    rw [hempty] at hnonempty
    exact hnonempty rfl

theorem lookup_or_eraseKeyMembers {name other : String} (hname : name ≠ "ip") (hother : other ≠ "ip")
    (members : List (String × Json)) :
    ((lookup name (eraseKeyMembers "ip" members)).or (lookup other (eraseKeyMembers "ip" members))).bind Json.asI64 =
      ((lookup name members).or (lookup other members)).bind Json.asI64 := by
  rw [lookup_eraseKeyMembers hname, lookup_eraseKeyMembers hother, ← Option.map_or, bind_asI64_map_eraseKey]

section References

variable {board : String} {threadId : Int64} (hboard : board ≠ "") (hthread : 0 < threadId.toInt)

include hboard hthread

theorem complete_member_iff (members : List (String × Json)) :
    (∀ ref, postRef (.obj (eraseKeyMembers "ip" members)) board threadId = some ref → CompleteRef ref) ↔
      PositiveRef (.obj members) := by
  have hpost := lookup_or_eraseKeyMembers (show "postId" ≠ "ip" by decide) (show "post_id" ≠ "ip" by decide) members
  have hthreads := lookup_or_eraseKeyMembers (show "thread" ≠ "ip" by decide) (show "thread_id" ≠ "ip" by decide)
    members
  simp only [postRef, PositiveRef, hpost, hthreads]
  generalize ((lookup "postId" members).or (lookup "post_id" members)).bind Json.asI64 = postId
  generalize ((lookup "thread" members).or (lookup "thread_id" members)).bind Json.asI64 = given
  have hnamed : (((lookup "board" (eraseKeyMembers "ip" members)).bind Json.asStr).bind fun value =>
      clean (some value)).getD board ≠ "" := by
    cases hclean : ((lookup "board" (eraseKeyMembers "ip" members)).bind Json.asStr).bind fun value =>
        clean (some value) with
    | none => exact hboard
    | some cleaned =>
        obtain ⟨text, -, htext⟩ := Option.bind_eq_some_iff.1 hclean
        exact ne_empty_of_clean htext
  cases postId with
  | none => simp [Positive]
  | some postId =>
      constructor
      · intro h
        have hcomplete := h _ rfl
        refine ⟨?_, fun _ => ?_⟩
        · rintro n ⟨⟩
          exact hcomplete.id
        · intro n hn
          have hpositive := hcomplete.threadId
          rw [hn] at hpositive
          exact hpositive
      · rintro ⟨hid, hgiven⟩ ref ⟨⟩
        refine ⟨hnamed, ?_, hid postId rfl⟩
        cases given with
        | none => exact hthread
        | some n => exact hgiven rfl n rfl

/-- A reference is complete if its own numbers are. -/
theorem complete_iff (value : Json) :
    (∀ ref, postRef (dropIpFields value) board threadId = some ref → CompleteRef ref) ↔ PositiveRef value := by
  have hnumber : ∀ number : Option Int64,
      (∀ ref, (number.map fun postId => (⟨board, threadId, postId⟩ : PostRef)) = some ref → CompleteRef ref) ↔
        Positive number := by
    intro number
    constructor
    · intro h n hn
      exact (h ⟨board, threadId, n⟩ (by rw [hn]; rfl)).id
    · intro h ref href
      obtain ⟨n, hn, rfl⟩ := Option.map_eq_some_iff.1 href
      exact ⟨hboard, hthread, h n hn⟩
  cases value with
  | num n => exact hnumber _
  | str text => exact hnumber _
  | obj members => exact complete_member_iff hboard hthread members
  | arr values => exact iff_of_true (fun _ href => nomatch href) trivial
  | bool b => exact iff_of_true (fun _ href => nomatch href) trivial
  | null => exact iff_of_true (fun _ href => nomatch href) trivial

theorem postRefs_complete_iff (values : List Json) :
    (∀ ref ∈ postRefs (values.map dropIpFields) board threadId, CompleteRef ref) ↔
      ∀ value ∈ values, PositiveRef value := by
  constructor
  · intro h value hvalue
    refine (complete_iff hboard hthread value).1 fun ref href => h ref ?_
    exact List.mem_filterMap.2 ⟨_, List.mem_map_of_mem hvalue, href⟩
  · intro h ref href
    obtain ⟨dropped, hdropped, href⟩ := List.mem_filterMap.1 href
    obtain ⟨value, hvalue, rfl⟩ := List.mem_map.1 hdropped
    exact (complete_iff hboard hthread value).2 (h value hvalue) ref href

end References

/-- What an upstream value has to hold, beside its place, for the client to take the post. -/
structure Presentable (date : String → Option Moment) (value : Json) : Prop where
  id : Positive ((value.get? "postId").bind Json.asI64)
  date : ∀ m, ((value.get? "date").bind Json.asStr).bind date = some m → PresentDate m
  files : (UInt64.ofNat (fileCount (value.get? "files"))).toNat < 2 ^ 63
  refs : ∀ ref ∈ elements (value.get? "quotes") ++ elements (value.get? "backlinks"), PositiveRef ref

theorem url_ne_empty (baseUrl : String) (post : Upstream.Post) : (contractPost baseUrl post).url ≠ "" := by
  intro hempty
  have hlist := congrArg String.toList hempty
  simp [contractPost] at hlist

theorem completePost_iff {date : String → Option Moment} {value : Json} {post : Upstream.Post}
    (hread : ReadFrom date value post) (baseUrl : String) {matcher : OriginMatcher}
    (hnames : ∀ tripcode name, matcher.get? tripcode = some name → name ≠ "") :
    CompletePost (matcher.annotatePost (contractPost baseUrl post)) ↔
      post.board ≠ "" ∧ 0 < (post.thread.getD post.id).toInt ∧ Presentable date value := by
  have hrefs : ∀ hboard : post.board ≠ "", ∀ hthread : 0 < (post.thread.getD post.id).toInt,
      (∀ ref ∈ (contractPost baseUrl post).references ++ (contractPost baseUrl post).referencedBy, CompleteRef ref) ↔
        ∀ ref ∈ elements (value.get? "quotes") ++ elements (value.get? "backlinks"), PositiveRef ref := by
    intro hboard hthread
    simp only [contractPost, hread.quotes, hread.backlinks, List.forall_mem_append]
    rw [postRefs_complete_iff hboard hthread, postRefs_complete_iff hboard hthread]
  constructor
  · intro h
    refine ⟨h.board, h.threadId, ?_, ?_, ?_, (hrefs h.board h.threadId).1 h.refs⟩
    · rw [hread.id]
      rintro n ⟨⟩
      exact h.id
    · intro m hm
      rw [hread.date, Option.some.injEq] at hm
      subst hm
      exact h.date
    · rw [hread.files]
      exact h.attachmentCount
  · rintro ⟨hboard, hthread, h⟩
    refine ⟨hboard, hthread, h.id _ hread.id, url_ne_empty baseUrl post, h.date _ hread.date, ?_, ?_,
      (hrefs hboard hthread).2 h.refs⟩
    · have hfiles := h.files
      rw [hread.files] at hfiles
      exact hfiles
    · intro origin horigin
      obtain ⟨name, hname, rfl⟩ := Option.map_eq_some_iff.1 horigin
      obtain ⟨tripcode, -, hname⟩ := Option.bind_eq_some_iff.1 hname
      exact hnames tripcode name hname

/-- Posts are attributed to integrations with names. -/
theorem name_ne_empty {getSecret : String → String → Except Chain String} {parsers : Parsers} {file : FileConfig}
    {config : Config} (hresolve : resolve getSecret parsers file = .ok config) (tripcode name : String)
    (h : (OriginMatcher.new config.postings).get? tripcode = some name) : name ≠ "" := by
  obtain ⟨entry, hentry, rfl⟩ := Option.map_eq_some_iff.1 h
  obtain ⟨posting, hposting, rfl⟩ := List.mem_map.1 (collectBy_eq_some hentry).1
  obtain ⟨integration, hintegration, hof⟩ := (resolution_of_resolve hresolve).postings posting hposting
  have hvalid := valid_names_of_resolve hresolve integration hintegration
  intro hempty
  change posting.name = "" at hempty
  rw [← hof.name, hempty] at hvalid
  exact absurd hvalid (by decide)

end PtchanGateway.Sdk

namespace PtchanGateway.Sample

open TextRfc3339 TextRust JsonValue Upstream

theorem documented : Sdk.Documented serde :=
  ⟨fun _ _ h => regular_of_parse h, fun _ _ => rfl⟩

theorem presentable_of {value : Json} {id : Int64} {text : String} {m : Moment}
    (hid : (value.get? "postId").bind Json.asI64 = some id) (hpositive : 0 < id.toInt)
    (htext : (value.get? "date").bind Json.asStr = some text) (hm : serde.date text = some m)
    (hdate : Sdk.PresentDate m) (hfiles : value.get? "files" = none) (hquotes : value.get? "quotes" = none)
    (hbacklinks : value.get? "backlinks" = none) : Sdk.Presentable serde.date value := by
  refine ⟨?_, ?_, ?_, ?_⟩
  · rw [hid]
    rintro n ⟨⟩
    exact hpositive
  · rw [htext, Option.bind_some, hm]
    rintro m ⟨⟩
    exact hdate
  · rw [hfiles]
    decide
  · rw [hquotes, hbacklinks]
    intro ref href
    cases href

end PtchanGateway.Sample
