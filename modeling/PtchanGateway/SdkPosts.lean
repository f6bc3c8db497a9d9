import PtchanGateway.Event
import PtchanGateway.Sdk

/-!
Contract posts through the Go client. Reading the JSON of a post gives the post back with its date as the
client reads it, unless the client cannot read the date or count so many attachments; and the client's checks
come down to what the post says of its place, its date, its origin and the posts it refers to.
-/

namespace PtchanGateway.Sdk

open TextRfc3339 TextRust JsonValue JsonGo

theorem lookup_optionalMember {α : Type} (name key : String) (encode : α → Json) (value : Option α) :
    lookup name (optionalMember key encode value) = if key = name then value.map encode else none := by
  cases value <;> simp [optionalMember, lookup]

/-- A list of references as a member: left out when empty. -/
def refsJson (refs : List PostRef) : Option Json :=
  if refs = [] then none else some (.arr (refs.map PostRef.toJson))

theorem lookup_refs (name key : String) (refs : List PostRef) :
    lookup name (listMember key PostRef.toJson refs) = if key = name then refsJson refs else none := by
  cases refs <;> simp [listMember, lookup, refsJson]

theorem plainNames_of_safe {levels : Nat} {names : List String} {members : List (String × Json)}
    (h : SafeMembers levels names members) (hnames : names.Nodup)
    (hfolded : (names.all fun name => foldName name == name) = true) : PlainNames members where
  nodup := h.named.nodup hnames
  folded := by
    intro member hmem
    have hname := h.named.subset (List.mem_map_of_mem hmem)
    exact beq_iff_eq.1 (List.all_eq_true.1 hfolded _ hname)

theorem sorted_obj (members : List (String × Json)) : sorted (.obj members) = .obj (mapOrder members) := by
  rw [sorted, mapOrder]

theorem sorted_str (s : String) : sorted (.str s) = .str s := by
  simp only [sorted]

theorem isNull_sorted (value : Json) : isNull (sorted value) = isNull value := by
  cases value <;> simp only [sorted, isNull]

@[simp] theorem valueField_nil {α : Type} (decode : Json → Option α) (zero : α) :
    valueField decode zero [] = some zero := by
  rw [valueField]

theorem valueField_singleton {α : Type} (decode : Json → Option α) (zero : α) {value : Json}
    (hvalue : isNull value = false) : valueField decode zero [value] = decode value := by
  cases value with
  | null => cases hvalue
  | _ => exact Option.bind_fun_some _

theorem pointerField_singleton {α : Type} (decode : Json → Option α) (held : Option α) {value : Json}
    (hvalue : isNull value = false) : pointerField decode held [value] = (decode value).map some := by
  cases value with
  | null => cases hvalue
  | _ => exact Option.map_eq_bind.symm

theorem valueField_text (s : String) : valueField Json.asStr "" [sorted (.str s)] = some s :=
  valueField_singleton _ _ rfl

/-- An optional text is read with the empty one for none. -/
theorem valueField_optional (text : Option String) :
    valueField Json.asStr "" ((text.map Json.str).map sorted).toList = some (text.getD "") := by
  cases text with
  | none => rfl
  | some s => exact valueField_text s

theorem valueField_int (n : Int64) : valueField decodeInt64 0 [sorted (intJson n)] = some n := by
  have hlow := n.le_toInt
  have hhigh := n.toInt_lt
  rw [valueField_singleton _ _ rfl]
  simp only [intJson, sorted, decodeInt64, Json.asI64, if_pos (And.intro hlow hhigh), Int64.ofInt_toInt]

theorem pointerField_bool (flag : Option Bool) :
    pointerField JsonGo.decodeBool none ((flag.map Json.bool).map sorted).toList = some flag := by
  cases flag with
  | none => rfl
  | some b => exact pointerField_singleton _ _ rfl

theorem decodePostRef_toJson (ref : PostRef) : decodePostRef (sorted ref.toJson) = some ref := by
  have hplain : PlainNames [("board", Json.str ref.board), ("thread_id", intJson ref.threadId),
      ("post_id", intJson ref.id)] :=
    ⟨by simp, by simp [foldName]; decide⟩
  rw [PostRef.toJson, sorted_obj]
  simp only [decodePostRef, decodeStruct, fieldValues_mapOrder hplain, lookup, Option.map_some, Option.toList_some,
    reduceIte, String.reduceEq, valueField_text, valueField_int, Option.bind_eq_bind, Option.bind_some]

theorem decodeOrigin_toJson (origin : PtchanGateway.PostOrigin) :
    decodeOrigin (sorted origin.toJson) = some ⟨"integration", origin.name⟩ := by
  have hplain : PlainNames [("kind", Json.str "integration"), ("name", Json.str origin.name)] :=
    ⟨by simp, by simp [foldName]; decide⟩
  rw [PostOrigin.toJson, OriginKind.toJson, sorted_obj]
  simp only [decodeOrigin, decodeStruct, fieldValues_mapOrder hplain, lookup, Option.map_some, Option.toList_some,
    reduceIte, String.reduceEq, valueField_text, Option.bind_eq_bind, Option.bind_some]

theorem pointerField_origin (origin : Option PtchanGateway.PostOrigin) :
    pointerField decodeOrigin none ((origin.map PostOrigin.toJson).map sorted).toList =
      some (origin.map fun origin => ⟨"integration", origin.name⟩) := by
  cases origin with
  | none => rfl
  | some origin =>
      have hdecoded := decodeOrigin_toJson origin
      rw [Option.map_some, Option.map_some, Option.toList_some, pointerField_singleton, hdecoded]
      · rfl
      · rfl

theorem decodePostRefs_refsJson (refs : List PostRef) :
    decodePostRefs ((refsJson refs).map sorted).toList = some refs := by
  by_cases hempty : refs = []
  · rw [hempty]
    rfl
  · have hslice : decodeSlice decodePostRef (sorted (.arr (refs.map PostRef.toJson))) = some refs := by
      rw [sorted, sortedList_eq_map, decodeSlice, List.map_map]
      apply mapM_eq_some_of_forall₂
      rw [List.forall₂_map_left_iff, List.forall₂_same]
      exact fun ref _ => decodePostRef_toJson ref
    rw [refsJson, if_neg hempty, Option.map_some, Option.toList_some, decodePostRefs, pointerField_singleton, hslice]
    · rfl
    · rfl

/-- A contract post as the client holds it, with its date and its count as they were read. -/
def viewPost (post : PtchanGateway.Post) (date : Moment) (count : Int64) : Post where
  board := post.board
  threadId := post.threadId
  postId := post.id
  url := post.url
  date := date
  subject := post.subject.getD ""
  message := post.message.getD ""
  name := post.name.getD ""
  tripcode := post.tripcode.getD ""
  capcode := post.capcode.getD ""
  donor := post.donor
  country := post.country.getD ""
  posterFingerprint := post.posterFingerprint.getD ""
  origin := post.origin.map fun origin => ⟨"integration", origin.name⟩
  attachmentCount := count
  references := post.references
  referencedBy := post.referencedBy

/-- The count of attachments as it is written. -/
def countJson (count : UInt64) : Json := .num (.int count.toNat)

/-- What the members of a post hold. -/
structure PostMembers (post : PtchanGateway.Post) (members : List (String × Json)) : Prop where
  plain : PlainNames members
  board : lookup "board" members = some (.str post.board)
  threadId : lookup "thread_id" members = some (intJson post.threadId)
  postId : lookup "post_id" members = some (intJson post.id)
  url : lookup "url" members = some (.str post.url)
  date : lookup "date" members = some (momentJson post.date)
  subject : lookup "subject" members = post.subject.map .str
  message : lookup "message" members = post.message.map .str
  name : lookup "name" members = post.name.map .str
  tripcode : lookup "tripcode" members = post.tripcode.map .str
  capcode : lookup "capcode" members = post.capcode.map .str
  donor : lookup "donor" members = post.donor.map .bool
  country : lookup "country" members = post.country.map .str
  posterFingerprint : lookup "poster_fingerprint" members = post.posterFingerprint.map .str
  origin : lookup "origin" members = post.origin.map PostOrigin.toJson
  attachmentCount : lookup "attachment_count" members = some (countJson post.attachmentCount)
  references : lookup "references" members = refsJson post.references
  referencedBy : lookup "referenced_by" members = refsJson post.referencedBy

theorem toJson_postMembers (post : PtchanGateway.Post) :
    ∃ members, post.toJson = .obj members ∧ PostMembers post members := by
  obtain ⟨members, heq, hsafe⟩ := post.toJson_members
  have hmembers := Json.obj.inj (heq.symm.trans (Post.toJson.eq_1 post))
  have hlookup : ∀ name, lookup name members = (lookup name [("board", .str post.board),
        ("thread_id", intJson post.threadId), ("post_id", intJson post.id), ("url", .str post.url),
        ("date", momentJson post.date)]).or
      ((if "subject" = name then post.subject.map .str else none).or
      ((if "message" = name then post.message.map .str else none).or
      ((if "name" = name then post.name.map .str else none).or
      ((if "tripcode" = name then post.tripcode.map .str else none).or
      ((if "capcode" = name then post.capcode.map .str else none).or
      ((if "donor" = name then post.donor.map .bool else none).or
      ((if "country" = name then post.country.map .str else none).or
      ((if "poster_fingerprint" = name then post.posterFingerprint.map .str else none).or
      ((if "origin" = name then post.origin.map PostOrigin.toJson else none).or
      ((lookup name [("attachment_count", countJson post.attachmentCount)]).or
      ((if "references" = name then refsJson post.references else none).or
      (if "referenced_by" = name then refsJson post.referencedBy else none)))))))))))) := by
    intro name
    rw [hmembers]
    simp only [lookup_append, lookup_optionalMember, lookup_refs, Option.or_assoc, countJson]
  refine ⟨members, heq, ⟨plainNames_of_safe hsafe (by decide) (by decide), ?_, ?_, ?_, ?_, ?_, ?_, ?_, ?_, ?_, ?_, ?_,
    ?_, ?_, ?_, ?_, ?_, ?_⟩⟩ <;> rw [hlookup] <;> simp [lookup]

theorem decodePost_toJson (post : PtchanGateway.Post) :
    decodePost (sorted post.toJson) =
      (TextGo.parseTime (post.date.text ['Z'])).bind fun date =>
        (decodeInt64 (countJson post.attachmentCount)).map fun count => viewPost post date count := by
  obtain ⟨members, heq, hmembers⟩ := toJson_postMembers post
  have hrequired : requireFields (mapOrder members)
      ["board", "thread_id", "post_id", "url", "date", "attachment_count"] = true := by
    simp only [requireFields, mapMember_mapOrder hmembers.plain, List.all_cons, List.all_nil, hmembers.board,
      hmembers.threadId, hmembers.postId, hmembers.url, hmembers.date, hmembers.attachmentCount, Option.map_some,
      Option.any_some, isNull_sorted]
    rfl
  have hdate : valueField decodeTime TextGo.zeroTime [sorted (momentJson post.date)] =
      TextGo.parseTime (post.date.text ['Z']) := by
    rw [momentJson, sorted_str, valueField_singleton _ _ rfl, decodeTime, String.toList_ofList]
  have hcount : valueField decodeInt64 0 [sorted (countJson post.attachmentCount)] =
      decodeInt64 (countJson post.attachmentCount) := valueField_singleton _ _ rfl
  rw [heq, sorted_obj, decodePost, if_pos hrequired]
  simp only [fieldValues_mapOrder hmembers.plain, hmembers.board, hmembers.threadId, hmembers.postId, hmembers.url,
    hmembers.date, hmembers.subject, hmembers.message, hmembers.name, hmembers.tripcode, hmembers.capcode,
    hmembers.donor, hmembers.country, hmembers.posterFingerprint, hmembers.origin, hmembers.attachmentCount,
    hmembers.references, hmembers.referencedBy, Option.map_some, Option.toList_some]
  simp only [valueField_text, valueField_int, valueField_optional, pointerField_bool, pointerField_origin,
    decodePostRefs_refsJson, hdate, hcount]
  -- What the two readers answer does not matter from here on.
  generalize TextGo.parseTime (post.date.text ['Z']) = parsed
  generalize decodeInt64 (countJson post.attachmentCount) = counted
  cases parsed with
  | none => rfl
  | some date =>
      cases counted with
      | none => rfl
      | some count => rfl

/-- Complete coordinates with positive numbers. -/
structure CompleteRef (ref : PostRef) : Prop where
  board : ref.board ≠ ""
  threadId : 0 < ref.threadId.toInt
  id : 0 < ref.id.toInt

/-- What `validatePost` demands. -/
structure ValidPost (post : Post) : Prop where
  board : post.board ≠ ""
  threadId : 0 < post.threadId.toInt
  postId : 0 < post.postId.toInt
  url : post.url ≠ ""
  date : post.date ≠ TextGo.zeroTime
  attachmentCount : 0 ≤ post.attachmentCount.toInt
  origin : ∀ origin, post.origin = some origin → origin.kind = "integration" ∧ origin.name ≠ ""
  refs : ∀ ref ∈ post.references ++ post.referencedBy, CompleteRef ref

theorem validatePostRef_eq_ok {ref : PostRef} : validatePostRef ref = .ok () ↔ CompleteRef ref := by
  unfold validatePostRef
  split
  · rename_i h
    constructor
    · intro hok
      cases hok
    · intro href
      rcases h with h | h | h
      · exact absurd h href.board
      · exact absurd href.threadId (not_lt.2 h)
      · exact absurd href.id (not_lt.2 h)
  · rename_i h
    simp only [not_or, not_le] at h
    exact ⟨fun _ => ⟨h.1, h.2.1, h.2.2⟩, fun _ => rfl⟩

theorem forM_eq_ok {α : Type} {check : α → Except String Unit} {values : List α} :
    values.forM check = .ok () ↔ ∀ value ∈ values, check value = .ok () := by
  induction values with
  | nil => exact ⟨fun _ value hmem => absurd hmem List.not_mem_nil, fun _ => rfl⟩
  | cons value values ih =>
      rw [List.forall_mem_cons, ← ih]
      have hcons : (value :: values).forM check = (check value).bind fun _ => values.forM check := rfl
      rw [hcons]
      cases hcheck : check value with
      | error err => simp [Except.bind]
      | ok _ => simp [Except.bind]

theorem validateOrigin_eq_ok {origin : PostOrigin} :
    validateOrigin origin = .ok () ↔ origin.kind = "integration" ∧ origin.name ≠ "" := by
  unfold validateOrigin
  split
  · rename_i h
    constructor
    · intro hok
      cases hok
    · rintro ⟨hkind, hname⟩
      rcases h with h | h
      · exact absurd hkind h
      · exact absurd h hname
  · rename_i h
    simp only [not_or, not_not] at h
    exact ⟨fun _ => h, fun _ => rfl⟩

theorem elim_validateOrigin_eq_ok {origin : Option PostOrigin} :
    origin.elim (.ok ()) validateOrigin = .ok () ↔
      ∀ held, origin = some held → held.kind = "integration" ∧ held.name ≠ "" := by
  cases origin with
  | none => simp
  | some held => simp [validateOrigin_eq_ok]

theorem validatePost_eq_ok {post : Post} : validatePost post = .ok () ↔ ValidPost post := by
  unfold validatePost
  split
  · rename_i h
    constructor
    · intro hok
      cases hok
    · intro hvalid
      rcases h with h | h | h | h | h | h
      · exact absurd h hvalid.board
      · exact absurd hvalid.threadId (not_lt.2 h)
      · exact absurd hvalid.postId (not_lt.2 h)
      · exact absurd h hvalid.url
      · exact absurd h hvalid.date
      · exact absurd hvalid.attachmentCount (not_le.2 h)
  · rename_i h
    simp only [not_or, not_le, not_lt] at h
    obtain ⟨hboard, hthread, hid, hurl, hdate, hcount⟩ := h
    split
    · rename_i err herr
      constructor
      · intro hok
        cases hok
      · intro hvalid
        have horigin := elim_validateOrigin_eq_ok.2 hvalid.origin
        rw [herr] at horigin
        cases horigin
    · rename_i horigin
      rw [forM_eq_ok]
      constructor
      · intro hrefs
        exact ⟨hboard, hthread, hid, hurl, hdate, hcount, elim_validateOrigin_eq_ok.1 horigin,
          fun ref hmem => validatePostRef_eq_ok.1 (hrefs ref hmem)⟩
      · intro hvalid ref hmem
        exact validatePostRef_eq_ok.2 (hvalid.refs ref hmem)

/-- A date that the client can read and does not take for a missing one. -/
structure PresentDate (date : Moment) : Prop where
  inEra : date.InEra
  plain : date.frac < 10 ^ 9
  nonzero : date ≠ TextGo.zeroTime

/-- What the client demands of a contract post. -/
structure CompletePost (post : PtchanGateway.Post) : Prop where
  board : post.board ≠ ""
  threadId : 0 < post.threadId.toInt
  id : 0 < post.id.toInt
  url : post.url ≠ ""
  date : PresentDate post.date
  attachmentCount : post.attachmentCount.toNat < 2 ^ 63
  origin : ∀ origin, post.origin = some origin → origin.name ≠ ""
  refs : ∀ ref ∈ post.references ++ post.referencedBy, CompleteRef ref

theorem decodeInt64_countJson {count : UInt64} {read : Int64} :
    decodeInt64 (countJson count) = some read ↔ count.toNat < 2 ^ 63 ∧ read = Int64.ofInt count.toNat := by
  simp only [countJson, decodeInt64, Json.asI64]
  split
  · rename_i h
    rw [Option.some.injEq]
    exact ⟨fun heq => ⟨by omega, heq.symm⟩, fun heq => heq.2.symm⟩
  · rename_i h
    exact iff_of_false (Option.some_ne_none read).symm fun heq => h ⟨by omega, by omega⟩

theorem decodePost_eq_some {post : PtchanGateway.Post} {held : Post} (hregular : post.date.Regular) :
    decodePost (sorted post.toJson) = some held ↔
      post.date.InEra ∧ post.date.frac < 10 ^ 9 ∧ post.attachmentCount.toNat < 2 ^ 63 ∧
        held = viewPost post post.date (Int64.ofInt post.attachmentCount.toNat) := by
  rw [decodePost_toJson, Option.bind_eq_some_iff]
  constructor
  · rintro ⟨date, hdate, hheld⟩
    obtain ⟨hera, hfrac, rfl⟩ := (TextGo.parseTime_eq_some hregular).1 hdate
    obtain ⟨count, hcount, rfl⟩ := Option.map_eq_some_iff.1 hheld
    obtain ⟨hlt, rfl⟩ := decodeInt64_countJson.1 hcount
    exact ⟨hera, hfrac, hlt, rfl⟩
  · rintro ⟨hera, hfrac, hlt, rfl⟩
    refine ⟨post.date, (TextGo.parseTime_eq_some hregular).2 ⟨hera, hfrac, rfl⟩, ?_⟩
    exact Option.map_eq_some_iff.2 ⟨_, decodeInt64_countJson.2 ⟨hlt, rfl⟩, rfl⟩

theorem toInt_ofInt_count {count : UInt64} (h : count.toNat < 2 ^ 63) :
    (Int64.ofInt count.toNat).toInt = count.toNat := by
  rw [Int64.toInt_ofInt_of_le (by omega) (by omega)]

/-- The client takes exactly the complete posts. -/
theorem validPost_viewPost {post : PtchanGateway.Post} (hera : post.date.InEra) (hfrac : post.date.frac < 10 ^ 9)
    (hcount : post.attachmentCount.toNat < 2 ^ 63) :
    ValidPost (viewPost post post.date (Int64.ofInt post.attachmentCount.toNat)) ↔ CompletePost post := by
  constructor
  · intro h
    refine ⟨h.board, h.threadId, h.postId, h.url, ⟨hera, hfrac, h.date⟩, hcount, ?_, h.refs⟩
    intro origin horigin
    exact (h.origin ⟨"integration", origin.name⟩ (by rw [viewPost, horigin]; rfl)).2
  · intro h
    have hnonneg : (0 : Int) ≤ (Int64.ofInt post.attachmentCount.toNat).toInt := by
      rw [toInt_ofInt_count hcount]
      omega
    refine ⟨h.board, h.threadId, h.id, h.url, h.date.nonzero, hnonneg, ?_, h.refs⟩
    intro held hheld
    obtain ⟨origin, horigin, rfl⟩ := Option.map_eq_some_iff.1 hheld
    exact ⟨rfl, h.origin origin horigin⟩

theorem accepts_iff {post : PtchanGateway.Post} (hregular : post.date.Regular) :
    (∃ held, decodePost (sorted post.toJson) = some held ∧ validatePost held = .ok ()) ↔ CompletePost post := by
  constructor
  · rintro ⟨held, hdecode, hvalid⟩
    obtain ⟨hera, hfrac, hcount, rfl⟩ := (decodePost_eq_some hregular).1 hdecode
    exact (validPost_viewPost hera hfrac hcount).1 (validatePost_eq_ok.1 hvalid)
  · intro h
    obtain ⟨hera, hfrac, -⟩ := h.date
    refine ⟨_, (decodePost_eq_some hregular).2 ⟨hera, hfrac, h.attachmentCount, rfl⟩, ?_⟩
    exact validatePost_eq_ok.2 ((validPost_viewPost hera hfrac h.attachmentCount).2 h)

end PtchanGateway.Sdk
