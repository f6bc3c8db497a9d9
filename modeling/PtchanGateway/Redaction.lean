import PtchanGateway.Event
import PtchanGateway.JsonPath

/-!
Redaction walks the whole tree. `drop_ip_fields` leaves the paths that pass through no `ip` member, with the
redacted form of what they led to; `reject_sensitive_fields` refuses a tree exactly when a path leads to a
sensitive member. Together they refuse a post for a sensitive member outside every `ip` member, and for no
other; and an encoded event has none at all.
-/

namespace PtchanGateway

open TextRfc3339 TextRust JsonValue Config Upstream

/-- The message about a sensitive member. -/
def sensitiveField (name : String) : String := "upstream payload contains sensitive field " ++ name

/-- A path leads to an object with such a member. -/
def HasSensitive (value : Json) : Prop :=
  ∃ path members, At path value (.obj members) ∧
    ∃ member ∈ members, member.1 ∈ ["raw", "cloak", "session", "permissions"]

/-- A path that passes through no `ip` member leads to an object with a member of this name. -/
def OutsideIp (value : Json) (name : String) : Prop :=
  ∃ path members, .member "ip" ∉ path ∧ At path value (.obj members) ∧ ∃ member ∈ members, member.1 = name

theorem isSensitive_iff {name : String} :
    isSensitive name = true ↔ name ∈ ["raw", "cloak", "session", "permissions"] := by
  simp [isSensitive, or_assoc]

theorem hasSensitive_iff {value : Json} : HasSensitive value ↔ hasKey isSensitive value = true := by
  simp only [HasSensitive, hasKey_iff_at, isSensitive_iff]

section Reported

variable {causes : Chain}

theorem bind_unit_eq_error {β : Type} {first : Except Chain Unit} {next : Unit → Except Chain β}
    (h : (first >>= next) = .error causes) :
    first = .error causes ∨ first = .ok () ∧ next () = .error causes := by
  cases first with
  | error err =>
      simp only [bind, Except.bind, Except.error.injEq] at h
      exact .inl (congrArg Except.error h)
  | ok _ => exact .inr ⟨rfl, h⟩

mutual

/-- A refusal names a sensitive member of an object that a path leads to. -/
theorem named_of_reject : ∀ {value : Json}, rejectSensitiveFields value = .error causes →
    ∃ path members, At path value (.obj members) ∧
      ∃ member ∈ members, isSensitive member.1 = true ∧ causes = [sensitiveField member.1]
  | .arr values, h => by
      rw [rejectSensitiveFields] at h
      obtain ⟨index, element, helement, path, members, hat, hmember⟩ := named_of_rejectValues h
      exact ⟨.element index :: path, members, .element helement hat, hmember⟩
  | .obj members, h => by
      rw [rejectSensitiveFields] at h
      rcases named_of_rejectMembers h with hhere | ⟨member, hin, path, found, hat, hmember⟩
      · exact ⟨[], members, .here _, hhere⟩
      · exact ⟨.member member.1 :: path, found, .member hin hat, hmember⟩
  | .null, h => by cases h
  | .bool _, h => by cases h
  | .num _, h => by cases h
  | .str _, h => by cases h

theorem named_of_rejectValues : ∀ {values : List Json}, rejectSensitiveValues values = .error causes →
    ∃ (index : Nat) (element : Json), values[index]? = some element ∧ ∃ path members,
      At path element (.obj members) ∧
        ∃ member ∈ members, isSensitive member.1 = true ∧ causes = [sensitiveField member.1]
  | [], h => by cases h
  | value :: values, h => by
      rw [rejectSensitiveValues] at h
      rcases bind_unit_eq_error h with hvalue | ⟨_, hvalues⟩
      · exact ⟨0, value, rfl, named_of_reject hvalue⟩
      · obtain ⟨index, element, helement, hfound⟩ := named_of_rejectValues hvalues
        exact ⟨index + 1, element, helement, hfound⟩

theorem named_of_rejectMembers :
    ∀ {members : List (String × Json)}, rejectSensitiveMembers members = .error causes →
      (∃ member ∈ members, isSensitive member.1 = true ∧ causes = [sensitiveField member.1]) ∨
      ∃ member ∈ members, ∃ path found, At path member.2 (.obj found) ∧
        ∃ inner ∈ found, isSensitive inner.1 = true ∧ causes = [sensitiveField inner.1]
  | [], h => by cases h
  | (key, value) :: members, h => by
      rw [rejectSensitiveMembers] at h
      rcases bind_unit_eq_error h with hkey | ⟨_, h⟩
      · refine .inl ⟨(key, value), List.mem_cons_self, ?_⟩
        cases hsensitive : isSensitive key with
        | false => simp [ensure, hsensitive] at hkey
        | true =>
            rw [hsensitive] at hkey
            exact ⟨rfl, (Except.error.inj hkey).symm⟩
      · rcases bind_unit_eq_error h with hvalue | ⟨_, hmembers⟩
        · exact .inr ⟨(key, value), List.mem_cons_self, named_of_reject hvalue⟩
        · rcases named_of_rejectMembers hmembers with ⟨member, hin, hnamed⟩ | ⟨member, hin, hfound⟩
          · exact .inl ⟨member, List.mem_cons_of_mem _ hin, hnamed⟩
          · exact .inr ⟨member, List.mem_cons_of_mem _ hin, hfound⟩

end

end Reported

/-- The objects of a redacted tree are the redacted objects outside `ip`. -/
theorem at_obj_dropIpFields {path : List Step} {value : Json} {members : List (String × Json)} :
    At path (dropIpFields value) (.obj members) ↔ .member "ip" ∉ path ∧
      ∃ originals, At path value (.obj originals) ∧ members = eraseKeyMembers "ip" originals := by
  rw [dropIpFields, at_eraseKey]
  constructor
  · rintro ⟨hpath, original, hat, heq⟩
    obtain ⟨originals, rfl, hmembers⟩ := eraseKey_eq_obj.mp heq.symm
    exact ⟨hpath, originals, hat, hmembers⟩
  · rintro ⟨hpath, originals, hat, hmembers⟩
    refine ⟨hpath, _, hat, ?_⟩
    rw [eraseKey, hmembers]

theorem outsideIp_of_at {path : List Step} {value : Json} {members : List (String × Json)}
    {member : String × Json} (hat : At path (dropIpFields value) (.obj members)) (hmember : member ∈ members) :
    OutsideIp value member.1 := by
  obtain ⟨hpath, originals, horiginal, rfl⟩ := at_obj_dropIpFields.mp hat
  obtain ⟨-, original, hin, -⟩ := mem_eraseKeyMembers.mp hmember
  exact ⟨path, originals, hpath, horiginal, (member.1, original), hin, rfl⟩

theorem hasKey_of_outsideIp {value : Json} {name : String} (h : OutsideIp value name)
    (hname : isSensitive name = true) : hasKey isSensitive (dropIpFields value) = true := by
  obtain ⟨path, members, hpath, hat, ⟨key, original⟩, hmember, rfl⟩ := h
  have hkey : key ≠ "ip" := by
    intro heq
    rw [heq] at hname
    cases hname
  refine hasKey_of_at (at_obj_dropIpFields.mpr ⟨hpath, members, hat, rfl⟩)
    (mem_eraseKeyMembers.mpr ⟨hkey, original, hmember, rfl⟩) hname

/-- A message about a field that cannot be decoded is none about a sensitive one. -/
theorem decode_ne_sensitive (rest name : String) : "decode upstream post at " ++ rest ≠ sensitiveField name := by
  unfold sensitiveField
  intro h
  have hhead := congrArg (fun text => text.toList.head?) h
  simp [String.toList_append] at hhead

section TryFrom

variable (serde : Serde) (value : Json)

theorem outsideIp_of_tryFrom {name : String}
    (h : DecodedPost.tryFrom serde value = .error [sensitiveField name]) :
    isSensitive name = true ∧ OutsideIp value name := by
  rw [DecodedPost.tryFrom] at h
  rcases bind_unit_eq_error h with hrefused | ⟨-, hdecode⟩
  · obtain ⟨path, members, hat, member, hmember, hsensitive, heq⟩ := named_of_reject hrefused
    have hname : name = member.1 := (String.append_right_inj _).mp (List.head_eq_of_cons_eq heq)
    rw [hname]
    exact ⟨hsensitive, outsideIp_of_at hat hmember⟩
  · cases hpost : decodePost serde.date (dropIpFields value) with
    | some post => simp [postFromValue, hpost, bind, Except.bind, pure, Except.pure] at hdecode
    | none =>
        simp only [postFromValue, hpost, bail, bind, Except.bind, Except.error.injEq, List.cons.injEq, and_true,
          String.append_assoc] at hdecode
        exact absurd hdecode (decode_ne_sensitive _ _)

theorem tryFrom_of_outsideIp {name : String} (hname : isSensitive name = true) (h : OutsideIp value name) :
    ∃ reported, DecodedPost.tryFrom serde value = .error [sensitiveField reported] := by
  have hkey := hasKey_of_outsideIp h hname
  cases hrefused : rejectSensitiveFields (dropIpFields value) with
  | ok _ =>
      rw [(rejectSensitiveFields_eq_ok _).mp hrefused] at hkey
      cases hkey
  | error causes =>
      obtain ⟨_, _, _, member, _, _, rfl⟩ := named_of_reject hrefused
      refine ⟨member.1, ?_⟩
      rw [DecodedPost.tryFrom]
      simp only [hrefused, bind, Except.bind]

end TryFrom

/-- Dropping the `ip` members of a tree leaves no such member, keeps each path outside them with the dropped
form of its value, so arrays keep their lengths, and has nothing to do the second time. The check of a tree
passes exactly when no path leads to a sensitive member, a post is refused for one exactly when it has one
outside every `ip` member, and the check of an encoded event passes. -/
theorem redaction_walks_the_tree (value : Json) :
    (∀ path members, At path (dropIpFields value) (.obj members) → ∀ member ∈ members, member.1 ≠ "ip") ∧
    (∀ path sub, At path (dropIpFields value) sub ↔
      .member "ip" ∉ path ∧ ∃ original, At path value original ∧ sub = dropIpFields original) ∧
    (∀ path values, At path (dropIpFields value) (.arr values) ↔
      .member "ip" ∉ path ∧ ∃ originals, At path value (.arr originals) ∧ values = originals.map dropIpFields) ∧
    dropIpFields (dropIpFields value) = dropIpFields value ∧
    (rejectSensitiveFields value = .ok () ↔ ¬HasSensitive value) ∧
    (∀ serde name, DecodedPost.tryFrom serde value = .error [sensitiveField name] →
      name ∈ ["raw", "cloak", "session", "permissions"] ∧ OutsideIp value name) ∧
    (∀ serde, (∃ name, DecodedPost.tryFrom serde value = .error [sensitiveField name]) ↔
      ∃ name ∈ ["raw", "cloak", "session", "permissions"], OutsideIp value name) ∧
    ∀ (serde : Serde) (event : WebhookEvent), assertContractSafe serde (serde.codec.write event.toJson) = .ok () ∧
      encodeEvent serde event = .ok (serde.codec.write event.toJson) := by
  refine ⟨?_, ?_, ?_, eraseKey_eraseKey "ip" value, ?_, ?_, ?_, ?_⟩
  · intro path members hat member hmember
    obtain ⟨-, originals, -, rfl⟩ := at_obj_dropIpFields.mp hat
    exact (mem_eraseKeyMembers.mp hmember).1
  · intro path sub
    exact at_eraseKey
  · intro path values
    rw [dropIpFields, at_eraseKey]
    constructor
    · rintro ⟨hpath, original, hat, heq⟩
      obtain ⟨originals, rfl, hvalues⟩ := eraseKey_eq_arr.mp heq.symm
      exact ⟨hpath, originals, hat, hvalues⟩
    · rintro ⟨hpath, originals, hat, hvalues⟩
      exact ⟨hpath, _, hat, (eraseKey_eq_arr.mpr ⟨originals, rfl, hvalues⟩).symm⟩
  · rw [rejectSensitiveFields_eq_ok, hasSensitive_iff, Bool.not_eq_true]
  · intro serde name h
    rw [← isSensitive_iff]
    exact outsideIp_of_tryFrom serde value h
  · intro serde
    constructor
    · rintro ⟨name, h⟩
      obtain ⟨hname, houtside⟩ := outsideIp_of_tryFrom serde value h
      exact ⟨name, isSensitive_iff.mp hname, houtside⟩
    · rintro ⟨name, hname, houtside⟩
      exact tryFrom_of_outsideIp serde value (isSensitive_iff.mpr hname) houtside
  · intro serde event
    have hencode := encodeEvent_eq serde event
    refine ⟨?_, hencode⟩
    rw [encodeEvent, bind_unit_eq_ok] at hencode
    exact hencode.1

end PtchanGateway
