import PtchanGateway.JsonValue

/-!
Paths into a value: the names of members and the positions of elements on the way down. Erasing a name
from a tree leaves exactly the paths that do not pass through it, and leads each to the erased form of what
it led to; a tree has a name when a path leads to an object with a member of it.
-/

namespace JsonValue

inductive Step where
  | member (name : String)
  | element (index : Nat)
  deriving DecidableEq, Repr

/-- The path leads from the first value to the second. -/
inductive At : List Step → Json → Json → Prop where
  | here (value : Json) : At [] value value
  | member {name : String} {value sub : Json} {members : List (String × Json)} {path : List Step}
      (hmember : (name, value) ∈ members) (hsub : At path value sub) : At (.member name :: path) (.obj members) sub
  | element {index : Nat} {value sub : Json} {values : List Json} {path : List Step}
      (hvalue : values[index]? = some value) (hsub : At path value sub) :
      At (.element index :: path) (.arr values) sub

theorem eraseKeyList_eq_map (name : String) (values : List Json) :
    eraseKeyList name values = values.map (eraseKey name) := by
  induction values with
  | nil => rfl
  | cons value values ih => rw [eraseKeyList, ih, List.map_cons]

theorem mem_eraseKeyMembers {name key : String} {value : Json} {members : List (String × Json)} :
    (key, value) ∈ eraseKeyMembers name members ↔
      key ≠ name ∧ ∃ original, (key, original) ∈ members ∧ value = eraseKey name original := by
  induction members with
  | nil => simp [eraseKeyMembers]
  | cons member members ih =>
      obtain ⟨first, original⟩ := member
      rw [eraseKeyMembers]
      by_cases hfirst : first = name
      · rw [if_pos hfirst, ih]
        constructor
        · rintro ⟨hkey, other, hother, heq⟩
          exact ⟨hkey, other, List.mem_cons_of_mem _ hother, heq⟩
        · rintro ⟨hkey, other, hother, heq⟩
          rcases List.mem_cons.mp hother with hhead | htail
          · exact absurd ((congrArg Prod.fst hhead).trans hfirst) hkey
          · exact ⟨hkey, other, htail, heq⟩
      · rw [if_neg hfirst, List.mem_cons, ih]
        constructor
        · intro h
          rcases h with hhead | ⟨hkey, other, hother, heq⟩
          · obtain ⟨rfl, rfl⟩ := Prod.mk.inj hhead
            exact ⟨hfirst, original, List.mem_cons_self, rfl⟩
          · exact ⟨hkey, other, List.mem_cons_of_mem _ hother, heq⟩
        · rintro ⟨hkey, other, hother, heq⟩
          rcases List.mem_cons.mp hother with hhead | htail
          · obtain ⟨rfl, rfl⟩ := Prod.mk.inj hhead
            exact .inl (by rw [heq])
          · exact .inr ⟨hkey, other, htail, heq⟩

theorem eraseKey_eq_arr {name : String} {value : Json} {values : List Json} :
    eraseKey name value = .arr values ↔
      ∃ originals, value = .arr originals ∧ values = originals.map (eraseKey name) := by
  cases value <;> simp [eraseKey, eraseKeyList_eq_map, eq_comm]

theorem eraseKey_eq_obj {name : String} {value : Json} {members : List (String × Json)} :
    eraseKey name value = .obj members ↔
      ∃ originals, value = .obj originals ∧ members = eraseKeyMembers name originals := by
  cases value <;> simp [eraseKey, eq_comm]

/-- The paths of an erased tree are those of the tree that do not pass through the name. -/
theorem at_eraseKey {name : String} {path : List Step} {value sub : Json} :
    At path (eraseKey name value) sub ↔
      .member name ∉ path ∧ ∃ original, At path value original ∧ sub = eraseKey name original := by
  induction path generalizing value with
  | nil =>
      constructor
      · intro h
        cases h
        exact ⟨List.not_mem_nil, value, .here value, rfl⟩
      · rintro ⟨_, original, hat, heq⟩
        cases hat
        rw [heq]
        exact .here _
  | cons step path ih =>
      constructor
      · intro h
        generalize herased : eraseKey name value = erased at h
        cases h with
        | element hvalue hsub =>
            obtain ⟨originals, rfl, rfl⟩ := eraseKey_eq_arr.mp herased
            rw [List.getElem?_map] at hvalue
            obtain ⟨element, helement, rfl⟩ := Option.map_eq_some_iff.mp hvalue
            obtain ⟨hpath, original, hat, heq⟩ := ih.mp hsub
            exact ⟨by simpa using hpath, original, .element helement hat, heq⟩
        | member hmember hsub =>
            obtain ⟨originals, rfl, rfl⟩ := eraseKey_eq_obj.mp herased
            obtain ⟨hkey, element, helement, rfl⟩ := mem_eraseKeyMembers.mp hmember
            obtain ⟨hpath, original, hat, heq⟩ := ih.mp hsub
            refine ⟨?_, original, .member helement hat, heq⟩
            intro hin
            rcases List.mem_cons.mp hin with hhead | htail
            · exact hkey (Step.member.inj hhead).symm
            · exact hpath htail
      · rintro ⟨hpath, original, hat, heq⟩
        rw [List.mem_cons, not_or] at hpath
        cases hat with
        | element hvalue hsub =>
            rw [eraseKey, eraseKeyList_eq_map]
            refine .element ?_ (ih.mpr ⟨hpath.2, original, hsub, heq⟩)
            rw [List.getElem?_map, hvalue, Option.map_some]
        | member hmember hsub =>
            rw [eraseKey]
            refine .member (mem_eraseKeyMembers.mpr ⟨?_, _, hmember, rfl⟩) (ih.mpr ⟨hpath.2, original, hsub, heq⟩)
            intro hname
            exact hpath.1 (by rw [hname])

mutual

/-- Erasing a name again changes nothing. -/
theorem eraseKey_eraseKey (name : String) : ∀ value, eraseKey name (eraseKey name value) = eraseKey name value
  | .arr values => by rw [eraseKey, eraseKey, eraseKeyList_eraseKeyList name values]
  | .obj members => by rw [eraseKey, eraseKey, eraseKeyMembers_eraseKeyMembers name members]
  | .null => rfl
  | .bool _ => rfl
  | .num _ => rfl
  | .str _ => rfl

theorem eraseKeyList_eraseKeyList (name : String) :
    ∀ values, eraseKeyList name (eraseKeyList name values) = eraseKeyList name values
  | [] => rfl
  | value :: values => by
      rw [eraseKeyList, eraseKeyList, eraseKey_eraseKey name value, eraseKeyList_eraseKeyList name values]

theorem eraseKeyMembers_eraseKeyMembers (name : String) :
    ∀ members, eraseKeyMembers name (eraseKeyMembers name members) = eraseKeyMembers name members
  | [] => rfl
  | (key, value) :: members => by
      rw [eraseKeyMembers]
      by_cases hkey : key = name
      · rw [if_pos hkey, eraseKeyMembers_eraseKeyMembers name members]
      · rw [if_neg hkey, eraseKeyMembers, if_neg hkey, eraseKey_eraseKey name value,
          eraseKeyMembers_eraseKeyMembers name members]

end

mutual

theorem at_of_hasKey {test : String → Bool} : ∀ {value : Json}, hasKey test value = true →
    ∃ path members, At path value (.obj members) ∧ ∃ member ∈ members, test member.1 = true
  | .arr values, h => by
      rw [hasKey] at h
      obtain ⟨index, element, helement, path, members, hat, hmember⟩ := at_of_hasKeyList h
      exact ⟨.element index :: path, members, .element helement hat, hmember⟩
  | .obj members, h => by
      rw [hasKey] at h
      rcases at_of_hasKeyMembers h with hhere | ⟨member, hin, path, found, hat, hmember⟩
      · exact ⟨[], members, .here _, hhere⟩
      · exact ⟨.member member.1 :: path, found, .member hin hat, hmember⟩
  | .null, h => by cases h
  | .bool _, h => by cases h
  | .num _, h => by cases h
  | .str _, h => by cases h

theorem at_of_hasKeyList {test : String → Bool} : ∀ {values : List Json}, hasKeyList test values = true →
    ∃ (index : Nat) (element : Json), values[index]? = some element ∧
      ∃ path members, At path element (.obj members) ∧ ∃ member ∈ members, test member.1 = true
  | [], h => by cases h
  | value :: values, h => by
      rw [hasKeyList, Bool.or_eq_true] at h
      rcases h with hvalue | hvalues
      · exact ⟨0, value, rfl, at_of_hasKey hvalue⟩
      · obtain ⟨index, element, helement, hfound⟩ := at_of_hasKeyList hvalues
        exact ⟨index + 1, element, helement, hfound⟩

theorem at_of_hasKeyMembers {test : String → Bool} :
    ∀ {members : List (String × Json)}, hasKeyMembers test members = true →
      (∃ member ∈ members, test member.1 = true) ∨ ∃ member ∈ members,
        ∃ path found, At path member.2 (.obj found) ∧ ∃ inner ∈ found, test inner.1 = true
  | [], h => by cases h
  | (key, value) :: members, h => by
      rw [hasKeyMembers, Bool.or_eq_true, Bool.or_eq_true] at h
      rcases h with (hkey | hvalue) | hmembers
      · exact .inl ⟨(key, value), List.mem_cons_self, hkey⟩
      · exact .inr ⟨(key, value), List.mem_cons_self, at_of_hasKey hvalue⟩
      · rcases at_of_hasKeyMembers hmembers with ⟨member, hin, htest⟩ | ⟨member, hin, hfound⟩
        · exact .inl ⟨member, List.mem_cons_of_mem _ hin, htest⟩
        · exact .inr ⟨member, List.mem_cons_of_mem _ hin, hfound⟩

end

theorem hasKeyList_eq_any (test : String → Bool) (values : List Json) :
    hasKeyList test values = values.any (hasKey test) := by
  induction values with
  | nil => rfl
  | cons value values ih => rw [hasKeyList, List.any_cons, ih]

theorem hasKey_of_at {test : String → Bool} {path : List Step} {value : Json} {members : List (String × Json)}
    (h : At path value (.obj members)) {member : String × Json} (hmember : member ∈ members)
    (htest : test member.1 = true) : hasKey test value = true := by
  generalize hsub : Json.obj members = sub at h
  induction h with
  | here value =>
      subst hsub
      rw [hasKey, hasKeyMembers_eq_any, List.any_eq_true]
      exact ⟨member, hmember, by rw [htest, Bool.true_or]⟩
  | member hin _ ih =>
      rw [hasKey, hasKeyMembers_eq_any, List.any_eq_true]
      exact ⟨_, hin, by rw [ih hsub, Bool.or_true]⟩
  | element hvalue _ ih =>
      rw [hasKey, hasKeyList_eq_any, List.any_eq_true]
      exact ⟨_, List.mem_of_getElem? hvalue, ih hsub⟩

/-- A tree has a name exactly when a path leads to an object with a member of it. -/
theorem hasKey_iff_at {test : String → Bool} {value : Json} :
    hasKey test value = true ↔
      ∃ path members, At path value (.obj members) ∧ ∃ member ∈ members, test member.1 = true := by
  constructor
  · exact at_of_hasKey
  · rintro ⟨path, members, hat, member, hmember, htest⟩
    exact hasKey_of_at hat hmember htest

end JsonValue
