import PtchanGateway.JsonText
import PtchanGateway.TextGo

/-! Decoding JSON into structs as Go's `encoding/json` does. A member goes to the field of its name, whatever
the case of its letters; null leaves a field as it is, and empties a pointer or a slice; of several members
for one field the last one stays, but all must fit. A decoder answers nothing when the value does not fit. -/

namespace JsonGo

open JsonValue TextRust TextRfc3339

/-- The letters that fold to ASCII ones. -/
def foldChar (c : Char) : Char :=
  if c = '\u017f' then 's' else if c = '\u212a' then 'k' else toAsciiLowercase c

def foldName (name : String) : String := String.ofList (name.toList.map foldChar)

/-- The values for a field, in the order of the members. -/
def fieldValues (name : String) (members : List (String × Json)) : List Json :=
  (members.filter fun member => foldName member.1 == name).map Prod.snd

/-- A field that starts from its zero value and keeps it under null. -/
def valueField {α : Type} (decode : Json → Option α) (zero : α) : List Json → Option α
  | [] => some zero
  | .null :: values => valueField decode zero values
  | value :: values => do valueField decode (← decode value) values

/-- A pointer or a slice, which null empties. -/
def pointerField {α : Type} (decode : Json → Option α) : Option α → List Json → Option (Option α)
  | held, [] => some held
  | _, .null :: values => pointerField decode none values
  | _, value :: values => do pointerField decode (some (← decode value)) values

def decodeBool : Json → Option Bool
  | .bool b => some b
  | _ => none

/-- An integer literal that 64 bits hold; the library keeps the literal of a negative zero. -/
def decodeInt64 : Json → Option Int64
  | .num (.float literal) => if literal = "-0" then some 0 else none
  | value => value.asI64

/-- A time, from the characters between the quotes. -/
def decodeTime : Json → Option Moment
  | .str s => TextGo.parseTime s.toList
  | _ => none

/-- A struct from its members; null leaves it at its zero value. -/
def decodeStruct {α : Type} (zero : α) (decode : List (String × Json) → Option α) : Json → Option α
  | .obj members => decode members
  | .null => some zero
  | _ => none

def decodeSlice {α : Type} (decode : Json → Option α) : Json → Option (List α)
  | .arr values => values.mapM decode
  | _ => none

/-- The member a map holds under a name: the last one. -/
def mapMember (name : String) (members : List (String × Json)) : Option Json := lookup name members.reverse

def isNull : Json → Bool
  | .null => true
  | _ => false

/-- A slice whose every element is decoded. -/
theorem mapM_eq_some_of_forall₂ {α β : Type} {decode : α → Option β} {values : List α} {results : List β}
    (h : List.Forall₂ (fun value result => decode value = some result) values results) :
    values.mapM decode = some results := by
  induction h with
  | nil => rfl
  | cons hvalue _ ih =>
      rw [List.mapM_cons, hvalue, ih]
      rfl

theorem lookup_append (name : String) (members more : List (String × Json)) :
    lookup name (members ++ more) = (lookup name members).or (lookup name more) := by
  induction members with
  | nil => rfl
  | cons member members ih =>
      simp only [List.cons_append, lookup]
      split
      · rfl
      · exact ih

theorem lookup_eq_none {name : String} {members : List (String × Json)} (h : name ∉ members.map Prod.fst) :
    lookup name members = none := by
  induction members with
  | nil => rfl
  | cons member members ih =>
      rw [List.map_cons, List.mem_cons, not_or] at h
      rw [lookup, if_neg (Ne.symm h.1), ih h.2]

theorem filter_eq_lookup {members : List (String × Json)} (hnodup : (members.map Prod.fst).Nodup) (name : String) :
    (members.filter fun member => member.1 == name).map Prod.snd = (lookup name members).toList := by
  induction members with
  | nil => rfl
  | cons member members ih =>
      rw [List.map_cons, List.nodup_cons] at hnodup
      by_cases hname : member.1 = name
      · subst hname
        have hnone : lookup member.1 members = none := lookup_eq_none hnodup.1
        rw [List.filter_cons_of_pos (by simp), List.map_cons, ih hnodup.2, hnone, lookup, if_pos rfl]
        rfl
      · rw [List.filter_cons_of_neg (by simpa using hname), ih hnodup.2, lookup, if_neg hname]

/-- Plain names: each once, and each its own folding. -/
structure PlainNames (members : List (String × Json)) : Prop where
  nodup : (members.map Prod.fst).Nodup
  folded : ∀ member ∈ members, foldName member.1 = member.1

theorem sortedMembers_eq_map (members : List (String × Json)) :
    sortedMembers members = members.map fun member => (member.1, sorted member.2) := by
  induction members with
  | nil => rfl
  | cons member members ih => rw [sortedMembers, ih, List.map_cons]

theorem sortedList_eq_map (values : List Json) : sortedList values = values.map sorted := by
  induction values with
  | nil => rfl
  | cons value values ih => rw [sortedList, ih, List.map_cons]

theorem lookup_map_sorted (name : String) (members : List (String × Json)) :
    lookup name (members.map fun member => (member.1, sorted member.2)) = (lookup name members).map sorted := by
  induction members with
  | nil => rfl
  | cons member members ih =>
      rw [List.map_cons, lookup, lookup, ih]
      split <;> rfl

/-- The members of an object read back from its text. -/
def mapOrder (members : List (String × Json)) : List (String × Json) :=
  (sortedMembers members).insertionSort fun left right => left.1 ≤ right.1

theorem mapOrder_perm (members : List (String × Json)) :
    (mapOrder members).Perm (members.map fun member => (member.1, sorted member.2)) := by
  rw [← sortedMembers_eq_map]
  exact List.perm_insertionSort _ _

theorem PlainNames.mapOrder {members : List (String × Json)} (h : PlainNames members) :
    PlainNames (mapOrder members) where
  nodup := by
    rw [((mapOrder_perm members).map Prod.fst).nodup_iff, List.map_map]
    exact h.nodup
  folded := by
    intro member hmem
    obtain ⟨original, horiginal, rfl⟩ := List.mem_map.1 ((mapOrder_perm members).mem_iff.1 hmem)
    exact h.folded original horiginal

/-- What a name leads to does not depend on the order of members with names of their own. -/
theorem lookup_perm {members more : List (String × Json)} (hperm : members.Perm more)
    (hnodup : (members.map Prod.fst).Nodup) (name : String) : lookup name members = lookup name more := by
  have hmore : (more.map Prod.fst).Nodup := (hperm.map Prod.fst).nodup_iff.1 hnodup
  have hvalues : (lookup name members).toList.Perm (lookup name more).toList := by
    rw [← filter_eq_lookup hnodup, ← filter_eq_lookup hmore]
    exact (hperm.filter _).map _
  cases hfirst : lookup name members with
  | none =>
      rw [hfirst, Option.toList_none, List.nil_perm] at hvalues
      exact (Option.toList_eq_nil_iff.1 hvalues).symm
  | some value =>
      rw [hfirst, Option.toList_some, List.singleton_perm] at hvalues
      exact (Option.toList_eq_singleton_iff.1 hvalues.symm).symm

theorem lookup_mapOrder {members : List (String × Json)} (h : PlainNames members) (name : String) :
    lookup name (mapOrder members) = (lookup name members).map sorted := by
  rw [lookup_perm (mapOrder_perm members) h.mapOrder.nodup, lookup_map_sorted]

/-- A field has the member of its name, its value in map order. -/
theorem fieldValues_mapOrder {members : List (String × Json)} (h : PlainNames members) (name : String) :
    fieldValues name (mapOrder members) = ((lookup name members).map sorted).toList := by
  have hsame : (mapOrder members).filter (fun member => foldName member.1 == name) =
      (mapOrder members).filter fun member => member.1 == name := by
    apply List.filter_congr
    intro member hmem
    rw [h.mapOrder.folded member hmem]
  rw [fieldValues, hsame, filter_eq_lookup h.mapOrder.nodup, lookup_mapOrder h]

theorem mapMember_mapOrder {members : List (String × Json)} (h : PlainNames members) (name : String) :
    mapMember name (mapOrder members) = (lookup name members).map sorted := by
  have hnodup : ((mapOrder members).reverse.map Prod.fst).Nodup := by
    rw [List.map_reverse, List.nodup_reverse]
    exact h.mapOrder.nodup
  rw [mapMember, lookup_perm (List.reverse_perm _) hnodup, lookup_mapOrder h]

end JsonGo
