import PtchanGateway.JsonGo

/-! JSON Schema (2020-12): the keywords a schema made from types uses, what it means for a value to pass them,
and documents whose definitions refer to each other by name. A format is judged by a given function. No schema sees
the order of members, so that a value passes exactly if the value read back from its text does. -/

namespace JsonSchema

open JsonValue JsonGo

inductive Kind where
  | null
  | boolean
  | integer
  | string
  | array
  | object
  deriving DecidableEq, Repr

/-- A float is kept as its literal and counts as no integer. -/
def Kind.has : Kind → Json → Bool
  | .null, .null => true
  | .boolean, .bool _ => true
  | .integer, .num (.int _) => true
  | .string, .str _ => true
  | .array, .arr _ => true
  | .object, .obj _ => true
  | _, _ => false

/-- A keyword, or the keywords of one schema together. The values of `const` and `enum` are texts. -/
inductive Schema where
  | keywords (parts : List Schema)
  | type (kinds : List Kind)
  | const (text : String)
  | enum (texts : List String)
  | properties (members : List (String × Schema))
  | closed (names : List String)
  | required (names : List String)
  | items (schema : Schema)
  | minimum (bound : Int)
  | maximum (bound : Int)
  | format (name : String)
  | anyOf (schemas : List Schema)
  | oneOf (schemas : List Schema)
  | ref (name : String)

section Check

variable (formats : String → Json → Bool) (refs : String → Json → Bool)

mutual

/-- The value passes the schema. A keyword passes every value it does not speak of. -/
def Schema.accepts : Schema → Json → Bool
  | .keywords parts, value => acceptsAll parts value
  | .type kinds, value => kinds.any fun kind => kind.has value
  | .const text, value => value.asStr == some text
  | .enum texts, value => texts.any fun text => value.asStr == some text
  | .properties members, value => acceptsMembers members value
  | .closed names, .obj members => members.all fun member => names.contains member.1
  | .closed _, _ => true
  | .required names, .obj members => names.all fun name => (lookup name members).isSome
  | .required _, _ => true
  | .items schema, .arr values => values.all fun value => schema.accepts value
  | .items _, _ => true
  | .minimum bound, .num (.int n) => decide (bound ≤ n)
  | .minimum _, _ => true
  | .maximum bound, .num (.int n) => decide (n ≤ bound)
  | .maximum _, _ => true
  | .format name, value => formats name value
  | .anyOf schemas, value => decide (0 < countAccepts schemas value)
  | .oneOf schemas, value => decide (countAccepts schemas value = 1)
  | .ref name, value => refs name value

def acceptsAll : List Schema → Json → Bool
  | [], _ => true
  | schema :: schemas, value => schema.accepts value && acceptsAll schemas value

/-- How many of the schemas the value passes. -/
def countAccepts : List Schema → Json → Nat
  | [], _ => 0
  | schema :: schemas, value => (schema.accepts value).toNat + countAccepts schemas value

/-- The members the value has pass the schemas of their names. -/
def acceptsMembers : List (String × Schema) → Json → Bool
  | [], _ => true
  | (name, schema) :: members, value =>
      ((value.get? name).all fun member => schema.accepts member) && acceptsMembers members value

end

end Check

/-- A published schema with its `$defs`. -/
structure Document where
  root : Schema
  defs : List (String × Schema)

/-- What a name refers to, up to so many references deep. -/
def Document.refs (document : Document) (formats : String → Json → Bool) : Nat → String → Json → Bool
  | 0, _, _ => false
  | deep + 1, name, value =>
      match document.defs.lookup name with
      | some schema => schema.accepts formats (document.refs formats deep) value
      | none => false

/-- Definitions that do not go in a circle are never deeper than there are definitions. -/
def Document.valid (document : Document) (formats : String → Json → Bool) (value : Json) : Bool :=
  document.root.accepts formats (document.refs formats document.defs.length) value

section Rules

variable {formats : String → Json → Bool} {refs : String → Json → Bool} {value : Json}

@[simp] theorem acceptsAll_nil : acceptsAll formats refs [] value = true := by rw [acceptsAll]

@[simp] theorem acceptsAll_cons {schema : Schema} {schemas : List Schema} :
    acceptsAll formats refs (schema :: schemas) value =
      (schema.accepts formats refs value && acceptsAll formats refs schemas value) := by rw [acceptsAll]

@[simp] theorem countAccepts_nil : countAccepts formats refs [] value = 0 := by rw [countAccepts]

@[simp] theorem countAccepts_cons {schema : Schema} {schemas : List Schema} :
    countAccepts formats refs (schema :: schemas) value =
      (schema.accepts formats refs value).toNat + countAccepts formats refs schemas value := by rw [countAccepts]

@[simp] theorem acceptsMembers_nil : acceptsMembers formats refs [] value = true := by rw [acceptsMembers]

@[simp] theorem acceptsMembers_cons {name : String} {schema : Schema} {members : List (String × Schema)} :
    acceptsMembers formats refs ((name, schema) :: members) value =
      (((value.get? name).all fun member => schema.accepts formats refs member) &&
        acceptsMembers formats refs members value) := by rw [acceptsMembers]

theorem accepts_items_iff {schema : Schema} {values : List Json} :
    (Schema.items schema).accepts formats refs (.arr values) = true ↔
      ∀ value ∈ values, schema.accepts formats refs value = true := by
  rw [Schema.accepts, List.all_eq_true]

end Rules

theorem plainList_iff {values : List Json} : plainList values = true ↔ ∀ value ∈ values, plain value = true := by
  induction values with
  | nil => simp [plainList]
  | cons value values ih => rw [plainList, Bool.and_eq_true, ih, List.forall_mem_cons]

theorem plain_of_lookup {name : String} {value : Json} {members : List (String × Json)}
    (hplain : plainMembers members = true) (h : lookup name members = some value) : plain value = true := by
  induction members with
  | nil => cases h
  | cons member members ih =>
      rw [plainMembers, Bool.and_eq_true] at hplain
      rw [lookup] at h
      split at h
      · cases h
        exact hplain.1
      · exact ih hplain.2 h

theorem nodup_of_plain {members : List (String × Json)} (h : plain (.obj members) = true) :
    (members.map Prod.fst).Nodup := by
  rw [plain, Bool.and_eq_true] at h
  exact of_decide_eq_true h.1

theorem lookup_mapOrder_of_plain {members : List (String × Json)} (h : plain (.obj members) = true) (name : String) :
    lookup name (mapOrder members) = (lookup name members).map sorted := by
  have hnodup : ((mapOrder members).map Prod.fst).Nodup := by
    rw [((mapOrder_perm members).map Prod.fst).nodup_iff, List.map_map]
    exact nodup_of_plain h
  rw [lookup_perm (mapOrder_perm members) hnodup, lookup_map_sorted]

theorem plain_of_get? {name : String} {value member : Json} (hplain : plain value = true)
    (h : value.get? name = some member) : plain member = true := by
  cases value with
  | obj members =>
      rw [plain, Bool.and_eq_true] at hplain
      exact plain_of_lookup hplain.2 h
  | _ => cases h

theorem get?_sorted_of_plain {value : Json} (h : plain value = true) (name : String) :
    (sorted value).get? name = (value.get? name).map sorted := by
  cases value with
  | obj members => exact lookup_mapOrder_of_plain h name
  | _ => rfl

theorem asStr_sorted (value : Json) : (sorted value).asStr = value.asStr := by
  cases value with
  | _ => rfl

theorem has_sorted (kind : Kind) (value : Json) : kind.has (sorted value) = kind.has value := by
  cases value with
  | _ => cases kind <;> rfl

/-- A test that does not see the order of members. -/
def Unordered (test : Json → Bool) : Prop := ∀ value, plain value = true → test (sorted value) = test value

section Order

variable {formats : String → Json → Bool} {refs : String → Json → Bool}

theorem unordered_closed (names : List String) : Unordered ((Schema.closed names).accepts formats refs) := by
  intro value _
  cases value with
  | obj members =>
      have hperm := mapOrder_perm members
      change (Schema.closed names).accepts formats refs (.obj (mapOrder members)) = _
      rw [Schema.accepts, Schema.accepts, hperm.all_eq, List.all_map]
      rfl
  | _ => rfl

theorem unordered_required (names : List String) : Unordered ((Schema.required names).accepts formats refs) := by
  intro value hplain
  cases value with
  | obj members =>
      change (Schema.required names).accepts formats refs (.obj (mapOrder members)) = _
      rw [Schema.accepts, Schema.accepts]
      congr 1
      funext name
      rw [lookup_mapOrder_of_plain hplain, Option.isSome_map]
  | _ => rfl

mutual

/-- A schema does not see the order of members, if the formats and the definitions do not. -/
theorem accepts_sorted (hformats : ∀ name, Unordered (formats name)) (hrefs : ∀ name, Unordered (refs name)) :
    ∀ schema : Schema, Unordered (schema.accepts formats refs)
  | .keywords parts => fun value hplain => by
      rw [Schema.accepts, Schema.accepts]
      exact acceptsAll_sorted hformats hrefs parts value hplain
  | .type kinds => fun value _ => by
      rw [Schema.accepts, Schema.accepts]
      congr 1
      funext kind
      exact has_sorted kind value
  | .const text => fun value _ => by rw [Schema.accepts, Schema.accepts, asStr_sorted]
  | .enum texts => fun value _ => by rw [Schema.accepts, Schema.accepts, asStr_sorted]
  | .properties members => fun value hplain => by
      rw [Schema.accepts, Schema.accepts]
      exact acceptsMembers_sorted hformats hrefs members value hplain
  | .closed names => unordered_closed names
  | .required names => unordered_required names
  | .items schema => fun value hplain => by
      cases value with
      | arr values =>
          have hvalues := plainList_iff.mp hplain
          rw [sorted, sortedList_eq_map, Bool.eq_iff_iff, accepts_items_iff, accepts_items_iff, List.forall_mem_map]
          apply forall₂_congr
          intro value hmem
          rw [accepts_sorted hformats hrefs schema value (hvalues value hmem)]
      | _ => rfl
  | .minimum bound => fun value _ => by
      cases value with
      | _ => rfl
  | .maximum bound => fun value _ => by
      cases value with
      | _ => rfl
  | .format name => fun value hplain => by
      rw [Schema.accepts, Schema.accepts]
      exact hformats name value hplain
  | .anyOf schemas => fun value hplain => by
      rw [Schema.accepts, Schema.accepts, countAccepts_sorted hformats hrefs schemas value hplain]
  | .oneOf schemas => fun value hplain => by
      rw [Schema.accepts, Schema.accepts, countAccepts_sorted hformats hrefs schemas value hplain]
  | .ref name => fun value hplain => by
      rw [Schema.accepts, Schema.accepts]
      exact hrefs name value hplain

theorem acceptsAll_sorted (hformats : ∀ name, Unordered (formats name))
    (hrefs : ∀ name, Unordered (refs name)) : ∀ schemas : List Schema, Unordered (acceptsAll formats refs schemas)
  | [] => fun value _ => by rw [acceptsAll_nil, acceptsAll_nil]
  | schema :: schemas => fun value hplain => by
      rw [acceptsAll_cons, acceptsAll_cons, accepts_sorted hformats hrefs schema value hplain,
        acceptsAll_sorted hformats hrefs schemas value hplain]

theorem countAccepts_sorted (hformats : ∀ name, Unordered (formats name))
    (hrefs : ∀ name, Unordered (refs name)) : ∀ (schemas : List Schema) (value : Json), plain value = true →
      countAccepts formats refs schemas (sorted value) = countAccepts formats refs schemas value
  | [], value, _ => by rw [countAccepts_nil, countAccepts_nil]
  | schema :: schemas, value, hplain => by
      rw [countAccepts_cons, countAccepts_cons, accepts_sorted hformats hrefs schema value hplain,
        countAccepts_sorted hformats hrefs schemas value hplain]

theorem acceptsMembers_sorted (hformats : ∀ name, Unordered (formats name))
    (hrefs : ∀ name, Unordered (refs name)) :
    ∀ members : List (String × Schema), Unordered (acceptsMembers formats refs members)
  | [] => fun value _ => by rw [acceptsMembers_nil, acceptsMembers_nil]
  | (name, schema) :: members => fun value hplain => by
      rw [acceptsMembers_cons, acceptsMembers_cons, acceptsMembers_sorted hformats hrefs members value hplain,
        get?_sorted_of_plain hplain]
      cases hmember : value.get? name with
      | none => rfl
      | some member =>
          rw [Option.map_some, Option.all_some, Option.all_some,
            accepts_sorted hformats hrefs schema member (plain_of_get? hplain hmember)]

end

end Order

end JsonSchema
