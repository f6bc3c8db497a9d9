import Mathlib.Algebra.Group.Int.Defs
import Mathlib.Data.List.Sort
import Mathlib.Data.List.Perm.Basic
import Mathlib.Data.String.Basic

/-! JSON values as a decoder holds them. An object lists its members in the order of the map behind it.
The recursions that walk a whole tree (`eraseKey`, `hasKey`, `sorted`) are stated here once, together with
what they do to each other. -/

namespace JsonValue

/-- A number is an integer or a float; a float is kept as its literal. -/
inductive Number where
  | int (n : Int)
  | float (literal : String)
  deriving DecidableEq, Repr

inductive Json where
  | null
  | bool (b : Bool)
  | num (n : Number)
  | str (s : String)
  | arr (values : List Json)
  | obj (members : List (String × Json))
  deriving Repr

/-- The value of a member, by name. -/
def lookup (name : String) : List (String × Json) → Option Json
  | [] => none
  | (key, value) :: members => if key = name then some value else lookup name members

namespace Json

def get? (name : String) : Json → Option Json
  | .obj members => lookup name members
  | _ => none

def asStr : Json → Option String
  | .str s => some s
  | _ => none

/-- An integer that a signed 64-bit number holds. -/
def asI64 : Json → Option Int64
  | .num (.int n) => if -2 ^ 63 ≤ n ∧ n < 2 ^ 63 then some (Int64.ofInt n) else none
  | _ => none

def isObject : Json → Bool
  | .obj _ => true
  | _ => false

end Json

mutual

/-- The value without the members of one name, at every depth. -/
def eraseKey (name : String) : Json → Json
  | .arr values => .arr (eraseKeyList name values)
  | .obj members => .obj (eraseKeyMembers name members)
  | value => value

def eraseKeyList (name : String) : List Json → List Json
  | [] => []
  | value :: values => eraseKey name value :: eraseKeyList name values

def eraseKeyMembers (name : String) : List (String × Json) → List (String × Json)
  | [] => []
  | (key, value) :: members =>
      if key = name then eraseKeyMembers name members
      else (key, eraseKey name value) :: eraseKeyMembers name members

end

mutual

/-- Some object at some depth has a member whose name satisfies the test. -/
def hasKey (test : String → Bool) : Json → Bool
  | .arr values => hasKeyList test values
  | .obj members => hasKeyMembers test members
  | _ => false

def hasKeyList (test : String → Bool) : List Json → Bool
  | [] => false
  | value :: values => hasKey test value || hasKeyList test values

def hasKeyMembers (test : String → Bool) : List (String × Json) → Bool
  | [] => false
  | (key, value) :: members => test key || hasKey test value || hasKeyMembers test members

end

mutual

/-- The members of every object in the order of their names. -/
def sorted : Json → Json
  | .arr values => .arr (sortedList values)
  | .obj members => .obj ((sortedMembers members).insertionSort fun left right => left.1 ≤ right.1)
  | value => value

def sortedList : List Json → List Json
  | [] => []
  | value :: values => sorted value :: sortedList values

def sortedMembers : List (String × Json) → List (String × Json)
  | [] => []
  | (key, value) :: members => (key, sorted value) :: sortedMembers members

end

mutual

/-- How deep arrays and objects are nested. -/
def depth : Json → Nat
  | .arr values => depthList values + 1
  | .obj members => depthMembers members + 1
  | _ => 0

def depthList : List Json → Nat
  | [] => 0
  | value :: values => max (depth value) (depthList values)

def depthMembers : List (String × Json) → Nat
  | [] => 0
  | (_, value) :: members => max (depth value) (depthMembers members)

end

mutual

/-- The values that survive a text as they are: no floats, integers of 64 bits with or without a sign, and
no name twice in an object. -/
def plain : Json → Bool
  | .num (.int n) => decide (-2 ^ 63 ≤ n ∧ n < 2 ^ 64)
  | .num (.float _) => false
  | .arr values => plainList values
  | .obj members => decide (members.map Prod.fst).Nodup && plainMembers members
  | _ => true

def plainList : List Json → Bool
  | [] => true
  | value :: values => plain value && plainList values

def plainMembers : List (String × Json) → Bool
  | [] => true
  | (_, value) :: members => plain value && plainMembers members

end

theorem hasKeyMembers_eq_any (test : String → Bool) (members : List (String × Json)) :
    hasKeyMembers test members = members.any fun member => test member.1 || hasKey test member.2 := by
  induction members with
  | nil => rfl
  | cons member members ih => simp only [hasKeyMembers, List.any_cons, ih]

mutual

/-- Sorting the members does not change which names occur. -/
theorem hasKey_sorted (test : String → Bool) : ∀ value : Json, hasKey test (sorted value) = hasKey test value
  | .arr values => by rw [sorted, hasKey, hasKey, hasKeyList_sorted test values]
  | .obj members => by
      have hperm := List.perm_insertionSort (fun left right : String × Json => left.1 ≤ right.1)
        (sortedMembers members)
      rw [sorted, hasKey, hasKey, hasKeyMembers_eq_any, hperm.any_eq, ← hasKeyMembers_eq_any,
        hasKeyMembers_sorted test members]
  | .null => rfl
  | .bool _ => rfl
  | .num _ => rfl
  | .str _ => rfl

theorem hasKeyList_sorted (test : String → Bool) :
    ∀ values : List Json, hasKeyList test (sortedList values) = hasKeyList test values
  | [] => rfl
  | value :: values => by
      rw [sortedList, hasKeyList, hasKeyList, hasKey_sorted test value, hasKeyList_sorted test values]

theorem hasKeyMembers_sorted (test : String → Bool) :
    ∀ members : List (String × Json),
      hasKeyMembers test (sortedMembers members) = hasKeyMembers test members
  | [] => rfl
  | (key, value) :: members => by
      rw [sortedMembers, hasKeyMembers, hasKeyMembers, hasKey_sorted test value,
        hasKeyMembers_sorted test members]

end

abbrev Bytes := List UInt8

/-- A writer and a reader of JSON texts. Reading what was written gives a plain value back, its objects now
in map order, while it stays under the reader's nesting limit. -/
structure Codec where
  write : Json → Bytes
  read : Bytes → Except String Json
  read_write : ∀ value, plain value = true → depth value < 128 → read (write value) = .ok (sorted value)

end JsonValue
