import ProbeGateway.Number.Binary64
import ProbeGateway.Sorted

/-!
# JSON values

The tree that a JSON text spells. Integers keep their exact value as long as they fit 64 bits, and
every other number is double-precision. The members of an object stand in the order in which they
are written; reading puts them in increasing order of key.
-/

namespace ProbeGateway

/-- A number of a JSON text. -/
inductive JsonNumber
  | integer (value : Int)
  | real (value : Binary64)
deriving DecidableEq, Repr

/-- A JSON value. -/
inductive Json
  | null
  | bool (value : Bool)
  | number (value : JsonNumber)
  | text (value : String)
  | array (items : List Json)
  | object (members : List (String × Json))

namespace Json

/-- The number of a natural number. -/
def nat (n : Nat) : Json := .number (.integer n)

/-- The value under a key, when the value is an object with that key. -/
def get? (key : String) : Json → Option Json
  | .object members => Sorted.find? key members
  | _ => none

/-- The items of an array. -/
def items? : Json → Option (List Json)
  | .array items => some items
  | _ => none

/-- The members of an object. -/
def members? : Json → Option (List (String × Json))
  | .object members => some members
  | _ => none

/-- The text of a string. -/
def text? : Json → Option String
  | .text s => some s
  | _ => none

/-- A member that is left out where there is no value. -/
def optionalMember (key : String) : Option String → List (String × Json)
  | some s => [(key, .text s)]
  | none => []

/-- The members of an object as reading keeps them: sorted by key, the last of equal keys. -/
def sortMembers (members : List (String × Json)) : List (String × Json) :=
  members.foldl (fun sorted member => Sorted.insert member.1 member.2 sorted) []

/-! ## Equality -/

mutual

/-- Whether two values are equal. -/
def same : Json → Json → Bool
  | null, null => true
  | bool a, bool b => a == b
  | number a, number b => a == b
  | text a, text b => a == b
  | array a, array b => sameItems a b
  | object a, object b => sameMembers a b
  | _, _ => false

/-- Whether two lists of values are equal. -/
def sameItems : List Json → List Json → Bool
  | [], [] => true
  | v :: vs, w :: ws => same v w && sameItems vs ws
  | _, _ => false

/-- Whether two lists of members are equal. -/
def sameMembers : List (String × Json) → List (String × Json) → Bool
  | [], [] => true
  | (key, v) :: vs, (key', w) :: ws => key == key' && same v w && sameMembers vs ws
  | _, _ => false

end

mutual

theorem same_iff : (v w : Json) → (same v w = true ↔ v = w)
  | null, w => by cases w <;> simp [same]
  | bool a, w => by cases w <;> simp [same]
  | number a, w => by cases w <;> simp [same]
  | text a, w => by cases w <;> simp [same]
  | array a, w => by cases w <;> simp [same, sameItems_iff a]
  | object a, w => by cases w <;> simp [same, sameMembers_iff a]

theorem sameItems_iff : (vs ws : List Json) → (sameItems vs ws = true ↔ vs = ws)
  | [], ws => by cases ws <;> simp [sameItems]
  | v :: vs, ws => by cases ws <;> simp [sameItems, same_iff v, sameItems_iff vs]

theorem sameMembers_iff :
    (vs ws : List (String × Json)) → (sameMembers vs ws = true ↔ vs = ws)
  | [], ws => by cases ws <;> simp [sameMembers]
  | (key, v) :: vs, ws => by
    cases ws <;> simp [sameMembers, same_iff v, sameMembers_iff vs, Prod.ext_iff]

end

instance : DecidableEq Json := fun v w => decidable_of_iff _ (same_iff v w)

end Json

end ProbeGateway
