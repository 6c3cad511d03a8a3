import LintConfig.Double

/-!
# JSON values

Schemas, rule options and manifests are JSON values.

**Numbers keep their kind.**  An integer is held exactly, any other number as a double, so `1` and
`1.0` are different values.  `Number.value` is the rational that both kinds mean, and
`Json.equivalent` is the coarser equality that compares numbers by it.

**Objects are maps.**  `Json.object` builds one from its members: sorted by name, the last of
equally named members staying.  `Json.Sorted` is the predicate of values built in this way, and
`Json.sort` puts any tree into that form.
-/

namespace LintConfig

/-- A number of a JSON text, by the kind it was written in. -/
inductive Number where
  /-- Written without fraction or exponent and small enough to be held exactly. -/
  | integer (i : Int)
  /-- Any other number. -/
  | double (d : Double)
  deriving DecidableEq

namespace Number

/-- The number that is meant, whatever its kind. -/
def value : Number → Rat
  | integer i => (i : Rat)
  | double d => d.value

/-- The nearest double. -/
def toDouble? : Number → Option Double
  | integer i => Double.ofInt? i
  | double d => some d

end Number

/-- A JSON value.  Members of an object stand in a list; `Json.Sorted` singles out the values in
which that list is a map. -/
inductive Json where
  | null
  | bool (b : Bool)
  | num (n : Number)
  | str (s : String)
  | arr (items : List Json)
  | obj (members : List (String × Json))

namespace Json

instance : Inhabited Json := ⟨null⟩

/-- A natural number as a value. -/
def ofNat (n : Nat) : Json := num (.integer n)

/-- A numeral stands for an integer. -/
instance (n : Nat) : OfNat Json n := ⟨ofNat n⟩

/-- A text stands for a string. -/
instance : Coe String Json := ⟨str⟩

/-- A truth value stands for itself. -/
instance : Coe Bool Json := ⟨bool⟩

/-! ## Objects -/

/-- Adds a member at its place in the order of names, or replaces the member of that name. -/
def putMember (k : String) (v : Json) : List (String × Json) → List (String × Json)
  | [] => [(k, v)]
  | (k', v') :: rest =>
    if k < k' then (k, v) :: (k', v') :: rest
    else if k = k' then (k, v) :: rest
    else (k', v') :: putMember k v rest

/-- The members of an object in the order of their names; of equal names the last one stays. -/
def sortMembers (members : List (String × Json)) : List (String × Json) :=
  members.foldl (fun acc m => putMember m.1 m.2 acc) []

/-- The object with these members. -/
def object (members : List (String × Json)) : Json := obj (sortMembers members)

/-- The value of a name in a list of members: that of the first member with the name. -/
def lookup (k : String) : List (String × Json) → Option Json
  | [] => none
  | (k', v) :: rest => if k' = k then some v else lookup k rest

/-- The member of an object with this name. -/
def member? (k : String) : Json → Option Json
  | obj members => lookup k members
  | _ => none

/-- The items of an array; other values have none. -/
def items : Json → List Json
  | arr items => items
  | _ => []

/-- The members of an object; other values have none. -/
def members : Json → List (String × Json)
  | obj members => members
  | _ => []

mutual

/-- The value with every object in it sorted. -/
def sort : Json → Json
  | null => null
  | bool b => bool b
  | num n => num n
  | str s => str s
  | arr items => arr (sortItems items)
  | obj members => object (sortValues members)

/-- Sorts each value of a list. -/
def sortItems : List Json → List Json
  | [] => []
  | v :: rest => v.sort :: sortItems rest

/-- Sorts the value of each member, leaving the members where they are. -/
def sortValues : List (String × Json) → List (String × Json)
  | [] => []
  | (k, v) :: rest => (k, v.sort) :: sortValues rest

end

mutual

/-- In every object of the value the names are strictly increasing, by code point. -/
def Sorted : Json → Prop
  | null | bool _ | num _ | str _ => True
  | arr items => SortedItems items
  | obj members => (members.map Prod.fst).Pairwise (· < ·) ∧ SortedValues members

/-- Every value of the list is sorted. -/
def SortedItems : List Json → Prop
  | [] => True
  | v :: rest => v.Sorted ∧ SortedItems rest

/-- The value of every member is sorted. -/
def SortedValues : List (String × Json) → Prop
  | [] => True
  | (_, v) :: rest => v.Sorted ∧ SortedValues rest

end

/-! ## Equality up to the kind of numbers -/

mutual

/-- Whether two values are the same when numbers are compared by what they mean. -/
def equivalent : Json → Json → Bool
  | null, null => true
  | bool a, bool b => a == b
  | num a, num b => a.value == b.value
  | str a, str b => a == b
  | arr a, arr b => equivalentItems a b
  | obj a, obj b => equivalentMembers a b
  | _, _ => false

/-- `equivalent` item by item. -/
def equivalentItems : List Json → List Json → Bool
  | [], [] => true
  | a :: as, b :: bs => a.equivalent b && equivalentItems as bs
  | _, _ => false

/-- `equivalent` member by member. -/
def equivalentMembers : List (String × Json) → List (String × Json) → Bool
  | [], [] => true
  | (k, a) :: as, (j, b) :: bs => k == j && a.equivalent b && equivalentMembers as bs
  | _, _ => false

end

mutual

/-- How deep arrays and objects are nested; a scalar has depth 0. -/
def depth : Json → Nat
  | arr items => depthItems items + 1
  | obj members => depthValues members + 1
  | _ => 0

/-- The greatest depth in a list. -/
def depthItems : List Json → Nat
  | [] => 0
  | v :: rest => max v.depth (depthItems rest)

/-- The greatest depth among the values of members. -/
def depthValues : List (String × Json) → Nat
  | [] => 0
  | (_, v) :: rest => max v.depth (depthValues rest)

end

mutual

/-- How many values a value consists of, itself included. -/
def size : Json → Nat
  | arr items => sizeItems items + 1
  | obj members => sizeValues members + 1
  | _ => 1

/-- How many values the values of a list consist of. -/
def sizeItems : List Json → Nat
  | [] => 0
  | v :: rest => v.size + sizeItems rest

/-- How many values the values of members consist of. -/
def sizeValues : List (String × Json) → Nat
  | [] => 0
  | (_, v) :: rest => v.size + sizeValues rest

end

end Json

end LintConfig
