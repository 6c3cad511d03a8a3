import LintConfig.Json
import LintConfig.Toml.DateTime

/-!
# TOML values

**Tables** list their entries in the order in which the file first mentions the keys.

**Images in JSON.**  `Toml.Value.toJson` gives the JSON value that a TOML value stands for in a rule
entry.  Tables become objects, and thereby sorted; a float that is not finite becomes null; a
date-time becomes an object with the marker `dateTimeKey` as its only key.

**Marked tables.**  Reading goes the same way back: a table whose first key is the marker is taken
for a date-time (`Toml.Value.settle?`).
-/

namespace LintConfig

namespace Toml

/-- A value of a TOML document. -/
inductive Value where
  | string (s : String)
  | integer (i : Int)
  /-- A float; none stands for those that are not finite. -/
  | float (d : Option Double)
  | boolean (b : Bool)
  | dateTime (d : DateTime)
  | array (items : List Value)
  | table (entries : List (String × Value))

/-- The key that marks an object as a date-time. -/
def dateTimeKey : String := "$__toml_private_datetime"

namespace Value

instance : Inhabited Value := ⟨boolean false⟩

mutual

/-- The JSON value that a TOML value stands for. -/
def toJson : Value → Json
  | string s => .str s
  | integer i => .num (.integer i)
  | float (some d) => .num (.double d)
  | float none => .null
  | boolean b => .bool b
  | dateTime d => .obj [(dateTimeKey, .str d.text)]
  | array items => .arr (itemsToJson items)
  | table entries => .object (entriesToJson entries)

/-- The JSON values of the items of an array. -/
def itemsToJson : List Value → List Json
  | [] => []
  | v :: rest => v.toJson :: itemsToJson rest

/-- The JSON values of the entries of a table. -/
def entriesToJson : List (String × Value) → List (String × Json)
  | [] => []
  | (k, v) :: rest => (k, v.toJson) :: entriesToJson rest

end

mutual

/-- The value with its marked tables taken for the date-times they spell.  There is none if one of
them spells no date-time. -/
def settle? : Value → Option Value
  | array items => (settleItems? items).map array
  | table [] => some (table [])
  | table ((k, v) :: rest) =>
    if k = dateTimeKey then
      match v with
      | string s => (DateTime.parse? s).map dateTime
      | _ => none
    else
      match settle? v, settleEntries? rest with
      | some v, some rest => some (table ((k, v) :: rest))
      | _, _ => none
  | v => some v

/-- Settles each item of an array. -/
def settleItems? : List Value → Option (List Value)
  | [] => some []
  | v :: rest =>
    match settle? v, settleItems? rest with
    | some v, some rest => some (v :: rest)
    | _, _ => none

/-- Settles the value of each entry of a table. -/
def settleEntries? : List (String × Value) → Option (List (String × Value))
  | [] => some []
  | (k, v) :: rest =>
    match settle? v, settleEntries? rest with
    | some v, some rest => some ((k, v) :: rest)
    | _, _ => none

end

end Value

end Toml

end LintConfig
