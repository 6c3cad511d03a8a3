import LintConfig.Pieces
import LintConfig.Schema.Vocabulary

/-!
# References and pointers

A `Reference` is a text that stands in a schema, together with what surrounds that schema.  The
fragment of a reference may be a pointer, which `Pointer.ofFragment?` reads and `Pointer.follow?`
follows through the members of objects and the items of arrays.

**Identifiers on the way.**  A pointer may enter a schema with an identifier of its own.  What
references are relative to then changes, but only where the way leads through keywords that hold
schemas.
-/

namespace LintConfig

/-- What surrounds a schema. -/
structure Schema.Setting where
  /-- The draft by whose rules the schema is read. -/
  draft : Draft
  /-- The vocabularies that are in force, for drafts that have any. -/
  vocabularies : List Vocabulary
  /-- What references are relative to. -/
  home : Uri
  /-- The document with vocabularies that was entered first, if one was entered. -/
  outermost : Option Uri
  deriving DecidableEq

/-- A reference in a schema. -/
structure Reference where
  /-- What surrounds the schema. -/
  setting : Schema.Setting
  /-- The reference as written. -/
  text : String
  /-- Whether the document is meant that was entered first, wherever the text leads. -/
  toOutermost : Bool := false
  deriving DecidableEq

namespace Reference

/-- The identifier that the reference spells. -/
def address? (r : Reference) : Option Uri := r.setting.home.resolve? r.text

/-- What the reference is looked up from, and the text that is looked up. -/
def lookedUp (r : Reference) : Uri × String :=
  match r.toOutermost, r.setting.outermost with
  | true, some first => (first, "#")
  | _, _ => (r.setting.home, r.text)

/-- The text up to the first mark of a fragment, and the fragment.  Nothing stands before the mark
where a place in the same document is meant. -/
def parts (text : String) : Option String × String :=
  match cutAt '#' text.toList with
  | ([], some fragment) => (none, String.ofList fragment)
  | (address, fragment) => (some (String.ofList address), String.ofList (fragment.getD []))

/-- The document that the reference leads into, and the fragment that says where in it.  The whole
reference has to be well-formed. -/
def document? (r : Reference) : Option (Uri × String) :=
  let (home, text) := r.lookedUp
  (home.resolve? text).bind fun _ =>
    match parts text with
    | (some address, fragment) => (home.resolve? address).map (·, fragment)
    | (none, fragment) => some (home, fragment)

end Reference

namespace Pointer

/-- The value of a hexadecimal digit. -/
def hexDigit? (b : UInt8) : Option UInt8 :=
  if 48 ≤ b ∧ b ≤ 57 then some (b - 48)
  else if 65 ≤ b ∧ b ≤ 70 then some (b - 55)
  else if 97 ≤ b ∧ b ≤ 102 then some (b - 87)
  else none

/-- Replaces each percent sign and two hexadecimal digits by the byte they spell. -/
def percentDecode : List UInt8 → List UInt8
  | [] => []
  | 37 :: high :: low :: rest =>
    match hexDigit? high, hexDigit? low with
    | some high, some low => (high * 16 + low) :: percentDecode rest
    | _, _ => 37 :: percentDecode (high :: low :: rest)
  | b :: rest => b :: percentDecode rest

/-- The segments of the pointer that a fragment spells: what follows a slash in front, decoded and
cut at the slashes. -/
def ofFragment? (fragment : String) : Option (List String) :=
  match fragment.toList with
  | '/' :: rest =>
    (String.fromUTF8? ⟨(percentDecode (String.ofList rest).toUTF8.toList).toArray⟩).map fun text =>
      (pieces '/' text.toList).map String.ofList
  | _ => none

/-- The name of a member that a segment spells: a tilde and a digit stand for a slash or a tilde. -/
def unescape : List Char → List Char
  | [] => []
  | '~' :: '1' :: rest => '/' :: unescape rest
  | '~' :: '0' :: rest => '~' :: unescape rest
  | '~' :: c :: rest => '~' :: c :: unescape rest
  | c :: rest => c :: unescape rest

/-- The index of an item that a segment spells: digits, with an optional plus in front. -/
def index? (segment : String) : Option Nat :=
  let digits := match segment.toList with
    | '+' :: rest => rest
    | cs => cs
  if digits.isEmpty || !digits.all Char.isDigit then none
  else some (digits.foldl (fun n c => n * 10 + (c.toNat - '0'.toNat)) 0)

/-- A step into a value. -/
inductive Step where
  | member (name : String)
  | item (index : Nat)

/-- The step that a segment makes from a value, and where it leads. -/
def step? (segment : String) : Json → Option (Step × Json)
  | .arr items =>
    (index? segment).bind fun i => items[i]?.map fun v => (.item i, v)
  | .obj members =>
    let name := String.ofList (unescape segment.toList)
    (Json.lookup name members).map fun v => (.member name, v)
  | _ => none

/-- Whether steps lead through keywords that hold schemas, up to a schema. -/
def leadsToSchema : List Step → (target : Json) → Bool
  | [], _ => true
  | .item _ :: rest, target => leadsToSchema rest target
  | .member name :: rest, target =>
    let isObject := match target with
      | .obj _ => true
      | _ => false
    if (name = "items" || name = "dependencies") && isObject then true
    else if ["additionalItems", "additionalProperties", "not"].contains name then
      leadsToSchema rest target
    else if ["allOf", "anyOf", "definitions", "oneOf", "patternProperties", "properties"].contains
        name then
      match rest with
      | [] => false
      | _ :: rest => leadsToSchema rest target
    else false

/-- Follows a pointer through a document of a draft.  `home` is what references are relative to at
the value reached so far, and `passed` holds the steps since that has last changed. -/
def follow? (d : Draft) (home : Uri) (passed : List Step) (v : Json) : List String →
    Option (Uri × Json)
  | [] => some (home, v)
  | segment :: rest =>
    match step? segment v with
    | none => none
    | some (step, next) =>
      let passed := passed ++ [step]
      if leadsToSchema passed next then
        match d.home? home next with
        | some inner => follow? d inner (if inner = home then passed else []) next rest
        | none => none
      else follow? d home passed next rest

end Pointer

end LintConfig
