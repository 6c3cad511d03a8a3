import LintConfig.Json.Document
import LintConfig.Schema.Fault

/-!
# What strings hold

A string can hold a JSON document, as it is or written in the letters of base 64.  A `Content` is
what is asked of such a string.

**Base 64.**  Four letters stand for three bytes.  In the last group two or three letters stand for
one or two bytes, and marks of padding fill it up; the bits that are left over are zero.
-/

namespace LintConfig

namespace Base64

/-- The six bits that a letter stands for. -/
def value? (c : Char) : Option Nat :=
  if 'A' ≤ c ∧ c ≤ 'Z' then some (c.toNat - 'A'.toNat)
  else if 'a' ≤ c ∧ c ≤ 'z' then some (c.toNat - 'a'.toNat + 26)
  else if '0' ≤ c ∧ c ≤ '9' then some (c.toNat - '0'.toNat + 52)
  else if c = '+' then some 62
  else if c = '/' then some 63
  else none

/-- The bytes that the letters of a group stand for.  Only the last group has less than four. -/
def groupBytes? (values : List Nat) : Option (List Nat) :=
  match values with
  | [a, b, c, d] => some [a * 4 + b / 16, b % 16 * 16 + c / 4, c % 4 * 64 + d]
  | [a, b, c] => if c % 4 = 0 then some [a * 4 + b / 16, b % 16 * 16 + c / 4] else none
  | [a, b] => if b % 16 = 0 then some [a * 4 + b / 16] else none
  | _ => none

/-- The bytes that a text stands for. -/
def decode? : List Char → Option (List Nat)
  | [] => some []
  | [a, b, '=', '='] => ([a, b].mapM value?).bind groupBytes?
  | [a, b, c, '='] => ([a, b, c].mapM value?).bind groupBytes?
  | a :: b :: c :: d :: rest =>
    match ([a, b, c, d].mapM value?).bind groupBytes?, decode? rest with
    | some bytes, some more => some (bytes ++ more)
    | _, _ => none
  | _ => none

/-- The text whose bytes a text stands for.  The inner option is none where the bytes are those of
no text. -/
def decodeText? (cs : List Char) : Option (Option String) :=
  (decode? cs).map fun bytes => String.fromUTF8? ⟨(bytes.map Nat.toUInt8).toArray⟩

end Base64

/-- What is asked of a string that holds something. -/
inductive Content where
  /-- That it is written in base 64. -/
  | encoded
  /-- That it is a JSON document. -/
  | document
  /-- That it is a JSON document, written in base 64. -/
  | encodedDocument

namespace Content

/-- What is asked for by the kind of documents and the encoding that a schema names, if anything.
The encoding of an unknown kind is not looked at; the outer option is none where a name that is
looked at is no string. -/
def ofNames? (kind encoding : Option Json) : Option (Option Content) :=
  let encodes (name : String) : Bool := name = "base64"
  match kind, encoding with
  | none, none => some none
  | none, some (.str name) => some (if encodes name then some encoded else none)
  | some (.str "application/json"), none => some (some document)
  | some (.str "application/json"), some (.str name) =>
    some (if encodes name then some encodedDocument else none)
  | some (.str "application/json"), some _ => none
  | some (.str _), _ => some none
  | _, _ => none

/-- Whether a text is a JSON document. -/
def isDocument (text : String) : Bool := (Json.parse? text).isSome

/-- What is wrong with a string. -/
def fault? (c : Content) (s : String) : Option Fault :=
  match c, Base64.decodeText? s.toList with
  | document, _ => if isDocument s then none else some (.notDocument (.str s))
  | encoded, some _ => none
  | encodedDocument, some text =>
    if text.any isDocument then none else some (.notDocument (.str s))
  | _, none => some (.notEncoded (.str s))

end Content

end LintConfig
