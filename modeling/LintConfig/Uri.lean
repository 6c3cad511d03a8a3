import LintConfig.Address
import LintConfig.Pieces

/-!
# Resource identifiers

A `Uri` is a resource identifier or a reference that is relative to one, taken apart into its
components.  `Uri.ofText?` reads one; it accepts exactly the ASCII texts of the grammar: every
component has its own set of characters, and a percent sign needs two hexadecimal digits after it.
`Uri.text` writes it again.
-/

namespace LintConfig

/-- The part of an identifier that names a host. -/
structure Uri.Authority where
  userInfo : Option String
  host : String
  port : Option String
  deriving DecidableEq

/-- A resource identifier; without a scheme it is a relative reference. -/
structure Uri where
  scheme : Option String
  authority : Option Uri.Authority
  path : String
  query : Option String
  fragment : Option String
  deriving DecidableEq

namespace Uri

/-! ## Characters -/

/-- Characters that never need an escape. -/
def isUnreserved (c : Char) : Bool := c.isAlphanum || c = '-' || c = '.' || c = '_' || c = '~'

/-- Characters that may separate the parts of a component. -/
def isSubDelimiter (c : Char) : Bool :=
  ['!', '$', '&', '\x27', '(', ')', '*', '+', ',', ';', '='].contains c

/-- Characters of a segment of a path. -/
def isPathChar (c : Char) : Bool := isUnreserved c || isSubDelimiter c || c = ':' || c = '@'

/-- Characters of a query or a fragment. -/
def isQueryChar (c : Char) : Bool := isPathChar c || c = '/' || c = '?'

/-- Characters of a scheme. -/
def isSchemeChar (c : Char) : Bool := c.isAlphanum || c = '+' || c = '-' || c = '.'

/-- Whether a text is made of allowed characters and of escapes: percent signs with two hexadecimal
digits each. -/
def isEncoded (allowed : Char → Bool) : List Char → Bool
  | [] => true
  | '%' :: high :: low :: rest =>
    Address.isHexDigit high && Address.isHexDigit low && isEncoded allowed rest
  | c :: rest => allowed c && isEncoded allowed rest

/-! ## Reading -/

/-- Whether a text between brackets is an address of a version that is yet to come. -/
def isFutureAddress (cs : List Char) : Bool :=
  match cs with
  | v :: rest =>
    match cutAt '.' rest with
    | (version, some address) =>
      (v = 'v' || v = 'V') && !version.isEmpty && version.all Address.isHexDigit
        && !address.isEmpty
        && address.all fun c => isUnreserved c || isSubDelimiter c || c = ':'
    | _ => false
  | [] => false

/-- Reads the host and the port of an authority. -/
def hostAndPort? (cs : List Char) : Option (List Char × Option (List Char)) :=
  let parts : Option (List Char × Option (List Char)) :=
    match cs with
    | '[' :: rest =>
      match cutAt ']' rest with
      | (address, some after) =>
        if Address.isEightGroups address || isFutureAddress address then
          match after with
          | [] => some ('[' :: address ++ [']'], none)
          | ':' :: port => some ('[' :: address ++ [']'], some port)
          | _ => none
        else none
      | _ => none
    | cs =>
      let (name, port) := cutAt ':' cs
      if isEncoded (fun c => isUnreserved c || isSubDelimiter c) name then some (name, port)
      else none
  parts.filter fun p => (p.2.getD []).all Char.isDigit

/-- Reads an authority. -/
def authority? (cs : List Char) : Option Authority :=
  let (userInfo, place) := match cutAt '@' cs with
    | (userInfo, some place) => (some userInfo, place)
    | (place, none) => (none, place)
  if isEncoded (fun c => isUnreserved c || isSubDelimiter c || c = ':') (userInfo.getD []) then
    (hostAndPort? place).map fun (host, port) =>
      ⟨userInfo.map String.ofList, String.ofList host, port.map String.ofList⟩
  else none

/-- Reads the scheme in front of a text, if there is one, and returns it with the rest.  A text with
a colon that ends a scheme has to begin with a letter. -/
def scheme? (cs : List Char) : Option (Option (List Char) × List Char) :=
  match cutAt ':' cs with
  | (scheme, some rest) =>
    if scheme.all isSchemeChar then
      if (scheme.head?.map Char.isAlpha).getD false then some (some scheme, rest) else none
    else some (none, cs)
  | (_, none) => some (none, cs)

/-- Whether the first segment of a path holds a colon, which a path without a scheme may not. -/
def startsWithColonSegment (path : List Char) : Bool := (path.takeWhile (· ≠ '/')).contains ':'

/-- Reads what comes before the query: scheme, authority and path. -/
def hierarchy? (cs : List Char) : Option (Option String × Option Authority × String) :=
  (scheme? cs).bind fun (scheme, rest) =>
    let parts : Option (Option Authority × List Char) :=
      match rest with
      | '/' :: '/' :: rest =>
        let path := rest.dropWhile (· ≠ '/')
        (authority? (rest.takeWhile (· ≠ '/'))).map fun authority => (some authority, path)
      | rest => some (none, rest)
    parts.bind fun (authority, path) =>
      if isEncoded (fun c => isPathChar c || c = '/') path
          && (scheme.isSome || authority.isSome || !startsWithColonSegment path) then
        some (scheme.map String.ofList, authority, String.ofList path)
      else none

/-- Reads an identifier or a relative reference. -/
def ofText? (text : String) : Option Uri :=
  let (address, fragment) := cutAt '#' text.toList
  let (hierarchy, query) := cutAt '?' address
  if isEncoded isQueryChar (query.getD []) && isEncoded isQueryChar (fragment.getD []) then
    (hierarchy? hierarchy).map fun (scheme, authority, path) =>
      ⟨scheme, authority, path, query.map String.ofList, fragment.map String.ofList⟩
  else none

/-! ## Writing -/

/-- The text of an authority. -/
def Authority.text (a : Authority) : String :=
  (a.userInfo.map (· ++ "@")).getD "" ++ a.host ++ (a.port.map (":" ++ ·)).getD ""

/-- The text of an identifier. -/
def text (u : Uri) : String :=
  (u.scheme.map (· ++ ":")).getD "" ++ (u.authority.map ("//" ++ ·.text)).getD "" ++ u.path
    ++ (u.query.map ("?" ++ ·)).getD "" ++ (u.fragment.map ("#" ++ ·)).getD ""

/-- The identifier of the document, without the place in it. -/
def withoutFragment (u : Uri) : Uri := { u with fragment := none }

/-- Whether there is nothing to start a relative path from. -/
def isOpaque (u : Uri) : Bool := u.authority.isNone && u.path.toList.head? != some '/'

end Uri

end LintConfig
