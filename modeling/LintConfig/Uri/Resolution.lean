import LintConfig.Uri

/-!
# Resolving references

`Uri.resolve?` turns a reference into an identifier by what it is relative to, and `Uri.normal`
brings identifiers that mean the same into one form, so that they can be compared as texts.

**Normal form.**  Unreserved characters are not escaped, the digits of escapes are upper-case,
scheme and host are lower-case, an address of eight groups has the one text for it, a port is not
empty, and an absolute path has no segments that stay in place or lead upwards.

**Resolving** fails where there is nothing to be relative to: against an identifier with a fragment,
or with a path against an identifier whose path is no hierarchy.
-/

namespace LintConfig

namespace Uri

/-! ## Normal form -/

/-- Decodes the escapes of unreserved characters, and writes the others in capitals. -/
def normalEscapes : List Char → List Char
  | [] => []
  | '%' :: high :: low :: rest =>
    let c := Char.ofNat (Address.hexNumber [high, low])
    if isUnreserved c then c :: normalEscapes rest
    else '%' :: high.toUpper :: low.toUpper :: normalEscapes rest
  | c :: rest => c :: normalEscapes rest

/-- Lower-case letters everywhere but in escapes. -/
def lowerUnescaped : List Char → List Char
  | [] => []
  | '%' :: high :: low :: rest => '%' :: high :: low :: lowerUnescaped rest
  | c :: rest => c.toLower :: lowerUnescaped rest

/-- The segments of a path without those that stay in place, and without those that are left again
by a step upwards.  `before` holds the segments so far, the last one first. -/
def settle (before : List (List Char)) : List (List Char) → List (List Char)
  | [] => before.reverse
  | segment :: rest =>
    let isLast := rest.isEmpty
    if segment = ['.'] then settle (if isLast then [] :: before else before) rest
    else if segment = ['.', '.'] then
      settle (if isLast then [] :: before.tail else before.tail) rest
    else settle (segment :: before) rest

/-- An absolute path without segments that stay in place or lead upwards. -/
def removeDotSegments (path : List Char) : List Char :=
  match pieces '/' path with
  | [] => []
  | first :: segments => ['/'].intercalate (first :: settle [] segments)

/-- The normal form of a component. -/
def normalText (s : String) : String := String.ofList (normalEscapes s.toList)

/-- The normal form of a host. -/
def normalHost (host : List Char) : List Char :=
  match host with
  | '[' :: rest =>
    match Address.eightGroups? rest.dropLast with
    | some groups => '[' :: Address.textOfGroups groups ++ [']']
    | none => host.map Char.toLower
  | host => lowerUnescaped (normalEscapes host)

/-- The normal form of an authority. -/
def Authority.normal (a : Authority) : Authority where
  userInfo := a.userInfo.map normalText
  host := String.ofList (normalHost a.host.toList)
  port := a.port.filter (· ≠ "")

/-- The normal form of an identifier or of a relative reference. -/
def normal (u : Uri) : Uri :=
  let scheme := u.scheme.map fun s => String.ofList (s.toList.map Char.toLower)
  let path := normalEscapes u.path.toList
  let settled :=
    if scheme.isSome && path.head? == some '/' then removeDotSegments path else path
  let path := if u.authority.isNone && ['/', '/'].isPrefixOf settled then '/' :: '.' :: settled
    else settled
  { scheme, authority := u.authority.map Authority.normal, path := String.ofList path
    query := u.query.map normalText, fragment := u.fragment.map normalText }

/-! ## Resolving -/

/-- A relative path in place of what follows the last slash of the path of the base. -/
def mergedPath (base : Uri) (path : String) : String :=
  if base.authority.isSome && base.path = "" then "/" ++ path
  else
    let directory := (base.path.toList.reverse.dropWhile (· ≠ '/')).reverse
    String.ofList directory ++ path

/-- The reference as seen from an identifier. -/
def against? (base reference : Uri) : Option Uri :=
  if base.fragment.isSome then none
  else if reference.scheme.isSome then some reference
  else if base.isOpaque
      && (reference.authority.isSome || reference.path ≠ "" || reference.query.isSome) then none
  else if reference.authority.isSome then some { reference with scheme := base.scheme }
  else if reference.path = "" then
    some { base with query := reference.query <|> base.query, fragment := reference.fragment }
  else
    let path := if reference.path.toList.head? = some '/' then reference.path
      else mergedPath base reference.path
    some { base with path, query := reference.query, fragment := reference.fragment }

/-- Resolves the text of a reference.  The fragment that the base already ends with leads to the
base. -/
def resolve? (base : Uri) (text : String) : Option Uri :=
  if text.toList.head? = some '#' ∧ text.toList.isSuffixOf base.text.toList then some base
  else (ofText? text).bind fun reference => (base.against? reference).map normal

end Uri

end LintConfig
