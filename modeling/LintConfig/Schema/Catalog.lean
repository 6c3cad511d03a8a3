import LintConfig.Schema.MetaSchema
import LintConfig.Schema.Reference

/-!
# Catalogs of schemas

A `Catalog` holds the documents that references can lead into: the documents of the drafts, and all
schemas inside of the one that is compiled that have an identifier.  Of two documents with the same
identifier the one that is found later counts.

**Building.**  `Catalog.ofSchema?` walks through the schema level by level.  It fails if an
identifier is malformed, or if a reference to another document leads to none, whether or not the
schema that holds it ever applies.  What a schema names as its draft counts as such a reference too.
References into the schema object that holds them are followed on the way, each only once.

**Looking up.**  `Catalog.find?` follows a reference: the document by its address, and the place in
it by a pointer or by the name of an anchor.
-/

namespace LintConfig

/-- A document that references can lead into. -/
structure Catalog.Document where
  address : Uri
  draft : Draft
  schema : Json

/-- A schema that is named by a fragment of a document. -/
structure Catalog.Anchor where
  address : Uri
  name : String
  draft : Draft
  schema : Json

/-- The documents and anchors that references can lead to. -/
structure Catalog where
  documents : List Catalog.Document
  anchors : List Catalog.Anchor

/-- A schema that a reference leads to, and what is around it. -/
structure Catalog.Place where
  /-- What references in it are relative to. -/
  home : Uri
  /-- The document with vocabularies that was entered first, if one was entered. -/
  outermost : Option Uri
  draft : Draft
  schema : Json

namespace Catalog

namespace Place

/-- The setting in which the schema is read that some other setting refers to, where it is read by
the rules of that setting.  The identifier of the schema counts there too. -/
def settingFrom? (p : Place) (s : Schema.Setting) : Option Schema.Setting :=
  (s.draft.home? p.home p.schema).map fun home => { s with home, outermost := p.outermost }

end Place

/-- What a schema without an identifier is relative to. -/
def rootAddress : Uri := ⟨some "json-schema", some ⟨none, "", none⟩, "/", none, none⟩

/-- The documents of the drafts. -/
def standard : List Document :=
  MetaSchema.documents.filterMap fun (draft, schema) =>
    (draft.home? rootAddress schema).map (⟨·, draft, schema⟩)

/-! ## Schemas inside of schemas -/

/-- The schemas directly inside of a schema of draft 4. -/
def subschemas (schema : Json) : List Json :=
  schema.members.flatMap fun (keyword, v) =>
    if ["additionalItems", "additionalProperties", "not"].contains keyword then [v]
    else if keyword = "items" then
      match v with
      | .arr schemas => schemas
      | v => [v]
    else if ["allOf", "anyOf", "oneOf"].contains keyword then v.items
    else if ["definitions", "dependencies", "patternProperties", "properties"].contains keyword then
      v.members.map Prod.snd
    else []

/-- All schemas inside of the given ones, level by level, each with what references in it are
relative to.  The given schemas come with what is around them. -/
def levels? : (depth : Nat) → List (Uri × Json) → Option (List (Uri × Json))
  | 0, _ => some []
  | depth + 1, level =>
    match level.mapM fun (home, v) => (Draft.draft04.home? home v).map (·, v) with
    | none => none
    | some [] => some []
    | some entered =>
      (levels? depth (entered.flatMap fun (home, v) => (subschemas v).map (home, ·))).map
        (entered ++ ·)

/-! ## References to other documents -/

/-- The name of a member that a segment without percent signs spells. -/
def memberName : List Char → List Char
  | [] => []
  | '~' :: '1' :: rest => '/' :: memberName rest
  | '~' :: '0' :: rest => '~' :: memberName rest
  | c :: rest => c :: memberName rest

/-- The index that a segment spells in the shortest way. -/
def shortestIndex? (segment : String) : Option Nat :=
  match segment.toList with
  | '+' :: _ => none
  | '0' :: _ :: _ => none
  | _ => Pointer.index? segment

/-- The value that a pointer leads to in which nothing is encoded. -/
def inside? (v : Json) : List String → Option Json
  | [] => some v
  | segment :: rest =>
    match v with
    | .arr items => (shortestIndex? segment).bind fun i => items[i]?.bind (inside? · rest)
    | .obj members =>
      (Json.lookup (String.ofList (memberName segment.toList)) members).bind (inside? · rest)
    | _ => none

/-- A reference as it is written, and what it is relative to. -/
structure Link where
  text : String
  home : Uri
  deriving DecidableEq

/-- The references that have been met on a walk through schemas. -/
structure Links where
  /-- Those to other documents. -/
  outward : List Link := []
  /-- Those into the schema object that holds them. -/
  inward : List Link := []

/-- Where a reference leads that points into the schema object that holds it. -/
def inwardPlace? (v : Json) (fragment : List Char) : Option Json :=
  match fragment.dropWhile (· = '#') with
  | '/' :: pointer => inside? v ((pieces '/' pointer).map String.ofList)
  | _ => none

/-- Adds the references of a schema object.  One into the object itself stands for those of the
place it leads to, but only the first time: it is not followed again where the same text stands in
another object with the same home. -/
def Links.collect (home : Uri) : (depth : Nat) → Json → Links → Links
  | 0, _, links => links
  | depth + 1, v, links =>
    (["$ref", "$schema"].filterMap v.member?).foldl
      (fun links text =>
        match text with
        | .str text =>
          if Draft.isStandard text then links
          else
            match text.toList with
            | '#' :: fragment =>
              if links.inward.contains ⟨text, home⟩ then links
              else
                let links := { links with inward := ⟨text, home⟩ :: links.inward }
                match inwardPlace? v fragment with
                | some place => collect home depth place links
                | none => links
            | _ => { links with outward := ⟨text, home⟩ :: links.outward }
        | _ => links)
      links

/-- The references of schemas to other documents.  Below an address that only names something there
are no other documents. -/
def outwardLinks (depth : Nat) (schemas : List (Uri × Json)) : List Link :=
  let links := schemas.foldl
    (fun links (home, v) => if home.scheme = some "urn" then links else links.collect home depth v)
    ({} : Links)
  links.outward

/-- The document that a reference leads into.  Its home may have a fragment of its own. -/
def Link.document? (link : Link) : Option Uri :=
  let found :=
    if link.home.fragment.isSome then
      link.home.withoutFragment.resolve? (String.ofList (cutAt '#' link.text.toList).1)
    else link.home.resolve? link.text
  found.map Uri.withoutFragment

/-- Whether a reference leads to one of the given documents. -/
def Link.leadsTo (documents : List Document) (link : Link) : Bool :=
  match link.document? with
  | some address => documents.any fun d => d.address = address
  | none => false

/-! ## Building -/

/-- What the references of a whole schema are relative to. -/
def homeOf? (schema : Json) : Option Uri := Draft.draft04.home? rootAddress schema

/-- The catalog for a schema. -/
def ofSchema? (schema : Json) : Option Catalog :=
  (homeOf? schema).bind fun root =>
    let depth := schema.depth + 1
    (levels? depth [(root, schema)]).bind fun schemas =>
      let named := schemas.filter fun (_, v) => (Draft.draft04.identifier? v).isSome
      let documents := (named.reverse.map fun (home, v) => (⟨home, .draft04, v⟩ : Document))
        ++ [⟨root, .draft04, schema⟩] ++ standard
      let anchors := schemas.reverse.filterMap fun (home, v) =>
        (Draft.draft04.anchor? v).map fun name => (⟨home, name, .draft04, v⟩ : Anchor)
      if (outwardLinks depth schemas).all (Link.leadsTo documents) then some ⟨documents, anchors⟩
      else none

/-! ## Looking up -/

/-- The vocabularies that are in force in a schema of a draft: those of the draft that it names for
itself, or those that the document declares which it names instead. -/
def vocabularies (c : Catalog) (d : Draft) (schema : Json) : List Vocabulary :=
  match Draft.named? schema, schema.member? "$schema" with
  | some named, _ => named.vocabularies
  | none, some (.str text) =>
    let described := (rootAddress.resolve? (Draft.withoutFinalMarks text)).bind fun address =>
      c.documents.find? fun d => d.address = address
    (described.bind fun d => Vocabulary.declared? rootAddress d.schema).getD d.vocabularies
  | none, _ => d.vocabularies

/-- The setting in which a schema stands at its place. -/
def settingAt (c : Catalog) (p : Place) : Schema.Setting where
  draft := p.draft
  vocabularies := c.vocabularies p.draft p.schema
  home := p.home
  outermost := p.outermost

/-- The anchor of a document with a name.  The document may also be known by its identifier
alone. -/
def anchor? (c : Catalog) (d : Document) (name : String) : Option Anchor :=
  let among (address : Uri) : Option Anchor :=
    c.anchors.find? fun a => a.address = address && a.name = name
  among d.address <|> ((d.draft.home? rootAddress d.schema).bind among)

/-- The place that a reference leads to. -/
def find? (c : Catalog) (r : Reference) : Option Place :=
  r.document?.bind fun (address, fragment) =>
    (c.documents.find? fun d => d.address = address).bind fun d =>
      let outermost :=
        if d.draft.hasVocabularies then r.setting.outermost <|> some d.address else none
      if fragment = "" then some ⟨d.address, outermost, d.draft, d.schema⟩
      else if fragment.toList.head? = some '/' then
        (Pointer.ofFragment? fragment).bind fun segments =>
          (Pointer.follow? d.draft d.address [] d.schema segments).map fun (home, v) =>
            ⟨home, outermost, d.draft, v⟩
      else (c.anchor? d fragment).map fun a => ⟨a.address, outermost, a.draft, a.schema⟩

end Catalog

end LintConfig
