import LintConfig.Schema.Catalog
import LintConfig.Schema.Checking
import LintConfig.Schema.Reading

/-!
# Compiled schemas

A `CompiledSchema` is a schema together with the schemas that its references lead to.

**Linking.**  A schema is linked by putting in the place of a reference what it leads to, but only
where its address is met for the first time.  A repeated reference stays, and so does one to the
whole document it is in.  What such a reference leads to is linked on its own, and it is read by the
rules of the setting that refers to it, whatever draft it is of.

**Compiling.**  `CompiledSchema.ofJson?` wants a schema of draft 4, whose references to other
documents lead to some.  It links the schema and then, round by round, the targets of the references
that have stayed.  It fails if a reference leads nowhere or to what cannot be read; this only counts
for schemas that apply.

**References.**  What a reference asks for is what its target asks for, so `CompiledSchema.follow`
is the check by the target with itself for the references in it, a number of references deep; where
more would have to be followed, it does not come to an end.  References that lead to one another
without going deeper into the value are followed for ever.  All others come to an end within
`CompiledSchema.hops`: on each level of the value every target is asked for a verdict and for a
report, and each of these answers that can be found takes one step more at most.  A reference to one
that is written in the same way asks for nothing, which is seen when it is linked.
-/

namespace LintConfig

/-- What has been met while a schema is linked. -/
structure Schema.Linking where
  /-- The addresses of the references for which their targets stand. -/
  met : List Uri := []
  /-- The references that have stayed. -/
  kept : List Reference := []

/-- A schema with the targets of its references. -/
structure CompiledSchema where
  root : Schema
  targets : List (Reference × Schema)

namespace Catalog

/-! ## Linking -/

/-- Whether a schema refers to something with the same text. -/
def refersBy (text : String) (schema : Json) : Bool :=
  match schema.member? "$ref" with
  | some (.str other) => other = text
  | _ => false

/-- What stands for a reference.  One that stays and leads to one that is written in the same way
asks for nothing.  Every nested call meets another address, which bounds the fuel. -/
def linked (catalog : Catalog) : (fuel : Nat) → Reference → StateT Schema.Linking Option Schema
  | 0, _ => failure
  | fuel + 1, r => do
    let place ← catalog.find? r
    let address ← r.address?
    let linking ← get
    if r.text = "#" ∨ address ∈ linking.met then
      if refersBy r.text place.schema then return .anything
      else
        set { linking with kept := r :: linking.kept }
        return .reference r
    else
      set { linking with met := address :: linking.met }
      let schema ← Schema.ofJson? (catalog.settingAt place) place.schema
      schema.substitute (catalog.linked fuel)

/-- Links a schema.  The references that have stayed come with it. -/
def link? (catalog : Catalog) (fuel : Nat) (schema : Schema) : Option (Schema × List Reference) :=
  ((schema.substitute (catalog.linked fuel)).run {}).map fun (schema, linking) =>
    (schema, linking.kept)

/-- The linked schema that a reference leads to which has stayed, and the references that have
stayed in it. -/
def target? (catalog : Catalog) (fuel : Nat) (r : Reference) : Option (Schema × List Reference) :=
  (catalog.find? r).bind fun place =>
    (place.settingFrom? r.setting).bind fun setting =>
      (Schema.ofJson? setting place.schema).bind (catalog.link? fuel)

end Catalog

namespace CompiledSchema

/-! ## Compiling -/

/-- Adds the targets of references, and those of the references in them. -/
def close? (catalog : Catalog) (fuel : Nat) : (rounds : Nat) → List Reference →
    List (Reference × Schema) → Option (List (Reference × Schema))
  | 0, _, known => some known
  | rounds + 1, references, known =>
    let missing := references.eraseDups.filter fun r => !known.any fun e => e.1 = r
    match missing.mapM fun r => (catalog.target? fuel r).map (r, ·) with
    | none => none
    | some [] => some known
    | some found =>
      close? catalog fuel rounds (found.flatMap fun e => e.2.2)
        (known ++ found.map fun e => (e.1, e.2.1))

/-- How many rounds are enough, and how deep targets can stand in one another.  Each round but the
last adds a reference, and a reference is known by six choices: where it is written, where the
schema begins that it was read in, the document of this schema, the document with vocabularies that
was entered first, and the draft and the vocabularies by which it is read. -/
def rounds (source : Json) : Nat :=
  let values := MetaSchema.documents.foldl (fun n (_, document) => n + document.size) source.size
  Nat.pow (values + 1) 6 + 1

/-- Compiles a schema.  Its identifier is relative to itself. -/
def ofJson? (source : Json) : Option CompiledSchema :=
  if source.isSchema then
    (Catalog.ofSchema? source).bind fun catalog =>
      ((Catalog.homeOf? source).bind (Draft.draft04.home? · source)).bind fun home =>
        ((Schema.ofJson? ⟨.draft04, catalog.vocabularies .draft04 source, home, none⟩ source).bind
            (catalog.link? (rounds source))).bind fun (root, references) =>
          (close? catalog (rounds source) (rounds source) references []).map (⟨root, ·⟩)
  else none

/-! ## Checking -/

/-- What a reference asks for, if that can be found out by following the given number of
references. -/
def follow (targets : List (Reference × Schema)) : (hops : Nat) → Reference → Json → Check
  | 0, _, _ => .endless
  | hops + 1, reference, v =>
    match targets.lookup reference with
    | some schema => schema.check (follow targets hops) v
    | none => .finding []

/-- How many references have to be followed at most for a check that comes to an end. -/
def hops (compiled : CompiledSchema) (v : Json) : Nat :=
  2 * compiled.targets.length * (v.depth + 1) + 1

/-- The check of a value. -/
def check (compiled : CompiledSchema) (v : Json) : Check :=
  compiled.root.check (follow compiled.targets (compiled.hops v)) v

/-- Everything that is wrong with a value, if the check of it comes to an end. -/
def violations? (compiled : CompiledSchema) (v : Json) : Option (List Violation) :=
  compiled.check v .report

end CompiledSchema

end LintConfig
