import LintConfig.OrderedMap
import LintConfig.Json.Printer
import LintConfig.Schema.Engine

/-!
# Compiling with a cache

A `SchemaCompiler` remembers what schemas compile to, by their text.  Only successes are remembered:
a schema that does not compile is given to the engine again every time.

**Transparency.**  `compile_of_get?_eq_some` and `compile_of_get?_eq_none` say where the answer of
`compile` comes from, `get?_compile` and `get?_evict` what is in the cache afterwards.
-/

namespace LintConfig

/-- What schemas have compiled to so far, and how often the engine has been asked. -/
structure SchemaCompiler where
  /-- The checks, by the text of the schema. -/
  checks : OrderedMap String SchemaCheck := ∅
  /-- How many schemas have been given to the engine. -/
  requests : Nat := 0

namespace SchemaCompiler

/-- The key under which a schema is remembered: its compact text. -/
def cacheKey (schema : Json) : String := schema.text

/-- How many schemas are remembered. -/
def size (c : SchemaCompiler) : Nat := c.checks.size

/-- Whether no schema is remembered. -/
def isEmpty (c : SchemaCompiler) : Bool := c.checks.isEmpty

/-- The compiler after the engine has been asked for a schema. -/
def recordOutcome (c : SchemaCompiler) (schema : Json) : Option SchemaCheck → SchemaCompiler
  | some check => ⟨c.checks.insert (cacheKey schema) check, c.requests + 1⟩
  | none => ⟨c.checks, c.requests + 1⟩

/-- The validator for a schema, from the cache or from the engine. -/
def compile (engine : SchemaEngine) (c : SchemaCompiler) (schema : Json) :
    OptionsValidator × SchemaCompiler :=
  match c.checks.get? (cacheKey schema) with
  | some check => (.compiled check, c)
  | none => (.ofOutcome (engine schema), c.recordOutcome schema (engine schema))

/-- Forgets a schema, and says whether it was remembered. -/
def evict (c : SchemaCompiler) (schema : Json) : Bool × SchemaCompiler :=
  (c.checks.contains (cacheKey schema), { c with checks := c.checks.erase (cacheKey schema) })

theorem compile_of_get?_eq_some {engine : SchemaEngine} {c : SchemaCompiler} {schema : Json}
    {check : SchemaCheck} (h : c.checks.get? (cacheKey schema) = some check) :
    c.compile engine schema = (.compiled check, c) := by
  simp [compile, h]

theorem compile_of_get?_eq_none {engine : SchemaEngine} {c : SchemaCompiler} {schema : Json}
    (h : c.checks.get? (cacheKey schema) = none) :
    c.compile engine schema
      = (.ofOutcome (engine schema), c.recordOutcome schema (engine schema)) := by
  simp [compile, h]

/-- Recording an outcome binds the text of its schema if there is a check to bind. -/
theorem get?_recordOutcome (c : SchemaCompiler) (schema : Json) (outcome : Option SchemaCheck)
    (key : String) :
    (c.recordOutcome schema outcome).checks.get? key
      = if cacheKey schema = key then outcome <|> c.checks.get? key else c.checks.get? key := by
  cases outcome with
  | none => simp [recordOutcome]
  | some check => simp [recordOutcome, OrderedMap.get?_insert]

/-- Compiling only ever adds the check of the schema itself. -/
theorem get?_compile (engine : SchemaEngine) (c : SchemaCompiler) (schema : Json) (key : String) :
    (c.compile engine schema).2.checks.get? key
      = if cacheKey schema = key then c.checks.get? key <|> engine schema
        else c.checks.get? key := by
  cases h : c.checks.get? (cacheKey schema) with
  | some check =>
    rw [compile_of_get?_eq_some h]
    by_cases hk : cacheKey schema = key
    · subst hk; simp [h]
    · simp [hk]
  | none =>
    rw [compile_of_get?_eq_none h, get?_recordOutcome]
    by_cases hk : cacheKey schema = key
    · subst hk; simp [h]
    · simp [hk]

/-- Evicting forgets the schema itself and no other. -/
theorem get?_evict (c : SchemaCompiler) (schema : Json) (key : String) :
    (c.evict schema).2.checks.get? key
      = if key = cacheKey schema then none else c.checks.get? key :=
  OrderedMap.get?_erase c.checks (cacheKey schema) key

end SchemaCompiler

end LintConfig
