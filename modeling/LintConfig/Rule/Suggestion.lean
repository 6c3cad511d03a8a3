import LintConfig.Rule.Resolution
import LintConfig.Rule.Removed

/-!
# What a failed lookup tells the user

A failed lookup is reported with what the user may have meant.

**Partial matches.**  `partialMatches` looks in every plugin for a rule named like the identifier
or like its remainder after one of its slashes: longer remainders first, and for one remainder the
plugins in the order of registration.

**Explanation.**  `explain` names the replacements of a removed rule; for any other identifier it
appends the partial matches to the message, built-in rules by their bare name and each once.
-/

namespace LintConfig

/-- A lookup error as it is shown: the kind of the lookup that failed, and a text. -/
structure LookupError where
  kind : LookupKind
  message : String
  deriving DecidableEq

/-- The plain report of a failure. -/
def LookupFailure.toError (failure : LookupFailure) : LookupError :=
  ⟨failure.kind, failure.message⟩

/-- Texts between quotes, with commas between them. -/
def quotedList (texts : List String) : String := ", ".intercalate (texts.map quoted)

/-- Appends the identifiers that may have been meant, if there are any. -/
def LookupError.withSuggestions (error : LookupError) (candidates : List String) : LookupError :=
  if candidates.isEmpty then error
  else { error with message := error.message ++ " Did you mean: " ++ quotedList candidates ++ "?" }

/-- What a rule may be called if the user got the plugin wrong: the identifier itself, then its
remainders after each slash from left to right, those that are not empty. -/
def searchedNames (id : String) : List String :=
  (id :: (RuleId.splits id).map Prod.snd).filter (fun name => name ≠ "")

/-- The identifiers of the rules that a failed lookup may have meant, with repetitions. -/
def partialMatches (registry : Registry) (id : String) : List String :=
  (searchedNames id).flatMap fun name =>
    (registry.entries.filter fun e => (e.2.rule? name).isSome).map fun e => RuleId.join e.1 name

/-- How a partial match is suggested: without the prefix that marks built-in rules. -/
def suggestionOf (candidate : String) : String :=
  match candidate.toList with
  | '@' :: '/' :: bare => String.ofList bare
  | _ => candidate

/-- The elements of a list without repetitions, in the order of their first appearance. -/
def firstAppearances (texts : List String) : List String :=
  texts.foldl (fun seen text => if text ∈ seen then seen else seen ++ [text]) []

/-- The identifiers that are suggested for a failed lookup. -/
def suggestions (registry : Registry) (id : String) : List String :=
  firstAppearances ((partialMatches registry id).map suggestionOf)

/-- The error that is shown for a failed lookup of an identifier. -/
def explain (registry : Option Registry) (id : String) (error : LookupError) : LookupError :=
  match replacements? id with
  | some replacements =>
    ⟨.noBuiltIn, "Rule " ++ quoted id ++ " was removed and replaced by: "
      ++ quotedList replacements ++ "."⟩
  | none =>
    match registry with
    | none => error
    | some registry => error.withSuggestions (suggestions registry id)

end LintConfig
