import LintConfig.Schema.Draft
import LintConfig.Schema.MetaSchema.Classic
import LintConfig.Schema.MetaSchema.Vocabularies

/-!
# The schemas of schemas

Every draft describes its own schemas by schemas.  A schema may refer to them, and then asks its
value to be a schema.

Whether a schema of options is one does not go through these documents: `Json.isSchema` says
directly which values are schemas of draft 4.
-/

namespace LintConfig

/-- The documents that describe schemas, each with its draft. -/
def MetaSchema.documents : List (Draft × Json) :=
  [(.draft04, draft04), (.draft06, draft06), (.draft07, draft07)]
    ++ documents2019.map (.draft2019, ·) ++ documents2020.map (.draft2020, ·)

end LintConfig
