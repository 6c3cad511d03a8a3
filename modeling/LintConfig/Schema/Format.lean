import LintConfig.Pattern.Reading
import LintConfig.Schema.Draft
import LintConfig.Schema.Format.Clock
import LintConfig.Schema.Format.Host
import LintConfig.Schema.Format.Mail
import LintConfig.Schema.Format.PointerText
import LintConfig.Schema.Format.Template
import LintConfig.Uri.International

/-!
# Formats

The named formats that strings are checked for.  A name that a draft does not know asks for nothing.
-/

namespace LintConfig

/-- A format that strings can be checked for. -/
inductive Format where
  /-- A calendar date. -/
  | date
  /-- A time of the day, with an offset. -/
  | time
  /-- A date and a time. -/
  | dateTime
  /-- An address of electronic mail. -/
  | email
  /-- An address of electronic mail, with letters of all scripts. -/
  | idnEmail
  /-- The name of a host. -/
  | hostname
  /-- An address of four decimal numbers. -/
  | ipv4
  /-- An address of eight hexadecimal groups. -/
  | ipv6
  /-- A regular expression. -/
  | regex
  /-- A resource identifier. -/
  | uri
  /-- A resource identifier or a relative reference. -/
  | uriReference
  /-- A template of a resource identifier. -/
  | uriTemplate
  /-- A pointer into a JSON value. -/
  | jsonPointer
  /-- A pointer from another place. -/
  | relativeJsonPointer
  /-- A resource identifier, with letters of all scripts. -/
  | iri
  /-- A resource identifier or a relative reference, with letters of all scripts. -/
  | iriReference
  /-- The name of a host, with labels of all scripts. -/
  | idnHostname
  deriving DecidableEq

namespace Format

/-- All formats. -/
def all : List Format :=
  [date, time, dateTime, email, idnEmail, hostname, ipv4, ipv6, regex, uri, uriReference,
    uriTemplate, jsonPointer, relativeJsonPointer, iri, iriReference, idnHostname]

/-- The name by which a schema asks for the format. -/
def name : Format → String
  | date => "date"
  | time => "time"
  | dateTime => "date-time"
  | email => "email"
  | idnEmail => "idn-email"
  | hostname => "hostname"
  | ipv4 => "ipv4"
  | ipv6 => "ipv6"
  | regex => "regex"
  | uri => "uri"
  | uriReference => "uri-reference"
  | uriTemplate => "uri-template"
  | jsonPointer => "json-pointer"
  | relativeJsonPointer => "relative-json-pointer"
  | iri => "iri"
  | iriReference => "iri-reference"
  | idnHostname => "idn-hostname"

/-- Whether strings are checked for the format by the rules of a draft.  The last two drafts take
all formats as annotations. -/
def isChecked (d : Draft) (f : Format) : Bool :=
  match f with
  | uriReference | uriTemplate | jsonPointer => d = .draft06 || d = .draft07
  | relativeJsonPointer | iri | iriReference | idnHostname => d = .draft07
  | _ => !d.hasVocabularies

/-- The format with a name, if strings are checked for it. -/
def ofName? (d : Draft) (s : String) : Option Format :=
  all.find? fun f => f.name = s && f.isChecked d

/-- Whether a string has the format. -/
def accepts (f : Format) (s : String) : Bool :=
  match f with
  | date => Clock.isDate s.toList
  | time => Clock.isTime s.toList
  | dateTime => Clock.isDateTime s.toList
  | email => Mail.isAddress Host.isName s.toList
  | idnEmail => Mail.isAddress Host.isInternational s.toList
  | hostname => Host.isName s.toList
  | ipv4 => Address.isFourOctets s.toList
  | ipv6 => Address.isEightGroups s.toList
  | regex => Pattern.isExpression s
  | uri => (Uri.ofText? s).any fun u => u.scheme.isSome
  | uriReference => (Uri.ofText? s).isSome
  | uriTemplate => Template.isTemplate s.toList
  | jsonPointer => PointerText.isPointer s.toList
  | relativeJsonPointer => PointerText.isRelative s.toList
  | iri => (Uri.ofInternationalText? s).any fun u => u.scheme.isSome
  | iriReference => (Uri.ofInternationalText? s).isSome
  | idnHostname => Host.isInternational s.toList

end Format

end LintConfig
