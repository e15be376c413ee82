set_option autoImplicit false

/-!
The closed vocabularies: the kinds of schema, the formats of strings that are known by name, and
the two choices of a configuration. A word of a vocabulary is a `Keyword`; its text is the
spelling in a document.
-/

namespace Schemata

inductive SchemaKind where
  | object | array | string | integer | number | boolean | null | ref | oneOf | anyOf | allOf | fallback
deriving DecidableEq

inductive StringFormat where
  | dateTime | email | hostname | ipv4 | ipv6 | uri
deriving DecidableEq

/-- Order of properties and definitions after construction: by code points, or as given. -/
inductive KeyOrder where
  | sorted | insertion
deriving DecidableEq

/-- What happens when a required name has no property: it is dropped, in silence or with a warning. -/
inductive MissingRequired where
  | ignore | warn
deriving DecidableEq

inductive Keyword where
  | kind (kind : SchemaKind)
  | format (format : StringFormat)
  | keyOrder (order : KeyOrder)
  | missingRequired (policy : MissingRequired)
deriving DecidableEq

namespace SchemaKind

def all : List SchemaKind :=
  [.object, .array, .string, .integer, .number, .boolean, .null, .ref, .oneOf, .anyOf, .allOf, .fallback]

def text : SchemaKind → String
  | .object => "object"
  | .array => "array"
  | .string => "string"
  | .integer => "integer"
  | .number => "number"
  | .boolean => "boolean"
  | .null => "null"
  | .ref => "$ref"
  | .oneOf => "oneOf"
  | .anyOf => "anyOf"
  | .allOf => "allOf"
  | .fallback => "fallback"

def member : SchemaKind → String
  | .object => "OBJECT"
  | .array => "ARRAY"
  | .string => "STRING"
  | .integer => "INTEGER"
  | .number => "NUMBER"
  | .boolean => "BOOLEAN"
  | .null => "NULL"
  | .ref => "REF"
  | .oneOf => "ONE_OF"
  | .anyOf => "ANY_OF"
  | .allOf => "ALL_OF"
  | .fallback => "FALLBACK"

end SchemaKind

namespace StringFormat

def all : List StringFormat := [.dateTime, .email, .hostname, .ipv4, .ipv6, .uri]

def text : StringFormat → String
  | .dateTime => "date-time"
  | .email => "email"
  | .hostname => "hostname"
  | .ipv4 => "ipv4"
  | .ipv6 => "ipv6"
  | .uri => "uri"

def member : StringFormat → String
  | .dateTime => "DATE_TIME"
  | .email => "EMAIL"
  | .hostname => "HOSTNAME"
  | .ipv4 => "IPV4"
  | .ipv6 => "IPV6"
  | .uri => "URI"

def ofText? (text : String) : Option StringFormat := all.find? fun format => format.text == text

end StringFormat

namespace KeyOrder

def all : List KeyOrder := [.sorted, .insertion]

def text : KeyOrder → String
  | .sorted => "sorted"
  | .insertion => "insertion"

def member : KeyOrder → String
  | .sorted => "SORTED"
  | .insertion => "INSERTION"

def ofText? (text : String) : Option KeyOrder := all.find? fun order => order.text == text

end KeyOrder

namespace MissingRequired

def all : List MissingRequired := [.ignore, .warn]

def text : MissingRequired → String
  | .ignore => "ignore"
  | .warn => "warn"

def member : MissingRequired → String
  | .ignore => "IGNORE"
  | .warn => "WARN"

def ofText? (text : String) : Option MissingRequired := all.find? fun policy => policy.text == text

end MissingRequired

namespace Keyword

def all : List Keyword :=
  SchemaKind.all.map .kind ++ StringFormat.all.map .format ++ KeyOrder.all.map .keyOrder
    ++ MissingRequired.all.map .missingRequired

def text : Keyword → String
  | .kind k => k.text
  | .format f => f.text
  | .keyOrder o => o.text
  | .missingRequired p => p.text

def vocabulary : Keyword → String
  | .kind _ => "SchemaKind"
  | .format _ => "StringFormat"
  | .keyOrder _ => "KeyOrder"
  | .missingRequired _ => "MissingRequiredPolicy"

def vocabularies : List String := (all.map vocabulary).eraseDups

/-- The word's name within its vocabulary. -/
def member : Keyword → String
  | .kind k => k.member
  | .format f => f.member
  | .keyOrder o => o.member
  | .missingRequired p => p.member

def qualified (k : Keyword) : String := k.vocabulary ++ "." ++ k.member

def ofQualified? (name : String) : Option Keyword := all.find? fun k => k.qualified == name

end Keyword
end Schemata
