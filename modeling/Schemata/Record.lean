import Schemata.Value

set_option autoImplicit false

/-!
Records as fields: the class of a record and its fields as values, in the order in which they are
shown; and the direct parts of any value.
-/

namespace Schemata

def Labels.fields (labels : Labels) : List (String × Value) :=
  [("title", labels.title), ("description", labels.description),
   ("examples", .tuple none labels.examples)]

def Bounds.fields (bounds : Bounds) : List (String × Value) :=
  [("minimum", bounds.minimum), ("maximum", bounds.maximum),
   ("exclusive_minimum", bounds.exclusiveMinimum), ("exclusive_maximum", bounds.exclusiveMaximum),
   ("multiple_of", bounds.multipleOf)]

def Schema.fields : Schema → List (String × Value)
  | .object labels properties low high =>
    labels.fields ++ [("properties", properties), ("min_properties", low), ("max_properties", high)]
  | .array labels items low high =>
    labels.fields ++ [("items", items), ("min_items", low), ("max_items", high)]
  | .string labels enum low high pattern format =>
    labels.fields ++ [("enum", enum), ("min_length", low), ("max_length", high), ("pattern", pattern),
      ("format", format)]
  | .integer labels enum bounds => labels.fields ++ ("enum", enum) :: bounds.fields
  | .number labels enum bounds => labels.fields ++ ("enum", enum) :: bounds.fields
  | .boolean labels enum => labels.fields ++ [("enum", enum)]
  | .null labels => labels.fields
  | .ref labels token => labels.fields ++ [("ref", token)]
  | .combined _ combinator => [("combinator", combinator)]
  | .fallback value => [("value", value)]

def Combinator.fields (c : Combinator) : List (String × Value) :=
  c.labels.fields ++ [("sub_schemas", c.subSchemas)]

namespace Value

/-- The class and the fields of a record; other values are none. -/
def record? : Value → Option (RecordClass × List (String × Value))
  | .settings _ attributes => some (.settings, settingsFields attributes)
  | .schema _ s => some (s.recordClass, s.fields)
  | .combinator _ c => some (.combinator, c.fields)
  | .property _ p => some (p.recordClass, [("name", p.name), ("schema", p.schema)])
  | .customFormat _ name => some (.customFormat, [("name", name)])
  | .model _ m => some (.model, [("definitions", .frozen none m.definitions), ("root", m.root)])
  | _ => none

/-- What a value consists of: items, what is under keys and names, and fields. -/
def parts : Value → List Value
  | .list _ items => items
  | .tuple _ items => items
  | .table _ entries => entries.map Prod.snd
  | .frozen _ entries => entries.map Prod.snd
  | .showing _ other => [other]
  | .holder _ attributes => attributes.map Prod.snd
  | .settings _ attributes => attributes.map Prod.snd
  | value =>
    match value.record? with
    | some (_, fields) => fields.map Prod.snd
    | none => []

end Value
end Schemata
