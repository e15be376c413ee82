import Schemata.Form.Display

set_option autoImplicit false

/-!
What the library reports while it works, as events; a row of a log is the rendering of one.
-/

namespace Schemata

inductive Event where
  /-- An object schema lists required names that are none of its properties. -/
  | undefinedRequired (title : Value) (names : List String)
  | importing (moduleName : String)
  | loaded (typeName target : String)

namespace Event

def level : Event → String
  | .undefinedRequired .. => "WARNING"
  | .importing _ => "DEBUG"
  | .loaded .. => "DEBUG"

def logger : Event → String
  | .undefinedRequired .. => "json_schema_model.schema_model.builders"
  | .importing _ => "json_schema_model.cli_utils"
  | .loaded .. => "json_schema_model.cli_utils"

def message : Event → String
  | .undefinedRequired title names =>
    "Object schema " ++ title.display
      ++ " lists required properties with no definition: " ++ commaList names
  | .importing moduleName => "Importing module " ++ moduleName
  | .loaded typeName target => "Loaded " ++ typeName ++ " from " ++ target

def mapValues (see : Value → Value) : Event → Event
  | .undefinedRequired title names => .undefinedRequired (see title) names
  | event => event

end Event

structure Reported (α : Type) where
  value : α
  events : List Event := []

end Schemata
