import Schemata.TypeFacts.Purpose

set_option autoImplicit false

/-!
What a type keeps for all its objects, where it is known as a value.
-/

namespace Schemata.TypeFacts

-- The fields of a class that have no name of their own in a call.
def placedFields (cls : RecordClass) : List String :=
  match cls with
  | .settings => cls.fields
  | cls => if cls.byNameOnly then [] else cls.mandatory

def texts (items : List String) : Value := .tuple none (items.map .text)

-- What a class of records keeps under a name.
def keptByRecords (cls : RecordClass) (name : String) : Option Value :=
  match name with
  | "__match_args__" => some (texts (placedFields cls))
  | "__annotations__" => some (seenDeclarations cls.name)
  | "is_required" =>
    match cls with
    | .requiredProperty => some (.bool true)
    | .optionalProperty => some (.bool false)
    | _ => none
  | "_is_protocol" => if (lineage cls.name).contains "Generic" then some (.bool false) else none
  | "__slots__" => if (lineage cls.name).contains "Generic" then some (texts []) else none
  | "__parameters__" => if (lineage cls.name).contains "Generic" then some (texts []) else none
  | _ => none

-- How records of a class are compared and written, which they keep together.
def parameterOfRecords (cls : RecordClass) (name : String) : Option Value :=
  match name with
  | "init" => some (.bool true)
  | "repr" => some (.bool true)
  | "eq" => some (.bool true)
  | "order" => some (.bool false)
  | "unsafe_hash" => some (.bool false)
  | "frozen" => some (.bool (cls != .settings))
  | "__slots__" => some (texts ["init", "repr", "eq", "order", "unsafe_hash", "frozen"])
  | "__module__" => some (.text "dataclasses")
  | "__doc__" => some .null
  | _ => none

-- What a vocabulary keeps under a name, its words among it.
def keptByVocabulary (vocabulary name : String) : Option Value :=
  let words := Keyword.all.filter fun k => k.vocabulary == vocabulary
  match name with
  | "_member_names_" => some (.list none (words.map fun k => .text k.member))
  | "_member_map_" => some (.table none (words.map fun k => (.text k.member, .keyword k)))
  | "_value2member_map_" => some (.table none (words.map fun k => (.text k.text, .keyword k)))
  | "_unhashable_values_" => some (.list none [])
  | "_use_args_" => some (.bool true)
  | name => (words.find? fun k => k.member == name).map .keyword

/-- What a type keeps for all its objects, where it is known as a value. -/
def kept? (typeName name : String) : Option Value :=
  match name, RecordClass.ofName? typeName with
  | "__doc__", _ => (purpose? typeName).map .text
  | "__module__", some _ => some (.text (home typeName))
  | name, some cls => keptByRecords cls name
  | name, none =>
    if isVocabulary typeName then
      if name == "__module__" then some (.text (home typeName)) else keptByVocabulary typeName name
    else if typeName == Shape.frozen.typeName then
      match name with
      | "__module__" => some (.text (home typeName))
      | "__slots__" => some (texts ["_data", "_hash"])
      | _ => none
    else none

end Schemata.TypeFacts
