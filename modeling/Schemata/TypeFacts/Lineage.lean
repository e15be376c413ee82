import Schemata.Feature

set_option autoImplicit false

/-!
What a type is itself, from which types it inherits, and where it is defined. A type is known by its name.
-/

namespace Schemata.TypeFacts

def plainType : String := "type"

def vocabularyType : String := "EnumType"

def abstractType : String := "ABCMeta"

def isVocabulary (typeName : String) : Bool := Keyword.vocabularies.contains typeName

-- The mappings and what they generalize to.
def mappingLineage : List String := ["Mapping", "Collection", "Sized", "Iterable", "Container"]

def metatype (typeName : String) : String :=
  if isVocabulary typeName || typeName == "Enum" then vocabularyType
  else if (Shape.frozen.typeName :: mappingLineage).contains typeName then abstractType
  else plainType

def recordParents : RecordClass → List String
  | .object => ["BaseFields"]
  | .array => ["BaseFields"]
  | .null => ["BaseFields"]
  | .ref => ["BaseFields"]
  | .combinator => ["BaseFields"]
  | .string => ["WithEnumSchema"]
  | .boolean => ["WithEnumSchema"]
  | .integer => ["BaseNumberSchema", "WithEnumSchema"]
  | .number => ["BaseNumberSchema", "WithEnumSchema"]
  | .oneOf => ["_CombinatorFields"]
  | .anyOf => ["_CombinatorFields"]
  | .allOf => ["_CombinatorFields"]
  | _ => ["object"]

def parents (typeName : String) : List String :=
  match RecordClass.ofName? typeName with
  | some cls => recordParents cls
  | none =>
    if isVocabulary typeName then ["str", "Enum"]
    else
      match typeName with
      | "object" => []
      | "bool" => ["int"]
      | "FrozenDict" => ["Mapping"]
      | "Mapping" => ["Collection"]
      | "Collection" => ["Sized", "Iterable", "Container"]
      | "WithEnumSchema" => ["BaseFields", "Generic"]
      | "BaseNumberSchema" => ["BaseFields", "Generic"]
      | "EnumType" => ["type"]
      | "ABCMeta" => ["type"]
      | _ => ["object"]

-- What records with an enumeration go back to.
def enumerationLineage : List String := ["WithEnumSchema", "BaseFields", "Generic", "object"]

/-- The type and all that it goes back to, nearest first. -/
def lineage (typeName : String) : List String :=
  match parents typeName with
  | ["WithEnumSchema"] => typeName :: enumerationLineage
  | ["BaseNumberSchema", "WithEnumSchema"] => typeName :: "BaseNumberSchema" :: enumerationLineage
  | ["BaseFields", "Generic"] => [typeName, "BaseFields", "Generic", "object"]
  | ["BaseFields"] => [typeName, "BaseFields", "object"]
  | ["_CombinatorFields"] => [typeName, "_CombinatorFields", "object"]
  | ["str", "Enum"] => [typeName, "str", "Enum", "object"]
  | ["Mapping"] => typeName :: mappingLineage ++ ["object"]
  | ["Collection"] => typeName :: mappingLineage.drop 1 ++ ["object"]
  | ["Sized", "Iterable", "Container"] => typeName :: mappingLineage.drop 2 ++ ["object"]
  | [] => [typeName]
  | [parent] => if parent == "object" then [typeName, parent] else [typeName, parent, "object"]
  | _ => [typeName, "object"]

-- What the core itself defines.
def coreModule : String := "builtins"

def nodeModule : String := "json_schema_model.schema_model.nodes"

def configModule : String := "json_schema_model.config"

def home (typeName : String) : String :=
  match RecordClass.ofName? typeName with
  | some .settings => configModule
  | some _ => nodeModule
  | none =>
    if ["KeyOrder", "MissingRequiredPolicy"].contains typeName then configModule
    else if isVocabulary typeName then nodeModule
    else if ["BaseFields", "WithEnumSchema", "BaseNumberSchema", "_CombinatorFields"].contains typeName then
      nodeModule
    else if mappingLineage.contains typeName then "collections.abc"
    else
      match typeName with
      | "FrozenDict" => "json_schema_model.schema_model.json_values"
      | "SimpleNamespace" => "types"
      | "GenericAlias" => "types"
      | "_DataclassParams" => "dataclasses"
      | "_abc_data" => "_abc"
      | "Generic" => "typing"
      | "Enum" => "enum"
      | "EnumType" => "enum"
      | "ABCMeta" => "abc"
      | _ => coreModule

-- The name with the place where a type is defined, if that is not the library or the core.
def qualifiedName (typeName : String) : String :=
  match typeName with
  | "SimpleNamespace" => Shape.holder.qualifiedName
  | "GenericAlias" => "types." ++ typeName
  | "_abc_data" => "_abc." ++ typeName
  | typeName => typeName

def isOfCore (typeName : String) : Bool := [coreModule, "types"].contains (home typeName)

end Schemata.TypeFacts
