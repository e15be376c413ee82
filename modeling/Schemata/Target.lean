import Schemata.Event
import Schemata.Path
import Schemata.Query
import Schemata.Text.Split

set_option autoImplicit false

/-!
Locating an object. A target names a module and a path of attributes, `module:attribute`, split at
the first colon. The modules are those of a registry, and each knows its own name and the like beside
its attributes. A target is accepted when it leads to a document or a schema.
-/

namespace Schemata

/-- A module with its own attributes, which may be values, and classes and operations as well. -/
structure Module where
  name : String
  attributes : List (String × Finding)

namespace Module

def typeName : String := "module"

def finding (module : Module) : Finding := .offered typeName module.name .null

-- What a module knows of itself, unless it has an attribute of its own for it.
def fact? (module : Module) (name : String) : Option Finding :=
  match name with
  | "__name__" => some (.text module.name)
  | "__doc__" => some .null
  | "__package__" => some .null
  | "__loader__" => some .null
  | "__spec__" => some .null
  | name => (Feature.of? typeName name).map fun feature => feature.inObject module.finding name

-- What a module has whatever its attributes are.
def certain? (module : Module) (name : String) : Option Finding :=
  match name with
  | "__class__" => some (.type typeName)
  | "__dict__" => some (.offered Shape.table.typeName name module.finding)
  | _ => none

def find? (module : Module) (name : String) : Option Finding :=
  match module.certain? name, module.attributes.lookup name with
  | some found, _ => some found
  | none, some own => some own
  | none, none => module.fact? name

/-- What a module has under a name. For one that is missing it may name something else to be asked. -/
def find (answer : Finding → String → Except Fault Finding) (module : Module) (name : String) :
    Except Fault Finding :=
  match module.find? name, module.attributes.lookup "__getattr__" with
  | some found, _ => .ok found
  | none, some other => answer other name
  | none, none => .error (.noAttribute typeName name)

end Module

/-- Modules with their attributes, and the cells of the objects in them. -/
structure Registry where
  modules : List (String × List (String × Finding))
  cells : Cells := #[]
  /-- How often an object that is inside itself is entered. -/
  depth : Nat := 1
  /-- What is found under a name. -/
  find : String → Finding → Except Fault Finding := Finding.find
  /-- What comes of it when something is called with a name. -/
  answer : Finding → String → Except Fault Finding := fun asked _ => asked.called
  /-- What the kinds have for their values. -/
  words : KindWords := ownWords
  /-- Why a module that is there cannot be imported. -/
  refusal? : String → Option String := fun _ => none

def Finding.document? : Finding → Option Value
  | .value (.model handle m) => some (.model handle m)
  | .value (.schema handle s) => some (.schema handle s)
  | _ => none

structure Target where
  moduleName : String
  path : String
deriving DecidableEq

/-- Splits at the first colon; neither side may be empty. -/
def Target.parse? (text : String) : Option Target :=
  let before := text.toList.takeWhile (· ≠ ':')
  match before, text.toList.dropWhile (· ≠ ':') with
  | c :: name, _ :: d :: path => some ⟨String.ofList (c :: name), String.ofList (d :: path)⟩
  | _, _ => none

inductive LoadError where
  | malformed (target : String)
  /-- The module or a leading part of its name does not exist; the part before it may be a plain module. -/
  | unknownModule (moduleName missing : String) (parent : Option String)
  /-- The module or what it is part of is there, and has a reason of its own not to be imported. -/
  | refusedModule (moduleName reason : String)
  /-- A name that starts with a dot is relative to nothing. -/
  | relative (moduleName : String)
  /-- The places of the parts of a module are no places. -/
  | unsearchable (typeName : String)
  /-- An attribute on the path cannot be found out, for a reason other than that it is not there. -/
  | unanswered (reason : String)
  | noAttribute (moduleName path : String)
  | notDocument (target typeName : String)
deriving DecidableEq

namespace LoadError

-- Whether the target is wrong; anything else is wrong with what it leads to.
def isOfTarget : LoadError → Bool
  | .relative _ => false
  | .unsearchable _ => false
  | .unanswered _ => false
  | _ => true

def message : LoadError → String
  | .malformed target => "Expected 'module:attribute', got '" ++ target ++ "'"
  | .unknownModule moduleName missing parent =>
    "Cannot import module '" ++ moduleName ++ "': No module named " ++ Text.quoted missing ++
      (match parent with
        | none => ""
        | some parent => "; " ++ Text.quoted parent ++ " is not a package")
  | .refusedModule moduleName reason => "Cannot import module '" ++ moduleName ++ "': " ++ reason
  | .relative moduleName =>
    "the 'package' argument is required to perform a relative import for " ++ Text.quoted moduleName
  | .unsearchable typeName => (Fault.notIterable typeName).message
  | .unanswered reason => reason
  | .noAttribute moduleName path => "'" ++ moduleName ++ "' has no attribute '" ++ path ++ "'"
  | .notDocument target typeName =>
    "'" ++ target ++ "' is a " ++ typeName ++ ", expected a Model or a Schema"

-- What is wrong with a target when an attribute on its path is not found.
def ofFault (target : Target) (fault : Fault) : LoadError :=
  if fault.isMissing then .noAttribute target.moduleName target.path else .unanswered fault.message

end LoadError

namespace Registry

-- Why a part of a module is not there; a module with places for its parts may have had it.
def absent (moduleName name : String) (parent : Option Module) : LoadError :=
  match parent with
  | none => .unknownModule moduleName name none
  | some parent =>
    match parent.attributes.lookup "__path__" with
    | none => .unknownModule moduleName name (some parent.name)
    | some (.value (.scalar .null)) => .unknownModule moduleName name none
    | some places =>
      if places.isIterable then .unknownModule moduleName name none
      else .unsearchable places.qualifiedTypeName

-- The module of a dotted name, found part by part.
def importParts (registry : Registry) (moduleName : String) (parent : Option Module) :
    List String → Except LoadError Module
  | [] => parent.elim (.error (.unknownModule moduleName moduleName none)) .ok
  | part :: rest =>
    let name := parent.elim part fun parent => parent.name ++ "." ++ part
    match registry.modules.lookup name, registry.refusal? name with
    | some attributes, none => registry.importParts moduleName (some ⟨name, attributes⟩) rest
    | some _, some reason => .error (.refusedModule moduleName reason)
    | none, _ => .error (absent moduleName name parent)

def importModule (registry : Registry) (moduleName : String) : Except LoadError Module :=
  if moduleName.toList.head? = some '.' then .error (.relative moduleName)
  else registry.importParts moduleName none (Text.split '.' moduleName)

-- What the attributes of a path lead to, one after the other, the first of them in a module.
def reach (registry : Registry) (module : Module) : List String → Except Fault Finding
  | [] => .error (.noAttribute Module.typeName "")
  | name :: rest => do
    let found ← module.find registry.answer name
    registry.cells.follow registry.depth registry.find rest found

-- The object of a split target, once its module is asked for.
def resolve (registry : Registry) (text : String) (target : Target) : Except LoadError (Value × Event) := do
  let module ← registry.importModule target.moduleName
  match registry.reach module (Text.split '.' target.path) with
  | .error fault => .error (.ofFault target fault)
  | .ok finding =>
    match finding.document? with
    | some document => return (document, .loaded finding.typeName text)
    | none => .error (.notDocument text finding.typeName)

/-- The document or schema that a target names, and what is reported on the way to it. -/
def load (registry : Registry) (text : String) : Reported (Except LoadError Value) :=
  match Target.parse? text with
  | none => { value := .error (.malformed text) }
  | some target =>
    match registry.resolve text target with
    | .ok (value, loaded) =>
      { value := .ok value, events := [.importing target.moduleName, loaded] }
    | .error e => { value := .error e, events := [.importing target.moduleName] }

end Registry
end Schemata
