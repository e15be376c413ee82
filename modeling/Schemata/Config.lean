import Schemata.Read

set_option autoImplicit false

/-!
Configuration of the builders: the order of keys and the treatment of required names that have no
property. A configuration is read from the entries of a table, where unknown keys are ignored and
the first invalid value is reported.
-/

namespace Schemata

structure Config where
  keyOrder : KeyOrder := .sorted
  missingRequired : MissingRequired := .ignore
deriving DecidableEq

/-- Why a table does not describe a configuration. -/
inductive ConfigError where
  /-- A value is none of the choices for its key. -/
  | notAmong (key : String) (value : Value) (choices : List String)
  /-- A value cannot be looked up among the choices, or not be written. -/
  | ofValue (fault : Fault)

def ConfigError.message : ConfigError → String
  | .notAmong key value choices =>
    "Invalid value " ++ value.display ++ " for '" ++ key ++ "', expected one of "
      ++ commaList (choices.map Text.quoted)
  | .ofValue fault => fault.message

namespace Config

def keyOrderKey : String := "key_order"

def missingRequiredKey : String := "missing_required"

-- A value that can be looked up is none of the choices, and its written form is part of the message.
def refuse (key : String) (value : Value) (choices : List String) : ConfigError :=
  match value.refuseLookup? with
  | some fault => .ofValue fault
  | none =>
    match value.written with
    | .error fault => .ofValue fault
    | .ok _ => .notAmong key value choices

def chooseKeyOrder (value : Value) : Except ConfigError KeyOrder :=
  match value.text?.bind KeyOrder.ofText? with
  | some order => .ok order
  | none => .error (refuse keyOrderKey value (KeyOrder.all.map KeyOrder.text))

def chooseMissingRequired (value : Value) : Except ConfigError MissingRequired :=
  match value.text?.bind MissingRequired.ofText? with
  | some policy => .ok policy
  | none => .error (refuse missingRequiredKey value (MissingRequired.all.map MissingRequired.text))

def accept (config : Config) (entry : String × Value) : Except ConfigError Config :=
  if entry.1 = keyOrderKey then do
    let order ← chooseKeyOrder entry.2
    return { config with keyOrder := order }
  else if entry.1 = missingRequiredKey then do
    let policy ← chooseMissingRequired entry.2
    return { config with missingRequired := policy }
  else return config

def ofEntries (entries : List (String × Value)) : Except ConfigError Config :=
  entries.foldlM accept {}

/-- The same of a table with keys of any sort, of which only texts count. -/
def ofTable (entries : List (Value × Value)) : Except ConfigError Config :=
  ofEntries (entries.filterMap fun entry => entry.1.text?.map fun name => (name, entry.2))

def toEntries (config : Config) : List (String × Value) :=
  [(keyOrderKey, .text config.keyOrder.text), (missingRequiredKey, .text config.missingRequired.text)]

/-- Settings with the words of a configuration, held by nobody. -/
def toSettings (config : Config) : Value :=
  .settings none
    [(keyOrderKey, .keyword (.keyOrder config.keyOrder)),
     (missingRequiredKey, .keyword (.missingRequired config.missingRequired))]

-- Anything but the sorted order keeps the given order.
def orderOf (keyOrder : Value) : KeyOrder :=
  if keyOrder.same (.text KeyOrder.sorted.text) then .sorted else .insertion

-- Anything but a warning is silent.
def policyOf (missingRequired : Value) : MissingRequired :=
  if missingRequired.same (.text MissingRequired.warn.text) then .warn else .ignore

/-- What a value means to the builders, if it is settings; nothing and its like mean the defaults. -/
def ofValue? (value : Value) : Option Config :=
  match value with
  | .settings _ attributes =>
    let field (name : String) : Value := ((Value.settingsFields attributes).lookup name).getD .null
    some { keyOrder := orderOf (field keyOrderKey), missingRequired := policyOf (field missingRequiredKey) }
  | value => if value.isTrue then none else some {}

def order {α : Type} (config : Config) (entries : List (String × α)) : List (String × α) :=
  match config.keyOrder with
  | .sorted => entries.mergeSort fun a b => decide (a.1 ≤ b.1)
  | .insertion => entries

end Config
end Schemata
