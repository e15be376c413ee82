import Schemata.Form
import Schemata.Number.Layout
import Schemata.Text.Quoted

set_option autoImplicit false

/-!
The written form that messages use: literals for scalars, brackets for sequences, braces for
mappings, and a class with named fields for records. What is elsewhere is written as dots, in brackets
of its own where it has them. A number with too many digits cannot be written, and neither can anything that
would show it.
-/

namespace Schemata

def Keyword.display (k : Keyword) : String :=
  "<" ++ k.qualified ++ ": " ++ Text.quoted k.text ++ ">"

def Scalar.display : Scalar → String
  | .null => "None"
  | .bool b => if b then "True" else "False"
  | .int n => toString n
  | .float x _ => Layout.standard.render x
  | .text s => Text.quoted s
  | .keyword k => k.display

def commaList (parts : List String) : String := ", ".intercalate parts

-- A fixed sequence of one item keeps a comma after it.
def sequenceText (access : Access) (parts : List String) : String :=
  match access, parts with
  | .editable, parts => "[" ++ commaList parts ++ "]"
  | .fixed, [part] => "(" ++ part ++ ",)"
  | .fixed, parts => "(" ++ commaList parts ++ ")"

def mappingText (access : Access) (parts : List String) : String :=
  let braced := "\x7b" ++ commaList parts ++ "\x7d"
  match access with
  | .editable => braced
  | .fixed => Shape.frozen.typeName ++ "(" ++ braced ++ ")"

def holderText (parts : List String) : String := "namespace(" ++ commaList parts ++ ")"

def dots : String := "..."

-- How an object is written inside itself.
def Shape.recurrence : Shape → String
  | .list => sequenceText .editable [dots]
  | .tuple => "(" ++ dots ++ ")"
  | .table => mappingText .editable [dots]
  | .frozen => mappingText .fixed [dots]
  | .holder => holderText [dots]
  | .record _ => dots

mutual
def Form.display : Form → String
  | .scalar s => s.display
  | .sequence access items => sequenceText access (Form.displayItems items)
  | .mapping access entries => mappingText access (Form.displayEntries entries)
  | .showing _ other => Shape.frozen.typeName ++ "(" ++ other.display ++ ")"
  | .record cls fields => cls.name ++ "(" ++ commaList (Form.displayFields fields) ++ ")"
  | .holder attributes => holderText (Form.displayAttributes attributes)
  | .elsewhere _ shape => shape.recurrence
  | .member typeName => "<" ++ typeName ++ ">"
def Form.displayItems : List Form → List String
  | [] => []
  | item :: rest => item.display :: Form.displayItems rest
def Form.displayEntries : List (Form × Form) → List String
  | [] => []
  | (key, value) :: rest => (key.display ++ ": " ++ value.display) :: Form.displayEntries rest
def Form.displayFields : List (String × Form) → List String
  | [] => []
  | (name, value) :: rest => (name ++ "=" ++ value.display) :: Form.displayFields rest
-- An attribute without a name is not shown.
def Form.displayAttributes : List (String × Form) → List String
  | [] => []
  | (name, value) :: rest =>
    if name = "" then Form.displayAttributes rest
    else (name ++ "=" ++ value.display) :: Form.displayAttributes rest
end

-- How many digits a number can have that is written.
def digitLimit : Nat := 4300

def Scalar.isOverlong : Scalar → Bool
  | .int n => decide (Nat.pow 10 digitLimit ≤ n.natAbs)
  | _ => false

mutual
/-- Whether a number that the written form shows has too many digits. -/
def Form.isOverlong : Form → Bool
  | .scalar s => s.isOverlong
  | .sequence _ items => Form.itemsOverlong items
  | .mapping _ entries => Form.entriesOverlong entries
  | .showing _ other => other.isOverlong
  | .record _ fields => Form.fieldsOverlong fields
  | .holder attributes => Form.attributesOverlong attributes
  | .elsewhere .. => false
  | .member _ => false
def Form.itemsOverlong : List Form → Bool
  | [] => false
  | item :: rest => item.isOverlong || Form.itemsOverlong rest
def Form.entriesOverlong : List (Form × Form) → Bool
  | [] => false
  | (key, value) :: rest => key.isOverlong || value.isOverlong || Form.entriesOverlong rest
def Form.fieldsOverlong : List (String × Form) → Bool
  | [] => false
  | (_, value) :: rest => value.isOverlong || Form.fieldsOverlong rest
-- An attribute without a name is not shown.
def Form.attributesOverlong : List (String × Form) → Bool
  | [] => false
  | (name, value) :: rest =>
    if name = "" then Form.attributesOverlong rest
    else value.isOverlong || Form.attributesOverlong rest
end

/-- What is written of a value that can be written. -/
def Value.display (value : Value) : String := value.form.display

def Value.isOverlong (value : Value) : Bool := value.form.isOverlong

end Schemata
