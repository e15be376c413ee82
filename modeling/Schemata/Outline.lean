import Schemata.Text.Line
import Schemata.Tour

set_option autoImplicit false

/-!
The outline of a document: one row for each node, indented by depth, with a label and a summary.
A property is labelled by its name and marked when it is required; any other child by its segment.
Titles, names and references are escaped, so a row is one line.
-/

namespace Schemata

structure Row where
  depth : Nat
  label : String
  summary : String

namespace Row

def indentation (depth : Nat) : String := String.ofList (List.replicate (2 * depth) ' ')

def render (row : Row) : String :=
  indentation row.depth ++ row.label ++ ": " ++ row.summary ++ "\n"

end Row

def requiredMark : String := " (required)"

def propertyLabel (required : Bool) (name : String) : String :=
  Text.lineText name ++ (if required then requiredMark else "")

-- The text of what is escaped for a line.
def Value.lineSource (value : Value) : Except Fault String := value.textFor "translate"

-- A value with a text added to it, if there is one. A list would grow where it is held, and that is not shown.
def Value.adding (value : Value) (addition : String) : Except Fault Value :=
  if addition = "" then .ok value
  else
    match value.text?, value with
    | some text, _ => .ok (.text (text ++ addition))
    | none, .list .. => .error .unseen
    | none, value => .error (.notAdded value.typeName)

namespace Schema

-- The title of a node in double quotes, if there is one.
def titlePart (s : Schema) : Except Fault String := do
  match ← s.title with
  | .scalar .null => return ""
  | title => return " \"" ++ Text.titleText (← title.lineSource) ++ "\""

def tokenPart : Schema → Except Fault String
  | .ref _ token => token.lineSource.map fun text => " -> " ++ Text.lineText text
  | _ => .ok ""

/-- Kind, title and token. The value of the kind is what the others are added to, and the whole is printed. -/
def summary (s : Schema) (words : KindWords := ownWords) : Except Fault String := do
  let titled ← (words s.kind).adding (← s.titlePart)
  let whole ← titled.adding (← s.tokenPart)
  whole.printed

end Schema

structure Place where
  depth : Nat
  label : String

-- The place of what a property leads to.
def labelledChild (depth : Nat) (property : Value) : Except Fault (Placed Place) := do
  let schema ← property.attribute "schema"
  let name ← property.attribute "name"
  let text ← name.lineSource
  let required ← (← property.attribute "is_required").truth
  return ⟨⟨depth, propertyLabel required text⟩, schema⟩

/-- The places of a node's children, one level deeper. -/
def Schema.outlineChildren (place : Place) (s : Schema) (words : KindWords := ownWords) :
    Except Fault (List (Placed Place)) :=
  match s with
  | .object _ properties _ _ => do (← properties.items).mapM (labelledChild (place.depth + 1))
  | s => (s.children words).map fun children =>
    children.map fun child => ⟨⟨place.depth + 1, child.1.segment words⟩, child.2⟩

theorem labelled_child_below (depth : Nat) (property : Value) (child : Placed Place)
    (found : labelledChild depth property = .ok child) : Below child.value property := by
  unfold labelledChild at found
  cases led : property.attribute "schema" with
  | error fault => simp [led, bind, Except.bind] at found
  | ok schema =>
      have below := property_schema_below property schema led
      cases named : property.attribute "name" with
      | error fault => simp [led, named, bind, Except.bind] at found
      | ok name =>
          cases spelled : name.lineSource with
          | error fault => simp [led, named, spelled, bind, Except.bind] at found
          | ok text =>
              cases marked : property.attribute "is_required" with
              | error fault => simp [led, named, spelled, marked, bind, Except.bind] at found
              | ok mark =>
                  cases counted : mark.truth with
                  | error fault => simp [led, named, spelled, marked, counted, bind, Except.bind] at found
                  | ok required =>
                      simp only [led, named, spelled, marked, counted, bind, Except.bind, pure, Except.pure,
                        Except.ok.injEq] at found
                      subst found
                      exact below

theorem outline_children_burden (words : KindWords) (place : Place) (s : Schema) (found : List (Placed Place))
    (below : s.outlineChildren place words = .ok found) : workload found < sizeOf s := by
  unfold Schema.outlineChildren at below
  split at below
  · rename_i labels properties low high
    cases listed : properties.items with
    | error fault => simp [listed, bind, Except.bind] at below
    | ok items =>
        have smaller := items_smaller properties items listed
        have bound := reached_burden _ Placed.value (labelled_child_below _) items found
          (by simpa [listed, bind, Except.bind] using below)
        simp only [workload, Schema.object.sizeOf_spec]
        omega
  · cases read : s.children words with
    | error fault => simp [read, Except.map] at below
    | ok children =>
        have smaller := children_burden s words children read
        obtain rfl : children.map _ = found := by simpa [read, Except.map] using below
        simpa [workload, Function.comp_def] using smaller

def Tour.byOutline (words : KindWords := ownWords) : Tour Place Row :=
  { row := fun place s => (s.summary words).map fun summary => ⟨place.depth, place.label, summary⟩,
    below := fun place s => s.outlineChildren place words,
    shrinks := outline_children_burden words }

-- Rows collected so far.
abbrev Rows := Array Row

-- Appends the rows of a block, a value and everything below it.
def Value.outlineOnto (label : String) (rows : Rows) (value : Value) (words : KindWords := ownWords) :
    Except Fault Rows :=
  (Tour.byOutline words).visit [⟨⟨0, label⟩, value⟩] rows

def rootLabel : String := "root"

def definitionLabel (name : Value) : Except Fault String :=
  name.lineSource.map fun text => "definitions/" ++ Text.lineText text

-- The block of a definition, behind the rows so far.
def definitionRows (words : KindWords) (rows : Rows) (definition : Value × Value) : Except Fault Rows := do
  let label ← definitionLabel definition.1
  definition.2.outlineOnto label rows words

def Model.rows (m : Model) (words : KindWords := ownWords) : Except Fault Rows := do
  let rows ← m.root.outlineOnto rootLabel #[] words
  m.definitions.foldlM (definitionRows words) rows

def Value.rows (value : Value) (words : KindWords := ownWords) : Except Fault Rows :=
  match value with
  | .model _ m => m.rows words
  | value => value.outlineOnto rootLabel #[] words

def renderRows (rows : Rows) : String := String.join (rows.toList.map Row.render)

def Value.outline (value : Value) (words : KindWords := ownWords) : Except Fault String :=
  (value.rows words).map renderRows

end Schemata
