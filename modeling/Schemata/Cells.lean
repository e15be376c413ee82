import Schemata.Form.Obstacle
import Schemata.Parts

set_option autoImplicit false

/-!
Cells of held objects. An object that can change has a cell for its contents, and so has every object
that leads to one; wherever it is part of a value only its handle is mentioned. So one change shows
everywhere, and an object may be part of itself. What can never change is kept in place.

A view puts contents back. An object that is inside itself is entered a limited number of times on
the way down and then only mentioned, so a view is finite.
-/

namespace Schemata

inductive Cell where
  /-- Its contents, in which held objects are mentioned. -/
  | contents (value : Value)
  /-- It shows another value, mostly the entries of a table that is held by itself. -/
  | backed (shape : Shape) (other : Value)

abbrev Cells := Array Cell

namespace Value

def withHandle (handle : Nat) : Value → Value
  | .list _ items => .list (some handle) items
  | .tuple _ items => .tuple (some handle) items
  | .table _ entries => .table (some handle) entries
  | .frozen _ entries => .frozen (some handle) entries
  | .settings _ attributes => .settings (some handle) attributes
  | .holder _ attributes => .holder (some handle) attributes
  | .schema _ s => .schema (some handle) s
  | .combinator _ c => .combinator (some handle) c
  | .property _ p => .property (some handle) p
  | .customFormat _ name => .customFormat (some handle) name
  | .model _ m => .model (some handle) m
  | value => value

def isElsewhere : Value → Bool
  | .elsewhere .. => true
  | _ => false

-- Whether a part is in a cell, or holds parts that are, as examples and definitions do.
def leadsElsewhere : Value → Bool
  | .elsewhere .. => true
  | .tuple _ items => items.any isElsewhere
  | .frozen _ entries => entries.any fun entry => entry.2.isElsewhere
  | .showing _ other => other.isElsewhere
  | _ => false

-- The objects that are mentioned in a value, besides those that are known already.
def mentioned (value : Value) : StateM (List Nat) Value := do
  if let .elsewhere handle _ := value then
    modify fun found => if found.contains handle then found else handle :: found
  value.mapParts fun part _ => part.mentioned
termination_by sizeOf value

/-- Gives cells to the objects of a value that need them and have none, and mentions all of them. -/
def hold (value : Value) : StateM Cells Value :=
  match value.shape?, value.handle? with
  | none, _ => return value
  | some shape, some handle => return .elsewhere handle shape
  | some shape, none => do
    let kept ← value.mapParts fun part _ => part.hold
    if shape.canChange || kept.parts.any leadsElsewhere then
      modifyGet fun cells =>
        (.elsewhere cells.size shape, cells.push (.contents (kept.withHandle cells.size)))
    else return kept
termination_by sizeOf value

end Value

/-- The object that shows the entries of a table. -/
def Shape.over? (shape : Shape) (handle : Nat) (entries : List (Value × Value)) : Option Value :=
  match shape with
  | .frozen => some (.frozen (some handle) entries)
  | .record .settings =>
    some (.settings (some handle) (entries.filterMap fun entry => entry.1.text?.map fun name => (name, entry.2)))
  | _ => none

namespace Cells

def at? (cells : Cells) (handle : Nat) : Option Value :=
  match cells[handle]? with
  | some (.contents value) => some value
  | some (.backed shape (.elsewhere table inner)) =>
    match cells[table]? with
    | some (.contents (.table _ entries)) => shape.over? handle entries
    | _ => some (.showing handle (.elsewhere table inner))
  | some (.backed _ value) => some (.showing handle value)
  | none => none

-- What an object is entered by, if by anything: a frozen table shows nothing but the table behind it,
-- and where it shows something else it is no place of its own.
def entrance? (cells : Cells) (handle : Nat) : Option Nat :=
  match cells[handle]? with
  | some (.backed .frozen (.elsewhere table .table)) => some table
  | some (.backed .frozen _) => none
  | _ => some handle

/-- A value with the contents of its objects in place. Every object on the way down uses one unit of
fuel, and none is entered more than `limit` times. -/
def unfold (cells : Cells) (limit : Nat) : Nat → List Nat → Value → Value
  | fuel + 1, above, .elsewhere handle shape =>
    let entrance? := cells.entrance? handle
    if entrance?.any fun entrance => limit ≤ above.count entrance then .elsewhere handle shape
    else
      match cells.at? handle with
      | some cell =>
        let above := entrance?.toList ++ above
        Id.run (cell.mapParts fun part _ => pure (unfold cells limit fuel above part))
      | none => .elsewhere handle shape
  | _, _, value => value

/-- What is seen of a held value. A way down holds every handle at most `limit` times, and no more
objects between two of these than there are, so that there is fuel enough for all of it. -/
def view (cells : Cells) (limit : Nat) (value : Value) : Value :=
  cells.unfold limit ((limit * cells.size + 1) * (cells.size + 1)) [] value

/-- A value as it is seen beginning with itself, also where it was cut out of another view. -/
def renew (cells : Cells) (limit : Nat) (value : Value) : Value :=
  let (held, cells) := value.hold.run cells
  cells.view limit held

-- What a mentioned object is, and what it shows if it shows something else; each round of fuel goes one
-- step on.
def exposed (cells : Cells) : Nat → Form → Form
  | fuel + 1, .elsewhere handle shape =>
    match (cells.at? handle).map Value.form with
    | some (.showing handle other) => .showing handle (cells.exposed fuel other)
    | some form => form
    | none => .elsewhere handle shape
  | _, form => form

def contents (cells : Cells) (form : Form) : Form := cells.exposed (cells.size + 1) form

-- What an object shows in the end; each round of fuel goes one step on.
def shown? (cells : Cells) : Nat → Nat → Option Value
  | 0, handle => cells.at? handle
  | fuel + 1, handle =>
    match cells.at? handle with
    | some (.showing _ (.elsewhere inner _)) => cells.shown? fuel inner
    | found => found

/-- The objects that some objects lead to, themselves included; each round of fuel goes one step on. -/
def reached (cells : Cells) : Nat → List Nat → List Nat
  | 0, found => found
  | fuel + 1, found =>
    let seen := found.filterMap (cells.shown? cells.size)
    let next := seen.foldl (fun found value => (value.mentioned.run found).2) found
    if next.length = found.length then next else cells.reached fuel next

/-- Two forms are one, or equal with the contents of their cells. -/
def fitForms (cells : Cells) : Nat → Form → Form → Bool
  | 0, a, b => a.isOne b
  | fuel + 1, a, b => a.isOne b || (cells.contents a).sameBy (cells.fitForms fuel) (cells.contents b)

-- What stands in the way of comparing two forms with the contents of their cells, if they are not one.
def obstacleOfForms (cells : Cells) : Nat → Form → Form → Option Fault
  | 0, _, _ => none
  | fuel + 1, a, b =>
    if a.isOne b then none
    else
      (cells.contents a).obstacleBy (cells.fitForms fuel) (cells.obstacleOfForms fuel) (cells.contents b)

-- Whether an object may not be able to tell its entries.
def mayRefuse (cells : Cells) : Bool :=
  cells.any fun cell =>
    match cell with
    | .backed .frozen (.elsewhere _ .table) => false
    | .backed .frozen _ => true
    | _ => false

/-- Whether two values are equal, whatever is inside itself in them, if nothing stands in the way of the
comparison. No more pairs of objects can be compared inside each other than there are. -/
def equals (cells : Cells) (a b : Value) : Except Fault Bool :=
  let (a, cells) := a.hold.run cells
  let (b, cells) := b.hold.run cells
  let fuel := (cells.size + 1) * (cells.size + 1)
  let obstacle? :=
    if cells.mayRefuse then
      (cells.contents a.form).obstacleBy (cells.fitForms fuel) (cells.obstacleOfForms fuel) (cells.contents b.form)
    else none
  match obstacle? with
  | some fault => .error fault
  | none => .ok ((cells.contents a.form).sameBy (cells.fitForms fuel) (cells.contents b.form))

end Cells
end Schemata
