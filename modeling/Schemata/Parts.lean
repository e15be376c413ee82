import Schemata.Record

set_option autoImplicit false

/-!
The direct parts of a value: items, what is under keys and names, and the fields of a record. A
function can be applied to all of them in place, with the knowledge that a part is smaller than the
value that it is part of. Examples and definitions are applied to one by one. Keys stay as they are.
-/

namespace Schemata

-- A function on what is smaller than a value.
abbrev OnSmaller (m : Type → Type) (whole : Value) :=
  (part : Value) → (small : sizeOf part < sizeOf whole := by (conv => rhs; simp); omega) → m Value

section Mapping

variable {m : Type → Type} [Monad m] {whole : Value}

def mapItems (visit : OnSmaller m whole) (items : List Value)
    (small : sizeOf items < sizeOf whole := by (conv => rhs; simp); omega) : m (List Value) :=
  match items with
  | [] => pure []
  | item :: rest => do
    let first ← visit item (Nat.lt_trans (by (conv => rhs; simp); omega) small)
    let others ← mapItems @visit rest (Nat.lt_trans (by (conv => rhs; simp); omega) small)
    return first :: others

def mapEntries {κ : Type} [SizeOf κ] (visit : OnSmaller m whole) (entries : List (κ × Value))
    (small : sizeOf entries < sizeOf whole := by (conv => rhs; simp); omega) : m (List (κ × Value)) :=
  match entries with
  | [] => pure []
  | (key, value) :: rest => do
    let first ← visit value (Nat.lt_trans (by (conv => rhs; simp); omega) small)
    let others ← mapEntries @visit rest (Nat.lt_trans (by (conv => rhs; simp); omega) small)
    return (key, first) :: others

def mapLabels (visit : OnSmaller m whole) (labels : Labels)
    (small : sizeOf labels < sizeOf whole := by (conv => rhs; simp); omega) : m Labels :=
  match labels with
  | ⟨title, description, examples⟩ => do
    return ⟨← visit title (Nat.lt_trans (by (conv => rhs; simp); omega) small),
      ← visit description (Nat.lt_trans (by (conv => rhs; simp); omega) small),
      ← mapItems @visit examples (Nat.lt_trans (by (conv => rhs; simp); omega) small)⟩

def mapBounds (visit : OnSmaller m whole) (bounds : Bounds)
    (small : sizeOf bounds < sizeOf whole := by (conv => rhs; simp); omega) : m Bounds :=
  match bounds with
  | ⟨low, high, below, above, factor⟩ => do
    return ⟨← visit low (Nat.lt_trans (by (conv => rhs; simp); omega) small),
      ← visit high (Nat.lt_trans (by (conv => rhs; simp); omega) small),
      ← visit below (Nat.lt_trans (by (conv => rhs; simp); omega) small),
      ← visit above (Nat.lt_trans (by (conv => rhs; simp); omega) small),
      ← visit factor (Nat.lt_trans (by (conv => rhs; simp); omega) small)⟩

def Value.mapParts (value : Value) (visit : OnSmaller m value) : m Value :=
  match value with
  | .scalar s => pure (.scalar s)
  | .list handle items => do return .list handle (← mapItems @visit items)
  | .tuple handle items => do return .tuple handle (← mapItems @visit items)
  | .table handle entries => do return .table handle (← mapEntries @visit entries)
  | .frozen handle entries => do return .frozen handle (← mapEntries @visit entries)
  | .showing handle other => do return .showing handle (← visit other)
  | .settings handle attributes => do return .settings handle (← mapEntries @visit attributes)
  | .holder handle attributes => do return .holder handle (← mapEntries @visit attributes)
  | .schema handle (.object labels properties low high) => do
    return .schema handle (.object (← mapLabels @visit labels) (← visit properties) (← visit low)
      (← visit high))
  | .schema handle (.array labels items low high) => do
    return .schema handle (.array (← mapLabels @visit labels) (← visit items) (← visit low)
      (← visit high))
  | .schema handle (.string labels enum low high pattern format) => do
    return .schema handle (.string (← mapLabels @visit labels) (← visit enum) (← visit low)
      (← visit high) (← visit pattern) (← visit format))
  | .schema handle (.integer labels enum bounds) => do
    return .schema handle (.integer (← mapLabels @visit labels) (← visit enum) (← mapBounds @visit bounds))
  | .schema handle (.number labels enum bounds) => do
    return .schema handle (.number (← mapLabels @visit labels) (← visit enum) (← mapBounds @visit bounds))
  | .schema handle (.boolean labels enum) => do
    return .schema handle (.boolean (← mapLabels @visit labels) (← visit enum))
  | .schema handle (.null labels) => do return .schema handle (.null (← mapLabels @visit labels))
  | .schema handle (.ref labels token) => do
    return .schema handle (.ref (← mapLabels @visit labels) (← visit token))
  | .schema handle (.combined mode inner) => do return .schema handle (.combined mode (← visit inner))
  | .schema handle (.fallback inner) => do return .schema handle (.fallback (← visit inner))
  | .combinator handle ⟨labels, alternatives⟩ => do
    return .combinator handle ⟨← mapLabels @visit labels, ← visit alternatives⟩
  | .property handle ⟨required, name, child⟩ => do
    return .property handle ⟨required, ← visit name, ← visit child⟩
  | .customFormat handle name => do return .customFormat handle (← visit name)
  | .model handle ⟨definitions, root⟩ => do
    return .model handle ⟨← mapEntries @visit definitions, ← visit root⟩
  | .elsewhere handle shape => pure (.elsewhere handle shape)
  | .member typeName => pure (.member typeName)

end Mapping

end Schemata
