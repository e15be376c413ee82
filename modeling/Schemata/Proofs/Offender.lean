import Schemata.Proofs.Assembly
import Schemata.Proofs.Written

set_option autoImplicit false

/-!
Offenders. A child position can hold a value that is none of the variants, and what goes through a tree stops
there. A walk and an outline stop at the same one: the first in pre-order, which their fault names. Where that one
cannot be written, because it shows a number with too many digits, both have this for their fault instead.
-/

namespace Schemata

-- What a shaped node has in its child positions.
def Schema.held (s : Schema) : List Value := s.offspring.map Prod.snd

-- What stands at an address, whether it is a node or not.
def Value.at? : Value → Address → Option Value
  | value, [] => some value
  | .schema _ s, index :: rest => s.held[index]?.bind fun child => child.at? rest
  | _, _ :: _ => none

-- Only nodes are reached.
def Value.Whole (value : Value) : Prop := ∀ address found, value.at? address = some found → found.IsNode

-- A tour that has a row for each declared node, and then goes to what is in its child positions.
def Tour.Follows {α β : Type} (tour : Tour α β) : Prop :=
  ∀ place s, s.Worded → s.Shaped → ∃ row found, tour.row place s = .ok row ∧ tour.below place s = .ok found ∧
    found.map Placed.value = s.held

end Schemata
