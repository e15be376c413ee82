import Schemata.Form.Equal

set_option autoImplicit false

/-!
What stands in the way of a comparison. A frozen table that shows something that is no mapping may not
be able to tell its entries, and then it can be compared with no mapping. Parts are compared one after
the other, up to the first two that differ, so an obstacle behind these is not met; and parts that are one
are not compared at all.
-/

namespace Schemata

-- Why a form that is compared with a mapping cannot tell its entries.
def Form.untold? (form : Form) : Option Fault :=
  match form with
  | .showing _ other =>
    match other.shown with
    | .mapping .. => none
    | other =>
      match other.told with
      | .ok _ => none
      | .error fault => some fault
  | _ => none

theorem second_smaller {κ α : Type} [SizeOf κ] [SizeOf α] (pairs : List (κ × α)) (first : κ) (second : α)
    (member : (first, second) ∈ pairs) : sizeOf second < sizeOf pairs := by
  have smaller := List.sizeOf_lt_of_mem member
  simp only [Prod.mk.sizeOf_spec] at smaller
  omega

mutual
/-- The first obstacle to comparing two forms. Here `fits` tells where the comparison of parts ends, and
`beyond` is asked about two forms of which one is elsewhere. -/
def Form.obstacleBy (fits : Form → Form → Bool) (beyond : Form → Form → Option Fault) :
    Form → Form → Option Fault
  | .elsewhere handle shape, other => beyond (.elsewhere handle shape) other
  | form, .elsewhere handle shape => beyond form (.elsewhere handle shape)
  | .sequence .editable items, .sequence .editable others =>
    if items.length = others.length then Form.obstacleOfItems fits beyond items others else none
  | .sequence .fixed items, .sequence .fixed others => Form.obstacleOfItems fits beyond items others
  | .mapping access entries, .mapping other others =>
    if entries.length ≠ others.length then none
    else if access = .editable ∧ other = .fixed then Form.obstacleOfEntries fits beyond others entries
    else Form.obstacleOfEntries fits beyond entries others
  | .showing handle form, .mapping access others =>
    if form.isMapping then form.obstacleBy fits beyond (.mapping access others)
    else (Form.showing handle form).untold?
  | .mapping access entries, .showing handle form =>
    if form.isMapping then Form.obstacleBy fits beyond (.mapping access entries) form
    else (Form.showing handle form).untold?
  | .showing handle form, .showing other another =>
    if form.isMapping then form.obstacleBy fits beyond (.showing other another)
    else (Form.showing handle form).untold?.or (Form.showing other another).untold?
  | .record cls fields, .record other others =>
    if cls = other then Form.obstacleOfFields fits beyond fields others else none
  | .holder attributes, .holder others =>
    if attributes.length = others.length then Form.obstacleOfAttributes fits beyond attributes others else none
  | _, _ => none
termination_by form other => sizeOf form + sizeOf other
decreasing_by
  all_goals simp only [Form.sequence.sizeOf_spec, Form.mapping.sizeOf_spec, Form.showing.sizeOf_spec,
    Form.record.sizeOf_spec, Form.holder.sizeOf_spec]
  all_goals omega
def Form.obstacleOfItems (fits : Form → Form → Bool) (beyond : Form → Form → Option Fault) :
    List Form → List Form → Option Fault
  | a :: as, b :: bs =>
    (if a.isOne b then none else a.obstacleBy fits beyond b).or
      (if fits a b then Form.obstacleOfItems fits beyond as bs else none)
  | _, _ => none
termination_by items others => sizeOf items + sizeOf others
decreasing_by
  all_goals simp only [List.cons.sizeOf_spec]
  all_goals omega
-- An entry is compared with the one under the same key.
def Form.obstacleOfEntries (fits : Form → Form → Bool) (beyond : Form → Form → Option Fault) :
    List (Form × Form) → List (Form × Form) → Option Fault
  | [], _ => none
  | (key, a) :: rest, others =>
    match found : others.find? fun other => fits key other.1 with
    | some (k, b) =>
      have := second_smaller others k b (List.mem_of_find?_eq_some found)
      (if a.isOne b then none else a.obstacleBy fits beyond b).or
        (if fits a b then Form.obstacleOfEntries fits beyond rest others else none)
    | none => none
termination_by entries others => sizeOf entries + sizeOf others
decreasing_by
  all_goals simp only [List.cons.sizeOf_spec, Prod.mk.sizeOf_spec]
  all_goals omega
-- An attribute is compared with the one of the same name.
def Form.obstacleOfAttributes (fits : Form → Form → Bool) (beyond : Form → Form → Option Fault) :
    List (String × Form) → List (String × Form) → Option Fault
  | [], _ => none
  | (name, a) :: rest, others =>
    match found : others.find? fun other => name == other.1 with
    | some (k, b) =>
      have := second_smaller others k b (List.mem_of_find?_eq_some found)
      (if a.isOne b then none else a.obstacleBy fits beyond b).or
        (if fits a b then Form.obstacleOfAttributes fits beyond rest others else none)
    | none => none
termination_by attributes others => sizeOf attributes + sizeOf others
decreasing_by
  all_goals simp only [List.cons.sizeOf_spec, Prod.mk.sizeOf_spec]
  all_goals omega
def Form.obstacleOfFields (fits : Form → Form → Bool) (beyond : Form → Form → Option Fault) :
    List (String × Form) → List (String × Form) → Option Fault
  | (_, a) :: as, (_, b) :: bs =>
    (if a.isOne b then none else a.obstacleBy fits beyond b).or
      (if fits a b then Form.obstacleOfFields fits beyond as bs else none)
  | _, _ => none
termination_by fields others => sizeOf fields + sizeOf others
decreasing_by
  all_goals simp only [List.cons.sizeOf_spec, Prod.mk.sizeOf_spec]
  all_goals omega
end

/-- The first obstacle to comparing two forms by all that is known of them. -/
def Form.obstacle? (a b : Form) : Option Fault := a.obstacleBy Form.fits (fun _ _ => none) b

namespace Value

/-- Whether two values are equal, if nothing stands in the way of the comparison. -/
def equals (a b : Value) : Except Fault Bool :=
  match a.form.obstacle? b.form with
  | some fault => .error fault
  | none => .ok (a.same b)

/-- Whether two values are one or equal, as parts are compared. -/
def equalsPart (a b : Value) : Except Fault Bool := if a.form.isOne b.form then .ok true else a.equals b

end Value

end Schemata
