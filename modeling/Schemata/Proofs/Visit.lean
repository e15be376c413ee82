import Schemata.Cells
import Schemata.Proofs.Pieces

set_option autoImplicit false

/-!
Visits of the parts of a value. A judgement says of a computation what holds of its result, and is got step by
step; what is judged of the visit of every piece is judged of the visit of all parts. So a visit without a
state replaces every piece by its image, and one with a growing state keeps what it has established.
-/

namespace Schemata

-- What is known of the result of a computation, where one step may build on what is known of those before.
structure Judgement (m : Type → Type) [Monad m] where
  holds : {α : Type} → m α → (α → Prop) → Prop
  pure {α : Type} (a : α) (known : α → Prop) (here : known a) : holds (Pure.pure a) known
  bind {α β : Type} (first : m α) (next : α → m β) (known : α → Prop) (wanted : β → Prop) (here : holds first known)
    (later : ∀ a, holds (next a) fun b => known a → wanted b) : holds (first >>= next) wanted

section Judged

variable {m : Type → Type} [Monad m] (judged : Judgement m) (related : Value → Value → Prop) {whole : Value}
  (visit : OnSmaller m whole)

theorem judged_items (items : List Value) (small : sizeOf items < sizeOf whole)
    (each : ∀ item ∈ items, ∀ small, judged.holds (visit item small) (related item)) :
    judged.holds (mapItems @visit items small) (List.Forall₂ related items) := by
  induction items with
  | nil => exact judged.pure _ _ .nil
  | cons item rest hypothesis =>
      refine judged.bind _ _ _ _ (each item List.mem_cons_self _) fun first => ?_
      refine judged.bind _ _ _ _ (hypothesis _ fun other member => each other (List.mem_cons_of_mem item member))
        fun others => ?_
      exact judged.pure _ _ fun later here => .cons here later

theorem judged_entries {κ : Type} [SizeOf κ] (entries : List (κ × Value)) (small : sizeOf entries < sizeOf whole)
    (each : ∀ part ∈ entries.map Prod.snd, ∀ small, judged.holds (visit part small) (related part)) :
    judged.holds (mapEntries @visit entries small) (EntriesAlong related entries) := by
  induction entries with
  | nil => exact judged.pure _ _ .nil
  | cons entry rest hypothesis =>
      obtain ⟨key, value⟩ := entry
      refine judged.bind _ _ _ _ (each value List.mem_cons_self _) fun first => ?_
      refine judged.bind _ _ _ _ (hypothesis _ fun other member => each other (List.mem_cons_of_mem value member))
        fun others => ?_
      exact judged.pure _ _ fun later here => .cons ⟨rfl, here⟩ later

theorem judged_labels (labels : Labels) (small : sizeOf labels < sizeOf whole)
    (each : ∀ part ∈ labels.pieces, ∀ small, judged.holds (visit part small) (related part)) :
    judged.holds (mapLabels @visit labels small) (Labels.Along related labels) := by
  obtain ⟨title, description, examples⟩ := labels
  refine judged.bind _ _ _ _ (each title (by simp [Labels.pieces]) _) fun first => ?_
  refine judged.bind _ _ _ _ (each description (by simp [Labels.pieces]) _) fun second => ?_
  refine judged.bind _ _ _ _ (judged_items judged related @visit examples _ fun item member =>
    each item (by simp [Labels.pieces, member])) fun third => ?_
  exact judged.pure _ _ fun examples description title => ⟨title, description, examples⟩

theorem judged_bounds (bounds : Bounds) (small : sizeOf bounds < sizeOf whole)
    (each : ∀ part ∈ bounds.pieces, ∀ small, judged.holds (visit part small) (related part)) :
    judged.holds (mapBounds @visit bounds small) (Bounds.Along related bounds) := by
  obtain ⟨low, high, below, above, factor⟩ := bounds
  refine judged.bind _ _ _ _ (each low (by simp [Bounds.pieces]) _) fun first => ?_
  refine judged.bind _ _ _ _ (each high (by simp [Bounds.pieces]) _) fun second => ?_
  refine judged.bind _ _ _ _ (each below (by simp [Bounds.pieces]) _) fun third => ?_
  refine judged.bind _ _ _ _ (each above (by simp [Bounds.pieces]) _) fun fourth => ?_
  refine judged.bind _ _ _ _ (each factor (by simp [Bounds.pieces]) _) fun fifth => ?_
  exact judged.pure _ _ fun factor above below high low => ⟨low, high, below, above, factor⟩

end Judged

theorem judged_schema {m : Type → Type} [Monad m] (judged : Judgement m) (related : Value → Value → Prop)
    (handle : Handle) (s : Schema) (visit : OnSmaller m (.schema handle s))
    (each : ∀ part ∈ s.pieces, ∀ small, judged.holds (visit part small) (related part)) :
    judged.holds ((Value.schema handle s).mapParts @visit) ((Value.schema handle s).Along related) := by
  have labelled (labels : Labels) (inside : ∀ part ∈ labels.pieces, part ∈ s.pieces) (small) :
      judged.holds (mapLabels @visit labels small) (Labels.Along related labels) :=
    judged_labels judged related @visit labels small fun part member => each part (inside part member)
  have bounded (bounds : Bounds) (inside : ∀ part ∈ bounds.pieces, part ∈ s.pieces) (small) :
      judged.holds (mapBounds @visit bounds small) (Bounds.Along related bounds) :=
    judged_bounds judged related @visit bounds small fun part member => each part (inside part member)
  cases s with
  | object labels properties low high =>
      refine judged.bind _ _ _ _ (labelled labels (by simp +contextual [Schema.pieces]) _) fun shared => ?_
      refine judged.bind _ _ _ _ (each properties (by simp [Schema.pieces]) _) fun first => ?_
      refine judged.bind _ _ _ _ (each low (by simp [Schema.pieces]) _) fun second => ?_
      refine judged.bind _ _ _ _ (each high (by simp [Schema.pieces]) _) fun third => ?_
      exact judged.pure _ _ fun high low properties labels => .schema (.object labels properties low high)
  | array labels items low high =>
      refine judged.bind _ _ _ _ (labelled labels (by simp +contextual [Schema.pieces]) _) fun shared => ?_
      refine judged.bind _ _ _ _ (each items (by simp [Schema.pieces]) _) fun first => ?_
      refine judged.bind _ _ _ _ (each low (by simp [Schema.pieces]) _) fun second => ?_
      refine judged.bind _ _ _ _ (each high (by simp [Schema.pieces]) _) fun third => ?_
      exact judged.pure _ _ fun high low items labels => .schema (.array labels items low high)
  | string labels enum low high pattern format =>
      refine judged.bind _ _ _ _ (labelled labels (by simp +contextual [Schema.pieces]) _) fun shared => ?_
      refine judged.bind _ _ _ _ (each enum (by simp [Schema.pieces]) _) fun first => ?_
      refine judged.bind _ _ _ _ (each low (by simp [Schema.pieces]) _) fun second => ?_
      refine judged.bind _ _ _ _ (each high (by simp [Schema.pieces]) _) fun third => ?_
      refine judged.bind _ _ _ _ (each pattern (by simp [Schema.pieces]) _) fun fourth => ?_
      refine judged.bind _ _ _ _ (each format (by simp [Schema.pieces]) _) fun fifth => ?_
      exact judged.pure _ _ fun format pattern high low enum labels =>
        .schema (.string labels enum low high pattern format)
  | integer labels enum bounds =>
      refine judged.bind _ _ _ _ (labelled labels (by simp +contextual [Schema.pieces]) _) fun shared => ?_
      refine judged.bind _ _ _ _ (each enum (by simp [Schema.pieces]) _) fun first => ?_
      refine judged.bind _ _ _ _ (bounded bounds (by simp +contextual [Schema.pieces]) _) fun second => ?_
      exact judged.pure _ _ fun bounds enum labels => .schema (.integer labels enum bounds)
  | number labels enum bounds =>
      refine judged.bind _ _ _ _ (labelled labels (by simp +contextual [Schema.pieces]) _) fun shared => ?_
      refine judged.bind _ _ _ _ (each enum (by simp [Schema.pieces]) _) fun first => ?_
      refine judged.bind _ _ _ _ (bounded bounds (by simp +contextual [Schema.pieces]) _) fun second => ?_
      exact judged.pure _ _ fun bounds enum labels => .schema (.number labels enum bounds)
  | boolean labels enum =>
      refine judged.bind _ _ _ _ (labelled labels (by simp +contextual [Schema.pieces]) _) fun shared => ?_
      refine judged.bind _ _ _ _ (each enum (by simp [Schema.pieces]) _) fun first => ?_
      exact judged.pure _ _ fun enum labels => .schema (.boolean labels enum)
  | null labels =>
      refine judged.bind _ _ _ _ (labelled labels (by simp +contextual [Schema.pieces]) _) fun shared => ?_
      exact judged.pure _ _ fun labels => .schema (.null labels)
  | ref labels token =>
      refine judged.bind _ _ _ _ (labelled labels (by simp +contextual [Schema.pieces]) _) fun shared => ?_
      refine judged.bind _ _ _ _ (each token (by simp [Schema.pieces]) _) fun first => ?_
      exact judged.pure _ _ fun token labels => .schema (.ref labels token)
  | combined mode combinator =>
      refine judged.bind _ _ _ _ (each combinator (by simp [Schema.pieces]) _) fun first => ?_
      exact judged.pure _ _ fun combinator => .schema (.combined combinator)
  | fallback inner =>
      refine judged.bind _ _ _ _ (each inner (by simp [Schema.pieces]) _) fun first => ?_
      exact judged.pure _ _ fun inner => .schema (.fallback inner)

theorem judged_parts {m : Type → Type} [Monad m] (judged : Judgement m) (related : Value → Value → Prop) (value : Value)
    (visit : OnSmaller m value)
    (each : ∀ part ∈ value.pieces, ∀ small, judged.holds (visit part small) (related part)) :
    judged.holds (value.mapParts @visit) (value.Along related) := by
  cases value with
  | scalar s => exact judged.pure _ _ (.scalar s)
  | list handle items =>
      refine judged.bind _ _ _ _ (judged_items judged related @visit items _ each) fun others => ?_
      exact judged.pure _ _ .list
  | tuple handle items =>
      refine judged.bind _ _ _ _ (judged_items judged related @visit items _ each) fun others => ?_
      exact judged.pure _ _ .tuple
  | table handle entries =>
      refine judged.bind _ _ _ _ (judged_entries judged related @visit entries _ each) fun others => ?_
      exact judged.pure _ _ .table
  | frozen handle entries =>
      refine judged.bind _ _ _ _ (judged_entries judged related @visit entries _ each) fun others => ?_
      exact judged.pure _ _ .frozen
  | showing handle other =>
      refine judged.bind _ _ _ _ (each other (by simp [Value.pieces]) _) fun first => ?_
      exact judged.pure _ _ .showing
  | settings handle attributes =>
      refine judged.bind _ _ _ _ (judged_entries judged related @visit attributes _ each) fun others => ?_
      exact judged.pure _ _ .settings
  | holder handle attributes =>
      refine judged.bind _ _ _ _ (judged_entries judged related @visit attributes _ each) fun others => ?_
      exact judged.pure _ _ .holder
  | schema handle s => exact judged_schema judged related handle s @visit each
  | combinator handle c =>
      obtain ⟨labels, alternatives⟩ := c
      refine judged.bind _ _ _ _ (judged_labels judged related @visit labels _ fun part member =>
        each part (by simp [Value.pieces, member])) fun shared => ?_
      refine judged.bind _ _ _ _ (each alternatives (by simp [Value.pieces]) _) fun first => ?_
      exact judged.pure _ _ fun alternatives labels => .combinator labels alternatives
  | property handle p =>
      obtain ⟨required, name, child⟩ := p
      refine judged.bind _ _ _ _ (each name (by simp [Value.pieces]) _) fun first => ?_
      refine judged.bind _ _ _ _ (each child (by simp [Value.pieces]) _) fun second => ?_
      exact judged.pure _ _ fun child name => .property name child
  | customFormat handle name =>
      refine judged.bind _ _ _ _ (each name (by simp [Value.pieces]) _) fun first => ?_
      exact judged.pure _ _ .customFormat
  | model handle m =>
      obtain ⟨definitions, root⟩ := m
      refine judged.bind _ _ _ _ (judged_entries judged related @visit definitions _ fun part member =>
        each part (List.mem_append_left _ member)) fun entries => ?_
      refine judged.bind _ _ _ _ (each root (by simp [Value.pieces]) _) fun first => ?_
      exact judged.pure _ _ fun root definitions => .model definitions root
  | elsewhere handle shape => exact judged.pure _ _ (.elsewhere handle shape)
  | member typeName => exact judged.pure _ _ (.member typeName)

-- A value with the images of its pieces in place.
def Value.mapped (image : Value → Value) (value : Value) : Value :=
  Id.run (value.mapParts fun part _ => pure (image part))

def Judgement.ofResult : Judgement Id where
  holds result known := known result
  pure _ _ here := here
  bind first _ _ _ here later := later first here

theorem mapped_along (image : Value → Value) (value : Value) :
    value.Along (fun part other => other = image part) (value.mapped image) :=
  judged_parts .ofResult _ value _ fun _ _ _ => rfl

/-- Tuples, frozen tables with entries of their own, and the records without settings. -/
def Value.isLasting : Value → Bool
  | .tuple .. => true
  | .frozen .. => true
  | .schema .. => true
  | .combinator .. => true
  | .property .. => true
  | .customFormat .. => true
  | .model .. => true
  | _ => false

theorem lasting_fixed (content : Value) (lasting : content.isLasting = true) (shape : Shape)
    (is : content.shape? = some shape) : shape.isEditable = false := by
  cases content with
  | tuple handle items => cases is; rfl
  | frozen handle entries => cases is; rfl
  | schema handle s =>
      cases is
      cases s with
      | combined mode combinator => cases mode <;> rfl
      | _ => rfl
  | combinator handle c => cases is; rfl
  | property handle p =>
      obtain ⟨required, name, schema⟩ := p
      cases is
      cases required <;> rfl
  | customFormat handle name => cases is; rfl
  | model handle m => cases is; rfl
  | _ => cases lasting

/-- What a value has its entries under. -/
def Value.keys : Value → List Value
  | .table _ entries => entries.map Prod.fst
  | .frozen _ entries => entries.map Prod.fst
  | .model _ m => m.definitions.map Prod.fst
  | _ => []

section Handles

variable {related : Value → Value → Prop} (handle : Nat)

theorem along_with_handle {value other : Value} (along : value.Along related other) :
    (value.withHandle handle).Along related (other.withHandle handle) := by
  cases along <;> constructor <;> assumption

theorem with_handle_pieces (value : Value) : (value.withHandle handle).pieces = value.pieces := by
  cases value <;> rfl

theorem with_handle_shape (value : Value) : (value.withHandle handle).shape? = value.shape? := by
  cases value <;> rfl

theorem with_handle_form (value : Value) : (value.withHandle handle).form = value.form := by
  cases value <;> rfl

theorem with_handle_lasting (value : Value) : (value.withHandle handle).isLasting = value.isLasting := by
  cases value <;> rfl

theorem along_lasting {value other : Value} (along : value.Along related other) :
    other.isLasting = value.isLasting := by
  cases along <;> rfl

theorem with_handle_keys (value : Value) : (value.withHandle handle).keys = value.keys := by
  cases value <;> rfl

theorem entries_along_keys {entries others : List (Value × Value)} (along : EntriesAlong related entries others) :
    others.map Prod.fst = entries.map Prod.fst := by
  induction along with
  | nil => rfl
  | cons here _ hypothesis => rw [List.map_cons, List.map_cons, here.1, hypothesis]

theorem along_keys {value other : Value} (along : value.Along related other) : other.keys = value.keys := by
  cases along with
  | table each => exact entries_along_keys each
  | frozen each => exact entries_along_keys each
  | model each first => exact entries_along_keys each
  | _ => rfl

-- Only objects have handles; those that are mentioned keep theirs.
theorem with_handle_handle (value : Value) (shape : Shape) (object : value.shape? = some shape)
    (unheld : value.handle? = none) : (value.withHandle handle).handle? = some handle := by
  cases value with
  | scalar s => cases object
  | member typeName => cases object
  | elsewhere handle shape => cases unheld
  | showing handle other => cases unheld
  | _ => rfl

end Handles

section Images

variable (image : Value → Value)

theorem images_of_pieces {items others : List Value}
    (each : List.Forall₂ (fun part other => other = image part) items others) : others = items.map image := by
  induction each with
  | nil => rfl
  | cons here _ hypothesis => rw [here, hypothesis, List.map_cons]

theorem mapped_pieces (value : Value) : (value.mapped image).pieces = value.pieces.map image :=
  images_of_pieces image (along_pieces (mapped_along image value))

theorem mapped_shape (value : Value) : (value.mapped image).shape? = value.shape? :=
  along_shape (mapped_along image value)

theorem mapped_handle (value : Value) : (value.mapped image).handle? = value.handle? :=
  along_handle (mapped_along image value)

theorem unique_image (part other third : Value) (first : other = image part) (second : third = image part) :
    other = third := first.trans second.symm

theorem mapped_with_handle (handle : Nat) (value : Value) :
    (value.withHandle handle).mapped image = (value.mapped image).withHandle handle :=
  along_unique (unique_image image) (mapped_along image (value.withHandle handle))
    (along_with_handle handle (mapped_along image value))

theorem mapped_congr (other : Value → Value) (value : Value)
    (agree : ∀ part ∈ value.pieces, other part = image part) : value.mapped other = value.mapped image := by
  have here : value.Along (fun part result => result = image part) (value.mapped other) :=
    judged_parts .ofResult _ value _ fun part member _ => agree part member
  exact along_unique (unique_image image) here (mapped_along image value)

end Images

end Schemata
