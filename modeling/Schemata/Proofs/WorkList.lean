import Schemata.Tour

set_option autoImplicit false

/-!
The work list of a tour. A list in two parts is visited part by part, rows are only added behind those
there are, and so a tour of one value is the row of its node, then the tours of what is below it.
-/

namespace Schemata

variable {α β : Type}

theorem visit_nil (tour : Tour α β) (rows : Array β) : tour.visit [] rows = .ok rows := by
  rw [Tour.visit]

theorem visit_other (tour : Tour α β) (place : α) (value : Value) (rest : List (Placed α)) (rows : Array β)
    (other : ∀ handle s, value ≠ .schema handle s) :
    tour.visit (⟨place, value⟩ :: rest) rows = .error value.refuseNode := by
  cases value with
  | schema handle s => exact absurd rfl (other handle s)
  | _ => rw [Tour.visit]; simp

theorem visit_schema (tour : Tour α β) (place : α) (handle : Handle) (s : Schema) (rest : List (Placed α))
    (rows : Array β) :
    tour.visit (⟨place, .schema handle s⟩ :: rest) rows =
      (tour.row place s).bind fun row =>
        (tour.below place s).bind fun found => tour.visit (found ++ rest) (rows.push row) := by
  rw [Tour.visit]
  cases shown : tour.row place s with
  | error fault => rfl
  | ok row =>
      simp only [Except.bind]
      split
      · rename_i fault below
        rw [below]
      · rename_i found below
        rw [below]

-- The rest of the work is untouched until the first part is done.
theorem visit_append (tour : Tour α β) (work rest : List (Placed α)) (rows : Array β) :
    tour.visit (work ++ rest) rows = (tour.visit work rows).bind (tour.visit rest) := by
  induction work, rows using Tour.visit.induct tour with
  | case1 rows => rw [List.nil_append, visit_nil]; rfl
  | case2 place handle s work rows fault shown =>
      rw [List.cons_append, visit_schema, visit_schema, shown]
      rfl
  | case3 place handle s work rows row shown fault below =>
      rw [List.cons_append, visit_schema, visit_schema, shown, below]
      rfl
  | case4 place handle s work rows row shown found below hypothesis =>
      rw [List.cons_append, visit_schema, visit_schema, shown, below]
      simp only [Except.bind]
      rw [← List.append_assoc]
      exact hypothesis
  | case5 place value work rows other =>
      rw [List.cons_append, visit_other tour place value _ _ other, visit_other tour place value _ _ other]
      rfl

-- Rows that were collected before stay in front.
theorem visit_behind (tour : Tour α β) (before : Array β) (work : List (Placed α)) (rows : Array β) :
    tour.visit work (before ++ rows) = (tour.visit work rows).map (before ++ ·) := by
  induction work, rows using Tour.visit.induct tour with
  | case1 rows => rw [visit_nil, visit_nil]; rfl
  | case2 place handle s work rows fault shown =>
      rw [visit_schema, visit_schema, shown]
      rfl
  | case3 place handle s work rows row shown fault below =>
      rw [visit_schema, visit_schema, shown, below]
      rfl
  | case4 place handle s work rows row shown found below hypothesis =>
      rw [visit_schema, visit_schema, shown, below]
      simpa only [Except.bind, Array.append_push] using hypothesis
  | case5 place value work rows other =>
      rw [visit_other tour place value _ _ other, visit_other tour place value _ _ other]
      rfl

-- What a tour collects of one value.
def Tour.block (tour : Tour α β) (place : α) (value : Value) : Except Fault (List β) :=
  (tour.visit [⟨place, value⟩] #[]).map Array.toList

theorem block_other (tour : Tour α β) (place : α) (value : Value)
    (other : ∀ handle s, value ≠ .schema handle s) : tour.block place value = .error value.refuseNode := by
  rw [Tour.block, visit_other tour place value _ _ other]
  rfl

theorem visit_block (tour : Tour α β) (place : α) (value : Value) (rows : Array β) :
    tour.visit [⟨place, value⟩] rows = (tour.block place value).map fun block => rows ++ block.toArray := by
  have behind := visit_behind tour rows [⟨place, value⟩] #[]
  rw [Array.append_empty] at behind
  rw [behind, Tour.block]
  cases tour.visit [⟨place, value⟩] #[] <;> simp [Except.map]

-- A work list is visited block by block.
theorem visit_blocks (tour : Tour α β) (work : List (Placed α)) (rows : Array β) :
    tour.visit work rows =
      (work.mapM fun placed => tour.block placed.place placed.value).map fun blocks =>
        rows ++ blocks.flatten.toArray := by
  induction work generalizing rows with
  | nil => rw [visit_nil]; simp [Except.map, pure, Except.pure]
  | cons placed rest hypothesis =>
      rw [← List.singleton_append, visit_append, visit_block, List.singleton_append, List.mapM_cons]
      cases first : tour.block placed.place placed.value with
      | error fault => rfl
      | ok block =>
          simp only [Except.map, Except.bind, bind]
          rw [hypothesis]
          cases rest.mapM fun placed => tour.block placed.place placed.value with
          | error fault => rfl
          | ok blocks => simp [Except.map, pure, Except.pure]

theorem block_schema (tour : Tour α β) (place : α) (handle : Handle) (s : Schema) :
    tour.block place (.schema handle s) =
      (tour.row place s).bind fun row => (tour.below place s).bind fun found =>
        (found.mapM fun placed => tour.block placed.place placed.value).map fun blocks =>
          row :: blocks.flatten := by
  rw [Tour.block, visit_schema]
  cases tour.row place s with
  | error fault => rfl
  | ok row =>
      cases tour.below place s with
      | error fault => rfl
      | ok found =>
          simp only [Except.bind]
          rw [List.append_nil, visit_blocks]
          cases found.mapM fun placed => tour.block placed.place placed.value with
          | error fault => rfl
          | ok blocks => simp [Except.map]

def Placed.move {γ : Type} (place : α → γ) (placed : Placed α) : Placed γ := ⟨place placed.place, placed.value⟩

-- A tour whose rows and places are images of those of another one collects the images of its rows.
theorem visit_image {γ δ : Type} (tour : Tour α β) (other : Tour γ δ) (place : α → γ) (see : β → δ)
    (rows_agree : ∀ here s, other.row (place here) s = (tour.row here s).map see)
    (below_agree : ∀ here s, other.below (place here) s = (tour.below here s).map (List.map (Placed.move place)))
    (work : List (Placed α)) (rows : Array β) :
    other.visit (work.map (Placed.move place)) (rows.map see) = (tour.visit work rows).map (Array.map see) := by
  induction work, rows using Tour.visit.induct tour with
  | case1 rows => rw [List.map_nil, visit_nil, visit_nil]; rfl
  | case2 here handle s work rows fault shown =>
      rw [List.map_cons, Placed.move, visit_schema, visit_schema, rows_agree, shown]
      rfl
  | case3 here handle s work rows row shown fault below =>
      rw [List.map_cons, Placed.move, visit_schema, visit_schema, rows_agree, below_agree, shown, below]
      rfl
  | case4 here handle s work rows row shown found below hypothesis =>
      rw [List.map_cons, Placed.move, visit_schema, visit_schema, rows_agree, below_agree, shown, below]
      simp only [Except.bind, Except.map]
      rw [← List.map_append, ← Array.map_push]
      exact hypothesis
  | case5 here value work rows different =>
      rw [List.map_cons, Placed.move, visit_other other _ value _ _ different,
        visit_other tour here value _ _ different]
      rfl

theorem block_image {γ δ : Type} (tour : Tour α β) (other : Tour γ δ) (place : α → γ) (see : β → δ)
    (rows_agree : ∀ here s, other.row (place here) s = (tour.row here s).map see)
    (below_agree : ∀ here s, other.below (place here) s = (tour.below here s).map (List.map (Placed.move place)))
    (here : α) (value : Value) :
    other.block (place here) value = (tour.block here value).map (List.map see) := by
  have image := visit_image tour other place see rows_agree below_agree [⟨here, value⟩] #[]
  rw [List.map_singleton, Placed.move, Array.map_empty] at image
  rw [Tour.block, Tour.block, image]
  cases tour.visit [⟨here, value⟩] #[] with
  | error fault => rfl
  | ok rows => simp [Except.map]

end Schemata
