import Mathlib.Data.List.Perm.Basic

set_option autoImplicit false

/-!
Operations on lists that stop at the first fault: what they give when every step succeeds, and what
their success says of every step.
-/

namespace Schemata

variable {α β ε : Type}

theorem map_m_ok (step : α → Except ε β) (result : α → β) (items : List α)
    (all : ∀ item ∈ items, step item = .ok (result item)) : items.mapM step = .ok (items.map result) := by
  induction items with
  | nil => rfl
  | cons item rest hypothesis =>
      have later := hypothesis fun other member => all other (List.mem_cons_of_mem item member)
      rw [List.mapM_cons, all item List.mem_cons_self, later]
      rfl

theorem map_m_parts (step : α → Except ε β) (items : List α) (results : List β)
    (done : items.mapM step = .ok results) :
    List.Forall₂ (fun item result => step item = .ok result) items results := by
  induction items generalizing results with
  | nil =>
      obtain rfl : [] = results := by simpa [pure, Except.pure] using done
      exact .nil
  | cons item rest hypothesis =>
      rw [List.mapM_cons] at done
      cases first : step item with
      | error fault => simp [first, bind, Except.bind] at done
      | ok result =>
          cases later : rest.mapM step with
          | error fault => simp [first, later, bind, Except.bind] at done
          | ok others =>
              obtain rfl : result :: others = results := by
                simpa [first, later, bind, Except.bind, pure, Except.pure] using done
              exact .cons first (hypothesis others later)

theorem map_m_of_parts (step : α → Except ε β) (items : List α) (results : List β)
    (parts : List.Forall₂ (fun item result => step item = .ok result) items results) :
    items.mapM step = .ok results := by
  induction parts with
  | nil => rfl
  | cons here _ hypothesis =>
      rw [List.mapM_cons, here, hypothesis]
      rfl

-- The results for a list in another order are the results in another order.
theorem map_m_perm (step : α → Except ε β) (items others : List α) (perm : items.Perm others) (results : List β)
    (done : others.mapM step = .ok results) : ∃ arranged, arranged.Perm results ∧ items.mapM step = .ok arranged := by
  obtain ⟨arranged, along, arrangedPerm⟩ := List.perm_comp_forall₂ perm (map_m_parts step others results done)
  exact ⟨arranged, arrangedPerm, map_m_of_parts step items arranged along⟩

theorem map_m_congr (step other : α → Except ε β) (items : List α) (same : ∀ item ∈ items, other item = step item) :
    items.mapM other = items.mapM step := by
  induction items with
  | nil => rfl
  | cons item rest hypothesis =>
      obtain ⟨first, later⟩ := List.forall_mem_cons.mp same
      rw [List.mapM_cons, List.mapM_cons, first, hypothesis later]

theorem map_m_alike (step : α → Except ε β) (items others : List α) (length : items.length = others.length)
    (alike : ∀ pair ∈ items.zip others, step pair.2 = step pair.1) : others.mapM step = items.mapM step := by
  induction items generalizing others with
  | nil =>
      obtain rfl := List.length_eq_zero_iff.mp length.symm
      rfl
  | cons item rest hypothesis =>
      cases others with
      | nil => cases length
      | cons other others =>
          obtain ⟨first, later⟩ := List.forall_mem_cons.mp alike
          rw [List.mapM_cons, List.mapM_cons, first, hypothesis others (Nat.succ.inj length) later]

theorem map_m_exists (step : α → Except ε β) (items : List α)
    (all : ∀ item ∈ items, ∃ result, step item = .ok result) : ∃ results, items.mapM step = .ok results := by
  induction items with
  | nil => exact ⟨[], rfl⟩
  | cons item rest hypothesis =>
      obtain ⟨result, first⟩ := all item List.mem_cons_self
      obtain ⟨results, later⟩ := hypothesis fun other member => all other (List.mem_cons_of_mem item member)
      exact ⟨result :: results, by rw [List.mapM_cons, first, later]; rfl⟩

-- A fault is that of one of the steps, and one at any step is one of all.
theorem map_m_error (step : α → Except ε β) (items : List α) (fault : ε) (failed : items.mapM step = .error fault) :
    ∃ item ∈ items, step item = .error fault := by
  induction items with
  | nil => nomatch failed
  | cons item rest hypothesis =>
      rw [List.mapM_cons] at failed
      cases first : step item with
      | error other =>
          rw [first] at failed
          obtain rfl : other = fault := Except.error.inj failed
          exact ⟨item, List.mem_cons_self, first⟩
      | ok result =>
          cases later : rest.mapM step with
          | error other =>
              rw [first, later] at failed
              obtain rfl : other = fault := Except.error.inj failed
              obtain ⟨source, member, there⟩ := hypothesis later
              exact ⟨source, List.mem_cons_of_mem item member, there⟩
          | ok results =>
              rw [first, later] at failed
              nomatch failed

theorem source_of_result (relation : α → β → Prop) (items : List α) (results : List β)
    (related : List.Forall₂ relation items results) (result : β) (member : result ∈ results) :
    ∃ item ∈ items, relation item result := by
  induction related with
  | nil => exact absurd member List.not_mem_nil
  | @cons item other rest others here _ hypothesis =>
      rcases List.mem_cons.mp member with rfl | later
      · exact ⟨item, List.mem_cons_self, here⟩
      · obtain ⟨source, sourceMember, there⟩ := hypothesis later
        exact ⟨source, List.mem_cons_of_mem item sourceMember, there⟩

theorem map_m_fails (step : α → Except ε β) (items : List α) (item : α) (member : item ∈ items)
    (failed : ∃ fault, step item = .error fault) : ∃ fault, items.mapM step = .error fault := by
  cases done : items.mapM step with
  | error fault => exact ⟨fault, rfl⟩
  | ok results =>
      obtain ⟨fault, failed⟩ := failed
      obtain ⟨result, _, here⟩ := source_of_result (fun result item => step item = .ok result) results items
        (map_m_parts step items results done).flip item member
      nomatch failed.symm.trans here

-- Results are told apart by an image that tells their sources apart.
theorem images_distinct {γ : Type} (relation : α → β → Prop) (image : β → γ) (items : List α) (results : List β)
    (distinct : items.Nodup) (related : List.Forall₂ relation items results)
    (tells : ∀ a b u v, relation a u → relation b v → image u = image v → a = b) :
    (results.map image).Nodup := by
  induction related with
  | nil => exact .nil
  | @cons item result rest others here later hypothesis =>
      obtain ⟨absent, distinctLater⟩ := List.nodup_cons.mp distinct
      rw [List.map_cons, List.nodup_cons]
      refine ⟨fun again => ?_, hypothesis distinctLater⟩
      obtain ⟨other, member, same⟩ := List.mem_map.mp again
      obtain ⟨source, sourceMember, there⟩ := source_of_result relation rest others later other member
      obtain rfl := tells item source result other here there same.symm
      exact absent sourceMember

theorem find_m_ok (test : α → Except ε Bool) (answer : α → Bool) (items : List α)
    (all : ∀ item ∈ items, test item = .ok (answer item)) : items.findM? test = .ok (items.find? answer) := by
  induction items with
  | nil => rfl
  | cons item rest hypothesis =>
      have later := hypothesis fun other member => all other (List.mem_cons_of_mem item member)
      rw [List.findM?, all item List.mem_cons_self, List.find?_cons]
      simp only [bind, Except.bind]
      cases answer item with
      | true => rfl
      | false => exact later

end Schemata
