import Mathlib.Data.Fintype.Card
import Schemata.Proofs.Anchored
import Schemata.Proofs.Comparison

set_option autoImplicit false

/-!
Equality of held objects. Two objects are compared by what is in the cells that they lead to. Where no object is
inside itself, and these cells have the same in them, the answer is the same, whatever other cells there are.
-/

namespace Schemata

-- A form that leads to no more objects one behind the other than the depth, and these have the same contents
-- before and later. None of them shows something other than its own entries.
inductive Form.Shared (cells later : Cells) : Nat → Form → Prop where
  | scalar (depth : Nat) (s : Scalar) : Shared cells later depth (.scalar s)
  | member (depth : Nat) (typeName : String) : Shared cells later depth (.member typeName)
  | sequence (depth : Nat) (access : Access) (items : List Form)
      (below : ∀ item ∈ items, Shared cells later depth item) : Shared cells later depth (.sequence access items)
  | mapping (depth : Nat) (access : Access) (entries : List (Form × Form))
      (keys : ∀ entry ∈ entries, Shared cells later depth entry.1)
      (below : ∀ entry ∈ entries, Shared cells later depth entry.2) : Shared cells later depth (.mapping access entries)
  | record (depth : Nat) (cls : RecordClass) (fields : List (String × Form))
      (below : ∀ field ∈ fields, Shared cells later depth field.2) : Shared cells later depth (.record cls fields)
  | holder (depth : Nat) (attributes : List (String × Form))
      (below : ∀ field ∈ attributes, Shared cells later depth field.2) : Shared cells later depth (.holder attributes)
  | mention (depth handle : Nat) (shape : Shape) (content : Value) (here : cells.at? handle = some content)
      (there : later.at? handle = some content) (below : Shared cells later depth content.form) :
      Shared cells later (depth + 1) (.elsewhere handle shape)

section Comparing

variable {cells later : Cells}

theorem shared_deeper {depth deeper : Nat} {form : Form} (shared : form.Shared cells later depth)
    (more : depth ≤ deeper) : form.Shared cells later deeper := by
  induction shared generalizing deeper with
  | scalar _ s => exact .scalar deeper s
  | member _ typeName => exact .member deeper typeName
  | sequence _ access items _ hypothesis =>
      exact .sequence deeper access items fun item member => hypothesis item member more
  | mapping _ access entries _ _ keyHypothesis hypothesis =>
      exact .mapping deeper access entries (fun entry member => keyHypothesis entry member more)
        fun entry member => hypothesis entry member more
  | record _ cls fields _ hypothesis => exact .record deeper cls fields fun field member => hypothesis field member more
  | holder _ attributes _ hypothesis => exact .holder deeper attributes fun field member => hypothesis field member more
  | mention depth handle shape content here there _ hypothesis =>
      obtain ⟨rest, rfl⟩ : ∃ rest, deeper = rest + 1 := ⟨deeper - 1, by omega⟩
      exact .mention rest handle shape content here there (hypothesis (by omega))

-- A mention is entered, anything else is what it is.
theorem shared_contents {depth : Nat} {form : Form} (shared : form.Shared cells later depth) :
    cells.contents form = later.contents form ∧
      ((∀ handle shape, form ≠ .elsewhere handle shape) ∧ cells.contents form = form ∨
        ∃ less, depth = less + 1 ∧ (cells.contents form).Shared cells later less) := by
  cases shared with
  | mention depth handle shape content here there below =>
      have entered (known : Cells) (found : known.at? handle = some content) :
          known.contents (.elsewhere handle shape) = content.form := by
        rw [Cells.contents, Cells.exposed, found, Option.map_some]
        generalize content.form = form at below
        cases below <;> rfl
      rw [entered cells here, entered later there]
      exact ⟨rfl, .inr ⟨depth, rfl, below⟩⟩
  | _ => exact ⟨rfl, .inl ⟨nofun, rfl⟩⟩

end Comparing

section Same

variable {first second : Form → Form → Bool}

theorem items_same_agree (items others : List Form)
    (each : ∀ item ∈ items, ∀ other ∈ others, item.sameBy first other = item.sameBy second other) :
    Form.sameItems first items others = Form.sameItems second items others := by
  induction items generalizing others with
  | nil => cases others <;> simp only [Form.sameItems]
  | cons item rest hypothesis =>
      cases others with
      | nil => simp only [Form.sameItems]
      | cons other behind =>
          have later := hypothesis behind fun a member b otherMember =>
            each a (List.mem_cons_of_mem item member) b (List.mem_cons_of_mem other otherMember)
          rw [Form.sameItems, Form.sameItems, each item List.mem_cons_self other List.mem_cons_self, later]

theorem fields_same_agree (fields others : List (String × Form))
    (each : ∀ field ∈ fields, ∀ other ∈ others, field.2.sameBy first other.2 = field.2.sameBy second other.2) :
    Form.sameFields first fields others = Form.sameFields second fields others := by
  induction fields generalizing others with
  | nil => cases others <;> simp only [Form.sameFields]
  | cons field rest hypothesis =>
      cases others with
      | nil => simp only [Form.sameFields]
      | cons other behind =>
          have later := hypothesis behind fun a member b otherMember =>
            each a (List.mem_cons_of_mem field member) b (List.mem_cons_of_mem other otherMember)
          rw [Form.sameFields, Form.sameFields, each field List.mem_cons_self other List.mem_cons_self, later]

theorem entries_same_agree (entries others : List (Form × Form))
    (keys : ∀ entry ∈ entries, ∀ other ∈ others, entry.1.sameBy first other.1 = entry.1.sameBy second other.1)
    (each : ∀ entry ∈ entries, ∀ other ∈ others, entry.2.sameBy first other.2 = entry.2.sameBy second other.2) :
    Form.sameEntries first entries others = Form.sameEntries second entries others := by
  induction entries with
  | nil => simp only [Form.sameEntries]
  | cons entry rest hypothesis =>
      obtain ⟨key, form⟩ := entry
      have later := hypothesis (fun entry member => keys entry (List.mem_cons_of_mem _ member))
        fun entry member => each entry (List.mem_cons_of_mem _ member)
      rw [Form.sameEntries, Form.sameEntries, later, Bool.eq_iff_iff]
      simp only [Bool.and_eq_true, List.any_eq_true]
      refine and_congr_left fun _ => exists_congr fun other => and_congr_right fun member => ?_
      rw [keys (key, form) List.mem_cons_self other member, each (key, form) List.mem_cons_self other member]

theorem attributes_same_agree (attributes others : List (String × Form))
    (each : ∀ field ∈ attributes, ∀ other ∈ others, field.2.sameBy first other.2 = field.2.sameBy second other.2) :
    Form.sameAttributes first attributes others = Form.sameAttributes second attributes others := by
  induction attributes with
  | nil => simp only [Form.sameAttributes]
  | cons field rest hypothesis =>
      obtain ⟨name, form⟩ := field
      have later := hypothesis fun field member => each field (List.mem_cons_of_mem _ member)
      rw [Form.sameAttributes, Form.sameAttributes, later]
      cases found : others.lookup name with
      | none => rfl
      | some other =>
          obtain ⟨before, behind, rfl, _⟩ := List.lookup_eq_some_iff.mp found
          simp only
          rw [each (name, form) List.mem_cons_self (name, other) (by simp)]

end Same

def Form.IsMention (form : Form) : Prop := ∃ handle shape, form = .elsewhere handle shape

theorem same_by_mention (beyond : Form → Form → Bool) (form : Form) (handle : Nat) (shape : Shape) :
    form.sameBy beyond (.elsewhere handle shape) = beyond form (.elsewhere handle shape) := by
  cases form <;> simp only [Form.sameBy]

section Agreeing

variable {cells later : Cells}

-- Two ways to compare what is behind mentions, with the same answer for all forms of two depths.
def AgreeAt (cells later : Cells) (first second : Form → Form → Bool) (depth deep : Nat) : Prop :=
  ∀ a b, a.Shared cells later depth → b.Shared cells later deep → a.IsMention ∨ b.IsMention → first a b = second a b

theorem mention_agree {first second : Form → Form → Bool} {depth deep : Nat} {form other : Form}
    (agree : AgreeAt cells later first second depth deep) (shared : form.Shared cells later depth)
    (known : other.Shared cells later deep) (mention : other.IsMention) :
    form.sameBy first other = form.sameBy second other := by
  obtain ⟨handle, shape, rfl⟩ := mention
  rw [same_by_mention, same_by_mention]
  exact agree form _ shared known (.inr ⟨handle, shape, rfl⟩)

theorem same_by_agree {first second : Form → Form → Bool} {depth deep : Nat} {form : Form}
    (shared : form.Shared cells later depth) : AgreeAt cells later first second depth deep →
      ∀ other, other.Shared cells later deep → form.sameBy first other = form.sameBy second other := by
  induction shared with
  | scalar depth s =>
      intro agree other known
      cases known with
      | mention deep handle shape content here there inside =>
          exact mention_agree agree (.scalar depth s) (.mention deep handle shape content here there inside)
            ⟨_, _, rfl⟩
      | _ => simp only [Form.sameBy]
  | member depth typeName =>
      intro agree other known
      cases known with
      | mention deep handle shape content here there inside =>
          exact mention_agree agree (.member depth typeName) (.mention deep handle shape content here there inside)
            ⟨_, _, rfl⟩
      | _ => simp only [Form.sameBy]
  | sequence depth access items below hypothesis =>
      intro agree other known
      cases known with
      | mention deep handle shape content here there inside =>
          exact mention_agree agree (.sequence depth access items below)
            (.mention deep handle shape content here there inside) ⟨_, _, rfl⟩
      | sequence _ also others known =>
          have each := items_same_agree items others fun item member other otherMember =>
            hypothesis item member agree other (known other otherMember)
          simp only [Form.sameBy, each]
      | _ => simp only [Form.sameBy]
  | mapping depth access entries keys below keyHypothesis hypothesis =>
      intro agree other known
      cases known with
      | mention deep handle shape content here there inside =>
          exact mention_agree agree (.mapping depth access entries keys below)
            (.mention deep handle shape content here there inside) ⟨_, _, rfl⟩
      | mapping _ also others knownKeys known =>
          have each := entries_same_agree entries others
            (fun entry member other otherMember =>
              keyHypothesis entry member agree other.1 (knownKeys other otherMember))
            fun entry member other otherMember => hypothesis entry member agree other.2 (known other otherMember)
          simp only [Form.sameBy, each]
      | _ => simp only [Form.sameBy]
  | record depth cls fields below hypothesis =>
      intro agree other known
      cases known with
      | mention deep handle shape content here there inside =>
          exact mention_agree agree (.record depth cls fields below)
            (.mention deep handle shape content here there inside) ⟨_, _, rfl⟩
      | record _ also others known =>
          have each := fields_same_agree fields others fun field member other otherMember =>
            hypothesis field member agree other.2 (known other otherMember)
          simp only [Form.sameBy, each]
      | _ => simp only [Form.sameBy]
  | holder depth attributes below hypothesis =>
      intro agree other known
      cases known with
      | mention deep handle shape content here there inside =>
          exact mention_agree agree (.holder depth attributes below)
            (.mention deep handle shape content here there inside) ⟨_, _, rfl⟩
      | holder _ others known =>
          have each := attributes_same_agree attributes others fun field member other otherMember =>
            hypothesis field member agree other.2 (known other otherMember)
          simp only [Form.sameBy, each]
      | _ => simp only [Form.sameBy]
  | mention depth handle shape content here there below _ =>
      intro agree other known
      simp only [Form.sameBy]
      exact agree _ _ (.mention depth handle shape content here there below) known (.inl ⟨_, _, rfl⟩)

-- The contents of a form are one object less deep, if it is a mention.
theorem contents_depth {depth : Nat} {form : Form} (shared : form.Shared cells later depth) :
    ∃ inner, (cells.contents form).Shared cells later inner ∧ inner ≤ depth ∧ (form.IsMention → inner < depth) := by
  rcases (shared_contents shared).2 with ⟨plain, same⟩ | ⟨less, rfl, below⟩
  · rw [same]
    exact ⟨depth, shared, Nat.le_refl depth, fun ⟨handle, shape, mention⟩ => absurd mention (plain handle shape)⟩
  · exact ⟨less, below, Nat.le_succ less, fun _ => Nat.lt_succ_self less⟩

theorem mention_depth {depth : Nat} {form : Form} (shared : form.Shared cells later depth) (mention : form.IsMention) :
    0 < depth := by
  obtain ⟨handle, shape, rfl⟩ := mention
  cases shared
  exact Nat.succ_pos _

theorem contents_agree (fuel fuel' depth deep : Nat) (a b : Form) (left : a.Shared cells later depth)
    (right : b.Shared cells later deep)
    (agree : ∀ inner innerDeep, inner ≤ depth → innerDeep ≤ deep →
      (a.IsMention ∨ b.IsMention → inner + innerDeep < depth + deep) →
      AgreeAt cells later (cells.fitForms fuel) (later.fitForms fuel') inner innerDeep) :
    (cells.contents a).sameBy (cells.fitForms fuel) (cells.contents b) =
      (later.contents a).sameBy (later.fitForms fuel') (later.contents b) := by
  obtain ⟨inner, inside, less, smaller⟩ := contents_depth left
  obtain ⟨innerDeep, insideToo, lessToo, smallerToo⟩ := contents_depth right
  rw [← (shared_contents left).1, ← (shared_contents right).1]
  refine same_by_agree inside (agree inner innerDeep less lessToo ?_) _ insideToo
  rintro (mention | mention)
  · have := smaller mention
    omega
  · have := smallerToo mention
    omega

-- Where a mention is compared, one is entered, so fuel for the depths of both sides is enough.
theorem mentions_agree (fuel : Nat) : ∀ fuel' depth deep, depth + deep ≤ fuel → depth + deep ≤ fuel' →
    AgreeAt cells later (cells.fitForms fuel) (later.fitForms fuel') depth deep := by
  induction fuel with
  | zero =>
      intro fuel' depth deep enough _ a b left right mention
      rcases mention with mention | mention
      · have := mention_depth left mention
        omega
      · have := mention_depth right mention
        omega
  | succ fuel hypothesis =>
      intro fuel' depth deep enough enough' a b left right mention
      have positive : 0 < depth + deep := by
        rcases mention with mention | mention
        · exact Nat.add_pos_left (mention_depth left mention) deep
        · exact Nat.add_pos_right depth (mention_depth right mention)
      obtain ⟨rest, rfl⟩ : ∃ rest, fuel' = rest + 1 := ⟨fuel' - 1, by omega⟩
      rw [Cells.fitForms, Cells.fitForms]
      refine congrArg (a.isOne b || ·) (contents_agree fuel rest depth deep a b left right ?_)
      intro inner innerDeep _ _ smaller
      have less := smaller mention
      exact hypothesis rest inner innerDeep (by omega) (by omega)

theorem same_contents_agree (fuel fuel' depth deep : Nat) (enough : depth + deep ≤ fuel)
    (enough' : depth + deep ≤ fuel') (a b : Form) (left : a.Shared cells later depth)
    (right : b.Shared cells later deep) :
    (cells.contents a).sameBy (cells.fitForms fuel) (cells.contents b) =
      (later.contents a).sameBy (later.fitForms fuel') (later.contents b) := by
  refine contents_agree fuel fuel' depth deep a b left right fun inner innerDeep less lessToo _ => ?_
  exact mentions_agree fuel fuel' inner innerDeep (by omega) (by omega)

theorem mention_obstacle (fits : Form → Form → Bool) (beyond : Form → Form → Option Fault) (form : Form) (handle : Nat)
    (shape : Shape) : form.obstacleBy fits beyond (.elsewhere handle shape) = beyond form (.elsewhere handle shape) ∧
      (Form.elsewhere handle shape).obstacleBy fits beyond form = beyond (.elsewhere handle shape) form := by
  constructor
  · cases form <;> simp only [Form.obstacleBy]
  · simp only [Form.obstacleBy]

section Clear

variable (fits : Form → Form → Bool) (beyond : Form → Form → Option Fault)
  (clear : ∀ depth deep a b, a.Shared cells later depth → b.Shared cells later deep → beyond a b = none)

include clear

theorem mention_clear {depth deep : Nat} {form other : Form} (shared : form.Shared cells later depth)
    (known : other.Shared cells later deep) (mention : other.IsMention) :
    form.obstacleBy fits beyond other = none ∧ other.obstacleBy fits beyond form = none := by
  obtain ⟨handle, shape, rfl⟩ := mention
  obtain ⟨along, back⟩ := mention_obstacle fits beyond form handle shape
  rw [along, back]
  exact ⟨clear depth deep _ _ shared known, clear deep depth _ _ known shared⟩

-- Nothing stands in the way of comparing such forms, where nothing does behind their mentions.
theorem shared_unobstructed {depth : Nat} {form : Form} (shared : form.Shared cells later depth) :
    ∀ deep other, other.Shared cells later deep →
      form.obstacleBy fits beyond other = none ∧ other.obstacleBy fits beyond form = none := by
  induction shared with
  | scalar depth s =>
      intro deep other known
      cases known with
      | mention deep handle shape content here there inside =>
          exact mention_clear fits beyond clear (.scalar depth s) (.mention deep handle shape content here there inside)
            ⟨_, _, rfl⟩
      | _ => simp [Form.obstacleBy]
  | member depth typeName =>
      intro deep other known
      cases known with
      | mention deep handle shape content here there inside =>
          exact mention_clear fits beyond clear (.member depth typeName)
            (.mention deep handle shape content here there inside) ⟨_, _, rfl⟩
      | _ => simp [Form.obstacleBy]
  | sequence depth access items below hypothesis =>
      intro deep other known
      cases known with
      | mention deep handle shape content here there inside =>
          exact mention_clear fits beyond clear (.sequence depth access items below)
            (.mention deep handle shape content here there inside) ⟨_, _, rfl⟩
      | sequence _ also others known =>
          have along : Form.obstacleOfItems fits beyond items others = none :=
            items_unobstructed fits beyond items others fun a member b otherMember =>
              (hypothesis a member _ b (known b otherMember)).1
          have back : Form.obstacleOfItems fits beyond others items = none :=
            items_unobstructed fits beyond others items fun b otherMember a member =>
              (hypothesis a member _ b (known b otherMember)).2
          cases access <;> cases also <;> simp [Form.obstacleBy, along, back]
      | _ => cases access <;> simp [Form.obstacleBy]
  | mapping depth access entries keys below _ hypothesis =>
      intro deep other known
      cases known with
      | mention deep handle shape content here there inside =>
          exact mention_clear fits beyond clear (.mapping depth access entries keys below)
            (.mention deep handle shape content here there inside) ⟨_, _, rfl⟩
      | mapping _ also others _ known =>
          have along : Form.obstacleOfEntries fits beyond entries others = none :=
            entries_unobstructed fits beyond entries others fun a member b otherMember =>
              (hypothesis a member _ b.2 (known b otherMember)).1
          have back : Form.obstacleOfEntries fits beyond others entries = none :=
            entries_unobstructed fits beyond others entries fun b otherMember a member =>
              (hypothesis a member _ b.2 (known b otherMember)).2
          simp [Form.obstacleBy, along, back]
      | _ => simp [Form.obstacleBy]
  | record depth cls fields below hypothesis =>
      intro deep other known
      cases known with
      | mention deep handle shape content here there inside =>
          exact mention_clear fits beyond clear (.record depth cls fields below)
            (.mention deep handle shape content here there inside) ⟨_, _, rfl⟩
      | record _ also others known =>
          have along : Form.obstacleOfFields fits beyond fields others = none :=
            fields_unobstructed fits beyond fields others fun a member b otherMember =>
              (hypothesis a member _ b.2 (known b otherMember)).1
          have back : Form.obstacleOfFields fits beyond others fields = none :=
            fields_unobstructed fits beyond others fields fun b otherMember a member =>
              (hypothesis a member _ b.2 (known b otherMember)).2
          simp [Form.obstacleBy, along, back]
      | _ => simp [Form.obstacleBy]
  | holder depth attributes below hypothesis =>
      intro deep other known
      cases known with
      | mention deep handle shape content here there inside =>
          exact mention_clear fits beyond clear (.holder depth attributes below)
            (.mention deep handle shape content here there inside) ⟨_, _, rfl⟩
      | holder _ others known =>
          have along : Form.obstacleOfAttributes fits beyond attributes others = none :=
            attributes_unobstructed fits beyond attributes others fun a member b otherMember =>
              (hypothesis a member _ b.2 (known b otherMember)).1
          have back : Form.obstacleOfAttributes fits beyond others attributes = none :=
            attributes_unobstructed fits beyond others attributes fun b otherMember a member =>
              (hypothesis a member _ b.2 (known b otherMember)).2
          simp [Form.obstacleBy, along, back]
      | _ => simp [Form.obstacleBy]
  | mention depth handle shape content here there below _ =>
      intro deep other known
      exact (mention_clear fits beyond clear known (.mention depth handle shape content here there below)
        ⟨_, _, rfl⟩).symm

end Clear

theorem forms_unobstructed (fuel : Nat) : ∀ depth deep a b, a.Shared cells later depth → b.Shared cells later deep →
    cells.obstacleOfForms fuel a b = none := by
  induction fuel with
  | zero => exact fun _ _ _ _ _ _ => rfl
  | succ fuel hypothesis =>
      intro depth deep a b left right
      obtain ⟨inner, inside, _⟩ := contents_depth left
      obtain ⟨innerDeep, insideToo, _⟩ := contents_depth right
      rw [Cells.obstacleOfForms, (shared_unobstructed _ _ hypothesis inside innerDeep _ insideToo).1]
      exact ite_self none

theorem equals_shared (a b : Value) (heldA : a.hold.run cells = (a, cells)) (heldB : b.hold.run cells = (b, cells))
    (depth deep : Nat) (left : a.form.Shared cells later depth) (right : b.form.Shared cells later deep) :
    cells.equals a b = .ok ((cells.contents a.form).sameBy (cells.fitForms ((cells.size + 1) * (cells.size + 1)))
      (cells.contents b.form)) := by
  obtain ⟨inner, inside, _⟩ := contents_depth left
  obtain ⟨innerDeep, insideToo, _⟩ := contents_depth right
  have beyond := @forms_unobstructed cells later ((cells.size + 1) * (cells.size + 1))
  have clear := (shared_unobstructed (cells.fitForms ((cells.size + 1) * (cells.size + 1))) _ beyond inside
    innerDeep _ insideToo).1
  unfold Cells.equals
  simp only [heldA, heldB, clear, ite_self]

theorem shared_symm {depth : Nat} {form : Form} (shared : form.Shared cells later depth) :
    form.Shared later cells depth := by
  induction shared with
  | scalar depth s => exact .scalar depth s
  | member depth typeName => exact .member depth typeName
  | sequence depth access items _ hypothesis => exact .sequence depth access items hypothesis
  | mapping depth access entries _ _ keyHypothesis hypothesis =>
      exact .mapping depth access entries keyHypothesis hypothesis
  | record depth cls fields _ hypothesis => exact .record depth cls fields hypothesis
  | holder depth attributes _ hypothesis => exact .holder depth attributes hypothesis
  | mention depth handle shape content here there _ hypothesis =>
      exact .mention depth handle shape content there here hypothesis

-- An object that a form leads to at some depth, and at no lower one.
def Cells.TightAt (cells later : Cells) (depth handle : Nat) : Prop :=
  ∃ shape, (Form.elsewhere handle shape).Shared cells later (depth + 1) ∧
    ¬ (Form.elsewhere handle shape).Shared cells later depth

theorem tight_mention (depth : Nat) {deep : Nat} {form : Form} (shared : form.Shared cells later deep) :
    deep = depth + 1 → form.Shared cells later depth ∨ ∃ handle, cells.TightAt later depth handle := by
  by_cases tight : ∃ handle, cells.TightAt later depth handle
  · exact fun _ => .inr tight
  · induction shared with
    | scalar _ s => exact fun _ => .inl (.scalar depth s)
    | member _ typeName => exact fun _ => .inl (.member depth typeName)
    | sequence _ access items _ hypothesis =>
        intro same
        exact .inl (.sequence depth access items fun item member => (hypothesis item member same).resolve_right tight)
    | mapping _ access entries _ _ keyHypothesis hypothesis =>
        intro same
        exact .inl (.mapping depth access entries
          (fun entry member => (keyHypothesis entry member same).resolve_right tight)
          fun entry member => (hypothesis entry member same).resolve_right tight)
    | record _ cls fields _ hypothesis =>
        intro same
        exact .inl (.record depth cls fields fun field member => (hypothesis field member same).resolve_right tight)
    | holder _ attributes _ hypothesis =>
        intro same
        exact .inl (.holder depth attributes fun field member => (hypothesis field member same).resolve_right tight)
    | mention inner handle shape content here there below _ =>
        intro same
        obtain rfl : inner = depth := Nat.succ.inj same
        by_contra neither
        exact tight ⟨handle, shape, .mention inner handle shape content here there below,
          fun less => neither (.inl less)⟩

theorem content_present (handle : Nat) (content : Value) (here : cells.at? handle = some content) :
    handle < cells.size := by
  by_contra beyond
  have absent : cells[handle]? = none := Array.getElem?_eq_none (Nat.le_of_not_lt beyond)
  rw [Cells.at?, absent] at here
  cases here

-- Under an object at some depth there is one at every lower depth.
theorem tight_chain (depth : Nat) : ∀ form : Form, form.Shared cells later (depth + 1) →
    ¬ form.Shared cells later depth →
      ∀ level ≤ depth, ∃ handle, handle < cells.size ∧ cells.TightAt later level handle := by
  induction depth with
  | zero =>
      intro form shared deeper level least
      obtain rfl : level = 0 := Nat.le_zero.mp least
      obtain ⟨handle, tight⟩ := (tight_mention 0 shared rfl).resolve_left deeper
      obtain ⟨shape, known, _⟩ := id tight
      cases known with
      | mention _ _ _ content here _ _ => exact ⟨handle, content_present handle content here, tight⟩
  | succ depth hypothesis =>
      intro form shared deeper level least
      obtain ⟨handle, tight⟩ := (tight_mention (depth + 1) shared rfl).resolve_left deeper
      obtain ⟨shape, known, least'⟩ := id tight
      cases known with
      | mention _ _ _ content here there below =>
          by_cases top : level = depth + 1
          · subst top
            exact ⟨handle, content_present handle content here, tight⟩
          · refine hypothesis content.form below (fun less => least' ?_) level (by omega)
            exact .mention depth handle shape content here there less

theorem tight_once {first second handle : Nat} (tight : cells.TightAt later first handle)
    (again : cells.TightAt later second handle) : ¬ first < second := by
  intro less
  obtain ⟨shape, known, _⟩ := tight
  obtain ⟨_, _, least⟩ := again
  cases known with
  | mention _ _ _ content here there below =>
      exact least (shared_deeper (.mention first handle _ content here there below) less)

-- No object is inside itself, so a way down has at most as many as there are.
theorem shared_within {depth : Nat} {form : Form} (shared : form.Shared cells later depth) :
    form.Shared cells later (min depth cells.size) := by
  induction depth with
  | zero => exact shared_deeper shared (Nat.zero_le _)
  | succ depth hypothesis =>
      by_cases less : form.Shared cells later depth
      · exact shared_deeper (hypothesis less) (min_le_min_right _ (Nat.le_succ depth))
      · have chain := tight_chain depth form shared less
        choose handle present tight using fun level : Fin (depth + 1) => chain level (Nat.le_of_lt_succ level.isLt)
        have injective : Function.Injective fun level => (⟨handle level, present level⟩ : Fin cells.size) := by
          intro first second same
          have same : handle first = handle second := Fin.mk.inj same
          have again := tight second
          rw [← same] at again
          exact Fin.ext (Nat.le_antisymm (Nat.le_of_not_lt (tight_once again (tight first)))
            (Nat.le_of_not_lt (tight_once (tight first) again)))
        have enough : depth + 1 ≤ cells.size := by simpa using Fintype.card_le_of_injective _ injective
        rw [Nat.min_eq_left enough]
        exact shared

theorem equals_agree (a b : Value) (heldA : ∀ cells : Cells, a.hold.run cells = (a, cells))
    (heldB : ∀ cells : Cells, b.hold.run cells = (b, cells)) (size : cells.size ≤ later.size) (depth deep : Nat)
    (left : a.form.Shared cells later depth) (right : b.form.Shared cells later deep) :
    later.equals a b = cells.equals a b := by
  have within := shared_within left
  have withinToo := shared_within right
  rw [equals_shared a b (heldA cells) (heldB cells) _ _ within withinToo,
    equals_shared a b (heldA later) (heldB later) _ _ (shared_symm within) (shared_symm withinToo)]
  have enough (count : Nat) (most : cells.size ≤ count) :
      min depth cells.size + min deep cells.size ≤ (count + 1) * (count + 1) := by
    calc min depth cells.size + min deep cells.size ≤ count + count := by omega
      _ ≤ (count + 1) * (count + 1) := by
        rw [Nat.add_mul, Nat.mul_add]
        omega
  exact congrArg Except.ok (same_contents_agree _ _ _ _ (enough later.size size) (enough cells.size (Nat.le_refl _)) _ _
    (shared_symm within) (shared_symm withinToo))

end Agreeing

section Values

variable {cells later : Cells} {depth : Nat}

theorem composed_shared {form : Form} (composed : form.Composed (Form.Shared cells later depth)) :
    form.Shared cells later depth := by
  induction composed with
  | given form is => exact is
  | scalar s => exact .scalar depth s
  | member typeName => exact .member depth typeName
  | sequence items _ hypothesis => exact .sequence depth .fixed items hypothesis
  | mapping entries _ _ keyHypothesis hypothesis => exact .mapping depth .fixed entries keyHypothesis hypothesis
  | record cls fields _ _ hypothesis => exact .record depth cls fields hypothesis

-- The form of a lasting value is shared where the forms of its pieces are.
theorem pieces_shared (value : Value) (fixed : ∀ shape, value.shape? = some shape → value.isLasting = true)
    (keys : value.PlainKeys) (each : ∀ part ∈ value.pieces, part.form.Shared cells later depth) :
    value.form.Shared cells later depth :=
  composed_shared (pieces_composed value fixed keys fun part member => .given _ (each part member))

end Values

theorem in_place_shared {cells later : Cells} {depth : Nat} (value : Value) (inPlace : value.InPlace) :
    value.form.Shared cells later depth := by
  induction inPlace with
  | intro value unheld rigid keys _ hypothesis =>
      exact pieces_shared value (rigid_lasting value unheld rigid) keys hypothesis

theorem anchored_shared {cells later : Cells} {bound : Nat} {value : Value} (anchored : cells.Anchored bound value) :
    cells.Keeps later value → value.form.Shared cells later bound := by
  induction anchored with
  | inPlace bound value here => exact fun _ => in_place_shared value here
  | mention bound handle shape content below cell own is lasting keys parts hypothesis =>
      intro kept
      have there : later[handle]? = some (.contents content) := by rw [kept.same handle (.here handle shape), cell]
      have inside : content.form.Shared cells later handle :=
        pieces_shared content (fun _ _ => lasting) keys fun part member =>
          hypothesis part member (keeps_part kept cell member)
      exact shared_deeper (.mention handle handle shape content (cell_content cells handle content cell)
        (cell_content later handle content there) inside) below

end Schemata
