import Schemata.Proofs.Callers

set_option autoImplicit false

/-!
Fingerprints through a session. What has a fingerprint leads to nothing that can be edited, so it is never changed
by what a caller does, and neither is its fingerprint, taken anew or remembered.
-/

namespace Schemata

-- The value is an object that is there, or needs no cell: to hold it adds nothing.
def Value.IsHeldAs (value held : Value) : Prop := ∀ cells : Cells, value.hold.run cells = (held, cells)

theorem editable_shapes (shape : Shape) :
    shape.isEditable = true ↔ shape ∈ [Shape.list, .table, .record .settings, .holder] := by
  cases shape with
  | record cls => cases cls <;> decide
  | _ => decide

namespace Workspace

variable {w : Workspace}

theorem solid_marked (right : w.RemembersRight) {value : Value} (solid : value.Solid w.cells) :
    ∃ mark, w.digest value = .ok mark := by
  have rightHere : (w.holding value).RemembersRight := right_extends right (hold_extends value w.cells)
  rw [digest_holding]
  exact anchored_marked (right_taken rightHere) (hold_solid value w.cells solid).anchored _
    (Nat.lt_succ_of_lt (Nat.lt_succ_self _))

-- The workspace with a new frozen table of some entries.
def withTable (w : Workspace) (entries : List (Value × Value)) : Workspace :=
  { w with cells := w.cells.push (.contents (.frozen (some w.cells.size) entries)) }

-- A new table of the same entries is anchored where the old one is.
theorem new_table_anchored (handle : Nat) (entries : List (Value × Value))
    (cell : w.cells[handle]? = some (.contents (.frozen (some handle) entries)))
    (anchored : w.cells.Anchored w.cells.size (.elsewhere handle .frozen)) :
    (w.withTable entries).cells.Anchored (w.withTable entries).cells.size (.elsewhere w.cells.size .frozen) := by
  have extended : w.cells.Extends (w.withTable entries).cells := extends_push w.cells _
  cases anchored with
  | inPlace _ _ here => exact absurd here (in_place_unmentioned handle .frozen)
  | mention _ _ _ content below found _ _ _ keys parts =>
      obtain rfl : content = .frozen (some handle) entries := by simpa using found.symm.trans cell
      refine .mention _ w.cells.size .frozen (.frozen (some w.cells.size) entries) ?_ Array.getElem?_push_size rfl rfl
        rfl keys fun part member => ?_
      · rw [withTable, Array.size_push]
        exact Nat.lt_succ_self _
      · have kept := extends_keeps extended (parts part member)
        exact anchored_above (anchored_kept (parts part member) kept) (Nat.le_of_lt below)

-- A new table of the same entries has the fingerprint that is remembered of the old one.
theorem new_table_marked (sound : w.cells.Sound) (right : w.RemembersRight) (handle : Nat)
    (entries : List (Value × Value)) (cell : w.cells[handle]? = some (.contents (.frozen (some handle) entries)))
    (anchored : w.cells.Anchored w.cells.size (.elsewhere handle .frozen)) (fuel : Nat) (enough : handle < fuel)
    (mark : UInt64) (marked : w.unremembered.markOf fuel handle .frozen = .ok mark) :
    w.digest (.frozen none entries) = .ok mark := by
  have here : handle < w.cells.size := Cells.cell_present cell
  have rests : ∀ part ∈ (Value.frozen none entries).pieces, part.IsHeld := fun part member =>
    Cells.places_rests (Cells.fills_placed (Cells.sound_content sound cell) here part member)
  have extended : w.cells.Extends (w.withTable entries).cells := extends_push w.cells _
  have rightLater : (w.withTable entries).RemembersRight := right_extends right extended
  have larger : (w.withTable entries).cells.size = w.cells.size + 1 := Array.size_push _
  have unshown (known : Handle) (table : Nat) (other : Form) : (Value.frozen known entries).form ≠ .showing table other :=
    nofun
  rw [digest, pieces_pushed (.frozen none entries) .frozen rfl rfl rfl rests w.cells]
  change (w.withTable entries).digestForm ((w.withTable entries).cells.size + 2)
    (Value.elsewhere w.cells.size .frozen).form = .ok mark
  rw [remembered_agree rightLater (new_table_anchored handle entries cell anchored)
    ((w.withTable entries).cells.size + 2) _ (by omega) (by omega)]
  calc (w.withTable entries).unremembered.markOf ((w.withTable entries).cells.size + 1) w.cells.size .frozen
      = (w.withTable entries).unremembered.digestForm ((w.withTable entries).cells.size + 1)
          (Value.frozen (some w.cells.size) entries).form :=
        mark_entered _ _ w.cells.size .frozen _ Array.getElem?_push_size (unshown _) rfl
    _ = (w.withTable entries).unremembered.markOf ((w.withTable entries).cells.size + 1) handle .frozen :=
        (mark_entered (w.withTable entries).unremembered _ handle .frozen _ (extended handle _ cell) (unshown _) rfl).symm
    _ = .ok mark := by
        rw [← marked]
        exact unremembered_mark anchored (extends_keeps extended anchored) fuel _ enough (by omega)

-- What is remembered is what is found anew, for the table itself and for a new one with the same entries.
theorem remembered_again (sound : w.cells.Sound) (right : w.RemembersRight) (handle : Nat) (fingerprint : Fingerprint)
    (known : w.fingerprints.lookup handle = some fingerprint) :
    ∃ mark counted entries, fingerprint = .taken mark counted ∧
      w.cells[handle]? = some (.contents (.frozen (some handle) entries)) ∧
      w.unremembered.digest (.elsewhere handle .frozen) = .ok mark ∧ w.digest (.frozen none entries) = .ok mark := by
  obtain ⟨mark, counted, entries, rfl, cell, anchored, fuel, enough, marked⟩ := right handle fingerprint known
  refine ⟨mark, counted, entries, rfl, cell, ?_, ?_⟩
  · rw [digest_held _ _ _ (mention_rests handle .frozen), ← marked]
    exact unremembered_mark anchored (extends_keeps (extends_refl w.cells) anchored) fuel (w.cells.size + 1) enough
      (Nat.lt_succ_of_lt (Cells.cell_present cell))
  · exact new_table_marked sound right handle entries cell anchored fuel enough mark marked

theorem public_steps_kept {later : Workspace} (sound : w.cells.Sound) (right : w.RemembersRight)
    (steps : Relation.ReflTransGen PublicStep w later) : later.cells.Sound ∧ later.RemembersRight := by
  induction steps with
  | refl => exact ⟨sound, right⟩
  | tail _ step hypothesis => exact public_step_kept hypothesis.1 hypothesis.2 step

-- Whatever public steps are taken, the object has this fingerprint and tells what it tells now.
def KeepsMark (w : Workspace) (value held : Value) (mark : UInt64) : Prop :=
  ∀ later, Relation.ReflTransGen PublicStep w later → later.digest value = .ok mark ∧ w.TellsAlike later held

-- What once has a fingerprint is anchored.
theorem fingerprint_kept (sound : w.cells.Sound) (right : w.RemembersRight) {value held : Value}
    (inHand : value.InHand w.cells) (as : value.IsHeldAs held) (mark : UInt64) (marked : w.digest value = .ok mark) :
    w.KeepsMark value held mark := by
  intro later steps
  have stands := (Cells.hold_sound sound inHand).2
  rw [as w.cells] at stands
  change w.cells.Stands w.cells value held at stands
  rw [digest_held w value held as] at marked
  rcases anchored_or_unmarked sound right _ held stands.placed with anchored | unmarked
  · have lasting : Relation.ReflTransGen (SparingStep [held]) w later :=
      Relation.ReflTransGen.mono (fun _ _ step => public_step_spares step [held]) _ _ steps
    have kept := (steps_keep lasting (List.mem_singleton.mpr rfl) anchored).2
    refine ⟨?_, tells_alike anchored (Cells.places_rests stands.placed) kept⟩
    have size := kept.size
    rw [digest_held later value held as, ← marked]
    exact digest_kept right (public_steps_kept sound right steps).2 anchored kept _ _ (by omega) (by omega)
  · obtain ⟨name, reported⟩ := unmarked.reported _ (Nat.le_refl _)
    nomatch marked.symm.trans reported

theorem digest_named (w : Workspace) (names : List (String × Value)) (fuel : Nat) :
    digestForm { w with names := names } fuel = w.digestForm fuel := by
  induction fuel with
  | zero => rfl
  | succ fuel hypothesis =>
      funext form
      rw [digestForm, digestForm, hypothesis]

-- The same from when a value is kept under a name.
theorem named_kept (sound : w.cells.Sound) (right : w.RemembersRight) (name : String) {value : Value}
    (inHand : value.InHand w.cells) (mark : UInt64) (marked : w.digest value = .ok mark) :
    (w.set name value).KeepsMark (value.hold.run w.cells).1 (value.hold.run w.cells).1 mark := by
  obtain ⟨soundLater, rightLater⟩ := public_step_kept sound right (.set name value inHand)
  have placed := (Cells.hold_sound sound inHand).2.placed
  refine fingerprint_kept soundLater rightLater (Cells.places_in_hand placed) (Cells.places_rests placed) mark ?_
  rw [digest_held _ _ _ (Cells.places_rests placed), ← marked, digest_holding]
  exact congrFun (digest_named (w.holding value) (w.set name value).names _) _

-- A value has a fingerprint exactly where it leads to nothing that can be edited. So copies of raw values have one,
-- and so has all that is built. Once there is one it stays, and what is remembered is what would be found anew.
theorem fingerprints_never_stale (w : Workspace) (lasting : List Value) (session : w.PublicSession lasting) :
    (∀ value, value.InHand w.cells →
      ((∃ mark, w.digest value = .ok mark) ∨ ∃ name, w.digest value = .error (.unhashable name)) ∧
      ((∃ name, w.digest value = .error (.unhashable name)) ↔
        ∃ shape ∈ [Shape.list, .table, .record .settings, .holder], w.cells.Reaches value shape)) ∧
    (∀ raw : Value, raw.Json → ∃ copy mark, raw.frozenCopy = .ok copy ∧ w.digest copy = .ok mark) ∧
    (∀ node : Value, node.Built w.cells lasting → ∃ mark, w.digest node = .ok mark) ∧
    (∀ value held mark, value.InHand w.cells → value.IsHeldAs held → w.digest value = .ok mark →
      w.KeepsMark value held mark) ∧
    (∀ name value mark, value.InHand w.cells → w.digest value = .ok mark →
      (w.set name value).KeepsMark (value.hold.run w.cells).1 (value.hold.run w.cells).1 mark) ∧
    (∀ handle fingerprint, w.fingerprints.lookup handle = some fingerprint →
      ∃ mark counted entries, fingerprint = .taken mark counted ∧
        w.cells[handle]? = some (.contents (.frozen (some handle) entries)) ∧
        w.unremembered.digest (.elsewhere handle .frozen) = .ok mark ∧
        w.digest (.frozen none entries) = .ok mark) := by
  obtain ⟨before, sound, right⟩ := public_session_kept session
  refine ⟨fun value inHand => ?_, fun raw json => ?_, fun node built => ?_, ?_, ?_, remembered_again sound right⟩
  · rcases digest_in_hand sound right inHand with ⟨⟨mark, marked⟩, fixed⟩ | ⟨refused, shape, editable, reaches⟩
    · refine ⟨.inl ⟨mark, marked⟩, ?_, ?_⟩
      · rintro ⟨name, refused⟩
        nomatch marked.symm.trans refused
      · rintro ⟨shape, member, reaches⟩
        nomatch (fixed shape reaches).symm.trans ((editable_shapes shape).mpr member)
    · exact ⟨.inr refused, fun _ => ⟨shape, (editable_shapes shape).mp editable, reaches⟩, fun _ => refused⟩
  · obtain ⟨mark, marked⟩ := solid_marked right (freeze_solid w.cells raw json)
    refine ⟨raw.freeze, mark, ?_, marked⟩
    rw [Value.frozenCopy, check_nested raw (json_nested raw json)]
    rfl
  · exact solid_marked right (solid_when_built (session_anchored before) built)
  · exact fun value held mark inHand as marked => fingerprint_kept sound right inHand as mark marked
  · exact fun name value mark inHand marked => named_kept sound right name inHand mark marked

end Workspace

def deepTable : Value := .frozen none [(.text "a", .tuple none [.int 1])]

-- A frozen table around the first object.
def shallowTable : Value := .frozen none [(.text "a", .elsewhere 0 .list)]

def tableStart : Workspace := Workspace.set (Workspace.set {} "items" (.list none [.int 1])) "deep" deepTable

-- The fingerprint of the deep table is taken, and the list is made longer.
def tableLater : Workspace :=
  (tableStart.remember (.elsewhere 1 .frozen)).attempt (.elsewhere 0 .list) (.append (.int 2))

theorem int_rests (n : Int) : (Value.int n).IsHeld := plain_rests _ rfl

theorem table_start : tableStart =
    { names := [("items", .elsewhere 0 .list), ("deep", .elsewhere 1 .frozen)],
      cells := #[.contents (.list (some 0) [.int 1]),
        .contents (.frozen (some 1) [(.text "a", .tuple none [.int 1])])] } := by
  have tuple : (Value.tuple none [.int 1]).IsHeld :=
    pieces_rest _ .tuple rfl rfl rfl (List.forall_mem_singleton.mpr (int_rests 1)) (by decide)
  rw [tableStart, Workspace.set, Workspace.set,
    pieces_pushed (.list none [.int 1]) .list rfl rfl rfl (List.forall_mem_singleton.mpr (int_rests 1)),
    pieces_pushed deepTable .frozen rfl rfl rfl (List.forall_mem_singleton.mpr tuple)]
  rfl

theorem int_in_hand (cells : Cells) (n : Int) : (Value.int n).InHand cells :=
  Cells.solid_in_hand (scalar_solid cells (.int n))

theorem table_session : tableStart.PublicSession [] := by
  have items (cells : Cells) : (Value.list none [.int 1]).InHand cells :=
    .fresh _ rfl nofun (List.forall_mem_singleton.mpr (int_in_hand cells 1))
  have deep (cells : Cells) : deepTable.InHand cells := by
    refine Cells.solid_in_hand (frozen_solid cells _ (List.forall_mem_singleton.mpr ⟨_, rfl⟩) ?_)
    exact List.forall_mem_singleton.mpr
      (tuple_solid cells _ (List.forall_mem_singleton.mpr (scalar_solid cells (.int 1))))
  exact .step _ _ [] (.step {} _ [] .start (.set "items" _ (items #[]))) (.set "deep" _ (deep _))

theorem table_steps : Relation.ReflTransGen Workspace.PublicStep tableStart tableLater := by
  refine (Relation.ReflTransGen.single (.remember (.elsewhere 1 .frozen))).tail ?_
  exact .edit (.elsewhere 0 .list) (.append (.int 2)) rfl (int_in_hand _ 2)

theorem table_digest : ∃ mark, tableStart.digest (.elsewhere 1 .frozen) = .ok mark := by
  rw [Workspace.digest_held _ _ _ (mention_rests 1 .frozen), table_start]
  exact ⟨_, rfl⟩

theorem table_mentioned : (Value.elsewhere 1 .frozen).mentioned.run [] = (.elsewhere 1 .frozen, [1]) := by
  simp [Value.mentioned, Value.mapParts]
  rfl

-- Nothing else is behind the deep table.
theorem table_reached : tableStart.cells.reached tableStart.cells.size [1] = [1] := by
  have deep (found : List Nat) : ((Value.frozen (some 1) [(.text "a", .tuple none [.int 1])]).mentioned.run found).2 =
      found := by
    simp [Value.mentioned, Value.mapParts, mapEntries, mapItems, Value.int]
    rfl
  rw [table_start]
  change (if _ then _ else _) = _
  simp [Cells.shown?, Cells.at?, deep]

theorem table_remembered (mark : UInt64) (marked : tableStart.digest (.elsewhere 1 .frozen) = .ok mark) :
    ∃ counted, (tableStart.remember (.elsewhere 1 .frozen)).fingerprints = [(1, .taken mark counted)] := by
  have taken : tableStart.takeFingerprint? 1 =
      some (.taken mark (tableStart.cells.view 1 (.elsewhere 1 .frozen)).form.isCounted) := by
    rw [Workspace.takeFingerprint?]
    simp only [marked]
    rfl
  rw [Workspace.remember, mention_rests 1 .frozen tableStart.cells]
  simp only [table_mentioned, table_reached, List.filterMap_cons, taken]
  rw [table_start]
  exact ⟨_, rfl⟩

theorem table_later :
    tableLater.fingerprints = (tableStart.remember (.elsewhere 1 .frozen)).fingerprints ∧
      tableLater.cells[1]? = some (.contents (.frozen (some 1) [(.text "a", .tuple none [.int 1])])) := by
  have number : (Edit.append (.int 2)).value.hold.run tableStart.cells = (.int 2, tableStart.cells) := int_rests 2 _
  have same : (tableStart.remember (.elsewhere 1 .frozen)).cells = tableStart.cells := rfl
  rw [tableLater, Workspace.attempt, Workspace.edit, same, number, table_start]
  exact ⟨rfl, rfl⟩

theorem deep_table_keeps_fingerprint :
    tableStart.PublicSession [] ∧ (∃ name, tableStart.digest shallowTable = .error (.unhashable name)) ∧
      ∃ mark, tableStart.digest (.elsewhere 1 .frozen) = .ok mark ∧
        tableLater.digest (.elsewhere 1 .frozen) = .ok mark ∧
        (∃ counted, tableLater.fingerprints.lookup 1 = some (.taken mark counted)) ∧
          tableLater.digest deepTable = .ok mark := by
  obtain ⟨decided, _, _, kept, _, _⟩ := Workspace.fingerprints_never_stale tableStart [] table_session
  have first : tableStart.cells[0]? = some (.contents (.list (some 0) [.int 1])) := by rw [table_start]; rfl
  have second : tableStart.cells[1]? = some (.contents (.frozen (some 1) [(.text "a", .tuple none [.int 1])])) := by
    rw [table_start]; rfl
  have inner : (Value.elsewhere 0 .list).InHand tableStart.cells := .held _ 0 .list _ rfl rfl first rfl
  have shallow : shallowTable.InHand tableStart.cells := by
    refine .fresh _ rfl (fun _ => ?_) (List.forall_mem_singleton.mpr inner)
    exact List.forall_mem_singleton.mpr (scalar_whole (.text "a"))
  have deep : (Value.elsewhere 1 .frozen).InHand tableStart.cells := .held _ 1 .frozen _ rfl rfl second rfl
  refine ⟨table_session, (decided shallowTable shallow).2.mpr ⟨.list, List.mem_cons_self, ?_⟩, ?_⟩
  · exact .through _ (.elsewhere 0 .list) .list rfl List.mem_cons_self (.here _ .list rfl)
  · obtain ⟨mark, marked⟩ := table_digest
    obtain ⟨counted, remembered⟩ := table_remembered mark marked
    obtain ⟨same, there⟩ := table_later
    have known : tableLater.fingerprints.lookup 1 = some (.taken mark counted) := by
      rw [same, remembered]
      rfl
    have session : tableLater.PublicSession [] := .step _ _ [] (.step _ _ [] table_session (.remember _))
      (.edit (.elsewhere 0 .list) (.append (.int 2)) rfl (int_in_hand _ 2))
    obtain ⟨_, _, _, _, _, again⟩ := Workspace.fingerprints_never_stale tableLater [] session
    obtain ⟨_, _, entries, taken, cell, _, anew⟩ := again 1 _ known
    obtain ⟨rfl, rfl⟩ := Fingerprint.taken.inj taken
    obtain rfl : entries = [(.text "a", .tuple none [.int 1])] := by simpa using cell.symm.trans there
    exact ⟨mark, marked, (kept _ _ mark deep (mention_rests 1 .frozen) marked tableLater table_steps).1,
      ⟨counted, known⟩, anew⟩

end Schemata
