import Mathlib.Data.List.TakeWhile
import Schemata.Proofs.Importing

set_option autoImplicit false

/-!
What a target leads to. A target is spelled with its first colon between the name of a module and a path; the module
is imported and the path is followed from it, name by name. A load gives the document or schema at the end of the
path, and otherwise says which of these was the first not to be.
-/

namespace Schemata

namespace Target

-- How a target is written: no colon is in the name of the module, and any may be in the path.
structure Spells (target : Target) (text : String) : Prop where
  joined : text = target.moduleName ++ ":" ++ target.path
  clear : ':' ∉ target.moduleName.toList
  named : target.moduleName ≠ ""
  led : target.path ≠ ""

theorem parse_some_iff (text : String) (target : Target) : parse? text = some target ↔ target.Spells text := by
  rw [parse?]
  constructor
  · intro parsed
    split at parsed
    · rename_i c name colon d path before after
      cases parsed
      have whole := List.takeWhile_append_dropWhile (p := (· ≠ ':')) (l := text.toList)
      have here : colon = ':' := by
        have stopped := List.head?_dropWhile_not (· ≠ ':') text.toList
        rw [after] at stopped
        simpa using stopped
      rw [before, after, here] at whole
      refine ⟨?_, fun inside => ?_, by simp, by simp⟩
      · rw [← String.toList_inj, ← whole]
        simp
      · rw [String.toList_ofList, ← before] at inside
        simpa using List.mem_takeWhile_imp inside
    · nomatch parsed
  · rintro ⟨rfl, clear, named, led⟩
    obtain ⟨moduleName, path⟩ := target
    have other : ∀ c ∈ moduleName.toList, decide (c ≠ ':') = true := fun c inside =>
      decide_eq_true fun same => clear (same ▸ inside)
    have cut : (moduleName ++ ":" ++ path).toList = moduleName.toList ++ ':' :: path.toList := by simp
    simp only [cut, List.takeWhile_append_of_pos other, List.dropWhile_append_of_pos other]
    cases first : moduleName.toList with
    | nil => exact absurd (String.toList_eq_nil_iff.mp first) named
    | cons c name =>
        cases second : path.toList with
        | nil => exact absurd (String.toList_eq_nil_iff.mp second) led
        | cons d rest =>
            have again : moduleName = String.ofList (c :: name) := by rw [← first, String.ofList_toList]
            have same : path = String.ofList (d :: rest) := by rw [← second, String.ofList_toList]
            simp [again, same]

theorem parse_none_iff (text : String) : parse? text = none ↔ ∀ target : Target, ¬target.Spells text := by
  rw [Option.eq_none_iff_forall_ne_some]
  exact forall_congr' fun target => not_congr (parse_some_iff text target)

end Target

-- A document, or a schema of any variant.
inductive Value.IsDocument : Value → Prop where
  | model (handle : Handle) (m : Model) : IsDocument (.model handle m)
  | schema (handle : Handle) (s : Schema) : IsDocument (.schema handle s)

theorem Finding.document_some_iff (finding : Finding) (document : Value) :
    finding.document? = some document ↔ finding = .value document ∧ document.IsDocument := by
  constructor
  · intro found
    rw [Finding.document?.eq_def] at found
    split at found
    · cases found
      exact ⟨rfl, .model ..⟩
    · cases found
      exact ⟨rfl, .schema ..⟩
    · nomatch found
  · rintro ⟨rfl, document⟩
    cases document with
    | model => rfl
    | schema => rfl

namespace Registry

-- The names of a path are followed from what was found, each in what is seen of the object before it.
inductive Follows (registry : Registry) : Cells → Finding → List String → Except Fault Finding → Prop where
  | last (cells : Cells) (finding : Finding) :
      Follows registry cells finding [] (.ok (finding.entered cells registry.depth).1)
  | next {cells : Cells} {finding found : Finding} {name : String} {rest : List String}
      {result : Except Fault Finding} :
      registry.find name (finding.entered cells registry.depth).1 = .ok found →
      Follows registry (finding.entered cells registry.depth).2 found rest result →
      Follows registry cells finding (name :: rest) result
  | stop {cells : Cells} {finding : Finding} {name : String} {rest : List String} {fault : Fault} :
      registry.find name (finding.entered cells registry.depth).1 = .error fault →
      Follows registry cells finding (name :: rest) (.error fault)

-- What the names of a path lead to from a module, of which the first is an attribute of the module.
inductive Leads (registry : Registry) (module : Module) : List String → Except Fault Finding → Prop where
  | next {found : Finding} {name : String} {rest : List String} {result : Except Fault Finding} :
      module.find registry.answer name = .ok found → registry.Follows registry.cells found rest result →
      Leads registry module (name :: rest) result
  | stop {name : String} {rest : List String} {fault : Fault} :
      module.find registry.answer name = .error fault → Leads registry module (name :: rest) (.error fault)

theorem follow_cons {σ : Type} (cells : Cells) (limit : Nat) (take : σ → Finding → Except Fault Finding) (step : σ)
    (rest : List σ) (finding : Finding) :
    cells.follow limit take (step :: rest) finding = (take step (finding.entered cells limit).1).bind fun found =>
      (finding.entered cells limit).2.follow limit take rest found := rfl

theorem follows_iff (registry : Registry) (names : List String) :
    ∀ (cells : Cells) (finding : Finding) (result : Except Fault Finding),
      registry.Follows cells finding names result ↔
        cells.follow registry.depth registry.find names finding = result := by
  induction names with
  | nil =>
      intro cells finding result
      rw [Cells.follow]
      constructor
      · rintro ⟨⟩
        rfl
      · rintro rfl
        exact .last cells finding
  | cons name rest hypothesis =>
      intro cells finding result
      rw [follow_cons]
      constructor
      · intro follows
        cases follows with
        | next found later =>
            rw [found]
            exact (hypothesis _ _ result).mp later
        | stop stopped =>
            rw [stopped]
            rfl
      · intro followed
        cases step : registry.find name (finding.entered cells registry.depth).1 with
        | ok found =>
            rw [step] at followed
            exact .next step ((hypothesis _ _ result).mpr followed)
        | error fault =>
            rw [step] at followed
            obtain rfl : Except.error fault = result := followed
            exact .stop step

theorem leads_iff (registry : Registry) (module : Module) (names : List String) (some : names ≠ [])
    (result : Except Fault Finding) : registry.Leads module names result ↔ registry.reach module names = result := by
  cases names with
  | nil => exact absurd rfl some
  | cons name rest =>
      have reached : registry.reach module (name :: rest) = (module.find registry.answer name).bind fun found =>
        registry.cells.follow registry.depth registry.find rest found := rfl
      rw [reached]
      constructor
      · intro leads
        cases leads with
        | next found later =>
            rw [found]
            exact (registry.follows_iff rest _ _ result).mp later
        | stop stopped =>
            rw [stopped]
            rfl
      · intro followed
        cases first : module.find registry.answer name with
        | ok found =>
            rw [first] at followed
            exact .next first ((registry.follows_iff rest _ _ result).mpr followed)
        | error fault =>
            rw [first] at followed
            obtain rfl : Except.error fault = result := followed
            exact .stop first

theorem leads_total (registry : Registry) (module : Module) (path : String) :
    ∃! result, registry.Leads module (Text.split '.' path) result := by
  have some : Text.split '.' path ≠ [] := ((Text.split_iff '.' path _).mp rfl).1
  refine ⟨registry.reach module (Text.split '.' path), (registry.leads_iff module _ some _).mpr rfl, ?_⟩
  exact fun other leads => ((registry.leads_iff module _ some other).mp leads).symm

-- The module of a target that is there, in a registry.
def Holds (registry : Registry) (target : Target) (module : Module) : Prop :=
  module.name = target.moduleName ∧ registry.Imports module

-- What comes of a load, with what is reported: one clause for each thing that can go wrong, in their order.
inductive Loads (registry : Registry) (text : String) : Except LoadError Value → List Event → Prop where
  | malformed (none : ∀ target : Target, ¬target.Spells text) : Loads registry text (.error (.malformed text)) []
  | unimported (target : Target) (e : LoadError) (spells : target.Spells text)
      (failed : registry.importModule target.moduleName = .error e) :
      Loads registry text (.error e) [.importing target.moduleName]
  | astray (target : Target) (module : Module) (fault : Fault) (spells : target.Spells text)
      (holds : registry.Holds target module)
      (leads : registry.Leads module (Text.split '.' target.path) (.error fault)) :
      Loads registry text (.error (.ofFault target fault)) [.importing target.moduleName]
  | other (target : Target) (module : Module) (finding : Finding) (spells : target.Spells text)
      (holds : registry.Holds target module) (leads : registry.Leads module (Text.split '.' target.path) (.ok finding))
      (none : ∀ document, finding = .value document → ¬document.IsDocument) :
      Loads registry text (.error (.notDocument text finding.typeName)) [.importing target.moduleName]
  | found (target : Target) (module : Module) (document : Value) (spells : target.Spells text)
      (holds : registry.Holds target module)
      (leads : registry.Leads module (Text.split '.' target.path) (.ok (.value document)))
      (right : document.IsDocument) :
      Loads registry text (.ok document) [.importing target.moduleName, .loaded document.typeName text]

theorem load_answered {registry : Registry} {text : String} {target : Target} {document : Value} {loaded : Event}
    (spells : target.Spells text) (resolved : registry.resolve text target = .ok (document, loaded)) :
    registry.load text = ⟨.ok document, [.importing target.moduleName, loaded]⟩ := by
  rw [load, (Target.parse_some_iff text target).mpr spells]
  simp only [resolved]

theorem load_failed {registry : Registry} {text : String} {target : Target} {e : LoadError}
    (spells : target.Spells text) (failed : registry.resolve text target = .error e) :
    registry.load text = ⟨.error e, [.importing target.moduleName]⟩ := by
  rw [load, (Target.parse_some_iff text target).mpr spells]
  simp only [failed]

theorem resolve_failed (registry : Registry) (text : String) (target : Target) (e : LoadError)
    (failed : registry.importModule target.moduleName = .error e) : registry.resolve text target = .error e := by
  rw [resolve, failed]
  rfl

theorem resolve_reached (registry : Registry) (text : String) (target : Target) (module : Module)
    (holds : registry.Holds target module) (result : Except Fault Finding)
    (leads : registry.Leads module (Text.split '.' target.path) result) :
    (∀ fault, result = .error fault → registry.resolve text target = .error (.ofFault target fault)) ∧
      ∀ finding, result = .ok finding →
        (finding.document? = none → registry.resolve text target = .error (.notDocument text finding.typeName)) ∧
        ∀ document, finding.document? = some document →
          registry.resolve text target = .ok (document, .loaded finding.typeName text) := by
  have some : Text.split '.' target.path ≠ [] := ((Text.split_iff '.' target.path _).mp rfl).1
  have imported := (registry.import_module_iff target.moduleName module).mpr holds
  have reached := (registry.leads_iff module _ some result).mp leads
  refine ⟨fun fault same => ?_, fun finding same => ⟨fun none => ?_, fun document found => ?_⟩⟩
  all_goals
    rw [same] at reached
    rw [resolve, imported]
    simp only [bind, Except.bind, reached]
  · simp only [none]
  · simp only [found]
    rfl

theorem loads_iff (registry : Registry) (text : String) (result : Except LoadError Value) (events : List Event) :
    registry.Loads text result events ↔ registry.load text = ⟨result, events⟩ := by
  constructor
  · intro loads
    cases loads with
    | malformed none => rw [load, (Target.parse_none_iff text).mpr none]
    | unimported target e spells failed => exact load_failed spells (registry.resolve_failed text target e failed)
    | astray target module fault spells holds leads =>
        exact load_failed spells ((registry.resolve_reached text target module holds _ leads).1 fault rfl)
    | other target module finding spells holds leads none =>
        refine load_failed spells (((registry.resolve_reached text target module holds _ leads).2 finding rfl).1 ?_)
        refine Option.eq_none_iff_forall_ne_some.mpr fun document same => ?_
        obtain ⟨is, right⟩ := (finding.document_some_iff document).mp same
        exact none document is right
    | found target module document spells holds leads right =>
        have reached := ((registry.resolve_reached text target module holds _ leads).2 _ rfl).2 document
        exact load_answered spells (reached ((Finding.document_some_iff _ document).mpr ⟨rfl, right⟩))
  · intro loaded
    cases parsed : Target.parse? text with
    | none =>
        rw [load, parsed] at loaded
        cases loaded
        exact .malformed ((Target.parse_none_iff text).mp parsed)
    | some target =>
        have spells := (Target.parse_some_iff text target).mp parsed
        cases imported : registry.importModule target.moduleName with
        | error e =>
            cases (load_failed spells (registry.resolve_failed text target e imported)).symm.trans loaded
            exact .unimported target e spells imported
        | ok module =>
            have holds := (registry.import_module_iff target.moduleName module).mp imported
            obtain ⟨reached, leads, _⟩ := registry.leads_total module target.path
            obtain ⟨failed, ended⟩ := registry.resolve_reached text target module holds reached leads
            cases reached with
            | error fault =>
                cases (load_failed spells (failed fault rfl)).symm.trans loaded
                exact .astray target module fault spells holds leads
            | ok finding =>
                cases named : finding.document? with
                | none =>
                    cases (load_failed spells ((ended finding rfl).1 named)).symm.trans loaded
                    refine .other target module finding spells holds leads fun document same right => ?_
                    nomatch named.symm.trans ((finding.document_some_iff document).mpr ⟨same, right⟩)
                | some document =>
                    cases (load_answered spells ((ended finding rfl).2 document named)).symm.trans loaded
                    obtain ⟨rfl, right⟩ := (finding.document_some_iff document).mp named
                    exact .found target module document spells holds leads right

theorem loads_value {registry : Registry} {text : String} {result : Except LoadError Value}
    (loaded : (registry.load text).value = result) : ∃ events, registry.Loads text result events :=
  ⟨(registry.load text).events, (registry.loads_iff text result _).mpr (by rw [← loaded])⟩

-- A load is refused as a wrong target is, with a message.
def Refuses (registry : Registry) (text message : String) : Prop :=
  ∃ e, (registry.load text).value = .error e ∧ e.isOfTarget = true ∧ e.message = message

-- An attribute on the way to a target is there or missing.
def Tells (registry : Registry) (target : Target) : Prop :=
  ∀ module fault, registry.Holds target module →
    registry.Leads module (Text.split '.' target.path) (.error fault) → fault.isMissing = true

-- A schema without parts is kept in place.
theorem null_held (title description : Scalar) (cells : Cells) :
    (Value.schema none (.null ⟨.scalar title, .scalar description, []⟩)).hold.run cells =
      (.schema none (.null ⟨.scalar title, .scalar description, []⟩), cells) := by
  have scalar (s : Scalar) : (Value.scalar s).hold = pure (.scalar s) := by
    rw [Value.hold]
    rfl
  rw [Value.hold]
  simp only [Value.shape?, Value.handle?, Value.mapParts, mapLabels, mapItems, scalar]
  rfl

theorem null_followed (registry : Registry) (title description : Scalar) (cells : Cells) :
    registry.Follows cells (.value (.schema none (.null ⟨.scalar title, .scalar description, []⟩))) []
      (.ok (.value (.schema none (.null ⟨.scalar title, .scalar description, []⟩)))) := by
  have last : registry.Follows _ _ [] _ :=
    .last cells (.value (.schema none (.null ⟨.scalar title, .scalar description, []⟩)))
  rw [Finding.entered, null_held] at last
  exact last

-- A schema in an object of a module.
def keptNode : Value := .schema none (.null ⟨.null, .null, []⟩)

def keeper : Value := .holder none [("node", keptNode)]

def keeperModule : Module := ⟨"m", [("keeper", .value keeper)]⟩

def keeping : Registry := { modules := [("m", [("keeper", .value keeper)])] }

theorem keeper_entered : (Finding.value keeper).entered #[] 1 =
    (.value (.holder (some 0) [("node", keptNode)]), #[.contents (.holder (some 0) [("node", keptNode)])]) := by
  have held : keeper.hold.run #[] = (.elsewhere 0 .holder, #[.contents (.holder (some 0) [("node", keptNode)])]) := by
    rw [keeper, Value.hold]
    simp only [Value.shape?, Value.handle?, Value.mapParts, mapEntries, StateT.run_bind, keptNode, Value.null, null_held]
    rfl
  rw [Finding.entered, held]
  rfl

theorem keeper_leads : keeping.Leads keeperModule ["keeper", "node"] (.ok (.value keptNode)) := by
  have here : keeperModule.find keeping.answer "keeper" = .ok (.value keeper) := rfl
  have inside : keeping.find "node" ((Finding.value keeper).entered keeping.cells keeping.depth).1 =
      .ok (.value keptNode) := by
    change keeping.find "node" ((Finding.value keeper).entered #[] 1).1 = _
    rw [keeper_entered]
    rfl
  exact .next here (.next inside (keeping.null_followed .null .null _))

theorem keeper_spells (target : Target) : target.Spells "m:keeper.node" ↔ target = ⟨"m", "keeper.node"⟩ := by
  have parsed : Target.parse? "m:keeper.node" = some ⟨"m", "keeper.node"⟩ := by decide
  rw [← Target.parse_some_iff, parsed, Option.some.injEq, eq_comm]

theorem keeper_tells : keeping.Tells ⟨"m", "keeper.node"⟩ := by
  intro module fault holds astray
  obtain rfl : module = keeperModule := Except.ok.inj ((keeping.import_module_iff "m" module).mpr holds).symm
  exact nomatch ((keeping.leads_total keeperModule "keeper.node").unique astray keeper_leads)

-- A load ends with an error that is not one of a wrong target.
def Escapes (registry : Registry) (text : String) (e : LoadError) : Prop :=
  (registry.load text).value = .error e ∧ e.isOfTarget = false

-- What a load ends with, when what it asks on the way is no more than a wrong target for it.
inductive Ends (registry : Registry) (text : String) : Prop where
  | found (document : Value) (loaded : (registry.load text).value = .ok document) (right : document.IsDocument)
  | refused (message : String) (refuses : registry.Refuses text message)

theorem ends_or_escapes (registry : Registry) (text : String) :
    registry.Ends text ∨ ∃ e, registry.Escapes text e := by
  cases loaded : (registry.load text).value with
  | ok document =>
      obtain ⟨events, loads⟩ := loads_value loaded
      cases loads with
      | found target module document spells holds leads right => exact .inl (.found document loaded right)
  | error e =>
      cases wrong : e.isOfTarget with
      | true => exact .inl (.refused e.message ⟨e, loaded, wrong, rfl⟩)
      | false => exact .inr ⟨e, loaded, wrong⟩

theorem escapes_iff (registry : Registry) (text : String) (e : LoadError) :
    registry.Escapes text e ↔ ∃ target : Target, target.Spells text ∧
      ((target.moduleName.toList.head? = some '.' ∧ e = .relative target.moduleName) ∨
        (∃ typeName, e = .unsearchable typeName ∧ registry.importModule target.moduleName = .error e) ∨
        ∃ module fault, registry.Holds target module ∧
          registry.Leads module (Text.split '.' target.path) (.error fault) ∧ fault.isMissing = false ∧
            e = .unanswered fault.message) := by
  constructor
  · rintro ⟨loaded, wrong⟩
    obtain ⟨events, loads⟩ := loads_value loaded
    cases loads with
    | malformed none => nomatch wrong
    | unimported target _ spells failed =>
        refine ⟨target, spells, ?_⟩
        obtain ⟨relative, same⟩ | ⟨_, ofImport | ⟨⟨typeName, same⟩, _⟩⟩ :=
          registry.import_module_error target.moduleName e failed
        · exact .inl ⟨relative, same⟩
        · cases ofImport <;> nomatch wrong
        · exact .inr (.inl ⟨typeName, same, failed⟩)
    | astray target module fault spells holds leads =>
        refine ⟨target, spells, .inr (.inr ⟨module, fault, holds, leads, ?_⟩)⟩
        cases missing : fault.isMissing with
        | true =>
            rw [LoadError.ofFault, if_pos missing] at wrong
            nomatch wrong
        | false =>
            rw [LoadError.ofFault, missing]
            exact ⟨rfl, rfl⟩
    | other target module finding spells holds leads none => nomatch wrong
  · rintro ⟨target, spells, ⟨relative, rfl⟩ | ⟨typeName, rfl, failed⟩ | ⟨module, fault, holds, leads, kept, rfl⟩⟩
    · have failed : registry.importModule target.moduleName = .error (.relative target.moduleName) := if_pos relative
      exact ⟨congrArg Reported.value ((registry.loads_iff text _ _).mp (.unimported target _ spells failed)), rfl⟩
    · exact ⟨congrArg Reported.value ((registry.loads_iff text _ _).mp (.unimported target _ spells failed)), rfl⟩
    · have loads := Loads.astray target module fault spells holds leads
      rw [LoadError.ofFault, if_neg (ne_true_of_eq_false kept)] at loads
      exact ⟨congrArg Reported.value ((registry.loads_iff text _ _).mp loads), rfl⟩

theorem load_escapes_relative (registry : Registry) (text : String) :
    (registry.Ends text ∨ ∃ e, registry.Escapes text e) ∧
      (∀ e, registry.Escapes text e ↔ ∃ target : Target, target.Spells text ∧
        ((target.moduleName.toList.head? = some '.' ∧ e = .relative target.moduleName) ∨
          (∃ typeName, e = .unsearchable typeName ∧ registry.importModule target.moduleName = .error e) ∨
          ∃ module fault, registry.Holds target module ∧
            registry.Leads module (Text.split '.' target.path) (.error fault) ∧ fault.isMissing = false ∧
              e = .unanswered fault.message)) ∧
      (registry.Searchable → (∀ target : Target, target.Spells text → registry.Tells target) →
        ((∃ e, registry.Escapes text e) ↔
          ∃ target : Target, target.Spells text ∧ target.moduleName.toList.head? = some '.')) := by
  refine ⟨registry.ends_or_escapes text, registry.escapes_iff text, fun searchable tells => ⟨?_, ?_⟩⟩
  · rintro ⟨e, escapes⟩
    obtain ⟨target, spells, ⟨relative, _⟩ | ⟨typeName, rfl, failed⟩ | ⟨module, fault, holds, leads, kept, _⟩⟩ :=
      (registry.escapes_iff text e).mp escapes
    · exact ⟨target, spells, relative⟩
    · obtain ⟨_, same⟩ | ⟨_, ofImport | ⟨_, unsearchable⟩⟩ := registry.import_module_error _ _ failed
      · nomatch same
      · nomatch ofImport
      · exact absurd searchable unsearchable
    · exact absurd (tells target spells module fault holds leads) (ne_true_of_eq_false kept)
  · rintro ⟨target, spells, relative⟩
    exact ⟨_, (registry.escapes_iff text _).mpr ⟨target, spells, .inl ⟨relative, rfl⟩⟩⟩

theorem kept_node_ends : keeping.Ends "m:keeper.node" ∧ ¬∃ e, keeping.Escapes "m:keeper.node" e := by
  have searchable : keeping.Searchable := by
    intro name attributes places found stated
    rw [keeping, List.lookup_cons] at found
    split at found
    · cases found
      nomatch stated
    · nomatch found
  obtain ⟨ends, _, relative⟩ := keeping.load_escapes_relative "m:keeper.node"
  have none : ¬∃ e, keeping.Escapes "m:keeper.node" e := by
    rw [relative searchable fun target spells => (keeper_spells target).mp spells ▸ keeper_tells]
    rintro ⟨target, spells, dot⟩
    obtain rfl := (keeper_spells target).mp spells
    exact absurd dot (by decide)
  exact ⟨ends.resolve_right none, none⟩

-- No module, and a name that is relative to none.
theorem relative_target_unrefused :
    (⟨".x", "y"⟩ : Target).Spells ".x:y" ∧
      (Registry.load { modules := [] } ".x:y").value = .error (.relative ".x") ∧
      (∀ message, ¬Registry.Refuses { modules := [] } ".x:y" message) ∧
      ¬Registry.Ends { modules := [] } ".x:y" := by
  have spells : (⟨".x", "y"⟩ : Target).Spells ".x:y" := (Target.parse_some_iff _ _).mp (by decide)
  have loaded : (Registry.load { modules := [] } ".x:y").value = .error (.relative ".x") :=
    congrArg Reported.value ((Registry.loads_iff _ _ _ _).mp (.unimported ⟨".x", "y"⟩ (.relative ".x") spells rfl))
  have unrefused : ∀ message, ¬Registry.Refuses { modules := [] } ".x:y" message := by
    rintro message ⟨e, refused, wrong, _⟩
    obtain rfl := Except.error.inj (loaded.symm.trans refused)
    nomatch wrong
  refine ⟨spells, loaded, unrefused, fun ends => ?_⟩
  cases ends with
  | found document found _ => nomatch loaded.symm.trans found
  | refused message refuses => exact unrefused message refuses

end Registry
end Schemata
