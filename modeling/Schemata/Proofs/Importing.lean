import Mathlib.Data.List.Basic
import Schemata.Target

set_option autoImplicit false

/-!
Names with dots, and the modules that they name. A text is cut into the pieces that joined again are the text, and
none of which has the separator in it. A module is imported when every module that its name leads through is there
and lets itself be imported; otherwise there is a reason that names it.
-/

namespace Schemata

namespace Text

theorem pieces_split_on (separator : Char) (cs : List Char) : pieces separator cs = cs.splitOn separator := by
  induction cs with
  | nil => rfl
  | cons c rest hypothesis =>
      rw [pieces, List.splitOn_cons_eq_if_modifyHead, hypothesis]
      simp only [beq_iff_eq]
      split
      · rfl
      · cases cut : rest.splitOn separator with
        | nil => exact absurd cut (List.splitOn_ne_nil separator rest)
        | cons piece others => rfl

theorem pieces_clear (separator : Char) (cs : List Char) : ∀ piece ∈ pieces separator cs, separator ∉ piece := by
  induction cs with
  | nil => simp [pieces]
  | cons c rest hypothesis =>
      rw [pieces]
      split
      · exact List.forall_mem_cons.mpr ⟨List.not_mem_nil, hypothesis⟩
      · rename_i other
        split
        · exact List.forall_mem_singleton.mpr fun here => other (List.mem_singleton.mp here).symm
        · rename_i piece others cut
          rw [cut] at hypothesis
          obtain ⟨first, later⟩ := List.forall_mem_cons.mp hypothesis
          refine List.forall_mem_cons.mpr ⟨fun here => ?_, later⟩
          exact (List.mem_cons.mp here).elim (fun same => other same.symm) first

theorem toList_pieces (separator : Char) (text : String) :
    (split separator text).map String.toList = text.toList.splitOn separator := by
  rw [split, List.map_map, pieces_split_on]
  exact (List.map_congr_left fun piece _ => String.toList_ofList).trans (List.map_id _)

-- The pieces of a text are the texts without the separator that give the text when they are joined by it.
theorem split_iff (separator : Char) (text : String) (parts : List String) :
    split separator text = parts ↔
      parts ≠ [] ∧ (∀ part ∈ parts, separator ∉ part.toList) ∧ (String.singleton separator).intercalate parts = text := by
  constructor
  · rintro rfl
    refine ⟨fun none => ?_, fun part member => ?_, ?_⟩
    · have cut := toList_pieces separator text
      rw [none] at cut
      exact List.splitOn_ne_nil separator text.toList cut.symm
    · obtain ⟨piece, inside, rfl⟩ := List.mem_map.mp member
      rw [String.toList_ofList]
      exact pieces_clear separator text.toList piece inside
    · rw [← String.toList_inj, String.toList_intercalate, String.toList_singleton, toList_pieces]
      exact List.intercalate_splitOn separator
  · rintro ⟨some, clear, rfl⟩
    have cut := toList_pieces separator ((String.singleton separator).intercalate parts)
    rw [String.toList_intercalate, String.toList_singleton,
      List.splitOn_intercalate separator (List.forall_mem_map.mpr clear) (by simpa using some)] at cut
    exact List.map_injective_iff.mpr (fun _ _ => String.toList_inj.mp) cut

end Text

-- Parts of a name, joined by dots.
def dotted (parts : List String) : String := ".".intercalate parts

theorem dotted_split (name : String) : dotted (Text.split '.' name) = name :=
  ((Text.split_iff '.' name _).mp rfl).2.2

theorem dotted_singleton (part : String) : dotted [part] = part := by
  rw [dotted, ← String.toList_inj, String.toList_intercalate]
  simp

theorem dotted_append (done : List String) (part : String) (some : done ≠ []) :
    dotted (done ++ [part]) = dotted done ++ "." ++ part := by
  rw [dotted, dotted, ← String.toList_inj, String.toList_intercalate, String.toList_append, String.toList_append,
    String.toList_intercalate, List.map_append]
  have mapped : done.map String.toList ≠ [] := by simpa using some
  generalize done.map String.toList = lists at mapped
  induction lists with
  | nil => exact absurd rfl mapped
  | cons first rest hypothesis =>
      cases rest with
      | nil => simp
      | cons second later => simpa using hypothesis (List.cons_ne_nil second later)

-- An error that an import is refused with.
inductive LoadError.OfImport (moduleName : String) : LoadError → Prop where
  | unknown (missing : String) (parent : Option String) : OfImport moduleName (.unknownModule moduleName missing parent)
  | refused (reason : String) : OfImport moduleName (.refusedModule moduleName reason)

namespace Registry

-- A module that can be imported once what it is part of is.
def Offers (registry : Registry) (name : String) : Prop :=
  (registry.modules.lookup name).isSome = true ∧ registry.refusal? name = none

-- A module can be imported: its name is not relative, and every leading part of the name up to the whole of it
-- names a module that is there.
structure Imports (registry : Registry) (module : Module) : Prop where
  absolute : module.name.toList.head? ≠ some '.'
  leading : ∀ parts, parts ≠ [] → parts <+: Text.split '.' module.name → registry.Offers (dotted parts)
  own : registry.modules.lookup module.name = some module.attributes

-- What holds of all that a list of parts leads through holds of the first part, and of all that starts with it.
theorem leading_cons (condition : List String → Prop) (part : String) (rest : List String) :
    (∀ more, more ≠ [] → more <+: part :: rest → condition more) ↔
      condition [part] ∧ ∀ more, more ≠ [] → more <+: rest → condition (part :: more) := by
  constructor
  · exact fun all => ⟨all [part] (List.cons_ne_nil _ _) ⟨rest, rfl⟩,
      fun more _ inside => all (part :: more) (List.cons_ne_nil _ _) (List.cons_prefix_cons.mpr ⟨rfl, inside⟩)⟩
  · rintro ⟨first, later⟩ more some inside
    cases more with
    | nil => exact absurd rfl some
    | cons head others =>
        obtain ⟨rfl, tail⟩ := List.cons_prefix_cons.mp inside
        by_cases last : others = []
        · rw [last]
          exact first
        · exact later others last tail

-- By induction over the parts that are left, where the parts before them name the module that was found last.
theorem import_parts_ok (registry : Registry) (moduleName : String) (module : Module) (rest : List String) :
    ∀ (done : List String) (parent : Module), done ≠ [] → parent.name = dotted done →
      registry.modules.lookup parent.name = some parent.attributes →
      (registry.importParts moduleName (some parent) rest = .ok module ↔
        (∀ more, more ≠ [] → more <+: rest → registry.Offers (dotted (done ++ more))) ∧
          module.name = dotted (done ++ rest) ∧ registry.modules.lookup module.name = some module.attributes) := by
  induction rest with
  | nil =>
      intro done parent _ named known
      rw [importParts, List.append_nil, ← named]
      constructor
      · intro same
        cases same
        exact ⟨fun more some leading => absurd (List.prefix_nil.mp leading) some, rfl, known⟩
      · rintro ⟨_, same, own⟩
        obtain ⟨name, attributes⟩ := module
        obtain rfl : name = parent.name := same
        obtain rfl : parent.attributes = attributes := Option.some.inj (known.symm.trans own)
        rfl
  | cons part rest hypothesis =>
      intro done parent some named known
      have next : parent.name ++ "." ++ part = dotted (done ++ [part]) := by rw [named, dotted_append done part some]
      have joined (more : List String) : done ++ [part] ++ more = done ++ part :: more := List.append_cons .. |>.symm
      rw [importParts, leading_cons (fun more => registry.Offers (dotted (done ++ more)))]
      simp only [Option.elim_some, next]
      cases found : registry.modules.lookup (dotted (done ++ [part])) with
      | none => simp [Offers, found]
      | some attributes =>
          cases refused : registry.refusal? (dotted (done ++ [part])) with
          | some reason => simp [Offers, refused]
          | none =>
              have inside := hypothesis (done ++ [part]) ⟨dotted (done ++ [part]), attributes⟩ (by simp) rfl found
              have offered : registry.Offers (dotted (done ++ [part])) := ⟨by rw [found]; rfl, refused⟩
              simpa only [joined, offered, true_and] using inside

-- A module is imported exactly when all that its name leads through can be.
theorem import_module_iff (registry : Registry) (moduleName : String) (module : Module) :
    registry.importModule moduleName = .ok module ↔ module.name = moduleName ∧ registry.Imports module := by
  have whole : dotted (Text.split '.' moduleName) = moduleName := dotted_split moduleName
  rw [importModule]
  split
  · rename_i relative
    exact iff_of_false (fun found => nomatch found) fun ⟨same, imports⟩ => imports.absolute (same ▸ relative)
  · rename_i absolute
    obtain ⟨some, _, _⟩ := (Text.split_iff '.' moduleName _).mp rfl
    cases cut : Text.split '.' moduleName with
    | nil => exact absurd cut some
    | cons part rest =>
        rw [cut] at whole
        rw [importParts]
        simp only [Option.elim_none]
        have leads : registry.Imports module ∧ module.name = moduleName ↔ module.name = moduleName ∧
            (∀ more, more ≠ [] → more <+: part :: rest → registry.Offers (dotted more)) ∧
              registry.modules.lookup module.name = Option.some module.attributes := by
          constructor
          · rintro ⟨imports, rfl⟩
            exact ⟨rfl, cut ▸ imports.leading, imports.own⟩
          · rintro ⟨rfl, leading, own⟩
            exact ⟨⟨absolute, cut ▸ leading, own⟩, rfl⟩
        rw [and_comm, leads, leading_cons (fun more => registry.Offers (dotted more)), dotted_singleton]
        cases found : registry.modules.lookup part with
        | none => simp [Offers, found]
        | some attributes =>
            cases refused : registry.refusal? part with
            | some reason => simp [Offers, refused]
            | none =>
                have offered : registry.Offers part := ⟨by rw [found]; rfl, refused⟩
                have inside := registry.import_parts_ok moduleName module rest [part] ⟨part, attributes⟩
                  (List.cons_ne_nil _ _) (dotted_singleton part).symm found
                simp only [List.singleton_append, whole] at inside
                simp only [offered, true_and, inside]
                exact ⟨fun ⟨leading, same, own⟩ => ⟨same, leading, own⟩,
                  fun ⟨same, leading, own⟩ => ⟨leading, same, own⟩⟩

-- The places of the parts of every module can be gone through, where it says what they are.
def Searchable (registry : Registry) : Prop :=
  ∀ name attributes places, registry.modules.lookup name = some attributes →
    attributes.lookup "__path__" = some places → places = .null ∨ places.isIterable = true

theorem absent_cases (moduleName name : String) (parent : Option Module) :
    (absent moduleName name parent).OfImport moduleName ∨
      ∃ found places, parent = some found ∧ found.attributes.lookup "__path__" = some places ∧ places ≠ .null ∧
        places.isIterable = false ∧
          absent moduleName name parent = .unsearchable places.qualifiedTypeName := by
  rw [absent.eq_def]
  split
  · exact .inl (.unknown ..)
  · rename_i found
    split
    · exact .inl (.unknown ..)
    · exact .inl (.unknown ..)
    · rename_i places other known
      cases parts : places.isIterable with
      | true => exact .inl (by rw [if_pos rfl]; exact .unknown ..)
      | false => exact .inr ⟨found, places, rfl, known, fun same => other same, parts, if_neg Bool.false_ne_true⟩

theorem import_parts_error (registry : Registry) (moduleName : String) (e : LoadError) (rest : List String) :
    ∀ parent : Option Module, (∀ found, parent = some found →
        registry.modules.lookup found.name = some found.attributes) →
      registry.importParts moduleName parent rest = .error e →
        e.OfImport moduleName ∨ (∃ typeName, e = .unsearchable typeName) ∧ ¬registry.Searchable := by
  induction rest with
  | nil =>
      intro parent _ failed
      cases parent with
      | none =>
          cases failed
          exact .inl (.unknown ..)
      | some found => nomatch failed
  | cons part rest hypothesis =>
      intro parent known failed
      rw [importParts] at failed
      split at failed
      · rename_i attributes here _
        exact hypothesis _ (fun found same => Option.some.inj same ▸ here) failed
      · cases failed
        exact .inl (.refused _)
      · cases failed
        obtain imports | ⟨found, places, same, stated, other, none, told⟩ := absent_cases moduleName
            (parent.elim part fun parent => parent.name ++ "." ++ part) parent
        · exact .inl imports
        · refine .inr ⟨⟨_, told⟩, fun searchable => ?_⟩
          obtain null | some := searchable _ _ places (known found same) stated
          · exact other null
          · exact Bool.false_ne_true (none.symm.trans some)

-- Why a module is not imported.
theorem import_module_error (registry : Registry) (moduleName : String) (e : LoadError)
    (failed : registry.importModule moduleName = .error e) :
    (moduleName.toList.head? = some '.' ∧ e = .relative moduleName) ∨
      (moduleName.toList.head? ≠ some '.' ∧
        (e.OfImport moduleName ∨ (∃ typeName, e = .unsearchable typeName) ∧ ¬registry.Searchable)) := by
  rw [importModule] at failed
  split at failed
  · rename_i relative
    cases failed
    exact .inl ⟨relative, rfl⟩
  · rename_i absolute
    exact .inr ⟨absolute, registry.import_parts_error moduleName e _ none (fun found none => nomatch none) failed⟩

end Registry
end Schemata
