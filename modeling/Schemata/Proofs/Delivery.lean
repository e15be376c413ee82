import Schemata.CommandLine.Command
import Schemata.Proofs.Locating
import Schemata.Proofs.Rendering

set_option autoImplicit false

/-!
Where an outline goes. The command prints the outline of its target or writes it to a file, all of it and once, or
leaves both alone. A console need not show all that is printed: what is documented of it says when it does.
-/

namespace Schemata
namespace CommandLine

def escape : Char := '\x1b'

-- The sequence that turns a style on or off.
def style (code : String) : String := String.singleton escape ++ "[" ++ code ++ "m"

-- What is documented of a console: a terminal is given every text as it is; elsewhere a text without escape characters
-- stays as it is, and from a text with a style in it the style is taken out.
structure Console.Documented (console : Console) : Prop where
  whole : console.isTerminal = true → ∀ text, console.received text = text
  plain : console.isTerminal = false → ∀ text, escape ∉ text.toList → console.received text = text
  unstyled : console.isTerminal = false → ∀ front code back, escape ∉ front.toList → escape ∉ back.toList →
    (∀ c ∈ code.toList, c.isDigit = true) → console.received (front ++ style code ++ back) = front ++ back

namespace Disk

theorem read_put (disk : Disk) (path : Path) (text : String) : (disk.put path text).read? path = some text := by
  rw [read?, put, List.lookup_cons, beq_self_eq_true]

theorem read_put_other (disk : Disk) (path other : Path) (text : String) (apart : other ≠ path) :
    (disk.put path text).read? other = disk.read? other := by
  rw [read?, put, List.lookup_cons, beq_eq_false_iff_ne.mpr apart, read?]
  change (disk.files.filter fun file => file.1 != path).lookup other = disk.files.lookup other
  induction disk.files with
  | nil => rfl
  | cons file rest hypothesis =>
      obtain ⟨name, content⟩ := file
      rw [List.filter_cons]
      by_cases same : name = path
      · subst same
        rw [bne_self_eq_false, if_neg Bool.false_ne_true, List.lookup_cons, beq_eq_false_iff_ne.mpr apart]
        exact hypothesis
      · rw [if_pos (bne_iff_ne.mpr same), List.lookup_cons, List.lookup_cons, hypothesis]

-- A file can be written at a path: its names can be names and are no longer than they may be, all of them but the
-- last lead through directories, and at the end is none.
structure Takes (disk : Disk) (path : Path) : Prop where
  clear : ∀ name ∈ path, name.contains '\x00' = false
  short : path.text.utf8ByteSize ≤ longestPath
  names : ∀ name ∈ path, name.utf8ByteSize ≤ longestName
  inside : ∀ before, before <+: path → before ≠ path → disk.isDirectory before = true
  free : disk.isDirectory path = false

theorem obstacle_none_iff (disk : Disk) (names : List String) : ∀ directory, disk.isDirectory directory = true →
    (disk.obstacle? directory names = none ↔ (∀ name ∈ names, name.utf8ByteSize ≤ longestName) ∧
      (∀ before, before <+: names → before ≠ names → disk.isDirectory (directory ++ before) = true) ∧
        disk.isDirectory (directory ++ names) = false) := by
  induction names with
  | nil =>
      intro directory known
      rw [obstacle?, List.append_nil, known]
      exact iff_of_false (fun found => nomatch found) fun clear => nomatch clear.2.2
  | cons name rest hypothesis =>
      intro directory known
      have joined (more : List String) : directory ++ name :: more = directory ++ [name] ++ more := List.append_cons ..
      rw [obstacle?]
      split
      · rename_i long
        exact iff_of_false (fun found => nomatch found) fun clear =>
          absurd (clear.1 name List.mem_cons_self) (Nat.not_le.mpr long)
      · rename_i short
        split
        · rename_i inner
          rw [hypothesis _ inner, List.forall_mem_cons]
          constructor
          · rintro ⟨shorts, inside, free⟩
            refine ⟨⟨Nat.not_lt.mp short, shorts⟩, fun before leading apart => ?_, joined rest ▸ free⟩
            cases before with
            | nil => rwa [List.append_nil]
            | cons head more =>
                obtain ⟨rfl, tail⟩ := List.cons_prefix_cons.mp leading
                exact joined more ▸ inside more tail fun same => apart (same ▸ rfl)
          · rintro ⟨⟨_, shorts⟩, inside, free⟩
            refine ⟨shorts, fun before leading apart => ?_, joined rest ▸ free⟩
            exact joined before ▸ inside (name :: before) (List.cons_prefix_cons.mpr ⟨rfl, leading⟩)
              fun same => apart (List.cons.inj same).2
        · rename_i outer
          cases rest with
          | nil =>
              refine iff_of_true rfl ⟨List.forall_mem_singleton.mpr (Nat.not_lt.mp short), ?_,
                eq_false_of_ne_true outer⟩
              intro before leading apart
              cases before with
              | nil => rwa [List.append_nil]
              | cons head more =>
                  obtain ⟨rfl, tail⟩ := List.cons_prefix_cons.mp leading
                  exact absurd (List.prefix_nil.mp tail ▸ rfl) apart
          | cons second more =>
              refine iff_of_false (fun found => ?_) fun clear =>
                outer (clear.2.1 [name] ⟨second :: more, rfl⟩ fun same => nomatch same)
              rw [List.isEmpty_cons, if_neg Bool.false_ne_true] at found
              split at found
              · nomatch found
              · nomatch found

theorem write_ok_iff (disk : Disk) (path : Path) (text : String) (later : Disk) :
    disk.write path text = .ok later ↔ disk.Takes path ∧ later = disk.put path text := by
  have clear := disk.obstacle_none_iff path [] rfl
  rw [write]
  split
  · rename_i null
    obtain ⟨name, member, here⟩ := List.any_eq_true.mp null
    exact iff_of_false (fun found => nomatch found) fun takes => nomatch (takes.1.clear name member).symm.trans here
  · rename_i usable
    split
    · rename_i long
      exact iff_of_false (fun found => nomatch found) fun takes => absurd takes.1.short (Nat.not_le.mpr long)
    · rename_i short
      split
      · rename_i obstacle found
        refine iff_of_false (fun found => nomatch found) fun takes => ?_
        nomatch found.symm.trans (clear.mpr ⟨takes.1.names, takes.1.inside, takes.1.free⟩)
      · rename_i none
        obtain ⟨names, inside, free⟩ := clear.mp none
        have free' : ∀ name ∈ path, name.contains '\x00' = false := fun name member =>
          eq_false_of_ne_true fun here => usable (List.any_eq_true.mpr ⟨name, member, here⟩)
        rw [Except.ok.injEq]
        exact ⟨fun same => ⟨⟨free', Nat.not_lt.mp short, names, inside, free⟩, same.symm⟩, fun written => written.2.symm⟩

end Disk

-- A failure, of which nothing comes.
structure Outcome.Fails (outcome : Outcome) (before : World) (failure : Failure) : Prop where
  failed : outcome.result = .error failure
  silent : outcome.world.stdout = before.stdout
  untouched : outcome.world.disk = before.disk

-- A text was printed and nothing else done. All of it is there on a terminal, and elsewhere if it has no escape
-- characters; a style in it is not.
structure Outcome.Prints (outcome : Outcome) (console : Console) (before : World) (text : String) : Prop where
  succeeded : outcome.result = .ok ()
  printed : outcome.world.stdout = before.stdout ++ console.received text
  whole : console.isTerminal = true ∨ escape ∉ text.toList → outcome.world.stdout = before.stdout ++ text
  cut : console.isTerminal = false → ∀ front code back, text = front ++ style code ++ back → escape ∉ front.toList →
    escape ∉ back.toList → (∀ c ∈ code.toList, c.isDigit = true) → outcome.world.stdout = before.stdout ++ (front ++ back)
  untouched : outcome.world.disk = before.disk

-- A file holds a text, whatever it held before, and nothing was printed.
structure Outcome.Stores (outcome : Outcome) (before : World) (path : Path) (text : String) : Prop where
  succeeded : outcome.result = .ok ()
  silent : outcome.world.stdout = before.stdout
  stored : outcome.world.disk.read? path = some text
  others : ∀ other, other ≠ path → outcome.world.disk.read? other = before.disk.read? other
  directories : outcome.world.disk.directories = before.disk.directories

section Steps

variable {α β : Type} {world later : World}

theorem run_bind_ok {first : Command α} {next : α → Command β} {a : α} (ran : first.run.run world = (.ok a, later)) :
    (first >>= next).run.run world = (next a).run.run later := by
  rw [ExceptT.run_bind, StateT.run_bind, ran]
  rfl

theorem run_bind_error {first : Command α} {next : α → Command β} {failure : Failure}
    (ran : first.run.run world = (.error failure, later)) :
    (first >>= next).run.run world = (.error failure, later) := by
  rw [ExceptT.run_bind, StateT.run_bind, ran]
  rfl

theorem save_written {disk : Disk} {path : Path} {text : String} (written : world.disk.write path text = .ok disk) :
    (save path text).run.run world = (.ok (), world.stored disk) := by
  have got : (get : Command World).run.run world = (.ok world, world) := rfl
  rw [save, run_bind_ok got, written]
  rfl

theorem save_unwritten {cause : WriteError} {path : Path} {text : String}
    (unwritten : world.disk.write path text = .error cause) :
    (save path text).run.run world = (.error (.write cause), world) := by
  have got : (get : Command World).run.run world = (.ok world, world) := rfl
  rw [save, run_bind_ok got, unwritten]
  rfl

variable {registry : Registry}

theorem load_answered {target : String} {document : Value} (loaded : (registry.load target).value = .ok document) :
    (loadTarget registry target).run.run world = (.ok document, world.told (registry.load target).events) := by
  rw [loadTarget, loaded]
  rfl

theorem load_refused {target : String} {cause : LoadError} (failed : (registry.load target).value = .error cause) :
    (loadTarget registry target).run.run world = (.error (.load cause), world.told (registry.load target).events) := by
  rw [loadTarget, failed]
  rfl

theorem render_answered {document : Value} {text : String} (shown : document.outline registry.words = .ok text) :
    (render registry.words document).run.run world = (.ok text, world) := by
  rw [render, shown]
  rfl

theorem render_refused {document : Value} {fault : Fault} (failed : document.outline registry.words = .error fault) :
    (render registry.words document).run.run world = (.error (.outline fault), world) := by
  rw [render, failed]
  rfl

end Steps

-- What the command does, by what its target loads to.
section Targets

variable (console : Console) {registry : Registry} (verbose : Bool) (output : Option Path) {target : String}
  (before : World)

-- The world that the command leaves when it gets no further than the target.
def loading (registry : Registry) (verbose : Bool) (target : String) (before : World) : World :=
  (before.started verbose).told (registry.load target).events

theorem unloaded_fails {cause : LoadError} (failed : (registry.load target).value = .error cause) :
    (run console registry verbose output target before).Fails before (.load cause) := by
  have whole : run console registry verbose output target before =
      ⟨.error (.load cause), loading registry verbose target before⟩ := by
    rw [run, outline, run_bind_error (load_refused failed), loading]
  rw [whole]
  exact ⟨rfl, rfl, rfl⟩

variable {document : Value} (loaded : (registry.load target).value = .ok document)

include loaded

theorem unrendered_fails {fault : Fault} (failed : document.outline registry.words = .error fault) :
    (run console registry verbose output target before).Fails before (.outline fault) := by
  have whole : run console registry verbose output target before =
      ⟨.error (.outline fault), loading registry verbose target before⟩ := by
    rw [run, outline, run_bind_ok (load_answered loaded), run_bind_error (render_refused failed), loading]
  rw [whole]
  exact ⟨rfl, rfl, rfl⟩

variable {text : String} (shown : document.outline registry.words = .ok text)

include shown

theorem outline_printed (documented : console.Documented) :
    (run console registry verbose none target before).Prints console before text := by
  have whole : run console registry verbose none target before =
      ⟨.ok (), (loading registry verbose target before).printed (console.received text)⟩ := by
    rw [run, outline, run_bind_ok (load_answered loaded), run_bind_ok (render_answered shown), loading]
    rfl
  rw [whole]
  refine ⟨rfl, rfl, fun shows => congrArg (before.stdout ++ ·) ?_, ?_, rfl⟩
  · cases terminal : console.isTerminal with
    | true => exact documented.whole terminal text
    | false => exact documented.plain terminal text (shows.resolve_left (ne_true_of_eq_false terminal))
  · rintro piped front code back rfl front_clear back_clear digits
    exact congrArg (before.stdout ++ ·) (documented.unstyled piped front code back front_clear back_clear digits)

theorem outline_stored (path : Path) (takes : before.disk.Takes path) :
    (run console registry verbose (some path) target before).Stores before path text := by
  have written : (loading registry verbose target before).disk.write path text = .ok (before.disk.put path text) :=
    (before.disk.write_ok_iff path text _).mpr ⟨takes, rfl⟩
  have whole : run console registry verbose (some path) target before =
      ⟨.ok (), (loading registry verbose target before).stored (before.disk.put path text)⟩ := by
    rw [run, outline, run_bind_ok (load_answered loaded), run_bind_ok (render_answered shown), ← loading]
    simp only [save_written written]
  rw [whole]
  exact ⟨rfl, rfl, before.disk.read_put path text, fun other => before.disk.read_put_other path other text, rfl⟩

theorem outline_unwritten (path : Path) (refuses : ¬before.disk.Takes path) :
    ∃ cause, (run console registry verbose (some path) target before).Fails before (.write cause) := by
  cases written : (loading registry verbose target before).disk.write path text with
  | ok later => exact absurd ((before.disk.write_ok_iff path text later).mp written).1 refuses
  | error cause =>
      have whole : run console registry verbose (some path) target before =
          ⟨.error (.write cause), loading registry verbose target before⟩ := by
        rw [run, outline, run_bind_ok (load_answered loaded), run_bind_ok (render_answered shown), ← loading]
        simp only [save_unwritten written]
      rw [whole]
      exact ⟨cause, rfl, rfl, rfl⟩

end Targets

theorem outline_delivered (console : Console) (documented : console.Documented) (registry : Registry) (verbose : Bool)
    (output : Option Path) (target : String) (before : World) :
    (∀ cause, (registry.load target).value = .error cause →
        (run console registry verbose output target before).Fails before (.load cause)) ∧
      ∀ document, (registry.load target).value = .ok document →
        (∀ fault, document.outline registry.words = .error fault →
          (run console registry verbose output target before).Fails before (.outline fault)) ∧
        ∀ text, document.outline registry.words = .ok text →
          (output = none → (run console registry verbose output target before).Prints console before text) ∧
          ∀ path, output = some path →
            (before.disk.Takes path → (run console registry verbose output target before).Stores before path text) ∧
            (¬before.disk.Takes path →
              ∃ cause, (run console registry verbose output target before).Fails before (.write cause)) := by
  refine ⟨fun cause => unloaded_fails console verbose output before, fun document loaded =>
    ⟨fun fault => unrendered_fails console verbose output before loaded, fun text shown => ⟨?_, ?_⟩⟩⟩
  · rintro rfl
    exact outline_printed console verbose before loaded shown documented
  · rintro path rfl
    exact ⟨outline_stored console verbose before loaded shown path,
      outline_unwritten console verbose before loaded shown path⟩

-- A stream that is no terminal, where every style is left out that begins with an escape character and ends with the
-- next letter.
def afterStyle (piece : String) : String :=
  match piece.toList with
  | '[' :: rest =>
    match rest.dropWhile fun c => c.isDigit || c == ';' || c == '?' with
    | c :: behind => if c.isAlpha then String.ofList behind else String.singleton escape ++ piece
    | [] => String.singleton escape ++ piece
  | _ => String.singleton escape ++ piece

def withoutStyles (text : String) : String :=
  match Text.split escape text with
  | [] => ""
  | first :: pieces => first ++ String.join (pieces.map afterStyle)

def pipe : Console := ⟨false, withoutStyles⟩

theorem piece_characters (code back : String) :
    ("[" ++ code ++ "m" ++ back).toList = '[' :: (code.toList ++ 'm' :: back.toList) := by
  have letter : "m".toList = ['m'] := rfl
  simp [String.toList_append, letter]

theorem style_cut (front code back : String) (front_clear : escape ∉ front.toList) (back_clear : escape ∉ back.toList)
    (digits : ∀ c ∈ code.toList, c.isDigit = true) :
    Text.split escape (front ++ style code ++ back) = [front, "[" ++ code ++ "m" ++ back] := by
  have code_clear : escape ∉ code.toList := fun inside => absurd (digits escape inside) (by decide)
  refine (Text.split_iff escape _ _).mpr ⟨List.cons_ne_nil _ _, ?_, ?_⟩
  · refine List.forall_mem_cons.mpr ⟨front_clear, List.forall_mem_singleton.mpr ?_⟩
    rw [piece_characters, List.mem_cons, List.mem_append, List.mem_cons]
    rintro (same | inside | same | inside)
    · exact absurd same (by decide)
    · exact code_clear inside
    · exact absurd same (by decide)
    · exact back_clear inside
  · rw [← String.toList_inj, String.toList_intercalate]
    simp [style, String.toList_append]

theorem style_passed (code back : String) (digits : ∀ c ∈ code.toList, c.isDigit = true) :
    afterStyle ("[" ++ code ++ "m" ++ back) = back := by
  have rest : (code.toList ++ 'm' :: back.toList).dropWhile (fun c => c.isDigit || c == ';' || c == '?') =
      'm' :: back.toList := by
    rw [List.dropWhile_append_of_pos fun c member => by simp [digits c member]]
    rfl
  rw [afterStyle, piece_characters]
  simp only [rest]
  exact String.ofList_toList

theorem pipe_documented : pipe.Documented where
  whole terminal := nomatch terminal
  plain _ text clear := by
    have whole : Text.split escape text = [text] := by
      refine (Text.split_iff escape text _).mpr ⟨List.cons_ne_nil _ _, List.forall_mem_singleton.mpr clear, ?_⟩
      rw [← String.toList_inj, String.toList_intercalate]
      simp
    change withoutStyles text = text
    rw [withoutStyles, whole]
    exact String.append_empty
  unstyled _ front code back front_clear back_clear digits := by
    change withoutStyles _ = _
    rw [withoutStyles, style_cut front code back front_clear back_clear digits]
    change front ++ String.join [afterStyle ("[" ++ code ++ "m" ++ back)] = front ++ back
    rw [style_passed code back digits]
    exact congrArg (front ++ ·) String.empty_append

-- A schema with a style in its title, and one without.
def colouredNode : Value := .schema none (.null ⟨.text "\x1b[31mred", .null, []⟩)

def plainNode : Value := .schema none (.null ⟨.text "red", .null, []⟩)

def titledAttributes : List (String × Finding) := [("coloured", .value colouredNode), ("plain", .value plainNode)]

def titledRegistry : Registry := { modules := [("m", titledAttributes)] }

def emptyWorld : World := { disk := ⟨[], []⟩ }

theorem titled_loaded (text path title : String) (parsed : Target.parse? text = some ⟨"m", path⟩)
    (single : Text.split '.' path = [path])
    (found : Module.find titledRegistry.answer ⟨"m", titledAttributes⟩ path =
      .ok (.value (.schema none (.null ⟨.text title, .null, []⟩)))) :
    (titledRegistry.load text).value = .ok (.schema none (.null ⟨.text title, .null, []⟩)) := by
  have holds : titledRegistry.Holds ⟨"m", path⟩ ⟨"m", titledAttributes⟩ :=
    (titledRegistry.import_module_iff "m" _).mp rfl
  have leads := Registry.Leads.next found (titledRegistry.null_followed (.text title) .null #[])
  rw [← single] at leads
  have loads := Registry.Loads.found _ _ _ ((Target.parse_some_iff text _).mp parsed) holds leads (.schema ..)
  exact congrArg Reported.value ((titledRegistry.loads_iff _ _ _).mp loads)

theorem coloured_loaded : (titledRegistry.load "m:coloured").value = .ok colouredNode :=
  titled_loaded "m:coloured" "coloured" "\x1b[31mred" (by decide) rfl rfl

theorem plain_loaded : (titledRegistry.load "m:plain").value = .ok plainNode :=
  titled_loaded "m:plain" "plain" "red" (by decide) rfl rfl

theorem coloured_outline : colouredNode.outline = .ok "root: null \"\x1b[31mred\"\n" :=
  leaf_outlined none _ ownWords "null \"\x1b[31mred\"" rfl rfl

theorem plain_outline : plainNode.outline = .ok "root: null \"red\"\n" :=
  leaf_outlined none _ ownWords "null \"red\"" rfl rfl

theorem plain_title_delivered :
    pipe.Documented ∧
      (run pipe titledRegistry false none "m:plain" emptyWorld).world.stdout = "root: null \"red\"\n" ∧
      (run pipe titledRegistry false (some ["red"]) "m:plain" emptyWorld).Stores emptyWorld ["red"]
        "root: null \"red\"\n" := by
  have prints := ((outline_delivered pipe pipe_documented titledRegistry false none "m:plain" emptyWorld).2 plainNode
    plain_loaded).2 _ plain_outline
  have stores := ((outline_delivered pipe pipe_documented titledRegistry false (some ["red"]) "m:plain" emptyWorld).2
    plainNode plain_loaded).2 _ plain_outline
  refine ⟨pipe_documented, (prints.1 rfl).whole (.inr (by simp [escape])), (stores.2 ["red"] rfl).1 ?_⟩
  refine ⟨by simp, by decide, by decide, fun before leading apart => ?_, by decide⟩
  cases before with
  | nil => rfl
  | cons head more =>
      obtain ⟨rfl, tail⟩ := List.cons_prefix_cons.mp leading
      exact absurd (List.prefix_nil.mp tail ▸ rfl) apart

theorem coloured_title_cut :
    pipe.Documented ∧ (titledRegistry.load "m:coloured").value = .ok colouredNode ∧
      colouredNode.outline titledRegistry.words = .ok "root: null \"\x1b[31mred\"\n" ∧
      (run pipe titledRegistry false none "m:coloured" emptyWorld).result.isOk = true ∧
      (run pipe titledRegistry false none "m:coloured" emptyWorld).world.stdout = "root: null \"red\"\n" := by
  have prints := outline_printed pipe false emptyWorld coloured_loaded coloured_outline pipe_documented
  refine ⟨pipe_documented, coloured_loaded, coloured_outline, by rw [prints.succeeded]; rfl, ?_⟩
  exact prints.cut rfl "root: null \"" "31" "red\"\n" rfl (by simp [escape]) (by simp [escape])
    (List.forall_mem_cons.mpr ⟨rfl, List.forall_mem_singleton.mpr rfl⟩)

end CommandLine
end Schemata
