import Schemata.Outline
import Schemata.Proofs.Token

set_option autoImplicit false

/-!
Lines. An escaped text holds no character that ends a line or moves within it, so a row is one line, and
the text of several rows is cut at the line feeds into the rows again.
-/

namespace Schemata.Text

-- The characters that may not stand within a line.
def lineMoves : List Char := ['\n', '\r', '\t']

def StaysOnLine (text : String) : Prop := ∀ c ∈ lineMoves, c ∉ text.toList

instance (text : String) : Decidable (StaysOnLine text) :=
  List.decidableBAll (fun c => c ∉ text.toList) lineMoves

theorem stays_append (first second : String) (left : StaysOnLine first) (right : StaysOnLine second) :
    StaysOnLine (first ++ second) := by
  intro c moves member
  rw [String.toList_append, List.mem_append] at member
  exact member.elim (left c moves) (right c moves)

theorem stays_of_chars (cs : List Char) (clear : ∀ c ∈ cs, c ∉ lineMoves) : StaysOnLine (String.ofList cs) := by
  intro c moves member
  rw [String.toList_ofList] at member
  exact clear c member moves

-- The characters that escapes are written with may stand within a line.
theorem marks_stay : ∀ d ∈ ['\\', 'n', 'r', 't', '"'], d ∉ lineMoves := by simp [lineMoves]

theorem line_char_stays (c d : Char) (member : d ∈ lineChar c) : d ∉ lineMoves := by
  unfold lineChar at member
  split at member
  · exact marks_stay d ((by decide : ['\\', '\\'] ⊆ _) member)
  · split at member
    · exact marks_stay d ((by decide : ['\\', 'n'] ⊆ _) member)
    · split at member
      · exact marks_stay d ((by decide : ['\\', 'r'] ⊆ _) member)
      · split at member
        · exact marks_stay d ((by decide : ['\\', 't'] ⊆ _) member)
        · rename_i feed carriage tab
          obtain rfl := List.mem_singleton.mp member
          simp [lineMoves, feed, carriage, tab]

theorem title_char_stays (c d : Char) (member : d ∈ titleChar c) : d ∉ lineMoves := by
  unfold titleChar at member
  split at member
  · exact marks_stay d ((by decide : ['\\', '"'] ⊆ _) member)
  · exact line_char_stays c d member

theorem line_text_stays (text : String) : StaysOnLine (lineText text) := by
  apply stays_of_chars
  intro d member
  obtain ⟨c, _, escaped⟩ := List.mem_flatMap.mp member
  exact line_char_stays c d escaped

theorem title_text_stays (text : String) : StaysOnLine (titleText text) := by
  apply stays_of_chars
  intro d member
  obtain ⟨c, _, escaped⟩ := List.mem_flatMap.mp member
  exact title_char_stays c d escaped

-- What stands on a line for the characters that cannot stand there as they are.
def lineEscapes : List (Char × String) := [('\\', "\\\\"), ('\n', "\\n"), ('\r', "\\r"), ('\t', "\\t")]

-- A text character by character, with these put in.
def onOneLine (text : String) : String :=
  String.join (text.toList.map fun c => (lineEscapes.lookup c).getD c.toString)

theorem line_char_put_in (c : Char) : lineChar c = ((lineEscapes.lookup c).getD c.toString).toList := by
  by_cases special : c ∈ ['\\', '\n', '\r', '\t']
  · simp only [List.mem_cons, List.not_mem_nil, or_false] at special
    rcases special with rfl | rfl | rfl | rfl <;> decide
  · simp only [List.mem_cons, List.not_mem_nil, or_false, not_or] at special
    obtain ⟨slash, feed, carriage, tab⟩ := special
    have none : lineEscapes.lookup c = none := by
      simp [lineEscapes, List.lookup_cons, beq_eq_false_iff_ne.mpr slash, beq_eq_false_iff_ne.mpr feed,
        beq_eq_false_iff_ne.mpr carriage, beq_eq_false_iff_ne.mpr tab]
    rw [lineChar, if_neg slash, if_neg feed, if_neg carriage, if_neg tab, none]
    simp

theorem line_text_put_in (text : String) : lineText text = onOneLine text := by
  rw [lineText, onOneLine, ← String.toList_inj, String.toList_ofList, String.toList_join, List.flatMap_map]
  exact congrArg (List.flatMap · text.toList) (funext line_char_put_in)

theorem spaces_stay (count : Nat) : StaysOnLine (String.ofList (List.replicate count ' ')) := by
  apply stays_of_chars
  intro c member
  rw [List.eq_of_mem_replicate member]
  decide

-- Lines, each with a line feed behind it, are cut apart again; behind the last one nothing is left.
theorem pieces_of_lines (lines : List String) (clear : ∀ line ∈ lines, StaysOnLine line) :
    pieces '\n' (lines.flatMap fun line => line.toList ++ ['\n']) = lines.map String.toList ++ [[]] := by
  induction lines with
  | nil => rfl
  | cons line rest hypothesis =>
      have here : '\n' ∉ line.toList := clear line List.mem_cons_self '\n' (by decide)
      have later := hypothesis fun other member => clear other (List.mem_cons_of_mem line member)
      rw [List.flatMap_cons, List.append_assoc, List.singleton_append, pieces_cut '\n' _ _ here, later]
      rfl

end Schemata.Text

namespace Schemata

-- A row without the line feed behind it.
def Row.line (row : Row) : String := Row.indentation row.depth ++ row.label ++ ": " ++ row.summary

-- Two spaces for each level.
theorem indentation_levels (depth : Nat) : Row.indentation depth = String.join (List.replicate depth "  ") := by
  rw [Row.indentation, ← String.toList_inj, String.toList_ofList, String.toList_join]
  induction depth with
  | zero => rfl
  | succ depth hypothesis =>
      rw [List.replicate_succ, List.flatMap_cons, ← hypothesis, Nat.mul_succ, Nat.add_comm, ← List.replicate_append_replicate]
      rfl

theorem row_line_stays (row : Row) (label : Text.StaysOnLine row.label) (summary : Text.StaysOnLine row.summary) :
    Text.StaysOnLine row.line := by
  have colon : Text.StaysOnLine ": " := by decide
  have front := Text.stays_append _ _ (Text.spaces_stay (2 * row.depth)) label
  exact Text.stays_append _ _ (Text.stays_append _ _ front colon) summary

theorem rendered_rows (rows : Rows) :
    (renderRows rows).toList = (rows.toList.map Row.line).flatMap fun line => line.toList ++ ['\n'] := by
  rw [renderRows, String.toList_join, List.flatMap_map, List.flatMap_map]
  exact congrArg (List.flatMap · rows.toList) (funext fun row => String.toList_append)

theorem rendered_rows_split (rows : Rows) (clear : ∀ row ∈ rows.toList, Text.StaysOnLine row.line) :
    Text.split '\n' (renderRows rows) = rows.toList.map Row.line ++ [""] := by
  rw [Text.split, rendered_rows, Text.pieces_of_lines _ (List.forall_mem_map.mpr clear), List.map_append,
    List.map_map, String.ofList_comp_toList, List.map_id]
  rfl

end Schemata
