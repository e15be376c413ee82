import Schemata.Text.Split
import Schemata.Text.Token

set_option autoImplicit false

/-!
Reference tokens and the text between them. An escaped token holds no slash and reads back as what was
escaped; tokens without slashes, each behind a slash of its own, are cut apart again at the slashes.
-/

namespace Schemata.Text

theorem replace_pair_other (first second replacement c : Char) (rest : List Char) (different : c ≠ first) :
    replacePair first second replacement (c :: rest) = c :: replacePair first second replacement rest := by
  cases rest with
  | nil => rfl
  | cons d rest =>
      rw [replacePair, if_neg]
      exact fun both => different both.1

theorem replace_pair_kept (first second replacement d : Char) (rest : List Char) (different : d ≠ second) :
    replacePair first second replacement (first :: d :: rest) =
      first :: replacePair first second replacement (d :: rest) := by
  rw [replacePair, if_neg]
  exact fun both => different both.2

theorem replace_pair_here (first second replacement : Char) (rest : List Char) :
    replacePair first second replacement (first :: second :: rest) =
      replacement :: replacePair first second replacement rest := by
  rw [replacePair, if_pos ⟨rfl, rfl⟩]

-- What is left of an escaped character once the slashes are back.
def tildeChar (c : Char) : List Char := if c = '~' then ['~', '0'] else [c]

theorem slashes_back (cs : List Char) :
    replacePair '~' '1' '/' (cs.flatMap tokenChar) = cs.flatMap tildeChar := by
  induction cs with
  | nil => rfl
  | cons c rest hypothesis =>
      rw [List.flatMap_cons, List.flatMap_cons, ← hypothesis]
      by_cases tilde : c = '~'
      · subst tilde
        change replacePair '~' '1' '/' ('~' :: '0' :: rest.flatMap tokenChar) = _
        rw [replace_pair_kept _ _ _ _ _ (by decide), replace_pair_other _ _ _ _ _ (by decide)]
        rfl
      · by_cases slash : c = '/'
        · subst slash
          exact replace_pair_here '~' '1' '/' (rest.flatMap tokenChar)
        · simp only [tokenChar, tildeChar, if_neg tilde, if_neg slash, List.singleton_append]
          exact replace_pair_other _ _ _ _ _ tilde

theorem tildes_back (cs : List Char) : replacePair '~' '0' '~' (cs.flatMap tildeChar) = cs := by
  induction cs with
  | nil => rfl
  | cons c rest hypothesis =>
      rw [List.flatMap_cons]
      by_cases tilde : c = '~'
      · subst tilde
        change replacePair '~' '0' '~' ('~' :: '0' :: rest.flatMap tildeChar) = _
        rw [replace_pair_here, hypothesis]
      · simp only [tildeChar, if_neg tilde, List.singleton_append]
        rw [replace_pair_other _ _ _ _ _ tilde, hypothesis]

theorem unescape_escape (text : String) : unescapeToken (escapeToken text) = text := by
  rw [unescapeToken, escapeToken, String.toList_ofList, slashes_back, tildes_back, String.ofList_toList]

theorem escape_injective (a b : String) (same : escapeToken a = escapeToken b) : a = b := by
  rw [← unescape_escape a, same, unescape_escape]

theorem token_char_no_slash (c : Char) : '/' ∉ tokenChar c := by
  by_cases tilde : c = '~'
  · simp [tokenChar, tilde]
  · by_cases slash : c = '/'
    · simp [tokenChar, slash]
    · simpa [tokenChar, tilde, slash] using Ne.symm slash

theorem escape_no_slash (text : String) : '/' ∉ (escapeToken text).toList := by
  rw [escapeToken, String.toList_ofList, List.mem_flatMap]
  rintro ⟨c, _, member⟩
  exact token_char_no_slash c member

theorem pieces_whole (separator : Char) (cs : List Char) (absent : separator ∉ cs) :
    pieces separator cs = [cs] := by
  induction cs with
  | nil => rfl
  | cons c rest hypothesis =>
      obtain ⟨here, later⟩ := not_or.mp (mt List.mem_cons.mpr absent)
      rw [pieces, if_neg (Ne.symm here), hypothesis later]

theorem pieces_cut (separator : Char) (cs rest : List Char) (absent : separator ∉ cs) :
    pieces separator (cs ++ separator :: rest) = cs :: pieces separator rest := by
  induction cs with
  | nil => rw [List.nil_append, pieces, if_pos rfl]
  | cons c others hypothesis =>
      obtain ⟨here, later⟩ := not_or.mp (mt List.mem_cons.mpr absent)
      rw [List.cons_append, pieces, if_neg (Ne.symm here), hypothesis later]

-- Tokens, each behind a slash.
def slashed (tokens : List String) : List Char := tokens.flatMap fun token => '/' :: token.toList

theorem pieces_slashed (first : List Char) (tokens : List String) (clear : '/' ∉ first)
    (absent : ∀ token ∈ tokens, '/' ∉ token.toList) :
    pieces '/' (first ++ slashed tokens) = first :: tokens.map String.toList := by
  induction tokens generalizing first with
  | nil =>
      rw [slashed, List.flatMap_nil, List.append_nil, pieces_whole '/' first clear]
      rfl
  | cons token rest hypothesis =>
      have later := hypothesis token.toList (absent token List.mem_cons_self)
        fun other member => absent other (List.mem_cons_of_mem token member)
      rw [slashed, List.flatMap_cons, List.cons_append, pieces_cut '/' first _ clear]
      rw [slashed] at later
      rw [later, List.map_cons]

theorem split_slashed (tokens : List String) (absent : ∀ token ∈ tokens, '/' ∉ token.toList) :
    split '/' (String.ofList (slashed tokens)) = "" :: tokens := by
  have cut := pieces_slashed [] tokens List.not_mem_nil absent
  rw [List.nil_append] at cut
  rw [split, String.toList_ofList, cut, List.map_cons, List.map_map, String.ofList_comp_toList, List.map_id]

end Schemata.Text
