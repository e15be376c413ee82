import Schemata.Proofs.Token

set_option autoImplicit false

/-!
Which texts are reference tokens (RFC 6901). A token holds no slash, and behind each of its tildes stands a
zero or a one. Escaping leads to the tokens and to nothing else, and a token is escaped back from what it
reads as, so texts and tokens correspond one to one. That escaping goes through a text once makes no
difference: first every tilde and then every slash replaced comes to the same.
-/

namespace Schemata.Text

-- Every occurrence of a character replaced by other characters.
def replaceChar (old : Char) (new cs : List Char) : List Char := cs.flatMap fun c => if c = old then new else [c]

structure TokenChars (cs : List Char) : Prop where
  whole : '/' ∉ cs
  marked : ∀ before after, cs = before ++ '~' :: after → ∃ rest, after = '0' :: rest ∨ after = '1' :: rest

def IsToken (token : String) : Prop := TokenChars token.toList

-- The second pass finds no slash in what the first has written for a tilde.
theorem escape_two_passes (text : String) :
    escapeToken text =
      String.ofList (replaceChar '/' ['~', '1'] (replaceChar '~' ['~', '0'] text.toList)) := by
  have each (c : Char) : tokenChar c =
      (if c = '~' then ['~', '0'] else [c]).flatMap fun d => if d = '/' then ['~', '1'] else [d] := by
    by_cases tilde : c = '~'
    · subst tilde
      rfl
    · simp [tokenChar, tilde]
  rw [escapeToken, replaceChar, replaceChar, List.flatMap_assoc, funext each]

theorem token_chars_nil : TokenChars [] :=
  ⟨List.not_mem_nil, fun _ _ split => absurd split (by simp)⟩

theorem token_chars_tail (c : Char) (rest : List Char) (valid : TokenChars (c :: rest)) : TokenChars rest :=
  ⟨fun slash => valid.whole (List.mem_cons_of_mem c slash),
    fun before after split => valid.marked (c :: before) after (congrArg (c :: ·) split)⟩

theorem token_chars_plain (c : Char) (rest : List Char) (tilde : c ≠ '~') (slash : c ≠ '/') (valid : TokenChars rest) :
    TokenChars (c :: rest) := by
  refine ⟨List.not_mem_cons_of_ne_of_not_mem (Ne.symm slash) valid.whole, fun before after split => ?_⟩
  cases before with
  | nil => exact absurd (List.cons.inj split).1 tilde
  | cons _ before => exact valid.marked before after (List.cons.inj split).2

theorem token_chars_tilde (mark : Char) (rest : List Char) (known : mark = '0' ∨ mark = '1') (valid : TokenChars rest) :
    TokenChars ('~' :: mark :: rest) := by
  have later : TokenChars (mark :: rest) := by
    refine token_chars_plain mark rest ?_ ?_ valid
    all_goals rcases known with rfl | rfl <;> decide
  refine ⟨List.not_mem_cons_of_ne_of_not_mem (by decide) later.whole, fun before after split => ?_⟩
  cases before with
  | nil =>
      obtain rfl := (List.cons.inj split).2
      rcases known with rfl | rfl
      · exact ⟨rest, .inl rfl⟩
      · exact ⟨rest, .inr rfl⟩
  | cons _ before => exact later.marked before after (List.cons.inj split).2

theorem escaped_chars_valid (cs : List Char) : TokenChars (cs.flatMap tokenChar) := by
  induction cs with
  | nil => exact token_chars_nil
  | cons c rest hypothesis =>
      rw [List.flatMap_cons]
      by_cases tilde : c = '~'
      · subst tilde
        exact token_chars_tilde '0' _ (.inl rfl) hypothesis
      · by_cases slash : c = '/'
        · subst slash
          exact token_chars_tilde '1' _ (.inr rfl) hypothesis
        · simp only [tokenChar, if_neg tilde, if_neg slash, List.singleton_append]
          exact token_chars_plain c _ tilde slash hypothesis

theorem escape_is_token (text : String) : IsToken (escapeToken text) := by
  rw [IsToken, escapeToken, String.toList_ofList]
  exact escaped_chars_valid text.toList

-- A tilde is read together with its mark, so the induction goes by what is left behind both.
theorem token_chars_written (cs : List Char) (valid : TokenChars cs) :
    ∃ text : List Char, text.flatMap tokenChar = cs := by
  cases cs with
  | nil => exact ⟨[], rfl⟩
  | cons c rest =>
      by_cases tilde : c = '~'
      · subst tilde
        obtain ⟨later, rfl | rfl⟩ := valid.marked [] rest rfl
        · obtain ⟨text, written⟩ := token_chars_written later (token_chars_tail _ _ (token_chars_tail _ _ valid))
          exact ⟨'~' :: text, congrArg (['~', '0'] ++ ·) written⟩
        · obtain ⟨text, written⟩ := token_chars_written later (token_chars_tail _ _ (token_chars_tail _ _ valid))
          exact ⟨'/' :: text, congrArg (['~', '1'] ++ ·) written⟩
      · have slash : c ≠ '/' := fun same => valid.whole (same ▸ List.mem_cons_self)
        obtain ⟨text, written⟩ := token_chars_written rest (token_chars_tail c rest valid)
        refine ⟨c :: text, ?_⟩
        rw [List.flatMap_cons, written, tokenChar, if_neg tilde, if_neg slash, List.singleton_append]
termination_by cs.length

theorem token_is_written (token : String) (valid : IsToken token) : ∃ text, escapeToken text = token := by
  obtain ⟨text, written⟩ := token_chars_written token.toList valid
  refine ⟨String.ofList text, ?_⟩
  rw [escapeToken, String.toList_ofList, written, String.ofList_toList]

theorem escape_unescape (token : String) (valid : IsToken token) : escapeToken (unescapeToken token) = token := by
  obtain ⟨text, rfl⟩ := token_is_written token valid
  rw [unescape_escape]

theorem tokens_are_escaped_texts :
    (∀ text, escapeToken text =
        String.ofList (replaceChar '/' ['~', '1'] (replaceChar '~' ['~', '0'] text.toList)) ∧
      IsToken (escapeToken text) ∧ unescapeToken (escapeToken text) = text) ∧
    (∀ token, IsToken token → escapeToken (unescapeToken token) = token) ∧
    (∀ text other, escapeToken text = escapeToken other → text = other) ∧
    ∀ token, (∃ text, escapeToken text = token) ↔ IsToken token := by
  refine ⟨fun text => ⟨escape_two_passes text, escape_is_token text, unescape_escape text⟩, escape_unescape,
    escape_injective, fun token => ⟨?_, token_is_written token⟩⟩
  rintro ⟨text, rfl⟩
  exact escape_is_token text

-- What the first pass leaves here looks like an escaped slash and is none.
theorem nested_mark_read :
    IsToken "~01~1~00" ∧ unescapeToken "~01~1~00" = "~1/~0" ∧ escapeToken (unescapeToken "~01~1~00") = "~01~1~00" ∧
      ∃ text, escapeToken text = "~01~1~00" := by
  obtain ⟨_, back, _, image⟩ := tokens_are_escaped_texts
  have valid : IsToken "~01~1~00" := by
    refine token_chars_tilde '0' _ (.inl rfl) (token_chars_plain '1' _ (by decide) (by decide) ?_)
    refine token_chars_tilde '1' _ (.inr rfl) (token_chars_tilde '0' _ (.inl rfl) ?_)
    exact token_chars_plain '0' _ (by decide) (by decide) token_chars_nil
  exact ⟨valid, by decide, back _ valid, (image _).mpr valid⟩

end Schemata.Text
