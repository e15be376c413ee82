import Schemata.Proofs.Congruence

set_option autoImplicit false

/-!
Captions. The summary of a node is one text for three things: its kind, its title if it has one, and the token of a
reference. Both texts of a user stand in it without their lengths, one between quotes and one up to the end, but a quote
within a title has a backslash before it and so has every backslash. So a summary can be read back, and two nodes
have one summary only when these three things are the same.
-/

namespace Schemata

namespace Text

-- What the character behind a backslash stands for.
def unescapedChar (c : Char) : Char :=
  if c = 'n' then '\n' else if c = 'r' then '\r' else if c = 't' then '\t' else c

def unescapeLine : List Char → List Char
  | '\\' :: c :: rest => unescapedChar c :: unescapeLine rest
  | c :: rest => c :: unescapeLine rest
  | [] => []

/-- Reads a title up to the first quote that belongs to no escape, with what is left behind that quote. -/
def readTitle : List Char → Option (List Char × List Char)
  | '\\' :: c :: rest => (readTitle rest).map fun read => (unescapedChar c :: read.1, read.2)
  | c :: rest => if c = '"' then some ([], rest) else (readTitle rest).map fun read => (c :: read.1, read.2)
  | [] => none

-- A character is escaped to a backslash and the character that stands for it, or it stays and is no backslash.
theorem line_char_cases (c : Char) :
    (∃ mark, lineChar c = ['\\', mark] ∧ unescapedChar mark = c) ∨ lineChar c = [c] ∧ c ≠ '\\' := by
  unfold lineChar
  split
  · subst c
    exact .inl ⟨'\\', rfl, rfl⟩
  · rename_i other
    split
    · subst c
      exact .inl ⟨'n', rfl, rfl⟩
    · split
      · subst c
        exact .inl ⟨'r', rfl, rfl⟩
      · split
        · subst c
          exact .inl ⟨'t', rfl, rfl⟩
        · exact .inr ⟨rfl, other⟩

theorem title_char_cases (c : Char) :
    (∃ mark, titleChar c = ['\\', mark] ∧ unescapedChar mark = c) ∨ titleChar c = [c] ∧ c ≠ '\\' ∧ c ≠ '"' := by
  by_cases quote : c = '"'
  · subst c
    exact .inl ⟨'"', rfl, rfl⟩
  · rw [titleChar, if_neg quote]
    rcases line_char_cases c with escaped | ⟨kept, other⟩
    · exact .inl escaped
    · exact .inr ⟨kept, other, quote⟩

theorem unescape_line_kept (c : Char) (other : c ≠ '\\') (rest : List Char) :
    unescapeLine (c :: rest) = c :: unescapeLine rest := by
  rw [unescapeLine]
  exact fun _ _ same => absurd same other

theorem read_title_kept (c : Char) (other : c ≠ '\\') (quote : c ≠ '"') (rest : List Char) :
    readTitle (c :: rest) = (readTitle rest).map fun read => (c :: read.1, read.2) := by
  rw [readTitle]
  · exact if_neg quote
  · exact fun _ _ same => absurd same other

theorem unescape_line_text (cs : List Char) : unescapeLine (cs.flatMap lineChar) = cs := by
  induction cs with
  | nil => rfl
  | cons c rest hypothesis =>
      rw [List.flatMap_cons]
      rcases line_char_cases c with ⟨mark, escaped, stands⟩ | ⟨kept, other⟩
      · rw [escaped]
        change unescapedChar mark :: unescapeLine (rest.flatMap lineChar) = c :: rest
        rw [stands, hypothesis]
      · rw [kept, List.singleton_append, unescape_line_kept c other, hypothesis]

-- Whatever is behind the closing quote, the title ends there.
theorem read_title_text (cs behind : List Char) :
    readTitle (cs.flatMap titleChar ++ '"' :: behind) = some (cs, behind) := by
  induction cs with
  | nil =>
      rw [List.flatMap_nil, List.nil_append, readTitle]
      · exact if_pos rfl
      · exact fun _ _ same => absurd same (by decide)
  | cons c rest hypothesis =>
      rw [List.flatMap_cons, List.append_assoc]
      rcases title_char_cases c with ⟨mark, escaped, stands⟩ | ⟨kept, other, quote⟩
      · rw [escaped]
        change (readTitle (rest.flatMap titleChar ++ '"' :: behind)).map
          (fun read => (unescapedChar mark :: read.1, read.2)) = some (c :: rest, behind)
        rw [hypothesis, stands]
        rfl
      · rw [kept, List.singleton_append, read_title_kept c other quote, hypothesis]
        rfl

end Text

def SchemaKind.ofText? (text : String) : Option SchemaKind := all.find? fun kind => kind.text == text

/-- What a summary tells of a node. -/
structure Caption where
  kind : SchemaKind
  title : Option String
  token : Option String
deriving DecidableEq

namespace Caption

def titlePart : Option String → String
  | none => ""
  | some title => " \"" ++ Text.titleText title ++ "\""

def tokenPart : Option String → String
  | none => ""
  | some token => " -> " ++ Text.lineText token

def render (caption : Caption) : String :=
  caption.kind.text ++ titlePart caption.title ++ tokenPart caption.token

def readToken : List Char → Option (Option String)
  | [] => some none
  | ' ' :: '-' :: '>' :: ' ' :: rest => some (some (String.ofList (Text.unescapeLine rest)))
  | _ => none

-- What is behind the kind: a title if a quote comes first, and a token if anything is left.
def readBehind : List Char → Option (Option String × Option String)
  | ' ' :: '"' :: rest => do
    let (title, behind) ← Text.readTitle rest
    return (some (String.ofList title), ← readToken behind)
  | rest => (readToken rest).map fun token => (none, token)

/-- The caption that a summary shows; the kind ends at the first space. -/
def read? (summary : String) : Option Caption := do
  let kind ← SchemaKind.ofText? (String.ofList (summary.toList.takeWhile (· != ' ')))
  let (title, token) ← readBehind (summary.toList.dropWhile (· != ' '))
  return ⟨kind, title, token⟩

theorem read_token (token : Option String) : readToken (tokenPart token).toList = some token := by
  cases token with
  | none => rfl
  | some text =>
      rw [tokenPart, Text.lineText, String.toList_append, String.toList_ofList, String.toList_ofList]
      change some (some (String.ofList (Text.unescapeLine (text.toList.flatMap Text.lineChar)))) = _
      rw [Text.unescape_line_text, String.ofList_toList]

theorem read_behind (title token : Option String) :
    readBehind ((titlePart title).toList ++ (tokenPart token).toList) = some (title, token) := by
  cases title with
  | none =>
      have known := read_token token
      cases token with
      | none => rfl
      | some text =>
          have arrow : (tokenPart (some text)).toList = ' ' :: '-' :: '>' :: ' ' :: (Text.lineText text).toList := by
            rw [tokenPart, String.toList_append]
            rfl
          have untitled : (titlePart none).toList = [] := rfl
          rw [untitled, List.nil_append]
          rw [arrow] at known ⊢
          rw [readBehind, known]
          · rfl
          · exact fun _ same => absurd (List.cons.inj (List.cons.inj same).2).1 (by decide)
  | some text =>
      rw [titlePart, Text.titleText, String.toList_append, String.toList_append, String.toList_ofList,
        String.toList_ofList, List.append_assoc, List.append_assoc]
      change (do
        let (title, behind) ← Text.readTitle (text.toList.flatMap Text.titleChar ++ '"' :: (tokenPart token).toList)
        return (some (String.ofList title), ← readToken behind)) = _
      rw [Text.read_title_text]
      change (do return (some (String.ofList text.toList), ← readToken (tokenPart token).toList)) = _
      rw [read_token, String.ofList_toList]
      rfl

theorem kind_read (kind : SchemaKind) : SchemaKind.ofText? kind.text = some kind := by
  cases kind <;> decide

theorem kind_unspaced (kind : SchemaKind) : (kind.text.toList.all fun c => c != ' ') = true := by
  cases kind <;> decide

-- What comes behind the kind is nothing or begins with a space.
theorem behind_spaced (title token : Option String) :
    ((titlePart title).toList ++ (tokenPart token).toList).takeWhile (· != ' ') = [] := by
  cases title with
  | some text =>
      rw [titlePart, String.toList_append, String.toList_append, List.append_assoc, List.append_assoc]
      rfl
  | none =>
      cases token with
      | some text =>
          rw [tokenPart, String.toList_append]
          rfl
      | none => rfl

theorem read_render (caption : Caption) : read? caption.render = some caption := by
  obtain ⟨kind, title, token⟩ := caption
  have unspaced := List.all_eq_true.mp (kind_unspaced kind)
  have spaced := behind_spaced title token
  have taken : (render ⟨kind, title, token⟩).toList.takeWhile (· != ' ') = kind.text.toList := by
    rw [render, String.toList_append, String.toList_append, List.append_assoc, List.takeWhile_append_of_pos unspaced,
      spaced, List.append_nil]
  have dropped : (render ⟨kind, title, token⟩).toList.dropWhile (· != ' ') =
      (titlePart title).toList ++ (tokenPart token).toList := by
    rw [render, String.toList_append, String.toList_append, List.append_assoc, List.dropWhile_append_of_pos unspaced]
    have whole := List.takeWhile_append_dropWhile (p := fun c => c != ' ')
      (l := (titlePart title).toList ++ (tokenPart token).toList)
    rwa [spaced, List.nil_append] at whole
  rw [read?, taken, dropped, String.ofList_toList, kind_read, read_behind]
  rfl

theorem render_injective (caption other : Caption) (same : caption.render = other.render) : caption = other := by
  have read := congrArg read? same
  rw [read_render, read_render] at read
  exact Option.some.inj read

end Caption

-- The text of the token, where there is one.
def Schema.tokenWord? : Schema → Option String
  | .ref _ token => token.text?
  | _ => none

-- What a node has for a caption: its kind, the text of its title, and that of its token.
def Schema.caption (s : Schema) : Caption := ⟨s.kind, s.title.toOption.bind Value.text?, s.tokenWord?⟩

theorem title_part_caption (s : Schema) (worded : s.Worded) :
    s.titlePart = .ok (Caption.titlePart s.caption.title) := by
  obtain ⟨title, read, sort⟩ := worded.title
  rcases sort with rfl | word
  · rw [title_part_absent s read, Schema.caption, read]
    rfl
  · obtain ⟨text, spelled⟩ := Option.isSome_iff_exists.mp word
    have shown : s.caption.title = some text := by
      rw [Schema.caption, read]
      exact spelled
    rw [title_part_text s title text read spelled, shown, Caption.titlePart]

theorem token_part_caption (s : Schema) (worded : s.Worded) :
    s.tokenPart = .ok (Caption.tokenPart s.caption.token) := by
  cases s with
  | ref labels token =>
      obtain ⟨text, spelled⟩ := Option.isSome_iff_exists.mp (worded.token labels token rfl)
      have shown : (Schema.ref labels token).caption.token = some text := spelled
      rw [token_part_text labels token text spelled, shown, Caption.tokenPart]
  | _ => rfl

theorem summary_rendered (s : Schema) (worded : s.Worded) : s.summary = .ok s.caption.render := by
  rw [summary_parts, title_part_caption s worded, token_part_caption s worded]
  rfl

theorem words_equal_iff (a b : Value) (word : a.text?.isSome) (other : b.text?.isSome) :
    a.equals b = .ok true ↔ a.text? = b.text? := by
  rw [← words_same a b word other]
  cases a with
  | scalar s =>
      cases b with
      | scalar t => rw [scalars_equal_iff, same_scalars]
      | _ => cases other
  | _ => cases word

-- An absent title is equal to an absent one only, and a text to the same text only.
theorem titles_equal_iff (title other : Value) (sort : title = .null ∨ title.text?.isSome)
    (otherSort : other = .null ∨ other.text?.isSome) : title.equals other = .ok true ↔ title.text? = other.text? := by
  rcases sort with rfl | word
  · rcases otherSort with rfl | otherWord
    · exact iff_of_true null_equals_null rfl
    · exact iff_of_false (mt (part_of_equal _ _) (null_no_word other otherWord).1) fun same => Option.isSome_iff_ne_none.mp otherWord same.symm
  · rcases otherSort with rfl | otherWord
    · exact iff_of_false (mt (part_of_equal _ _) (null_no_word title word).2) (Option.isSome_iff_ne_none.mp word)
    · exact words_equal_iff title other word otherWord

-- Only references have tokens.
theorem tokens_same_iff (s t : Schema) (worded : s.Worded) (wordedToo : t.Worded) (kinds : s.kind = t.kind) :
    s.tokenWord? = t.tokenWord? ↔ ∀ labels token others other, s = .ref labels token → t = .ref others other →
      token.equals other = .ok true := by
  have tokenless (given : Schema) (kind : given.kind ≠ .ref) : given.tokenWord? = none := by
    cases given with
    | ref labels token => exact absurd rfl kind
    | _ => rfl
  by_cases reference : s.kind = .ref
  · have shaped (given : Schema) (kind : given.kind = .ref) : ∃ labels token, given = .ref labels token := by
      cases given with
      | ref labels token => exact ⟨labels, token, rfl⟩
      | combined mode combinator => cases mode <;> cases kind
      | _ => cases kind
    obtain ⟨labels, token, rfl⟩ := shaped s reference
    obtain ⟨others, other, rfl⟩ := shaped t (kinds.symm.trans reference)
    have equal := words_equal_iff token other (worded.token labels token rfl) (wordedToo.token others other rfl)
    constructor
    · rintro same _ _ _ _ ⟨⟩ ⟨⟩
      exact equal.mpr same
    · exact fun each => equal.mp (each labels token others other rfl rfl)
  · refine iff_of_true ?_ ?_
    · rw [tokenless s reference, tokenless t (kinds ▸ reference)]
    · rintro labels token _ _ rfl _
      exact absurd rfl reference

theorem summaries_unambiguous :
    (∀ s : Schema, s.Worded → ∃ text, s.summary = .ok text ∧ Caption.read? text = some s.caption) ∧
    ∀ s t : Schema, s.Worded → t.Worded → ∃ text other title along, s.summary = .ok text ∧ t.summary = .ok other ∧
      s.title = .ok title ∧ t.title = .ok along ∧
      (text = other ↔ s.kind = t.kind ∧ title.equals along = .ok true ∧
        ∀ labels token others otherToken, s = .ref labels token → t = .ref others otherToken →
          token.equals otherToken = .ok true) := by
  refine ⟨fun s worded => ⟨_, summary_rendered s worded, Caption.read_render s.caption⟩, ?_⟩
  intro s t worded wordedToo
  obtain ⟨title, read, sort⟩ := worded.title
  obtain ⟨along, readToo, sortToo⟩ := wordedToo.title
  refine ⟨_, _, title, along, summary_rendered s worded, summary_rendered t wordedToo, read, readToo, ?_⟩
  have rendered : s.caption.render = t.caption.render ↔ s.caption = t.caption :=
    ⟨Caption.render_injective _ _, congrArg Caption.render⟩
  have titles : s.caption.title = t.caption.title ↔ title.equals along = .ok true := by
    rw [titles_equal_iff title along sort sortToo, Schema.caption, Schema.caption, read, readToo]
    exact Iff.rfl
  rw [rendered, Caption.mk.injEq]
  constructor
  · rintro ⟨kinds, sameTitles, tokens⟩
    exact ⟨kinds, titles.mp sameTitles, (tokens_same_iff s t worded wordedToo kinds).mp tokens⟩
  · rintro ⟨kinds, equal, tokens⟩
    exact ⟨kinds, titles.mpr equal, (tokens_same_iff s t worded wordedToo kinds).mpr tokens⟩

-- A reference whose title looks like the end of a title with a token behind it, and one with that token.
def quotingNode : Schema := .ref (.of (.text "a\" -> \\n") .null []) (.text "b\n")

def pointingNode : Schema := .ref (.of (.text "a") .null []) (.text "\\n\" -> b\n")

theorem quoting_node_read :
    (∃ text, quotingNode.summary = .ok text ∧
      Caption.read? text = some ⟨.ref, some "a\" -> \\n", some "b\n"⟩) ∧
    ∃ text other, quotingNode.summary = .ok text ∧ pointingNode.summary = .ok other ∧ text ≠ other := by
  obtain ⟨reads, differ⟩ := summaries_unambiguous
  have quoting : quotingNode.Worded := ⟨⟨_, rfl, .inr rfl⟩, fun _ _ same => by cases same; rfl⟩
  have pointing : pointingNode.Worded := ⟨⟨_, rfl, .inr rfl⟩, fun _ _ same => by cases same; rfl⟩
  obtain ⟨text, other, title, along, shown, shownToo, read, readToo, same⟩ :=
    differ quotingNode pointingNode quoting pointing
  refine ⟨reads quotingNode quoting, text, other, shown, shownToo, fun equal => ?_⟩
  obtain rfl := Except.ok.inj read
  obtain rfl := Except.ok.inj readToo
  have titles := words_equal (.text "a\" -> \\n") (.text "a") rfl rfl (part_of_equal _ _ (same.mp equal).2.1)
  exact absurd titles (by decide)

end Schemata
