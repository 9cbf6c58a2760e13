import PageMarkup.Proofs.Code.Lexemes

/-! # Lines of code

A line end cuts code in two, and each part is cut into lexemes as if it stood alone. Only a string
or a block comment that has not ended goes on over the line end. -/

namespace PageMarkup

namespace Text

/-- A mark that does not hold a character lies on one side of it. -/
theorem isInfix_of_append_cons {mark before after : Text} {c : Char} (notMem : c ∉ mark)
    (h : mark <:+: before ++ c :: after) : mark <:+: before ∨ mark <:+: after := by
  obtain ⟨front, back, split⟩ := h
  rcases List.append_eq_append_iff.mp split with ⟨more, inside, -⟩ | ⟨more, outside, rest⟩
  · exact .inl ⟨front, more, inside.symm⟩
  cases more with
  | nil => exact .inl ⟨front, [], by simpa using outside⟩
  | cons d more =>
      obtain ⟨rfl, rfl⟩ := List.cons.inj rest
      rcases List.append_eq_append_iff.mp outside with ⟨most, -, rfl⟩ | ⟨most, -, held⟩
      · exact absurd (by simp) notMem
      · cases most with
        | nil =>
            obtain rfl : c :: more = mark := held
            exact absurd List.mem_cons_self notMem
        | cons e most =>
            obtain ⟨-, rfl⟩ := List.cons.inj held
            exact .inr ⟨most, back, rfl⟩

/-- A mark that does not hold a character ends in front of it. -/
theorem isPrefix_of_append_cons {mark before after : Text} {c : Char} (notMem : c ∉ mark)
    (h : mark <+: before ++ c :: after) : mark <+: before := by
  obtain ⟨back, split⟩ := h
  rcases List.append_eq_append_iff.mp split with ⟨more, inside, -⟩ | ⟨more, outside, rest⟩
  · exact ⟨more, inside.symm⟩
  cases more with
  | nil => exact ⟨[], by simpa using outside⟩
  | cons d more =>
      obtain ⟨rfl, -⟩ := List.cons.inj rest
      exact absurd (outside ▸ by simp) notMem

end Text

namespace Lexeme

variable {lexicon : Lexicon} {lexeme last : Lexeme} {c : Char} {code run rest : Text}

/-! ## Strings and comments that have not ended -/

/-- A string without its second delimiter or a block comment without its end. Behind a backslash a
delimiter does not end a string, and a backslash can be the last character of all. -/
inductive Unended : Lexeme → Prop
  | string {delimiter inside} (quoted : Quoted delimiter inside) :
      Unended ⟨.string, delimiter :: inside⟩
  | escape {delimiter inside} (other : '\\' ≠ delimiter) (quoted : Quoted delimiter inside) :
      Unended ⟨.string, delimiter :: (inside ++ ['\\'])⟩
  | blockComment {inside} (unended : ¬ blockEnd <:+: inside) :
      Unended ⟨.blockComment, blockStart ++ inside⟩

/-- What stands before a line end is followed by what it was followed by, or by the line end. -/
theorem forall_head?_append_newline {p : Char → Prop} (ends : ∀ d ∈ rest.head?, p d)
    (newline : p '\n') (more : Text) : ∀ d ∈ (rest ++ '\n' :: more).head?, p d := by
  intro d head
  cases rest with
  | nil =>
      obtain rfl : '\n' = d := Option.some.inj head
      exact newline
  | cons e rest => exact ends d head

theorem Unclaimed.before_newline (free : Unclaimed lexicon c code) (more : Text) :
    Unclaimed lexicon c (code ++ '\n' :: more) := by
  refine ⟨free.blank, free.word, ?_, ?_⟩
  · rintro (digit | ⟨dot, d, head, digit⟩)
    · exact free.number (.inl digit)
    · have plain : ∀ d ∈ code.head?, ¬ d.isDigit = true := fun d head digit =>
        free.number (.inr ⟨dot, d, head, digit⟩)
      exact forall_head?_append_newline plain (by decide) more d head digit
  · intro marker listed known begins
    have plain : ∀ marker ∈ commentStarts, '\n' ∉ marker := by decide
    exact free.comment marker listed known
      (@Text.isPrefix_of_append_cons marker (c :: code) more _ (plain marker known) begins)

/-- A lexeme is one before a line end too, unless it is the last one and has not ended. -/
theorem Rule.before_newline (rule : Rule lexicon lexeme rest)
    (ended : rest = [] → ¬ lexeme.Unended) (more : Text) : Rule lexicon lexeme (rest ++ '\n' :: more) := by
  cases rule with
  | blank blank => exact .blank blank
  | word starts chars ends =>
      exact .word starts chars (forall_head?_append_newline ends rfl more)
  | number starts longest =>
      refine .number starts ⟨longest.chars, longest.periods, ?_⟩
      exact forall_head?_append_newline longest.ends ⟨rfl, nofun⟩ more
  | lineComment listed known line ends =>
      exact .lineComment listed known line (forall_head?_append_newline ends rfl more)
  | blockComment listed first => exact .blockComment listed first
  | openBlockComment listed unended => exact absurd (.blockComment unended) (ended rfl)
  | string listed free quoted =>
      refine .string listed ?_ quoted
      have later := free.before_newline more
      rwa [List.append_assoc, List.cons_append] at later
  | openString listed free quoted => exact absurd (.string quoted) (ended rfl)
  | openEscape listed free other quoted => exact absurd (.escape other quoted) (ended rfl)
  | symbol free unlisted => exact .symbol (free.before_newline more) unlisted

/-- A string begins with a delimiter that nothing else claims. -/
theorem Rule.string_begins (rule : Rule lexicon ⟨.string, c :: run⟩ rest) :
    [c] ∈ lexicon.delimiters ∧ Unclaimed lexicon c (run ++ rest) := by
  cases rule with
  | string listed free quoted => exact ⟨listed, by simpa using free⟩
  | openString listed free quoted => exact ⟨listed, by simpa using free⟩
  | openEscape listed free other quoted => exact ⟨listed, by simpa using free⟩

theorem Rule.string_before_newline (rule : Rule lexicon ⟨.string, c :: run⟩ []) (more : Text) :
    cut lexicon c (run ++ '\n' :: more) =
      (⟨.string, c :: (cutString c (run ++ '\n' :: more)).1⟩,
        (cutString c (run ++ '\n' :: more)).2) := by
  obtain ⟨listed, free⟩ := rule.string_begins
  rw [List.append_nil] at free
  rw [(free.before_newline more).cut_eq, if_pos (by simpa using listed)]

theorem exists_cutString_cons (delimiter c : Char) (code : Text) :
    ∃ inside, (cutString delimiter (c :: code)).1 = c :: inside := by
  rw [cutString.eq_def]
  simp only
  split
  · exact ⟨_, rfl⟩
  split
  · split <;> exact ⟨_, rfl⟩
  · exact ⟨_, rfl⟩

theorem exists_cutBlock_newline {inside : Text} (unended : ¬ blockEnd <:+: inside) (more : Text) :
    ∃ later, (cutBlock (inside ++ '\n' :: more)).1 = inside ++ '\n' :: later := by
  have plain : '\n' ∉ blockEnd := by decide
  rcases blockEnd_cases more with ⟨front, rest, first, rfl⟩ | none
  · have whole : ¬ blockEnd <:+: inside ++ '\n' :: front := fun held =>
      (Text.isInfix_of_append_cons plain held).elim unended first
    have cut := cutBlock_of_ended whole rest
    rw [List.append_assoc, List.cons_append] at cut
    exact ⟨front ++ blockEnd, by rw [cut, List.append_assoc, List.cons_append]⟩
  · have whole : ¬ blockEnd <:+: inside ++ '\n' :: more := fun held =>
      (Text.isInfix_of_append_cons plain held).elim unended none
    exact ⟨more, by rw [cutBlock_of_unended whole]⟩

/-- What has not ended goes on over the line end. -/
theorem Unended.lexemes_newline (unended : last.Unended) (rule : Rule lexicon last [])
    (more : Text) : ∃ inside later, lexemes lexicon (last.text ++ '\n' :: more) =
      ⟨last.kind, last.text ++ '\n' :: inside⟩ :: later := by
  cases unended with
  | @string delimiter inside quoted =>
      obtain ⟨later, goesOn⟩ := exists_cutString_cons delimiter '\n' more
      refine ⟨later, lexemes lexicon (cutString delimiter ('\n' :: more)).2, ?_⟩
      rw [List.cons_append, lexemes, rule.string_before_newline, quoted.cutString_append, goesOn]
      rfl
  | @escape delimiter inside other quoted =>
      refine ⟨(cutString delimiter more).1, lexemes lexicon (cutString delimiter more).2, ?_⟩
      have goesOn : cutString delimiter ('\\' :: '\n' :: more) =
          ('\\' :: '\n' :: (cutString delimiter more).1, (cutString delimiter more).2) := by
        simp [cutString, other]
      rw [List.cons_append, lexemes, rule.string_before_newline, List.append_assoc,
        List.singleton_append, quoted.cutString_append, goesOn]
      simp
  | @blockComment inside unended =>
      obtain ⟨later, goesOn⟩ := exists_cutBlock_newline unended more
      have listed : blockStart ∈ lexicon.markers := by
        generalize text : blockStart ++ inside = whole at rule
        cases rule with
        | blockComment listed => exact listed
        | openBlockComment listed => exact listed
      refine ⟨later, lexemes lexicon (cutBlock (inside ++ '\n' :: more)).2, ?_⟩
      have first : blockStart ++ inside ++ '\n' :: more =
          '/' :: '*' :: (inside ++ '\n' :: more) := rfl
      rw [first, lexemes, cut_of_blockComment listed, goesOn]
      rfl

/-! ## Two parts of a code -/

theorem Rule.lexemes_eq (rule : Rule lexicon lexeme rest) :
    lexemes lexicon (lexeme.text ++ rest) = lexeme :: lexemes lexicon rest :=
  (Tiles.cons rule (tiles_lexemes lexicon rest)).lexemes_eq

/-- Before a line end all lexemes but the last are as they are at the end of the code. -/
theorem Tiles.lexemes_newline {front : List Lexeme} (tiles : Tiles lexicon code (front ++ [last]))
    (more : Text) : lexemes lexicon (code ++ '\n' :: more) =
      front ++ lexemes lexicon (last.text ++ '\n' :: more) := by
  induction front generalizing code with
  | nil =>
      cases tiles with
      | cons rule later =>
          obtain rfl : _ = [] := later.flatten_eq.symm
          rw [List.append_nil, List.nil_append]
  | cons first front ih =>
      cases tiles with
      | @cons _ rest _ rule later =>
          have nonempty : rest ≠ [] := by
            rintro rfl
            have none := later.lexemes_eq
            simp [lexemes] at none
          have first := rule.before_newline (fun empty => absurd empty nonempty) more
          rw [List.append_assoc, first.lexemes_eq, ih later, List.cons_append]

/-- Code up to a line end is cut like code that ends there, the line end is a lexeme of its own, and
what follows is cut like code that begins there: unless the last lexeme before the line end is a
string or a block comment that has not ended. Then this one alone is different, as it goes on over
the line end. -/
theorem lines_are_cut_apart_unless_literal_goes_on (lexicon : Lexicon) (code more : Text) :
    ((∀ last ∈ (lexemes lexicon code).getLast?, ¬ last.Unended) →
      lexemes lexicon (code ++ '\n' :: more) =
        lexemes lexicon code ++ ⟨.blank, ['\n']⟩ :: lexemes lexicon more) ∧
    ∀ last ∈ (lexemes lexicon code).getLast?, last.Unended →
      ∃ inside later, lexemes lexicon (code ++ '\n' :: more) =
        (lexemes lexicon code).dropLast ++
          ⟨last.kind, last.text ++ '\n' :: inside⟩ :: later := by
  have newline : lexemes lexicon ('\n' :: more) = ⟨.blank, ['\n']⟩ :: lexemes lexicon more :=
    Rule.lexemes_eq (.blank (.inr rfl))
  have tiles := tiles_lexemes lexicon code
  rcases List.eq_nil_or_concat (lexemes lexicon code) with none | ⟨front, last, whole⟩
  · rw [none] at tiles
    obtain rfl : code = [] := tiles.flatten_eq.symm
    simp [none, newline]
  · rw [List.concat_eq_append] at whole
    rw [whole] at tiles ⊢
    have rule : Rule lexicon last [] := tiles.rule
    rw [tiles.lexemes_newline]
    constructor
    · intro ended
      have ended : ¬ last.Unended := ended last (by simp)
      have next := (rule.before_newline (fun _ => ended) more).lexemes_eq
      rw [List.nil_append] at next
      rw [next, newline, List.append_assoc, List.singleton_append]
    · intro other found unended
      obtain rfl : last = other := by simpa using found
      obtain ⟨inside, later, goesOn⟩ := unended.lexemes_newline rule more
      exact ⟨inside, later, by rw [goesOn, List.dropLast_concat]⟩

/-- A lone quotation mark takes the next line into its string, which two of them do not. -/
theorem lone_quotation_mark_takes_next_line :
    lexemes { delimiters := [['"']] } "\"\"\nx".toList =
        [⟨.string, "\"\"".toList⟩, ⟨.blank, ['\n']⟩, ⟨.word, ['x']⟩] ∧
      ∃ inside later, lexemes { delimiters := [['"']] } "\"\nx".toList =
        ⟨.string, '"' :: '\n' :: inside⟩ :: later := by
  have two : lexemes { delimiters := [['"']] } "\"\"".toList = [⟨.string, "\"\"".toList⟩] := by
    simp [lexemes, cut, isWordStart, cutString]
  have one : lexemes { delimiters := [['"']] } ['"'] = [⟨.string, ['"']⟩] := by
    simp [lexemes, cut, isWordStart, cutString]
  have word : lexemes { delimiters := [['"']] } ['x'] = [⟨.word, ['x']⟩] := by
    simp [lexemes, cut, isWordStart, cutWhile]
  have ended : ¬ Unended ⟨.string, ['"', '"']⟩ := by
    generalize text : ['"', '"'] = string
    intro unended
    cases unended with
    | string quoted =>
        cases text
        cases quoted with
        | plain other => exact other rfl
    | escape => simpa using congrArg List.reverse text
  constructor
  · have apart := (lines_are_cut_apart_unless_literal_goes_on { delimiters := [['"']] }
      "\"\"".toList ['x']).1 (by rw [two]; simpa using ended)
    rw [two, word] at apart
    exact apart
  · have goesOn := (lines_are_cut_apart_unless_literal_goes_on { delimiters := [['"']] }
      ['"'] ['x']).2 ⟨.string, ['"']⟩ (by rw [one]; rfl) (.string .nil)
    rw [one] at goesOn
    exact goesOn

end Lexeme

end PageMarkup
