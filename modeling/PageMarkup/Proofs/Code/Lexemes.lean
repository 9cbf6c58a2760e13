import PageMarkup.Code.Lexeme

/-! # Lexemes

Which lexemes code is made of, said without the lexer: a lexeme is told by its text and by what
follows it, and lexemes tile a code if each of them is right before those after it. Every code is
tiled in exactly one way, and every lexeme is still one where it stands alone. -/

namespace PageMarkup

namespace Text

/-! ## The first occurrence of a mark -/

theorem beginsWith_iff {lead text : Text} : beginsWith lead text = true ↔ lead <+: text := by
  rw [beginsWith, Option.isSome_iff_exists]
  constructor
  · rintro ⟨rest, found⟩
    exact ⟨rest, (after?_eq_some_iff.mp found).symm⟩
  · rintro ⟨rest, rfl⟩
    exact ⟨rest, after?_eq_some_iff.mpr rfl⟩

/-- Nothing that begins before the cut is the mark. -/
theorem not_isPrefix_of_breakOn {mark text front back : Text}
    (split : (breakOn mark text).1 = front ++ back) (nonempty : back ≠ []) :
    ¬ mark <+: back ++ (breakOn mark text).2 := by
  induction text generalizing front with
  | nil => simp [breakOn, nonempty] at split
  | cons c text ih =>
      by_cases found : beginsWith mark (c :: text) = true
      · simp [breakOn, found, nonempty] at split
      · simp only [breakOn, found] at split ⊢
        cases front with
        | nil =>
            obtain rfl : c :: (breakOn mark text).1 = back := split
            rwa [if_neg (by simp), List.cons_append, breakOn_append, ← beginsWith_iff]
        | cons d front => exact ih (List.cons.inj split).2

/-- The text before the cut does not hold the mark. -/
theorem not_isInfix_breakOn {mark : Text} (nonempty : mark ≠ []) (text : Text) :
    ¬ mark <:+: (breakOn mark text).1 := by
  rintro ⟨front, back, split⟩
  rw [List.append_assoc] at split
  apply not_isPrefix_of_breakOn split.symm (by simp [nonempty])
  rw [List.append_assoc]
  exact List.prefix_append _ _

/-- The cut is where the mark begins for the first time. -/
theorem breakOn_append_of_first {mark front back : Text} (found : back = [] ∨ mark <+: back)
    (first : ∀ outer inner, front = outer ++ inner → inner ≠ [] → ¬ mark <+: inner ++ back) :
    breakOn mark (front ++ back) = (front, back) := by
  induction front with
  | nil =>
      cases back with
      | nil => rfl
      | cons c back =>
          have begins : beginsWith mark (c :: back) = true :=
            beginsWith_iff.mpr (found.resolve_left (by simp))
          simp only [List.nil_append, breakOn, begins, if_true]
  | cons c front ih =>
      have later := ih fun outer inner split => first (c :: outer) inner (by simp [split])
      have not : ¬ beginsWith mark (c :: (front ++ back)) = true :=
        fun begins => first [] (c :: front) rfl (by simp) (beginsWith_iff.mp begins)
      simp only [List.cons_append, breakOn, not, later]
      rfl

end Text

namespace Lexeme

/-! ## Rules -/

/-- The longest run of word characters with at most one period among them, none if a `period` has
been seen already. -/
structure NumberRun (period : Bool) (run rest : Text) : Prop where
  chars : ∀ c ∈ run, isWordChar c = true ∨ c = '.'
  periods : run.count '.' + period.toNat ≤ 1
  ends : ∀ c ∈ rest.head?, isWordChar c = false ∧ (c = '.' → period = true ∨ '.' ∈ run)

/-- The inside of a string: characters that are neither its delimiter nor a backslash, and
backslashes with any character after them. -/
inductive Quoted (delimiter : Char) : Text → Prop
  | nil : Quoted delimiter []
  | plain {c text} (other : c ≠ delimiter) (unmarked : c ≠ '\\') :
      Quoted delimiter text → Quoted delimiter (c :: text)
  | escaped {c text} (other : '\\' ≠ delimiter) :
      Quoted delimiter text → Quoted delimiter ('\\' :: c :: text)

/-- A digit comes first, or a period before a digit. -/
def BeginsNumber (c : Char) (code : Text) : Prop :=
  c.isDigit = true ∨ c = '.' ∧ ∃ d ∈ code.head?, d.isDigit = true

/-- The texts with which a comment can begin at all. -/
def commentStarts : List Text := [['#'], ['/', '/'], blockStart]

/-- Neither a blank nor a word, a number or a comment begins with `c` where `code` follows it. -/
structure Unclaimed (lexicon : Lexicon) (c : Char) (code : Text) : Prop where
  blank : c ≠ ' ' ∧ c ≠ '\n'
  word : isWordStart c = false
  number : ¬ BeginsNumber c code
  comment : ∀ marker ∈ lexicon.markers, marker ∈ commentStarts → ¬ marker <+: c :: code

/-- One rule for each way in which a lexeme can stand before `rest`. The rules do not invoke the
lexer. -/
inductive Rule (lexicon : Lexicon) : Lexeme → Text → Prop
  | blank {c rest} (blank : c = ' ' ∨ c = '\n') : Rule lexicon ⟨.blank, [c]⟩ rest
  | word {c run rest} (starts : isWordStart c = true) (chars : ∀ d ∈ run, isWordChar d = true)
      (ends : ∀ d ∈ rest.head?, isWordChar d = false) : Rule lexicon ⟨.word, c :: run⟩ rest
  | number {c run rest} (starts : BeginsNumber c run) (longest : NumberRun false (c :: run) rest) :
      Rule lexicon ⟨.number, c :: run⟩ rest
  | lineComment {marker run rest} (listed : marker ∈ lexicon.markers)
      (known : marker = ['#'] ∨ marker = ['/', '/']) (line : '\n' ∉ run)
      (ends : ∀ d ∈ rest.head?, d = '\n') : Rule lexicon ⟨.lineComment, marker ++ run⟩ rest
  | blockComment {inside rest} (listed : blockStart ∈ lexicon.markers)
      (first : ¬ blockEnd <:+: inside) :
      Rule lexicon ⟨.blockComment, blockStart ++ (inside ++ blockEnd)⟩ rest
  | openBlockComment {inside} (listed : blockStart ∈ lexicon.markers)
      (unended : ¬ blockEnd <:+: inside) : Rule lexicon ⟨.blockComment, blockStart ++ inside⟩ []
  | string {delimiter inside rest} (listed : [delimiter] ∈ lexicon.delimiters)
      (free : Unclaimed lexicon delimiter (inside ++ delimiter :: rest))
      (quoted : Quoted delimiter inside) :
      Rule lexicon ⟨.string, delimiter :: (inside ++ [delimiter])⟩ rest
  | openString {delimiter inside} (listed : [delimiter] ∈ lexicon.delimiters)
      (free : Unclaimed lexicon delimiter inside) (quoted : Quoted delimiter inside) :
      Rule lexicon ⟨.string, delimiter :: inside⟩ []
  | openEscape {delimiter inside} (listed : [delimiter] ∈ lexicon.delimiters)
      (free : Unclaimed lexicon delimiter (inside ++ ['\\'])) (other : '\\' ≠ delimiter)
      (quoted : Quoted delimiter inside) :
      Rule lexicon ⟨.string, delimiter :: (inside ++ ['\\'])⟩ []
  | symbol {c rest} (free : Unclaimed lexicon c rest) (unlisted : [c] ∉ lexicon.delimiters) :
      Rule lexicon ⟨.symbol, [c]⟩ rest

variable {lexicon : Lexicon} {lexeme : Lexeme} {c : Char} {code run rest : Text}

/-! ## Runs, strings and block comments -/

theorem cutWhile_of_ends {p : Char → Bool} (belong : ∀ c ∈ run, p c = true)
    (ends : ∀ c ∈ rest.head?, p c = false) : cutWhile p (run ++ rest) = (run, rest) := by
  obtain ⟨taken, left⟩ := Text.takeWhile_append_of_ends belong ends
  rw [cutWhile, taken, left]

theorem ends_cutWhile (p : Char → Bool) (code : Text) :
    ∀ c ∈ (cutWhile p code).2.head?, p c = false := by
  intro c head
  have stops := List.head?_dropWhile_not p code
  rw [cutWhile, Option.mem_def] at head
  simpa [head] using stops

theorem numberRun_cutNumber (period : Bool) (code : Text) :
    NumberRun period (cutNumber period code).1 (cutNumber period code).2 := by
  fun_induction cutNumber period code with
  | case1 period => exact ⟨by simp, by cases period <;> simp, by simp⟩
  | case2 period c code word ih =>
      have other : c ≠ '.' := by rintro rfl; simp [isWordChar] at word
      refine ⟨?_, ?_, fun d head => ?_⟩
      · simpa [word] using ih.chars
      · rw [List.count_cons_of_ne other]
        exact ih.periods
      · obtain ⟨outside, seen⟩ := ih.ends d head
        exact ⟨outside, fun dot => (seen dot).imp_right (List.mem_cons_of_mem c)⟩
  | case3 period c code _ dot ih =>
      obtain ⟨rfl, rfl⟩ : c = '.' ∧ period = false := by simpa using dot
      refine ⟨?_, ?_, fun d head => ⟨(ih.ends d head).1, fun _ => .inr List.mem_cons_self⟩⟩
      · simpa using ih.chars
      · simpa using ih.periods
  | case4 period c code outside dot =>
      refine ⟨by simp, by cases period <;> simp, fun d head => ?_⟩
      obtain rfl : c = d := by simpa using head
      refine ⟨by simpa using outside, ?_⟩
      rintro rfl
      exact .inl (by simpa using dot)

theorem NumberRun.cutNumber_eq {period : Bool} (longest : NumberRun period run rest) :
    cutNumber period (run ++ rest) = (run, rest) := by
  induction run generalizing period with
  | nil =>
      cases rest with
      | nil => rfl
      | cons c rest =>
          obtain ⟨outside, seen⟩ := longest.ends c rfl
          have noDot : (c = '.' && !period) = false := by
            by_cases dot : c = '.'
            · simpa [dot] using seen dot
            · simp [dot]
          simp only [cutNumber, List.nil_append, outside, noDot]
          rfl
  | cons c run ih =>
      obtain ⟨chars, periods, ends⟩ := longest
      rw [List.forall_mem_cons] at chars
      by_cases word : isWordChar c = true
      · have other : c ≠ '.' := by rintro rfl; simp [isWordChar] at word
        have later : NumberRun period run rest := by
          refine ⟨chars.2, by rwa [List.count_cons_of_ne other] at periods, fun d head => ?_⟩
          obtain ⟨outside, seen⟩ := ends d head
          refine ⟨outside, fun dot => (seen dot).imp_right fun mem => ?_⟩
          exact (List.mem_cons.mp mem).resolve_left other.symm
        simp only [List.cons_append, cutNumber, word, if_true, ih later]
      · obtain rfl : c = '.' := chars.1.resolve_left word
        rw [List.count_cons_self] at periods
        have unseen : period = false := by
          cases period with
          | false => rfl
          | true => simp at periods
        have later : NumberRun true run rest := by
          refine ⟨chars.2, by simpa [unseen] using periods, fun d head => ?_⟩
          exact ⟨(ends d head).1, fun _ => .inl rfl⟩
        simp [cutNumber, isWordChar, unseen, ih later]

theorem cutString_of_plain {delimiter : Char} (other : c ≠ delimiter) (unmarked : c ≠ '\\') :
    cutString delimiter (c :: code) =
      (c :: (cutString delimiter code).1, (cutString delimiter code).2) := by
  cases code <;> simp [cutString, other, unmarked]

theorem Quoted.cutString_append {delimiter : Char} {inside : Text}
    (quoted : Quoted delimiter inside) (rest : Text) :
    cutString delimiter (inside ++ rest) =
      (inside ++ (cutString delimiter rest).1, (cutString delimiter rest).2) := by
  induction quoted with
  | nil => rfl
  | plain other unmarked _ ih => simp [cutString_of_plain other unmarked, ih]
  | escaped other _ ih => simp [cutString, other, ih]

theorem Quoted.cutString_closed {delimiter : Char} {inside : Text}
    (quoted : Quoted delimiter inside) (rest : Text) :
    cutString delimiter (inside ++ delimiter :: rest) = (inside ++ [delimiter], rest) := by
  rw [quoted.cutString_append, cutString.eq_def]
  simp

theorem Quoted.cutString_open {delimiter : Char} {inside : Text}
    (quoted : Quoted delimiter inside) : cutString delimiter inside = (inside, []) := by
  simpa [cutString] using quoted.cutString_append []

theorem Quoted.cutString_escape {delimiter : Char} {inside : Text}
    (quoted : Quoted delimiter inside) (other : '\\' ≠ delimiter) :
    cutString delimiter (inside ++ ['\\']) = (inside ++ ['\\'], []) := by
  rw [quoted.cutString_append]
  simp [cutString, other]

/-- A string ends at its delimiter, or the code ends in it, perhaps behind a backslash. -/
theorem quoted_cases (delimiter : Char) (code : Text) :
    (∃ inside rest, Quoted delimiter inside ∧ code = inside ++ delimiter :: rest) ∨
      Quoted delimiter code ∨
        '\\' ≠ delimiter ∧ ∃ inside, Quoted delimiter inside ∧ code = inside ++ ['\\'] := by
  fun_induction cutString delimiter code with
  | case1 => exact .inr (.inl .nil)
  | case2 code => exact .inl ⟨[], code, .nil, rfl⟩
  | case3 other => exact .inr (.inr ⟨other, [], .nil, rfl⟩)
  | case4 d code other ih =>
      rcases ih with ⟨inside, rest, quoted, rfl⟩ | quoted | ⟨-, inside, quoted, rfl⟩
      · exact .inl ⟨_, rest, .escaped other quoted, rfl⟩
      · exact .inr (.inl (.escaped other quoted))
      · exact .inr (.inr ⟨other, _, .escaped other quoted, rfl⟩)
  | case5 c code other unmarked ih =>
      rcases ih with ⟨inside, rest, quoted, rfl⟩ | quoted | ⟨mark, inside, quoted, rfl⟩
      · exact .inl ⟨_, rest, .plain other unmarked quoted, rfl⟩
      · exact .inr (.inl (.plain other unmarked quoted))
      · exact .inr (.inr ⟨mark, _, .plain other unmarked quoted, rfl⟩)

/-- What can begin inside a block comment does not end it. -/
theorem not_isPrefix_of_not_isInfix {inside after : Text} (free : ¬ blockEnd <:+: inside)
    (other : after.head? ≠ some '/') (outer inner : Text) (split : inside = outer ++ inner)
    (nonempty : inner ≠ []) : ¬ blockEnd <+: inner ++ after := by
  rintro ⟨rest, begins⟩
  obtain ⟨c, inner, rfl⟩ := List.exists_cons_of_ne_nil nonempty
  cases inner with
  | nil =>
      obtain ⟨-, rfl⟩ : '*' = c ∧ '/' :: rest = after := by simpa [blockEnd] using begins
      exact other rfl
  | cons d inner =>
      obtain ⟨rfl, rfl, -⟩ : '*' = c ∧ '/' = d ∧ rest = inner ++ after := by
        simpa [blockEnd] using begins
      exact free ⟨outer, inner, by simp [split, blockEnd]⟩

theorem cutBlock_of_ended {inside : Text} (first : ¬ blockEnd <:+: inside) (rest : Text) :
    cutBlock (inside ++ (blockEnd ++ rest)) = (inside ++ blockEnd, rest) := by
  have cut := Text.breakOn_append_of_first (.inr (List.prefix_append blockEnd rest))
    (not_isPrefix_of_not_isInfix first (by simp [blockEnd]))
  simp only [cutBlock, cut, List.take_left, List.drop_left]

theorem cutBlock_of_unended (unended : ¬ blockEnd <:+: code) : cutBlock code = (code, []) := by
  have cut := Text.breakOn_append_of_first (.inl rfl)
    (not_isPrefix_of_not_isInfix unended (by simp))
  rw [List.append_nil] at cut
  simp only [cutBlock, cut, List.take_nil, List.drop_nil, List.append_nil]

/-- A block comment ends at its first end, or the code ends in it. -/
theorem blockEnd_cases (code : Text) :
    (∃ inside rest, ¬ blockEnd <:+: inside ∧ code = inside ++ (blockEnd ++ rest)) ∨
      ¬ blockEnd <:+: code := by
  have whole := Text.breakOn_append blockEnd code
  have free := Text.not_isInfix_breakOn (show blockEnd ≠ [] by simp [blockEnd]) code
  rcases Text.breakOn_rest blockEnd code with none | begins
  · rw [none, List.append_nil] at whole
    exact .inr (whole ▸ free)
  · obtain ⟨rest, ends⟩ := Text.beginsWith_iff.mp begins
    exact .inl ⟨_, rest, free, by rw [ends, whole]⟩

/-! ## The first lexeme -/

theorem not_isWordStart_of_isDigit (digit : c.isDigit = true) : isWordStart c = false := by
  have other : c ≠ '_' := by rintro rfl; simp at digit
  simp only [Char.isDigit, Bool.and_eq_true, decide_eq_true_eq, UInt32.le_iff_toNat_le] at digit
  have letters : c.isAlpha =
      (decide ('A'.val ≤ c.val ∧ c.val ≤ 'Z'.val) ||
        (decide ('a'.val ≤ c.val) && decide (c.val ≤ 'z'.val))) := rfl
  have letter : c.isAlpha = false := by
    rw [letters]
    simp only [Bool.or_eq_false_iff, Bool.and_eq_false_iff, decide_eq_false_iff_not,
      UInt32.le_iff_toNat_le]
    simp at digit ⊢
    omega
  simp [isWordStart, letter, other]

theorem cut_of_blank (blank : c = ' ' ∨ c = '\n') :
    cut lexicon c code = (⟨.blank, [c]⟩, code) := by
  simp [cut, blank]

theorem cut_of_word (starts : isWordStart c = true) : cut lexicon c code =
    (⟨.word, c :: (cutWhile isWordChar code).1⟩, (cutWhile isWordChar code).2) := by
  have other : c ≠ ' ' ∧ c ≠ '\n' := by
    constructor <;> rintro rfl <;> simp [isWordStart] at starts
  simp [cut, other, starts]

theorem cut_of_number (begins : BeginsNumber c code) : cut lexicon c code =
    (⟨.number, (cutNumber false (c :: code)).1⟩, (cutNumber false (c :: code)).2) := by
  rcases begins with digit | ⟨rfl, d, head, digit⟩
  · have other : c ≠ ' ' ∧ c ≠ '\n' := by constructor <;> rintro rfl <;> simp at digit
    have word : isWordChar c = true := by simp [isWordChar, Char.isAlphanum, digit]
    simp [cut, other, not_isWordStart_of_isDigit digit, digit, cutNumber, word]
  · rw [Option.mem_def] at head
    simp [cut, isWordStart, head, digit, cutNumber, isWordChar]

theorem cut_of_lineComment {marker : Text} (listed : marker ∈ lexicon.markers)
    (known : marker = ['#'] ∨ marker = ['/', '/']) (begins : marker <+: c :: code) :
    cut lexicon c code = (⟨.lineComment, (cutWhile (· ≠ '\n') (c :: code)).1⟩,
      (cutWhile (· ≠ '\n') (c :: code)).2) := by
  obtain ⟨rest, begins⟩ := begins
  rcases known with rfl | rfl
  · obtain ⟨rfl, rfl⟩ : '#' = c ∧ rest = code := by simpa using begins
    simp [cut, isWordStart, listed, cutWhile]
  · obtain ⟨rfl, rfl⟩ : '/' = c ∧ '/' :: rest = code := by simpa using begins
    simp [cut, isWordStart, listed, cutWhile]

theorem cut_of_blockComment (listed : blockStart ∈ lexicon.markers) (code : Text) :
    cut lexicon '/' ('*' :: code) =
      (⟨.blockComment, blockStart ++ (cutBlock code).1⟩, (cutBlock code).2) := by
  simp [cut, isWordStart, listed]

theorem Unclaimed.cut_eq (free : Unclaimed lexicon c code) : cut lexicon c code =
    if lexicon.delimiters.contains [c] then
      (⟨.string, c :: (cutString c code).1⟩, (cutString c code).2)
    else (⟨.symbol, [c]⟩, code) := by
  obtain ⟨blank, word, number, comment⟩ := free
  rw [BeginsNumber, not_or] at number
  have noFraction : ¬ (c = '.' && code.head?.any Char.isDigit) = true := by
    intro fraction
    simp only [Bool.and_eq_true, decide_eq_true_eq, Option.any_eq_true] at fraction
    exact number.2 fraction
  have noLine : ¬ (c = '#' && lexicon.markers.contains ['#'] ||
      c = '/' && code.head? = some '/' && lexicon.markers.contains ['/', '/']) = true := by
    intro line
    simp only [Bool.or_eq_true, Bool.and_eq_true, decide_eq_true_eq, List.contains_iff_mem] at line
    rcases line with ⟨rfl, listed⟩ | ⟨⟨rfl, head⟩, listed⟩
    · exact comment _ listed (by simp [commentStarts]) ⟨code, rfl⟩
    · obtain ⟨after, rfl⟩ := List.head?_eq_some_iff.mp head
      exact comment _ listed (by simp [commentStarts]) ⟨after, rfl⟩
  have noBlock :
      ¬ (c = '/' && code.head? = some '*' && lexicon.markers.contains blockStart) = true := by
    intro block
    simp only [Bool.and_eq_true, decide_eq_true_eq, List.contains_iff_mem] at block
    obtain ⟨⟨rfl, head⟩, listed⟩ := block
    obtain ⟨after, rfl⟩ := List.head?_eq_some_iff.mp head
    exact comment _ listed (by simp [commentStarts]) ⟨after, rfl⟩
  rw [cut, if_neg (by simpa using blank), if_neg (by simp [word]), if_neg number.1,
    if_neg noFraction, if_neg noLine, if_neg noBlock]

/-- What a lexeme begins with. -/
theorem begins_cases (lexicon : Lexicon) (c : Char) (code : Text) :
    (c = ' ' ∨ c = '\n') ∨ isWordStart c = true ∨ BeginsNumber c code ∨
      (∃ marker ∈ lexicon.markers, (marker = ['#'] ∨ marker = ['/', '/']) ∧ marker <+: c :: code) ∨
      (blockStart ∈ lexicon.markers ∧ blockStart <+: c :: code) ∨ Unclaimed lexicon c code := by
  by_cases blank : c = ' ' ∨ c = '\n'
  · exact .inl blank
  by_cases word : isWordStart c = true
  · exact .inr (.inl word)
  by_cases number : BeginsNumber c code
  · exact .inr (.inr (.inl number))
  by_cases comment : ∃ marker ∈ lexicon.markers, marker ∈ commentStarts ∧ marker <+: c :: code
  · obtain ⟨marker, listed, known, begins⟩ := comment
    simp only [commentStarts, List.mem_cons, List.not_mem_nil, or_false] at known
    rcases known with known | known | rfl
    · exact .inr (.inr (.inr (.inl ⟨marker, listed, .inl known, begins⟩)))
    · exact .inr (.inr (.inr (.inl ⟨marker, listed, .inr known, begins⟩)))
    · exact .inr (.inr (.inr (.inr (.inl ⟨listed, begins⟩))))
  · refine .inr (.inr (.inr (.inr (.inr ⟨not_or.mp blank, by simpa using word, number, ?_⟩))))
    exact fun marker listed known begins => comment ⟨marker, listed, known, begins⟩

/-- A number goes on with what it begins with. -/
theorem cutNumber_begins (begins : BeginsNumber c code) :
    ∃ run, (cutNumber false (c :: code)).1 = c :: run ∧ BeginsNumber c run := by
  have word {d : Char} (digit : d.isDigit = true) : isWordChar d = true := by
    simp [isWordChar, Char.isAlphanum, digit]
  rcases begins with digit | ⟨rfl, d, head, digit⟩
  · exact ⟨(cutNumber false code).1, by simp [cutNumber, word digit], .inl digit⟩
  · obtain ⟨code, rfl⟩ := List.head?_eq_some_iff.mp head
    refine ⟨d :: (cutNumber true code).1, ?_, .inr ⟨rfl, d, rfl, digit⟩⟩
    simp [cutNumber, isWordChar.eq_1 '.', word digit]

theorem rule_cut (lexicon : Lexicon) (c : Char) (code : Text) :
    Rule lexicon (cut lexicon c code).1 (cut lexicon c code).2 := by
  rcases begins_cases lexicon c code with
    blank | word | number | ⟨marker, listed, known, begins⟩ | ⟨listed, begins⟩ | free
  · rw [cut_of_blank blank]
    exact .blank blank
  · rw [cut_of_word word]
    refine .word word (fun d mem => ?_) (ends_cutWhile _ _)
    exact List.all_eq_true.mp List.all_takeWhile d mem
  · obtain ⟨run, split, starts⟩ := cutNumber_begins number
    have longest := numberRun_cutNumber false (c :: code)
    rw [cut_of_number number]
    rw [split] at longest ⊢
    exact .number starts longest
  · rw [cut_of_lineComment listed known begins]
    obtain ⟨after, whole⟩ := begins
    have split : cutWhile (· ≠ '\n') (marker ++ after) =
        (marker ++ (cutWhile (· ≠ '\n') after).1, (cutWhile (· ≠ '\n') after).2) := by
      rcases known with rfl | rfl <;> simp [cutWhile]
    rw [← whole, split]
    refine .lineComment listed known (fun mem => ?_) (fun d head => ?_)
    · simpa using List.all_eq_true.mp List.all_takeWhile _ mem
    · simpa using ends_cutWhile _ _ d head
  · obtain ⟨after, split⟩ := begins
    obtain ⟨rfl, rfl⟩ : '/' = c ∧ '*' :: after = code := by simpa [blockStart] using split
    rw [cut_of_blockComment listed]
    rcases blockEnd_cases after with ⟨inside, rest, first, rfl⟩ | unended
    · rw [cutBlock_of_ended first]
      exact .blockComment listed first
    · rw [cutBlock_of_unended unended]
      exact .openBlockComment listed unended
  · rw [free.cut_eq]
    split
    · next delimits =>
        have delimits : [c] ∈ lexicon.delimiters := by simpa using delimits
        rcases quoted_cases c code with
          ⟨inside, rest, quoted, rfl⟩ | quoted | ⟨other, inside, quoted, rfl⟩
        · rw [quoted.cutString_closed]
          exact .string delimits free quoted
        · rw [quoted.cutString_open]
          exact .openString delimits free quoted
        · rw [quoted.cutString_escape other]
          exact .openEscape delimits free other quoted
    · next other => exact .symbol free (by simpa using other)

/-- What follows a lexeme does not change how it begins. -/
theorem BeginsNumber.append (begins : BeginsNumber c run) (rest : Text) :
    BeginsNumber c (run ++ rest) := by
  refine begins.imp_right fun ⟨dot, d, head, digit⟩ => ⟨dot, d, ?_, digit⟩
  obtain ⟨run, rfl⟩ := List.head?_eq_some_iff.mp head
  rfl

theorem Rule.cut_eq (rule : Rule lexicon lexeme rest) :
    ∃ c run, lexeme.text = c :: run ∧ cut lexicon c (run ++ rest) = (lexeme, rest) := by
  cases rule with
  | @blank c _ blank => exact ⟨c, [], rfl, cut_of_blank blank⟩
  | @word c run _ starts chars ends =>
      refine ⟨c, run, rfl, ?_⟩
      rw [cut_of_word starts, cutWhile_of_ends chars ends]
  | @number c run _ starts longest =>
      refine ⟨c, run, rfl, ?_⟩
      rw [cut_of_number (starts.append rest), ← List.cons_append, longest.cutNumber_eq]
  | @lineComment marker run _ listed known line ends =>
      have marked : ∃ c more, marker = c :: more ∧ '\n' ∉ marker := by
        rcases known with rfl | rfl
        · exact ⟨_, _, rfl, by decide⟩
        · exact ⟨_, _, rfl, by decide⟩
      obtain ⟨c, more, rfl, plain⟩ := marked
      have belong : ∀ d ∈ (c :: more) ++ run, decide (d ≠ '\n') = true := by
        intro d mem
        have other : d ≠ '\n' := by
          rintro rfl
          exact (List.mem_append.mp mem).elim plain line
        simpa using other
      refine ⟨c, more ++ run, rfl, ?_⟩
      rw [cut_of_lineComment listed known ⟨run ++ rest, by simp⟩, ← List.cons_append,
        ← List.cons_append, cutWhile_of_ends belong (by simpa using ends)]
  | @blockComment inside _ listed first =>
      refine ⟨'/', '*' :: (inside ++ blockEnd), rfl, ?_⟩
      rw [List.cons_append, cut_of_blockComment listed, List.append_assoc, cutBlock_of_ended first]
  | @openBlockComment inside listed unended =>
      refine ⟨'/', '*' :: inside, rfl, ?_⟩
      rw [List.append_nil, cut_of_blockComment listed, cutBlock_of_unended unended]
  | @string delimiter inside _ listed free quoted =>
      refine ⟨delimiter, inside ++ [delimiter], rfl, ?_⟩
      rw [List.append_assoc, List.singleton_append, free.cut_eq, if_pos (by simpa using listed),
        quoted.cutString_closed]
  | @openString delimiter inside listed free quoted =>
      refine ⟨delimiter, inside, rfl, ?_⟩
      rw [List.append_nil, free.cut_eq, if_pos (by simpa using listed), quoted.cutString_open]
  | @openEscape delimiter inside listed free other quoted =>
      refine ⟨delimiter, inside ++ ['\\'], rfl, ?_⟩
      rw [List.append_nil, free.cut_eq, if_pos (by simpa using listed),
        quoted.cutString_escape other]
  | @symbol c _ free unlisted =>
      refine ⟨c, [], rfl, ?_⟩
      rw [List.nil_append, free.cut_eq, if_neg (by simpa using unlisted)]

/-! ## Lexemes that stand alone -/

theorem Unclaimed.of_isPrefix {more : Text} (free : Unclaimed lexicon c more)
    (begins : code <+: more) : Unclaimed lexicon c code := by
  obtain ⟨rest, rfl⟩ := begins
  refine ⟨free.blank, free.word, fun number => free.number (number.append rest), ?_⟩
  intro marker listed known comment
  refine free.comment marker listed known (comment.trans ?_)
  rw [← List.cons_append]
  exact List.prefix_append _ _

/-- A lexeme needs nothing of what follows it. -/
theorem Rule.alone (rule : Rule lexicon lexeme rest) : Rule lexicon lexeme [] := by
  cases rule with
  | blank blank => exact .blank blank
  | word starts chars => exact .word starts chars (by simp)
  | number starts longest => exact .number starts ⟨longest.chars, longest.periods, by simp⟩
  | lineComment listed known line => exact .lineComment listed known line (by simp)
  | blockComment listed first => exact .blockComment listed first
  | openBlockComment listed unended => exact .openBlockComment listed unended
  | @string delimiter inside _ listed free quoted =>
      refine .string listed (free.of_isPrefix ⟨rest, ?_⟩) quoted
      rw [List.append_assoc, List.cons_append, List.nil_append]
  | openString listed free quoted => exact .openString listed free quoted
  | openEscape listed free other quoted => exact .openEscape listed free other quoted
  | symbol free unlisted => exact .symbol (free.of_isPrefix List.nil_prefix) unlisted

/-! ## All lexemes -/

/-- Code is made of lexemes one after another, each right before those that follow. -/
inductive Tiles (lexicon : Lexicon) : Text → List Lexeme → Prop
  | nil : Tiles lexicon [] []
  | cons {lexeme rest found} (rule : Rule lexicon lexeme rest) (later : Tiles lexicon rest found) :
      Tiles lexicon (lexeme.text ++ rest) (lexeme :: found)

theorem tiles_lexemes (lexicon : Lexicon) (code : Text) :
    Tiles lexicon code (lexemes lexicon code) := by
  fun_induction lexemes lexicon code with
  | case1 => exact .nil
  | case2 c code ih =>
      have tiles := Tiles.cons (rule_cut lexicon c code) ih
      rwa [cut_append] at tiles

theorem Tiles.lexemes_eq {found : List Lexeme} (tiles : Tiles lexicon code found) :
    lexemes lexicon code = found := by
  induction tiles with
  | nil => rw [lexemes]
  | cons rule _ ih =>
      obtain ⟨c, run, text, cut⟩ := rule.cut_eq
      rw [text, List.cons_append, lexemes, cut, ih]

theorem tiles_iff {found : List Lexeme} :
    Tiles lexicon code found ↔ lexemes lexicon code = found := by
  refine ⟨Tiles.lexemes_eq, ?_⟩
  rintro rfl
  exact tiles_lexemes lexicon code

theorem Tiles.flatten_eq {found : List Lexeme} (tiles : Tiles lexicon code found) :
    (found.map text).flatten = code := by
  rw [← tiles.lexemes_eq]
  exact lexemes_flatten lexicon code

/-- Each lexeme is right before all that follow it. -/
theorem Tiles.rule {front back : List Lexeme}
    (tiles : Tiles lexicon code (front ++ lexeme :: back)) :
    Rule lexicon lexeme (back.map text).flatten := by
  induction front generalizing code with
  | nil =>
      cases tiles with
      | cons rule later => exact later.flatten_eq ▸ rule
  | cons first front ih =>
      cases tiles with
      | cons _ later => exact ih later

theorem Rule.text_ne_nil (rule : Rule lexicon lexeme rest) : lexeme.text ≠ [] := by
  obtain ⟨c, run, text, -⟩ := rule.cut_eq
  simp [text]

theorem Rule.lexemes_alone (rule : Rule lexicon lexeme rest) :
    lexemes lexicon lexeme.text = [lexeme] := by
  have tiles := Tiles.cons rule.alone .nil
  rw [List.append_nil] at tiles
  exact tiles.lexemes_eq

/-- The lexemes of a code are the one way to tile it. They put together are the code, none of them
is empty, each of them is right before those that follow it, and each of them is the only lexeme of
its own text. -/
theorem lexemes_tile_code (lexicon : Lexicon) (code : Text) :
    (∀ found, Tiles lexicon code found ↔ found = lexemes lexicon code) ∧
      ((lexemes lexicon code).map text).flatten = code ∧
      ∀ front lexeme back, lexemes lexicon code = front ++ lexeme :: back →
        lexeme.text ≠ [] ∧ Rule lexicon lexeme (back.map text).flatten ∧
          lexemes lexicon lexeme.text = [lexeme] := by
  have tiles := tiles_lexemes lexicon code
  refine ⟨fun found => tiles_iff.trans eq_comm, tiles.flatten_eq, ?_⟩
  intro front lexeme back split
  have rule : Rule lexicon lexeme (back.map text).flatten := by
    rw [split] at tiles
    exact tiles.rule
  exact ⟨rule.text_ne_nil, rule, rule.lexemes_alone⟩

end Lexeme

end PageMarkup
