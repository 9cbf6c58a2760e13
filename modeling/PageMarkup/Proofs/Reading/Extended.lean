import PageMarkup.Proofs.Code.Lexemes
import PageMarkup.Proofs.Reading.Backticks
import PageMarkup.Proofs.Reading.Grammar
import PageMarkup.Proofs.Reading.Tokens

/-! # Reading a source that goes on

What a reader has read, with something left behind it, it reads as well where more text follows.
Only text at the very end of a source can hang on what comes next. -/

namespace PageMarkup

namespace Text

variable {text read rest other more : Text} {stops : Char → Bool} {backticks : Bool}

/-- A text that is one run goes on with the run of what follows it. -/
theorem run_append_of_whole (whole : run stops backticks text = (text, [])) (more : Text) :
    run stops backticks (text ++ more) =
      (text ++ (run stops backticks more).1, (run stops backticks more).2) := by
  fun_induction run stops backticks text with
  | case1 => rfl
  | case2 c text stop => simp at whole
  | case3 c plain tick => simp at whole
  | case4 c plain tick text ih =>
      simp only [Prod.mk.injEq, List.cons.injEq, true_and] at whole
      have inner := ih (Prod.ext whole.1 whole.2)
      simp only [List.cons_append, run, plain, tick, if_true, inner]
      rfl
  | case5 c plain tick d text single => simp at whole
  | case6 c text plain tick ih =>
      simp only [Prod.mk.injEq, List.cons.injEq, true_and] at whole
      have inner := ih (Prod.ext whole.1 whole.2)
      rw [List.cons_append, run_of_plain (by simpa using plain)
        (by rw [Bool.and_comm]; simpa using tick), inner]
      rfl

/-- There is no text before a character that stops it, and none before a single backtick. -/
theorem run_cons_eq_nil_iff {c : Char} :
    run stops backticks (c :: text) = ([], c :: text) ↔
      stops c = true ∨ (backticks && c = '`') = true ∧ text.head? ≠ some '`' := by
  cases stop : stops c with
  | true => simp [run_of_stops stop]
  | false =>
      cases tick : backticks && c = '`' with
      | false => simp [run_of_plain stop (by rwa [Bool.and_comm])]
      | true =>
          cases text with
          | nil => simp [run, stop, tick]
          | cons d text => by_cases double : d = '`' <;> simp [run, stop, tick, double]

theorem isPrefix_breakOn {mark : Text} (found : (breakOn mark text).2 ≠ []) :
    mark <+: (breakOn mark text).2 :=
  beginsWith_iff.mp ((breakOn_rest mark text).resolve_left found)

/-- What comes behind some text tells where the text ends. The other text tells the same: it begins
as the first does, with two backticks or the end of a listing only if the first does. -/
structure EndsAlike (rest other : Text) : Prop where
  left : rest ≠ []
  head : other.head? = rest.head?
  ticks : ['`', '`'] <+: other → ['`', '`'] <+: rest
  listing : Cursor.listingEnd <+: rest → Cursor.listingEnd <+: other

/-- More text tells nothing new. Only after a single backtick it could begin with another. -/
theorem EndsAlike.append (left : rest ≠ []) (single : rest = ['`'] → more.head? ≠ some '`') :
    EndsAlike rest (rest ++ more) where
  left := left
  head := head?_append_of_ne_nil left
  ticks := by
    intro begins
    obtain ⟨c, tail, rfl⟩ := List.exists_cons_of_ne_nil left
    cases tail with
    | nil =>
        obtain ⟨later, same⟩ := begins
        obtain ⟨rfl, rfl⟩ := List.cons.inj same
        exact absurd rfl (single rfl)
    | cons d tail => exact List.prefix_of_prefix_length_le begins (List.prefix_append _ _) (by simp)
  listing begins := begins.trans (List.prefix_append _ _)

/-- What stands in front of a tag ends alike, whatever the tag: only a closing tag could be the end
of a listing. -/
theorem EndsAlike.before_tag {c : Char} (letter : c ≠ '/') (front tag other : Text) :
    EndsAlike (front ++ '<' :: c :: tag) (front ++ '<' :: other) where
  left := by simp
  head := by cases front <;> rfl
  ticks := by
    match front with
    | [] => simp [List.cons_prefix_cons]
    | [_] => simp [List.cons_prefix_cons]
    | _ :: _ :: _ => simp [List.cons_prefix_cons]
  listing := by
    intro begins
    have listing : Cursor.listingEnd = '<' :: '/' :: "code>".toList := rfl
    cases front with
    | nil =>
        rw [listing, List.nil_append, List.cons_prefix_cons, List.cons_prefix_cons] at begins
        exact absurd begins.2.1.symm letter
    | cons first front =>
        rw [listing, List.cons_append, List.cons_prefix_cons] at begins
        have bracket (more : Text) : front ++ ['<'] <+: front ++ '<' :: more := ⟨more, by simp⟩
        -- The end of a listing has one bracket, so it does not reach further than that of the tag.
        rcases List.prefix_or_prefix_of_prefix begins.2 (bracket _) with within | beyond
        · rw [listing, List.cons_append, List.cons_prefix_cons]
          exact ⟨begins.1, within.trans (bracket other)⟩
        · exact absurd (beyond.subset (List.mem_append_right _ List.mem_cons_self)) (by decide)

theorem EndsAlike.before_name {name : Text} (letter : ∃ c ∈ name.head?, Cursor.isTagStart c = true)
    (front tag other : Text) :
    EndsAlike (front ++ '<' :: (name ++ tag)) (front ++ '<' :: (name ++ other)) := by
  obtain ⟨c, first, starts⟩ := letter
  obtain ⟨letters, rfl⟩ := List.head?_eq_some_iff.mp first
  have noSlash : c ≠ '/' := by
    rintro rfl
    simp [Cursor.isTagStart] at starts
  exact .before_tag noSlash front _ _

theorem EndsAlike.run_eq (alike : EndsAlike rest other)
    (ends : run stops backticks (read ++ rest) = (read, rest)) :
    run stops backticks (read ++ other) = (read, other) := by
  have whole : run stops backticks read = (read, []) := by
    have again := run_run stops backticks (read ++ rest)
    rwa [ends] at again
  have stopped : run stops backticks rest = ([], rest) := by
    have joined := run_append_of_whole whole rest
    rw [ends, Prod.mk.injEq, List.self_eq_append_right] at joined
    exact Prod.ext joined.1 joined.2.symm
  have stopped' : run stops backticks other = ([], other) := by
    obtain ⟨c, text, rfl⟩ := List.exists_cons_of_ne_nil alike.left
    obtain ⟨text', rfl⟩ := List.head?_eq_some_iff.mp alike.head
    rw [run_cons_eq_nil_iff] at stopped ⊢
    refine stopped.imp_right fun ⟨tick, single⟩ => ⟨tick, fun double => single ?_⟩
    obtain ⟨later, rfl⟩ := List.head?_eq_some_iff.mp double
    have same : c = '`' := by simpa using (Bool.and_eq_true_iff.mp tick).2
    obtain ⟨later', ticks⟩ := alike.ticks ⟨later, by rw [same]; rfl⟩
    rw [same] at ticks
    exact List.head?_eq_some_iff.mpr ⟨later', (List.cons.inj ticks).2.symm⟩
  rw [run_append_of_whole whole, stopped', List.append_nil]

theorem EndsAlike.not_isPrefix (alike : EndsAlike rest other)
    (begins : Cursor.listingEnd <+: rest) (earlier : ¬ Cursor.listingEnd <+: read ++ rest) :
    ¬ Cursor.listingEnd <+: read ++ other := by
  obtain ⟨later, rfl⟩ := begins
  obtain ⟨later', rfl⟩ := alike.listing (List.prefix_append _ _)
  intro found
  rw [← List.append_assoc] at found
  apply earlier
  rw [← List.append_assoc]
  refine (List.prefix_of_prefix_length_le found (List.prefix_append _ later') ?_).trans
    (List.prefix_append _ _)
  rw [List.length_append]
  exact Nat.le_add_left _ _

theorem EndsAlike.breakOn_eq (alike : EndsAlike rest other)
    (ends : breakOn Cursor.listingEnd (read ++ rest) = (read, rest)) :
    breakOn Cursor.listingEnd (read ++ other) = (read, other) := by
  have begins : Cursor.listingEnd <+: rest := by
    have found := @isPrefix_breakOn (read ++ rest) Cursor.listingEnd
    rw [ends] at found
    exact found alike.left
  refine breakOn_append_of_first (.inr (alike.listing begins)) fun outer inner split nonempty => ?_
  apply alike.not_isPrefix begins
  have earlier := @not_isPrefix_of_breakOn Cursor.listingEnd (read ++ rest) outer inner
  rw [ends] at earlier
  exact earlier split nonempty

end Text

namespace Cursor

variable {cursor after : Cursor} {mode : Mode} {backticks : Bool} {token : Token}
  {read rest other : Text} {offset : Nat}

/-! ## Tokens -/

/-- What is read is one thing only. -/
theorem Reads.eq {written : Text} {place : Nat}
    (reads : (⟨read ++ rest, offset⟩ : Cursor).Reads written ⟨rest, place⟩) : written = read :=
  (List.append_cancel_right reads.rest).symm

/-- Where the same is read, the cursors can stand before other text. -/
theorem Reads.before {place : Nat}
    (reads : (⟨read ++ rest, offset⟩ : Cursor).Reads read ⟨rest, place⟩) (other : Text) :
    (⟨read ++ other, offset⟩ : Cursor).Reads read ⟨other, place⟩ :=
  ⟨rfl, reads.offset⟩

/-- A tag is told by what is read of it. -/
theorem openTag_before {form : Token.Form} {place : Nat}
    (h : (⟨read ++ rest, offset⟩ : Cursor).openTag = .ok (form, ⟨rest, place⟩)) (other : Text) :
    (⟨read ++ other, offset⟩ : Cursor).openTag = .ok (form, ⟨other, place⟩) := by
  obtain ⟨written, name, pairs, closes, reads, shape, same⟩ := openTag_eq_ok_iff.mp h
  obtain rfl := reads.eq
  exact openTag_eq_ok_iff.mpr ⟨written, name, pairs, closes, reads.before other, shape, same⟩

theorem closeTag_before {form : Token.Form} {place : Nat}
    (h : (⟨read ++ rest, offset⟩ : Cursor).closeTag = .ok (form, ⟨rest, place⟩)) (other : Text) :
    (⟨read ++ other, offset⟩ : Cursor).closeTag = .ok (form, ⟨other, place⟩) := by
  obtain ⟨written, name, reads, shape, same⟩ := closeTag_eq_ok_iff.mp h
  obtain rfl := reads.eq
  exact closeTag_eq_ok_iff.mpr ⟨written, name, reads.before other, shape, same⟩

theorem nextInListing_before {place : Nat}
    (h : (⟨read ++ rest, offset⟩ : Cursor).nextInListing = (token, ⟨rest, place⟩))
    (alike : token.form.kind = .text → Text.EndsAlike rest other) :
    (⟨read ++ other, offset⟩ : Cursor).nextInListing = (token, ⟨other, place⟩) := by
  unfold nextInListing at h ⊢
  split at h
  · next found =>
      obtain ⟨rfl, rfl⟩ := Prod.mk.inj h
      have reads := reads_take? found
      obtain rfl : read = listingEnd := reads.eq.symm
      rw [take?_eq_some_iff.mpr (reads.before other)]
  next missing =>
  simp only [Prod.mk.injEq, Cursor.mk.injEq] at h
  obtain ⟨rfl, tail, rfl⟩ := h
  have alike := alike rfl
  have whole := Text.breakOn_append listingEnd (read ++ rest)
  rw [tail] at whole
  have ends : Text.breakOn listingEnd (read ++ rest) = (read, rest) :=
    Prod.ext (List.append_cancel_right whole) tail
  have begins : listingEnd <+: rest := by
    have found := @Text.isPrefix_breakOn (read ++ rest) listingEnd
    rw [ends] at found
    exact found alike.left
  have missing' : (⟨read ++ other, offset⟩ : Cursor).take? listingEnd = none :=
    take?_eq_none_iff.mpr (alike.not_isPrefix begins (take?_eq_none_iff.mp missing))
  simp only [missing', ends, alike.breakOn_eq ends]

theorem nextInInlineCode_kind (h : nextInInlineCode backticks cursor = .ok (token, after)) :
    token.form.kind = .text := by
  simp only [nextInInlineCode] at h
  split at h <;> cases h
  rfl

theorem nextInInlineCode_before {place : Nat}
    (h : nextInInlineCode backticks ⟨read ++ rest, offset⟩ = .ok (token, ⟨rest, place⟩))
    (alike : Text.EndsAlike rest other) :
    nextInInlineCode backticks ⟨read ++ other, offset⟩ = .ok (token, ⟨other, place⟩) := by
  simp only [nextInInlineCode] at h ⊢
  split at h
  · cases h
  next inside =>
  simp only [Except.ok.injEq, Prod.mk.injEq, Cursor.mk.injEq] at h
  obtain ⟨rfl, tail, rfl⟩ := h
  have whole := Text.run_append (· = '\n') backticks (read ++ rest)
  rw [tail] at whole inside
  have ends : Text.run (· = '\n') backticks (read ++ rest) = (read, rest) :=
    Prod.ext (List.append_cancel_right whole) tail
  simp only [ends, alike.run_eq ends, alike.head, inside, if_false]

theorem nextText_before {place : Nat}
    (h : nextText backticks ⟨read ++ rest, offset⟩ = (token, ⟨rest, place⟩))
    (alike : Text.EndsAlike rest other) :
    nextText backticks ⟨read ++ other, offset⟩ = (token, ⟨other, place⟩) := by
  simp only [nextText, Prod.mk.injEq, Cursor.mk.injEq] at h ⊢
  obtain ⟨rfl, tail, rfl⟩ := h
  have whole := Text.run_append endsText backticks (read ++ rest)
  rw [tail] at whole
  have ends : Text.run endsText backticks (read ++ rest) = (read, rest) :=
    Prod.ext (List.append_cancel_right whole) tail
  simp only [ends, alike.run_eq ends, runValue, alike.head, and_self]

/-- A token of one character is told by it. -/
theorem single_before {form : Token.Form} {place : Nat} {c : Char} {text : Text}
    (first : read ++ rest = c :: text)
    (h : (⟨read ++ rest, offset⟩ : Cursor).single form = (token, ⟨rest, place⟩)) (other : Text) :
    read = [c] ∧ (⟨read ++ other, offset⟩ : Cursor).single form = (token, ⟨other, place⟩) := by
  simp only [single, Prod.mk.injEq, Cursor.mk.injEq, first, List.drop_succ_cons,
    List.drop_zero] at h
  obtain ⟨rfl, rfl, rfl⟩ := h
  obtain rfl : read = [c] := List.append_cancel_right first
  exact ⟨rfl, rfl⟩

/-- A tag has more than its bracket. -/
theorem TagText.ne_bracket {name : Text} {pairs : List (Text × Text)} {closes : Bool}
    (shape : TagText ('<' :: read) name pairs closes) : read ≠ [] := by
  cases shape with
  | tag named => exact List.append_ne_nil_of_left_ne_nil named.1 _

theorem CloseText.ne_bracket {name : Text} (shape : CloseText ('<' :: read) name) : read ≠ [] := by
  cases shape with
  | tag => exact List.cons_ne_nil _ _

theorem nextAtBracket_before {place : Nat}
    (h : (⟨'<' :: read ++ rest, offset⟩ : Cursor).nextAtBracket = .ok (token, ⟨rest, place⟩))
    (alike : token.form.kind = .text → Text.EndsAlike rest other) :
    (⟨'<' :: read ++ other, offset⟩ : Cursor).nextAtBracket = .ok (token, ⟨other, place⟩) := by
  -- The character behind the bracket is the same, be it read or not.
  have second (more : read ≠ [] ∨ token.form.kind = .text) :
      (read ++ other).head? = (read ++ rest).head? := by
    rcases more with more | text
    · rw [Text.head?_append_of_ne_nil more, Text.head?_append_of_ne_nil more]
    · rw [List.head?_append, List.head?_append, (alike text).head]
  unfold nextAtBracket at h ⊢
  simp only [List.cons_append, List.tail_cons] at h ⊢
  split at h
  · next last =>
      have loose := (Prod.mk.inj (Except.ok.inj h)).1
      obtain ⟨-, none⟩ := List.append_eq_nil_iff.mp (List.head?_eq_none_iff.mp last)
      exact absurd none (alike (loose ▸ rfl)).left
  next c following =>
  split at h
  · cases h
  next mark =>
  split at h
  · next slash =>
      obtain ⟨⟨form, last⟩, closes, same⟩ := Stop.eq_ok_of_map h
      cases same
      obtain ⟨written, name, reads, shape, -⟩ := closeTag_eq_ok_iff.mp closes
      obtain rfl : written = '<' :: read := reads.eq
      have here : (⟨'<' :: read ++ rest, offset⟩ : Cursor).closeTag = _ := closes
      have there : (⟨'<' :: (read ++ other), offset⟩ : Cursor).closeTag = _ :=
        closeTag_before here other
      rw [second (.inl shape.ne_bracket), following]
      simp only [if_neg mark, if_pos slash, there]
      rfl
  next noSlash =>
  split at h
  · next letter =>
      obtain ⟨⟨form, last⟩, opens, same⟩ := Stop.eq_ok_of_map h
      cases same
      obtain ⟨written, name, pairs, closing, reads, shape, -⟩ := openTag_eq_ok_iff.mp opens
      obtain rfl : written = '<' :: read := reads.eq
      have here : (⟨'<' :: read ++ rest, offset⟩ : Cursor).openTag = _ := opens
      have there : (⟨'<' :: (read ++ other), offset⟩ : Cursor).openTag = _ :=
        openTag_before here other
      rw [second (.inl shape.ne_bracket), following]
      simp only [if_neg mark, if_neg noSlash, if_pos letter, there]
      rfl
  · next noLetter =>
      have loose : (⟨'<' :: read ++ rest, offset⟩ : Cursor).single _ = (token, ⟨rest, place⟩) :=
        Except.ok.inj h
      have text : token.form.kind = .text := (Prod.mk.inj loose).1 ▸ rfl
      rw [second (.inr text), following]
      simp only [if_neg mark, if_neg noSlash, if_neg noLetter]
      exact congrArg Except.ok (single_before rfl loose other).2

theorem next_of_cons {c : Char} {text : Text} (first : cursor.rest = c :: text) :
    cursor.next mode backticks =
      if mode = .code then .ok (some cursor.nextInListing)
      else if c = '`' && backticks then .ok (some (cursor.single .backtick))
      else if mode = .inlineCode then (nextInInlineCode backticks cursor).map some
      else if c = '|' then .ok (some (cursor.single .pipe))
      else if c = '\n' then .ok (some (cursor.single .newline))
      else if c = '<' then cursor.nextAtBracket.map some
      else .ok (some (nextText backticks cursor)) := by
  unfold next
  rw [first]

/-- What is read depends on what stands in the source up to there and, for text, on how the rest
begins. -/
theorem next_before {place : Nat}
    (h : (⟨read ++ rest, offset⟩ : Cursor).next mode backticks = .ok (some (token, ⟨rest, place⟩)))
    (alike : token.form.kind = .text → Text.EndsAlike rest other) :
    (⟨read ++ other, offset⟩ : Cursor).next mode backticks =
      .ok (some (token, ⟨other, place⟩)) := by
  obtain ⟨written, nonempty, reads⟩ := reads_next h
  obtain rfl := reads.eq
  obtain ⟨c, inner, rfl⟩ := List.exists_cons_of_ne_nil nonempty
  have first : (⟨c :: inner ++ rest, offset⟩ : Cursor).rest = c :: (inner ++ rest) := rfl
  have first' : (⟨c :: inner ++ other, offset⟩ : Cursor).rest = c :: (inner ++ other) := rfl
  rw [next_of_cons first] at h
  rw [next_of_cons first']
  split at h
  · next code =>
      rw [if_pos code, nextInListing_before (Option.some.inj (Except.ok.inj h)) alike]
  next notCode =>
  rw [if_neg notCode]
  split at h
  · next tick =>
      rw [if_pos tick, (single_before rfl (Option.some.inj (Except.ok.inj h)) other).2]
  next noTick =>
  rw [if_neg noTick]
  split at h
  · next inline =>
      obtain ⟨_, inside, same⟩ := Stop.eq_ok_of_map h
      cases same
      have text := nextInInlineCode_kind inside
      rw [if_pos inline, nextInInlineCode_before inside (alike text)]
      rfl
  next notInline =>
  rw [if_neg notInline]
  split at h
  · next pipe =>
      rw [if_pos pipe, (single_before rfl (Option.some.inj (Except.ok.inj h)) other).2]
  next noPipe =>
  rw [if_neg noPipe]
  split at h
  · next newline =>
      rw [if_pos newline, (single_before rfl (Option.some.inj (Except.ok.inj h)) other).2]
  next noNewline =>
  rw [if_neg noNewline]
  split at h
  · next bracket =>
      obtain ⟨_, inside, same⟩ := Stop.eq_ok_of_map h
      cases same
      subst bracket
      rw [if_pos rfl, nextAtBracket_before inside alike]
      rfl
  next noBracket =>
  have found := Option.some.inj (Except.ok.inj h)
  have text : token.form.kind = .text := by
    rw [← show (nextText backticks ⟨c :: inner ++ rest, offset⟩).1 = token from
      congrArg Prod.fst found]
    rfl
  rw [if_neg noBracket, nextText_before found (alike text)]

/-- The cursor where the source goes on with `more`. -/
def followedBy (more : Text) (cursor : Cursor) : Cursor := ⟨cursor.rest ++ more, cursor.offset⟩

/-- A token that does not hang on where its text ends is read as well where the source goes on. -/
theorem next_followedBy (more : Text)
    (h : cursor.next mode backticks = .ok (some (token, after)))
    (alike : token.form.kind = .text → Text.EndsAlike after.rest (after.rest ++ more)) :
    (cursor.followedBy more).next mode backticks = .ok (some (token, after.followedBy more)) := by
  obtain ⟨read, -, reads⟩ := reads_next h
  obtain ⟨rest, offset, rfl, rfl⟩ := reads.exists_eq
  have longer := next_before h alike
  rw [← List.append_assoc] at longer
  exact longer

/-! ## Text at the end of the source -/

/-- A stretch of the source that is one run of text if nothing more belongs to it. -/
structure IsRun (backticks : Bool) (text : Text) : Prop where
  nonempty : text ≠ []
  tick : ∀ c ∈ text.head?, (c = '`' && backticks) = false
  whole : Text.run endsText backticks text = (text, [])

theorem IsRun.head_not_endsText {backticks : Bool} {text : Text} (run : IsRun backticks text) :
    ∀ c ∈ text.head?, endsText c = false := by
  intro c head
  obtain ⟨rest, rfl⟩ := List.head?_eq_some_iff.mp head
  apply Bool.eq_false_iff.mpr
  intro stops
  have whole := run.whole
  rw [Text.run_of_stops stops] at whole
  cases whole

/-- A run of text is read together with the run that follows it. -/
theorem IsRun.next_append {mode : Mode} {backticks : Bool} {text : Text}
    (run : IsRun backticks text) (tags : mode = .normal ∨ mode = .image) (rest : Text)
    (offset : Nat) :
    (⟨text ++ rest, offset⟩ : Cursor).next mode backticks =
      .ok (some (nextText backticks ⟨text ++ rest, offset⟩)) := by
  obtain ⟨c, later, rfl⟩ := List.exists_cons_of_ne_nil run.nonempty
  have tick := run.tick c rfl
  have plain := run.head_not_endsText c rfl
  simp only [endsText, Bool.or_eq_false_iff, decide_eq_false_iff_not] at plain
  obtain ⟨⟨newline, pipe⟩, bracket⟩ := plain
  rcases tags with rfl | rfl <;> simp [next, tick, newline, pipe, bracket]

theorem nextAtBracket_at_end {token : Token} {rest : Text} (bracket : cursor.rest = '<' :: rest)
    (h : cursor.nextAtBracket = .ok (token, after)) (text : token.form.kind = .text)
    (ended : after.rest = []) : rest = [] ∧ token.form = .text "&lt;".toList := by
  unfold nextAtBracket at h
  rw [bracket, List.tail_cons] at h
  split at h
  · next last =>
      cases h
      exact ⟨List.head?_eq_none_iff.mp last, rfl⟩
  next c second =>
  split at h
  · cases h
  split at h
  · obtain ⟨⟨form, last⟩, closes, same⟩ := Stop.eq_ok_of_map h
    cases same
    obtain ⟨_, name, -, -, rfl⟩ := closeTag_eq_ok_iff.mp closes
    cases text
  split at h
  · obtain ⟨⟨form, last⟩, opens, same⟩ := Stop.eq_ok_of_map h
    cases same
    obtain ⟨tag, rfl | rfl, -⟩ := openTag_eq_ok opens
    · cases text
    · cases text
  · cases h
    simp only [bracket, List.drop_succ_cons, List.drop_zero] at ended
    simp [ended] at second

/-- Where text is read at the end of a source with tags, it is a bracket that stands last, or a run
of text. -/
theorem text_at_end {mode : Mode} {backticks : Bool} {token : Token}
    (h : cursor.next mode backticks = .ok (some (token, after))) (text : token.form.kind = .text)
    (tags : mode = .normal ∨ mode = .image) (ended : after.rest = []) :
    cursor.rest = ['<'] ∧ token.form = .text "&lt;".toList ∨
      IsRun backticks cursor.rest ∧ (token, after) = nextText backticks cursor := by
  obtain ⟨code, inline⟩ := ne_of_tags tags
  unfold next at h
  split at h
  · cases h
  next c later shape =>
  rw [if_neg code] at h
  split at h
  · cases h
    cases text
  next tick =>
  split at h
  · cases h
    cases text
  split at h
  · cases h
    cases text
  split at h
  · next bracket =>
      obtain ⟨_, inside, same⟩ := Stop.eq_ok_of_map h
      cases same
      obtain ⟨rfl, form⟩ := nextAtBracket_at_end (bracket ▸ shape) inside text ended
      exact .inl ⟨bracket ▸ shape, form⟩
  · simp only [Except.ok.injEq, Option.some.injEq] at h
    have none : (Text.run endsText backticks cursor.rest).2 = [] :=
      (congrArg (fun read => read.2.rest) h).trans ended
    have whole := Text.run_append endsText backticks cursor.rest
    rw [none, List.append_nil] at whole
    refine .inr ⟨⟨by simp [shape], ?_, Prod.ext whole none⟩, h.symm⟩
    intro d head
    obtain rfl : c = d := by simpa [shape] using head
    exact Bool.eq_false_iff.mpr tick

end Cursor

end PageMarkup
