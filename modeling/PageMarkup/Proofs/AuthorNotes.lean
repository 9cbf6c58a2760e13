import PageMarkup.Proofs.Faults
import PageMarkup.Proofs.SelfClosing

/-! # Author notes

A note that an author writes into a tag does not show, whatever the tag is: with the note, the
source gives the same page or a fault of the same cause. -/

namespace PageMarkup

open Document Compilation

/-! ## Tags without notes -/

/-- The tag without an author note. -/
def Tag.unnoted (tag : Tag) : Tag :=
  { tag with attributes := tag.attributes.erase Attributes.authorNote }

theorem Tag.proper_unnoted (tag : Tag) : tag.unnoted.proper = tag.proper.unnoted := by
  have name : tag.unnoted.name = tag.name := rfl
  have classes : tag.unnoted.attributes.get? "class".toList =
      tag.attributes.get? "class".toList := Attributes.get?_erase_of_ne _ (by decide)
  unfold proper
  rw [name, classes]
  split
  · exact congrArg (fun attributes => (⟨headingName, attributes, tag.offset⟩ : Tag))
      (Attributes.erase_put_of_ne tag.attributes _ (by decide)).symm
  · rfl

theorem Document.imageAttributes_unnoted (tag : Tag) :
    imageAttributes tag.unnoted = (imageAttributes tag).erase Attributes.authorNote := by
  have others : tag.unnoted.attributes.erase "alt".toList =
      (tag.attributes.erase "alt".toList).erase Attributes.authorNote :=
    Attributes.erase_comm _ _ _
  unfold imageAttributes
  rw [others]
  generalize tag.attributes.erase "alt".toList = others
  have mouseover : (others.erase Attributes.authorNote).get? "mouseover".toList =
      others.get? "mouseover".toList := Attributes.get?_erase_of_ne _ (by decide)
  simp only [mouseover]
  cases others.get? "mouseover".toList with
  | none => rfl
  | some words =>
      simp only
      rw [Attributes.erase_put_of_ne _ _ (by decide), Attributes.erase_comm]

theorem Tag.unseen_unnoted : Tag.Unseen id Tag.unnoted where
  offset _ := rfl
  name _ := rfl
  proper := Tag.proper_unnoted
  value := Attributes.get?_erase_of_ne _
  rendered tag := tag.attributes.render_erase_authorNote
  imageRendered tag := by
    rw [imageAttributes_unnoted, Attributes.render_erase_authorNote]

/-! ## Documents without notes -/

/-- The token without an author note. -/
def Token.unnoted (token : Token) : Token := token.retagged id Tag.unnoted

/-- The document without the author notes of open tags. -/
def Document.unnoted (document : Document) : Document := document.retagged Tag.unnoted []

/-- What comes of a change to a document, without author notes. -/
def Halt.outcomeUnnoted : Except Halt Document → Except Halt Document :=
  Halt.outcomeRetagged id Tag.unnoted [] Document.unnoted

/-- Author notes make no difference to how a token is handled. -/
theorem Document.handle_unnoted {setup : Setup} {one two : Document} {token other : Token}
    (documents : one.unnoted = two.unnoted) (tokens : token.unnoted = other.unnoted) :
    Halt.outcomeUnnoted (one.handle setup token) =
      Halt.outcomeUnnoted (two.handle setup other) := by
  have left : one.unnoted.handle setup token.unnoted =
      Halt.outcomeUnnoted (one.handle setup token) :=
    handle_retagged Tag.unseen_unnoted [] one setup token
  have right : two.unnoted.handle setup other.unnoted =
      Halt.outcomeUnnoted (two.handle setup other) :=
    handle_retagged Tag.unseen_unnoted [] two setup other
  rw [← left, ← right, documents, tokens]

/-! ## Runs -/

/-- The compilation without the author notes of open tags. -/
def Compilation.unnoted (compilation : Compilation) : Compilation :=
  ⟨compilation.cursor, compilation.document.unnoted⟩

namespace Compilation

variable {setup : Setup} {one two : Compilation}

theorem pageOf_unnoted (settings : Settings) (document : Document) :
    pageOf settings (.ok document.unnoted) = pageOf settings (.ok document) :=
  pageOf_retagged Tag.unseen_unnoted [] settings document

theorem matchedSteps_unnoted (settings : Settings) (same : one.unnoted = two.unnoted) :
    MatchedSteps (·.unnoted = ·.unnoted) (fun ran => pageOf settings (ending ran)) one two
      (one.advance setup) (two.advance setup) := by
  obtain ⟨cursor, document⟩ := one
  obtain ⟨cursor', document'⟩ := two
  obtain ⟨rfl, (documents : document.unnoted = document'.unnoted)⟩ := Compilation.mk.inj same
  have mode : document.mode? = document'.mode? := congrArg (fun last => last.mode?) documents
  have backticks : document.backticks = document'.backticks :=
    congrArg (fun last => last.backticks) documents
  -- The same token is read, for neither the mode nor the backticks hang on notes.
  simp only [advance, mode, backticks]
  cases document'.mode? with
  | none => exact .stopped rfl
  | some mode =>
      simp only
      rcases cursor.next mode document'.backticks with stop | _ | ⟨token, after⟩
      · exact .stopped rfl
      · refine .finished ?_
        simp only [ending, pageOf_unplaced]
        rw [← pageOf_unnoted, documents, pageOf_unnoted]
      have outcomes := @handle_unnoted setup _ _ token _ documents rfl
      simp only
      generalize document.handle setup token = left at outcomes ⊢
      generalize document'.handle setup token = right at outcomes ⊢
      cases left with
      | error halt =>
          cases right with
          | error halt' =>
              have cause : halt.fault.cause = halt'.fault.cause :=
                congrArg (fun halt => halt.fault.cause) (Except.error.inj outcomes)
              exact .stopped (congrArg Except.error cause)
          | ok _ => cases outcomes
      | ok last =>
          cases right with
          | error _ => cases outcomes
          | ok last' => exact .handled (congrArg (Compilation.mk after) (Except.ok.inj outcomes))

/-- Compilations that differ in nothing but author notes come to the same page. -/
theorem pageOf_run (settings : Settings) (same : one.unnoted = two.unnoted) :
    pageOf settings (ending (one.run setup)) = pageOf settings (ending (two.run setup)) :=
  @run_matched _ setup setup (·.unnoted = ·.unnoted) (fun ran => pageOf settings (ending ran))
    (matchedSteps_unnoted settings) one two same

/-- Where tokens that differ in nothing but author notes have been read, and the same is left, the
page is the same. -/
theorem pageOf_endingFrom {settings : Settings} {cursor cursor' : Cursor}
    {one two : Except Halt Document} (rest : cursor.rest = cursor'.rest)
    (same : Halt.outcomeUnnoted one = Halt.outcomeUnnoted two) :
    pageOf settings (endingFrom setup cursor one) =
      pageOf settings (endingFrom setup cursor' two) := by
  cases one with
  | error halt =>
      cases two with
      | error halt' =>
          have cause : halt.fault.cause = halt'.fault.cause :=
            congrArg (fun halt => halt.fault.cause) (Except.error.inj same)
          simp only [endingFrom, cause]
      | ok _ => cases same
  | ok document =>
      cases two with
      | error _ => cases same
      | ok document' =>
          have moved : ending ((⟨cursor, document⟩ : Compilation).run setup) =
              ending ((⟨cursor', document⟩ : Compilation).run setup) := Alike.ending_run ⟨rest, rfl⟩
          have documents : (⟨cursor', document⟩ : Compilation).unnoted =
              (⟨cursor', document'⟩ : Compilation).unnoted :=
            congrArg (Compilation.mk cursor') (Except.ok.inj same)
          rw [endingFrom, moved]
          exact pageOf_run settings documents

end Compilation

/-! ## Reading -/

namespace Cursor

variable {mode : Mode} {backticks : Bool} {cursor after : Cursor} {token : Token} {tag : Tag}
  {note : Text}

/-- A note as it is written in a tag. -/
def writtenNote (note : Text) : Text := Attributes.renderEntry (Attributes.authorNote, note)

/-- An attribute can be written behind the name of every tag. -/
theorem TagText.noted {name inner : Text} {pairs : List (Text × Text)} {closes : Bool}
    (shape : TagText ('<' :: (name ++ inner)) name pairs closes) (plain : '"' ∉ note) :
    TagText ('<' :: (name ++ (writtenNote note ++ inner))) name
      ((Attributes.authorNote, note) :: pairs) closes := by
  generalize whole : '<' :: (name ++ inner) = written at shape
  cases shape with
  | @tag _ body _ _ named ends inside =>
      obtain rfl : inner = body := List.append_cancel_left (List.cons.inj whole).2
      have blank : IsBlanks [' '] := by simp [IsBlanks, isTagBlank]
      have none : IsBlanks [] := by simp [IsBlanks]
      have value : ValueText (quoted note) note inner := .quoted plain
      have entry := EntryText.entry (show IsWord Attributes.authorNote by decide) none none value
      have noted := BodyText.entry blank entry inside
      refine .tag named (by simp [writtenNote, Attributes.renderEntry, isNameChar]) ?_
      simpa [writtenNote, Attributes.renderEntry, quoted] using noted

/-- With a note behind its name, a tag is read as the tag with the note. -/
theorem next_noted (tags : mode = .normal ∨ mode = .image)
    (h : cursor.next mode backticks = .ok (some (token, after)))
    (tagged : token.form = .openTag tag ∨ token.form = .selfCloseTag tag) (plain : '"' ∉ note) :
    ∃ inner token' after', cursor.rest = '<' :: (tag.name ++ inner) ∧
      (⟨'<' :: (tag.name ++ (writtenNote note ++ inner)), cursor.offset⟩ : Cursor).next mode
        backticks = .ok (some (token', after')) ∧
      after.rest = after'.rest ∧ token.unnoted = token'.unnoted := by
  obtain ⟨written, pairs, closes, letter, reads, shape, rfl, place⟩ :=
    exists_tagText_of_tag tags h tagged
  obtain ⟨-, body, rfl⟩ := shape.begins
  have noted := next_of_written tags backticks letter (shape.noted plain) after.rest cursor.offset
  have begins : '<' :: (tag.name ++ (writtenNote note ++ body)) ++ after.rest =
      '<' :: (tag.name ++ (writtenNote note ++ (body ++ after.rest))) := by simp
  have attributes := Attributes.erase_ofList_cons (Attributes.authorNote, note) pairs
  have same : tag.unnoted = Tag.unnoted ⟨tag.name,
      .ofList ((Attributes.authorNote, note) :: pairs), cursor.offset⟩ := by
    rw [place]
    exact congrArg (fun attributes => (⟨tag.name, attributes, cursor.offset⟩ : Tag)) attributes.symm
  rw [begins] at noted
  refine ⟨body ++ after.rest, _, _, by simp [reads.rest], noted, rfl, ?_⟩
  have offset : tag.offset = cursor.offset := congrArg Tag.offset place
  cases closes <;> simp [Token.unnoted, Token.retagged, Token.Form.retagged, tagToken, same, offset]

end Cursor

/-! ## Pages -/

/-- The source with an author note in a tag, directly behind the name. -/
def Tag.notedIn (tag : Tag) (note source : Text) : Text :=
  let place := tag.offset.toNat + (tag.name.length + 1)
  source.take place ++ Cursor.writtenNote note ++ source.drop place

theorem Tag.notedIn_append {tag : Tag} {before : Text} (place : tag.offset = before.length)
    (note inner : Text) :
    tag.notedIn note (before ++ '<' :: (tag.name ++ inner)) =
      before ++ '<' :: (tag.name ++ (Cursor.writtenNote note ++ inner)) := by
  have length : tag.offset.toNat + (tag.name.length + 1) = (before ++ '<' :: tag.name).length := by
    rw [place]
    simp
  have whole : before ++ '<' :: (tag.name ++ inner) = (before ++ '<' :: tag.name) ++ inner := by
    simp
  rw [notedIn, length, whole, List.take_left, List.drop_left]
  simp

/-- Where a tag is read in a source, an author note in it changes nothing: there is the same page,
or a fault of the same cause. -/
theorem author_notes_do_not_show {setup : Setup} {source note : Text} {tag : Tag}
    (reads : ReadsTag setup source tag) (plain : '"' ∉ note) :
    (compileWith setup (tag.notedIn note source)).mapError Fault.cause =
      (compileWith setup source).mapError Fault.cause := by
  obtain ⟨steps, here, token, after, reaches, read, opens⟩ := reads
  have tagged := Token.form_of_opens? opens
  obtain ⟨mode, current, tags, next⟩ := read.exists_mode_of_tag tagged
  have written : tag.WrittenAt here.cursor := by
    have readAt := (Cursor.next_readAt next).2
    rcases tagged with form | form <;> rwa [form] at readAt
  obtain ⟨before, start⟩ := reaches.reads_start
  obtain ⟨inner, token', after', begins, noted, left, same⟩ :=
    Cursor.next_noted tags next tagged plain
  obtain rfl : source = before ++ '<' :: (tag.name ++ inner) := start.rest.trans (begins ▸ rfl)
  have place : tag.offset = before.length := by
    rw [written.offset, start.offset]
    exact congrArg Int.ofNat (Nat.zero_add _)
  -- In front of the tag the two sources are read alike, and behind it the same is left.
  have alike (front : Text) : Text.EndsAlike (front ++ '<' :: (tag.name ++ inner))
      (front ++ '<' :: (tag.name ++ (Cursor.writtenNote note ++ inner))) :=
    .before_name written.letter front inner _
  have reached := reaches.ending_before alike begins
  have readNoted : (⟨⟨'<' :: (tag.name ++ (Cursor.writtenNote note ++ inner)),
      here.cursor.offset⟩, here.document⟩ : Compilation).Reads token' after' :=
    ⟨mode, current, noted⟩
  rw [mapError_compileWith, mapError_compileWith, Tag.notedIn_append place, reached,
    ending_of_reads readNoted, reaches.run_eq, ending_of_reads read]
  exact (pageOf_endingFrom left (handle_unnoted rfl same)).symm

/-- A note may hold what would end a tag. -/
theorem note_in_heading_does_not_show :
    (compileWith {} "<header comment=\"a > b\" class=\"c\">d</header>".toList).mapError
        Fault.cause =
      (compileWith {} "<header class=\"c\">d</header>".toList).mapError Fault.cause := by
  have writable : ∀ pair ∈ [("class".toList, ['c'])], Cursor.Writable pair :=
    List.forall_mem_singleton.mpr ⟨by decide, by decide⟩
  have opens := Cursor.next_writtenTag (show Mode.normal ≠ .code by decide) (by decide) false
    (show Cursor.IsTagName "header".toList by decide) writable false "d</header>".toList 0
  have reads : ReadsTag {} "<header class=\"c\">d</header>".toList
      ⟨"header".toList, .ofList [("class".toList, ['c'])], 0⟩ :=
    ⟨[], _, _, _, .refl, ⟨.normal, rfl, opens⟩, rfl⟩
  exact @author_notes_do_not_show {} _ "a > b".toList _ reads (by decide)

end PageMarkup
