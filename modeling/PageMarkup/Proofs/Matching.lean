import PageMarkup.Proofs.Brackets
import PageMarkup.Proofs.Handling.Refusals
import PageMarkup.Proofs.Modes
import PageMarkup.Proofs.Reading.Faults

/-! # Matching tags

Opening and closing tags are brackets. The open elements are the opening tags that have no partner
so far, and a closing tag without one is refused. -/

namespace PageMarkup

open Compilation PageMarkup.Bracket

/-- The closing tag of that name is the partner of the tag. -/
def Tag.ClosedBy (tag : Tag) (name : Text) : Prop := tag.name = name

instance : DecidableRel Tag.ClosedBy := fun _ _ => inferInstanceAs (Decidable (_ = _))

/-- The brackets of a token, by proper names. A tag that closes itself is a bracket and its
partner. -/
def Token.brackets (token : Token) : List (Bracket Tag Text) :=
  match token.form with
  | .openTag tag => [.opens tag.proper]
  | .closeTag name => [.closes (Tag.properName name)]
  | .selfCloseTag tag => [.opens tag.proper, .closes (Tag.properName tag.name)]
  | _ => []

/-- The brackets of some steps, one after another. -/
def Step.brackets (steps : List Step) : List (Bracket Tag Text) :=
  steps.flatMap fun step => step.token.brackets

@[simp] theorem Step.brackets_nil : Step.brackets [] = [] := rfl

@[simp] theorem Step.brackets_cons (step : Step) (steps : List Step) :
    Step.brackets (step :: steps) = step.token.brackets ++ Step.brackets steps := rfl

@[simp] theorem Step.brackets_append (front back : List Step) :
    Step.brackets (front ++ back) = Step.brackets front ++ Step.brackets back :=
  List.flatMap_append

/-- The same element, perhaps with more content. -/
structure OpenElement.Grows (early late : OpenElement) : Prop where
  tag : late.tag = early.tag
  bookmark? : late.bookmark? = early.bookmark?
  content : early.content <+: late.content

theorem OpenElement.Grows.refl (element : OpenElement) : element.Grows element :=
  ⟨rfl, rfl, List.prefix_rfl⟩

theorem OpenElement.Grows.trans {early middle late : OpenElement} (first : early.Grows middle)
    (second : middle.Grows late) : early.Grows late :=
  ⟨second.tag.trans first.tag, second.bookmark?.trans first.bookmark?,
    first.content.trans second.content⟩

/-! ## Steps -/

namespace Document

variable {setup : Setup} {before after : Document} {token : Token}
  {brackets : List (Bracket Tag Text)}

/-- The tags of the open elements, innermost first. -/
def openTags (document : Document) : List Tag := document.elements.map OpenElement.tag

/-- An opening tag that is handled makes its element the innermost one. -/
theorem Handling.opening {tag : Tag} {offset : Int}
    (handling : Handling setup before ⟨.openTag tag, offset⟩ after) :
    ∃ inside, OpenSpec setup tag.proper before inside ∧
      after = { inside with modes := after.modes } := by
  cases handling with
  | opens opening => exact ⟨_, opening, rfl⟩

/-- A closing tag that is handled closes the innermost element, which goes by its name. -/
theorem Handling.closing {name : Text} {offset : Int}
    (handling : Handling setup before ⟨.closeTag name, offset⟩ after) :
    ∃ element outer inside, before.elements = element :: outer ∧
      element.tag.name = Tag.properName name ∧
      CloseSpec setup element { before with elements := outer } inside ∧
      after = { inside with modes := after.modes } := by
  cases handling with
  | closes elements named _ closing => exact ⟨_, _, _, elements, named, closing, rfl⟩
  | closesCapture elements named _ closing _ => exact ⟨_, _, _, elements, named, closing, rfl⟩

theorem Handling.openTags_eq (handling : Handling setup before token after) :
    after.openTags =
      match token.form with
      | .openTag tag => tag.proper :: before.openTags
      | .closeTag _ => before.openTags.tail
      | _ => before.openTags :=
  handling.map_elements OpenElement.tag fun _ _ => rfl

/-- The open elements are what the brackets leave. -/
theorem Handling.leaves (handling : Handling setup before token after)
    (earlier : Leaves Tag.ClosedBy brackets before.openTags) :
    Leaves Tag.ClosedBy (brackets ++ token.brackets) after.openTags := by
  have tags := handling.openTags_eq
  obtain ⟨form, offset⟩ := token
  cases form with
  | openTag tag =>
      rw [tags]
      exact earlier.open _
  | closeTag name =>
      obtain ⟨element, outer, inside, elements, named, -, -⟩ := handling.closing
      rw [openTags, elements, List.map_cons] at earlier
      rw [tags, openTags, elements]
      exact earlier.close named
  | selfCloseTag tag =>
      have both := (earlier.open tag.proper).close (Tag.proper_name tag)
      rw [List.append_assoc] at both
      rw [tags]
      exact both
  | text | newline | pipe | backtick =>
      rw [tags, Token.brackets, List.append_nil]
      exact earlier

/-- An open element stays open, and those around it as they are, up to its closing tag, which comes
where nothing inside it is open. -/
theorem Handling.holds_or_closes {inner outer : List OpenElement} {element : OpenElement}
    (handling : Handling setup before token after)
    (elements : before.elements = inner ++ element :: outer)
    (leaves : Leaves Tag.ClosedBy brackets (inner.map OpenElement.tag)) :
    (∃ inner' late, after.elements = inner' ++ late :: outer ∧ element.Grows late ∧
        Leaves Tag.ClosedBy (brackets ++ token.brackets) (inner'.map OpenElement.tag)) ∨
      inner = [] ∧ ∃ name, token.form = .closeTag name ∧
        element.tag.ClosedBy (Tag.properName name) := by
  have same (none : token.brackets = []) (still : after.elements = before.elements) :
      ∃ inner' late, after.elements = inner' ++ late :: outer ∧ element.Grows late ∧
        Leaves Tag.ClosedBy (brackets ++ token.brackets) (inner'.map OpenElement.tag) := by
    rw [none, List.append_nil]
    exact ⟨inner, element, still.trans elements, .refl _, leaves⟩
  cases handling with
  | text | inlineCode | newline | pipe | backtick | codeStarts | codeEnds =>
      exact .inl (same rfl rfl)
  | @captured value _ innermost others _ found =>
      rw [found] at elements
      refine .inl ?_
      rw [Token.brackets, List.append_nil]
      cases inner with
      | nil =>
          obtain ⟨rfl, rfl⟩ := List.cons.inj elements
          exact ⟨[], _, rfl, ⟨rfl, rfl, List.prefix_append _ _⟩, leaves⟩
      | cons first inner =>
          obtain ⟨rfl, rfl⟩ := List.cons.inj elements
          exact ⟨{ innermost with content := innermost.content ++ value } :: inner, element, rfl,
            .refl _, leaves⟩
  | @opens tag _ _ opening =>
      refine .inl ⟨before.opened setup tag.proper :: inner, element, ?_, .refl _,
        leaves.open tag.proper⟩
      rw [opening.elements, elements, List.cons_append]
  | closes found named _ closing | closesCapture found named _ closing =>
      cases inner with
      | nil =>
          rw [found] at elements
          obtain ⟨rfl, rfl⟩ := List.cons.inj elements
          exact .inr ⟨rfl, _, rfl, named⟩
      | cons first inner =>
          rw [found, List.cons_append] at elements
          obtain ⟨rfl, rfl⟩ := List.cons.inj elements
          exact .inl ⟨inner, element, closing.elements, .refl _, leaves.close named⟩
  | @selfCloses tag _ _ _ opening closing =>
      have both := (leaves.open tag.proper).close (Tag.proper_name tag)
      rw [List.append_assoc] at both
      exact .inl ⟨inner, element, closing.elements.trans elements, .refl _, both⟩

/-! ## Refused closing tags -/

theorem Refusal.mismatchedClose {expected found : Text} {offset : Int}
    (refusal : Refusal setup before token ⟨.mismatchedClose expected found, offset⟩) :
    ∃ name, token = ⟨.closeTag name, offset⟩ ∧ found = Tag.properName name ∧
      (∀ tag ∈ before.openTags.head?, ¬ tag.ClosedBy found) ∧
      expected = (before.openTags.head?.map Tag.name).getD [] := by
  generalize same : (⟨.mismatchedClose expected found, offset⟩ : Fault) = fault at refusal
  cases refusal with
  | mismatched differs =>
      obtain ⟨cause, rfl⟩ := Fault.mk.inj same
      obtain ⟨rfl, rfl⟩ := Cause.mismatchedClose.inj cause
      refine ⟨_, rfl, rfl, ?_, ?_⟩
      · intro tag head
        rw [openTags, List.head?_map] at head
        obtain ⟨element, innermost, rfl⟩ := Option.map_eq_some_iff.mp head
        exact differs element innermost
      · rw [openTags, List.head?_map, Option.map_map]
        rfl
  | noMode | noModeToLeave | noOpenTag | repeatedContents => cases (Fault.mk.inj same).1
  | listing closes role refusal =>
      obtain rfl := (Fault.mk.inj same).1
      cases refusal

/-- A closing tag that is not the partner of the innermost element is refused. -/
theorem handle_of_mismatchedClose {name : Text} (offset : Int)
    (differs : ∀ tag ∈ before.openTags.head?, ¬ tag.ClosedBy (Tag.properName name)) :
    ∃ halt, before.handle setup ⟨.closeTag name, offset⟩ = .error halt ∧ halt.fault =
      ⟨.mismatchedClose ((before.openTags.head?.map Tag.name).getD []) (Tag.properName name),
        offset⟩ := by
  cases elements : before.elements with
  | nil =>
      refine ⟨⟨⟨.mismatchedClose [] (Tag.properName name), offset⟩, before⟩, ?_, ?_⟩
      · simp only [handle, handleClose, pop, elements]
      · simp [openTags, elements]
  | cons element outer =>
      have other : element.tag.name ≠ Tag.properName name :=
        differs element.tag (by simp [openTags, elements])
      refine ⟨⟨⟨.mismatchedClose element.tag.name (Tag.properName name), offset⟩,
        { before with elements := outer }⟩, ?_, ?_⟩
      · simp only [handle, handleClose, pop, elements, if_neg other]
      · simp [openTags, elements]

end Document

/-! ## Runs -/

open Document

variable {setup : Setup} {source : Text} {steps : List Step} {first last : Compilation}

namespace Compilation.Reaches

theorem leaves (h : (opening setup.settings source).Reaches setup steps last) :
    Leaves Tag.ClosedBy (Step.brackets steps) last.document.openTags := by
  induction h with
  | refl => exact .nested .nil
  | step _ handled ih =>
      have longer := (handling_of_handled handled).leaves ih
      simpa only [Step.brackets_append, Step.brackets_cons, Step.brackets_nil,
        List.append_nil] using longer

/-- The innermost element of a compilation is held open, or some step closes it. -/
theorem holds_or_closes {element : OpenElement} {outer : List OpenElement}
    (h : first.Reaches setup steps last) (elements : first.document.elements = element :: outer) :
    (∃ inner late, last.document.elements = inner ++ late :: outer ∧ element.Grows late ∧
        Leaves Tag.ClosedBy (Step.brackets steps) (inner.map OpenElement.tag)) ∨
      ∃ front closes back late, steps = front ++ closes :: back ∧
        Nested Tag.ClosedBy (Step.brackets front) ∧
        (∃ name, closes.token.form = .closeTag name ∧
          element.tag.ClosedBy (Tag.properName name)) ∧
        closes.document.elements = late :: outer ∧ element.Grows late := by
  induction h with
  | refl => exact .inl ⟨[], element, elements, .refl _, .nested .nil⟩
  | @step steps before token after earlier handled ih =>
      rcases ih with ⟨inner, late, held, grows, leaves⟩ | ⟨front, closes, back, late, rfl, closed⟩
      · rcases (handling_of_handled handled).holds_or_closes held leaves with
          ⟨inner', later, still, more, leaves'⟩ | ⟨rfl, name, closing, named⟩
        · refine .inl ⟨inner', later, still, grows.trans more, ?_⟩
          simpa only [Step.brackets_append, Step.brackets_cons, Step.brackets_nil,
            List.append_nil] using leaves'
        · exact .inr ⟨steps, ⟨before.document, token⟩, [], late, rfl, leaves.all_nested,
            ⟨name, closing, grows.tag ▸ named⟩, held, grows⟩
      · refine .inr ⟨front, closes, back ++ [⟨before.document, token⟩], late, ?_, closed⟩
        rw [List.append_assoc, List.cons_append]

/-- Where no element is left open, the innermost one is closed by some step. -/
theorem exists_closing {element : OpenElement} {outer : List OpenElement}
    (h : first.Reaches setup steps last) (elements : first.document.elements = element :: outer)
    (closed : last.document.elements = []) :
    ∃ inner closes rest late, steps = inner ++ closes :: rest ∧
      Nested Tag.ClosedBy (Step.brackets inner) ∧
      (∃ name, closes.token.form = .closeTag name ∧
        element.tag.ClosedBy (Tag.properName name)) ∧
      closes.document.elements = late :: outer ∧ element.Grows late := by
  rcases h.holds_or_closes elements with ⟨_, _, held, -⟩ | closing
  · simp [closed] at held
  · exact closing

/-- Where no element is left open, each opening tag has its closing tag. -/
theorem exists_closing_of_openTag {front back : List Step} {here : Step} {tag : Tag}
    (h : first.Reaches setup (front ++ here :: back) last)
    (opens : here.token.form = .openTag tag) (closed : last.document.elements = []) :
    ∃ inner closes rest late, back = inner ++ closes :: rest ∧
      Nested Tag.ClosedBy (Step.brackets inner) ∧
      (∃ name, closes.token.form = .closeTag name ∧
        tag.proper.ClosedBy (Tag.properName name)) ∧
      closes.document.elements = late :: here.document.elements ∧
      (here.document.opened setup tag.proper).Grows late := by
  obtain ⟨before, next, -, same, handled, behind⟩ := h.at_step
  have handling := handling_of_handled handled
  rw [← same] at handling
  obtain ⟨document, form, offset⟩ := here
  obtain rfl : form = .openTag tag := opens
  obtain ⟨inside, opening, after⟩ := handling.opening
  have elements : next.document.elements = document.opened setup tag.proper :: document.elements :=
    after ▸ opening.elements
  exact behind.exists_closing elements closed

end Compilation.Reaches

/-! ## Pages -/

/-- The setup with closed tags required, or not. -/
def Setup.requiring (setup : Setup) (closeTags : Bool) : Setup :=
  { setup with settings := { setup.settings with closeTags } }

/-- Whether closed tags are required makes no difference before the end. -/
theorem run_requiring (setup : Setup) (closeTags : Bool) (compilation : Compilation) :
    compilation.run (setup.requiring closeTags) = compilation.run setup := by
  have advances (here : Compilation) :
      here.advance (setup.requiring closeTags) = here.advance setup := rfl
  exact run_congr advances compilation

theorem compileWith_requiring (setup : Setup) (closeTags : Bool) (source : Text) :
    compileWith (setup.requiring closeTags) source =
      match (opening setup.settings source).run setup with
      | (some fault, _) => .error fault
      | (none, last) =>
        match leftOpen? (setup.requiring closeTags).settings last.document with
        | some fault => .error fault
        | none => .ok last.document.render := by
  rw [compileWith_eq, run_requiring]
  rfl

theorem mismatchedClose_iff {expected found : Text} {offset : Int} :
    compileWith setup source = .error ⟨.mismatchedClose expected found, offset⟩ ↔
      ∃ steps last name after tags, (opening setup.settings source).Reaches setup steps last ∧
        last.Reads ⟨.closeTag name, offset⟩ after ∧
        Leaves Tag.ClosedBy (Step.brackets steps) tags ∧
        (∀ tag ∈ tags.head?, ¬ tag.ClosedBy found) ∧
        expected = (tags.head?.map Tag.name).getD [] ∧ found = Tag.properName name := by
  rw [compileWith_eq_error_iff]
  constructor
  · rintro ⟨steps, last, reaches, ⟨token?, after, stopped⟩ | ⟨-, left⟩⟩
    · rcases advance_eq_stopped stopped with
        missing | ⟨mode, stop, -, read, fault⟩ | ⟨token, cursor, halt, read, refused, fault⟩
      · exact absurd missing reaches.coherent.mode?_ne_none
      · obtain ⟨_, _, -, -, met⟩ := Cursor.next_error read
        rw [← fault] at met
        exact met.elim
      · have refusal := refusal_of_handle refused
        rw [← fault] at refusal
        obtain ⟨name, rfl, rfl, differs, innermost⟩ := refusal.mismatchedClose
        exact ⟨steps, last, name, cursor, _, reaches, read, reaches.leaves, differs, innermost, rfl⟩
    · unfold leftOpen? at left
      split at left
      · split at left <;> cases left
      · cases left
  · rintro ⟨steps, last, name, after, tags, reaches, read, leaves, differs, rfl, rfl⟩
    obtain rfl := leaves.unique reaches.leaves
    obtain ⟨halt, refused, fault⟩ := handle_of_mismatchedClose offset differs
    have stopped := advance_of_refused read refused
    rw [fault] at stopped
    exact ⟨steps, last, reaches, .inl ⟨_, _, stopped⟩⟩

/-- What the end of a run without a fault comes to, by the tags that have been left open. -/
theorem compileWith_of_run_finished {last : Compilation}
    (ran : (opening setup.settings source).run setup = (none, last)) :
    compileWith (setup.requiring false) source = .ok last.document.render ∧
      compileWith (setup.requiring true) source =
        match last.document.openTags with
        | [] => .ok last.document.render
        | tag :: _ => .error ⟨.unclosedTag tag.name, tag.offset⟩ := by
  rw [compileWith_requiring, compileWith_requiring, ran]
  simp only [leftOpen?, openTags, Setup.requiring]
  cases last.document.elements with
  | nil => exact ⟨rfl, rfl⟩
  | cons element outer => exact ⟨rfl, rfl⟩

/-- Closing tags are matched as brackets are, headings going by the name of their element. As long
as tags are handled, the open elements are the opening tags that have no partner so far. The first
closing tag that is not the partner of the innermost of these is a fault at its place, and nothing
else is a fault of this kind. Where all tokens can be handled there is a page. If closed tags are
required the page is the same, unless an opening tag is left without a partner: then the innermost
of these is a fault. Any other fault is the same whether closed tags are required or not. -/
theorem closing_tags_match_innermost_opening_tags (setup : Setup) (source : Text) :
    (∀ steps last, (opening setup.settings source).Reaches setup steps last →
      Leaves Tag.ClosedBy (Step.brackets steps) last.document.openTags) ∧
    (∀ expected found offset,
      compileWith setup source = .error ⟨.mismatchedClose expected found, offset⟩ ↔
        ∃ steps last name after tags, (opening setup.settings source).Reaches setup steps last ∧
          last.Reads ⟨.closeTag name, offset⟩ after ∧
          Leaves Tag.ClosedBy (Step.brackets steps) tags ∧
          (∀ tag ∈ tags.head?, ¬ tag.ClosedBy found) ∧
          expected = (tags.head?.map Tag.name).getD [] ∧ found = Tag.properName name) ∧
    (∀ last, (opening setup.settings source).run setup = (none, last) →
      ∃ steps tags, (opening setup.settings source).Reaches setup steps last ∧
        last.cursor.rest = [] ∧ Leaves Tag.ClosedBy (Step.brackets steps) tags ∧
        compileWith (setup.requiring false) source = .ok last.document.render ∧
        compileWith (setup.requiring true) source =
          match tags with
          | [] => .ok last.document.render
          | tag :: _ => .error ⟨.unclosedTag tag.name, tag.offset⟩) ∧
    ∀ fault last, (opening setup.settings source).run setup = (some fault, last) →
      ∀ closeTags, compileWith (setup.requiring closeTags) source = .error fault := by
  refine ⟨fun steps last reaches => reaches.leaves, fun expected found offset =>
    mismatchedClose_iff, fun last ran => ?_, fun fault last ran closeTags => ?_⟩
  · obtain ⟨steps, reaches, finished⟩ := exists_reaches_of_run ran
    obtain ⟨lenient, strict⟩ := compileWith_of_run_finished ran
    exact ⟨steps, _, reaches, rest_eq_nil_of_finished finished, reaches.leaves, lenient, strict⟩
  · rw [compileWith_requiring, ran]

end PageMarkup
