import PageMarkup.Proofs.Contents
import PageMarkup.Proofs.Matching

/-! # Markup

The page shows elements and boxes whole. The start of one is shown where its end is shown too, and
the elements on the page are nested as their tags are. -/

namespace PageMarkup

open Compilation PageMarkup.Bracket

/-! ## Pieces of the page -/

/-- What the page is put together from: starts and ends of elements, and all else. -/
inductive Piece
  | start (name attributes : Text)
  | finish (name : Text)
  | other (text : Text)

namespace Piece

/-- The piece as it stands on the page. -/
def text : Piece → Text
  | start name attributes => '<' :: name ++ attributes ++ ['>']
  | finish name => "</".toList ++ name ++ ['>']
  | other text => text

/-- Starts and ends are brackets, by the names of their elements. -/
def bracket? : Piece → Option (Bracket Text Text)
  | start name _ => some (.opens name)
  | finish name => some (.closes name)
  | other _ => none

/-- The brackets among some pieces, one after another. -/
def brackets (pieces : List Piece) : List (Bracket Text Text) := pieces.filterMap bracket?

end Piece

/-- The name of the element that the page has for a tag: boxes are divisions, and ordinary elements
have the name of their tag. -/
def Tag.pageName? (tag : Tag) : Option Text :=
  match tag.role with
  | .note | .warning => some "div".toList
  | .element => some tag.name
  | _ => none

namespace Document

variable {setup : Setup} {document before after : Document} {token : Token}

/-- What stands between the angle brackets of an opening tag, after the name. -/
def startAttributes (tag : Tag) : Text :=
  match tag.role with
  | .note | .warning => " class=\"".toList ++ tag.name ++ "_box\"".toList
  | _ => tag.attributes.render []

/-- What opening a tag puts on the page. -/
def startPiece (tag : Tag) (number : Nat) : Piece :=
  match tag.pageName? with
  | some name => .start name (startAttributes tag)
  | none => .other (startMarkup tag number)

/-- What closing an element puts on the page. -/
def endPiece (setup : Setup) (element : OpenElement) : Piece :=
  match element.tag.pageName? with
  | some name => .finish name
  | none => .other (endMarkup setup element)

/-- The pieces that a token gives to the page, outside comments or not. -/
def pieces (setup : Setup) (document : Document) (token : Token) : List Piece :=
  match token.form with
  | .openTag tag => [startPiece tag.proper document.nextNumber]
  | .closeTag _ => document.elements.head?.toList.map (endPiece setup)
  | .selfCloseTag tag =>
    [startPiece tag.proper document.nextNumber, endPiece setup (document.opened setup tag.proper)]
  | _ => [.other (document.fragment setup token)]

/-- The opening tag of a box is one of a division. -/
theorem boxStart_eq (tag : Tag) :
    boxStart tag =
      '<' :: "div".toList ++ (" class=\"".toList ++ tag.name ++ "_box\"".toList) ++ ['>'] := by
  have joined {front name class' box back : Text} (start : front = '<' :: name ++ class')
      (finish : back = box ++ ['>']) :
      front ++ tag.name ++ back = '<' :: name ++ (class' ++ tag.name ++ box) ++ ['>'] := by
    rw [start, finish]
    simp only [List.cons_append, List.append_assoc]
  exact joined (by decide) (by decide)

theorem text_startPiece (tag : Tag) (number : Nat) :
    (startPiece tag number).text = startMarkup tag number := by
  cases role : tag.role with
  | note | warning =>
      have whole := boxStart_eq tag
      simp only [startPiece, Tag.pageName?, Piece.text, startAttributes, startMarkup, role, whole]
  | element =>
      simp [startPiece, Tag.pageName?, Piece.text, startAttributes, startMarkup, elementStart, role]
  | comment | bookmark | contents | backticksOn | backticksOff | image | code =>
      simp only [startPiece, Tag.pageName?, Piece.text, role]

theorem text_endPiece (setup : Setup) (element : OpenElement) :
    (endPiece setup element).text = endMarkup setup element := by
  cases role : element.tag.role with
  | note | warning =>
      simp only [endPiece, Tag.pageName?, Piece.text, endMarkup, OpenElement.role, role]
      rfl
  | element =>
      simp [endPiece, Tag.pageName?, Piece.text, endMarkup, OpenElement.role, elementEnd, role]
  | comment | bookmark | contents | backticksOn | backticksOff | image | code =>
      simp only [endPiece, Tag.pageName?, Piece.text, role]

/-- The pieces make up the fragment. -/
theorem text_pieces (setup : Setup) (document : Document) (token : Token) :
    (document.pieces setup token).flatMap Piece.text = document.fragment setup token := by
  obtain ⟨form, offset⟩ := token
  cases form with
  | openTag tag => simp [pieces, fragment, text_startPiece]
  | closeTag name =>
      cases innermost : document.elements.head? <;>
        simp [pieces, fragment, innermost, text_endPiece]
  | selfCloseTag tag => simp [pieces, fragment, text_startPiece, text_endPiece]
  | text | newline | pipe | backtick => simp [pieces, Piece.text]

theorem bracket?_startPiece (tag : Tag) (number : Nat) :
    (startPiece tag number).bracket? = tag.pageName?.map .opens := by
  unfold startPiece
  cases tag.pageName? <;> rfl

theorem bracket?_endPiece (setup : Setup) (element : OpenElement) :
    (endPiece setup element).bracket? = element.tag.pageName?.map .closes := by
  unfold endPiece
  cases element.tag.pageName? <;> rfl

end Document

/-! ## What steps show -/

namespace Step

/-- The pieces that the step shows: inside comments, none. -/
def pieces (setup : Setup) (step : Step) : List Piece :=
  if step.document.commented then [] else step.document.pieces setup step.token

/-- The pieces that steps show, one after another. -/
def piecesBy (setup : Setup) (steps : List Step) : List Piece := steps.flatMap (pieces setup)

theorem text_pieces (setup : Setup) (step : Step) :
    (step.pieces setup).flatMap Piece.text = step.shown setup := by
  unfold pieces shown
  split
  · rfl
  · exact Document.text_pieces _ _ _

/-- What steps show is put together from their pieces. -/
theorem text_piecesBy (setup : Setup) (steps : List Step) :
    (piecesBy setup steps).flatMap Piece.text = shownBy setup steps := by
  rw [piecesBy, List.flatMap_assoc, shownBy]
  simp only [text_pieces]

end Step

/-! ## Names of elements on the page -/

/-- A tag is that of a comment. -/
def Tag.isComment (tag : Tag) : Bool := tag.role = .comment

/-- The name of the element that the page has for a tag inside others: none in a comment. -/
def Tag.shownName? (outer : List Tag) (tag : Tag) : Option Text :=
  if outer.any Tag.isComment then none else tag.pageName?

/-- The names of the elements that the page has for some tags, each inside those behind it. -/
def Tag.shownNames : List Tag → List Text
  | [] => []
  | tag :: outer => (tag.shownName? outer).toList ++ shownNames outer

/-- The page has no element for a comment, so it does not matter whether it counts as outer. -/
theorem Tag.shownName?_cons (tag : Tag) (outer : List Tag) :
    tag.shownName? (tag :: outer) = tag.shownName? outer := by
  unfold shownName?
  rw [List.any_cons]
  cases comment : tag.isComment with
  | false => rw [Bool.false_or]
  | true =>
      have role : tag.role = .comment := by simpa [isComment] using comment
      have none : tag.pageName? = none := by simp only [pageName?, role]
      rw [none, ite_self, ite_self]

section

variable {names : List Text} {brackets : List (Bracket Text Text)} {name? : Option Text}

theorem leaves_opens (earlier : Leaves Eq brackets names) :
    Leaves Eq (brackets ++ (name?.map .opens).toList) (name?.toList ++ names) := by
  cases name? with
  | none => simpa using earlier
  | some name => exact earlier.open name

theorem leaves_closes (earlier : Leaves Eq brackets (name?.toList ++ names)) :
    Leaves Eq (brackets ++ (name?.map .closes).toList) names := by
  cases name? with
  | none => simpa using earlier
  | some name => exact earlier.close rfl

end

namespace Document

variable {setup : Setup} {document before after : Document} {token : Token}
  {brackets : List (Bracket Text Text)}

theorem commented_eq (document : Document) :
    document.commented = document.openTags.any Tag.isComment := by
  rw [commented, openTags, List.any_map]
  rfl

theorem brackets_of_openTag {tag : Tag} (offset : Int) :
    Piece.brackets (Step.pieces setup ⟨document, ⟨.openTag tag, offset⟩⟩) =
      ((tag.proper.shownName? document.openTags).map .opens).toList := by
  simp only [Step.pieces, commented_eq, Tag.shownName?, pieces]
  split
  · rfl
  · rw [Piece.brackets, List.filterMap_cons, bracket?_startPiece]
    cases tag.proper.pageName? <;> rfl

theorem brackets_of_closeTag {name : Text} {element : OpenElement} {outer : List OpenElement}
    (elements : document.elements = element :: outer) (offset : Int) :
    Piece.brackets (Step.pieces setup ⟨document, ⟨.closeTag name, offset⟩⟩) =
      ((element.tag.shownName? (outer.map OpenElement.tag)).map .closes).toList := by
  rw [← Tag.shownName?_cons]
  simp only [Step.pieces, commented_eq, Tag.shownName?, pieces, openTags, elements, List.map_cons]
  split
  · rfl
  · rw [List.head?_cons, Option.toList_some, List.map_singleton, Piece.brackets,
      List.filterMap_cons, bracket?_endPiece]
    cases element.tag.pageName? <;> rfl

theorem brackets_of_selfCloseTag {tag : Tag} (offset : Int) :
    Piece.brackets (Step.pieces setup ⟨document, ⟨.selfCloseTag tag, offset⟩⟩) =
      ((tag.proper.shownName? document.openTags).map .opens).toList ++
        ((tag.proper.shownName? document.openTags).map .closes).toList := by
  simp only [Step.pieces, commented_eq, Tag.shownName?, pieces]
  split
  · rfl
  · rw [Piece.brackets, List.filterMap_cons, List.filterMap_cons, bracket?_startPiece,
      bracket?_endPiece, opened]
    cases tag.proper.pageName? <;> rfl

theorem brackets_of_other {step : Step} {text : Text}
    (plain : step.document.pieces setup step.token = [.other text]) :
    Piece.brackets (step.pieces setup) = [] := by
  unfold Step.pieces
  split
  · rfl
  · rw [plain]
    rfl

/-- The elements of the page that are open are those of the open tags outside comments. -/
theorem Handling.leaves_names (handling : Handling setup before token after)
    (earlier : Leaves Eq brackets (Tag.shownNames before.openTags)) :
    Leaves Eq (brackets ++ Piece.brackets (Step.pieces setup ⟨before, token⟩))
      (Tag.shownNames after.openTags) := by
  have tags := handling.openTags_eq
  obtain ⟨form, offset⟩ := token
  cases form with
  | openTag tag =>
      rw [brackets_of_openTag, tags]
      exact leaves_opens earlier
  | closeTag name =>
      obtain ⟨element, outer, inside, elements, -⟩ := handling.closing
      rw [openTags, elements, List.map_cons] at earlier
      rw [brackets_of_closeTag elements, tags, openTags, elements]
      exact leaves_closes earlier
  | selfCloseTag tag =>
      rw [brackets_of_selfCloseTag, tags, ← List.append_assoc]
      exact leaves_closes (leaves_opens earlier)
  | text | newline | pipe | backtick =>
      rw [tags, brackets_of_other rfl, List.append_nil]
      exact earlier

end Document

/-! ## Runs -/

open Document

variable {setup : Setup} {source : Text} {steps : List Step} {last : Compilation}

namespace Compilation.Reaches

theorem leaves_names (h : (opening setup.settings source).Reaches setup steps last) :
    Leaves Eq (Piece.brackets (Step.piecesBy setup steps))
      (Tag.shownNames last.document.openTags) := by
  induction h with
  | refl => exact .nested .nil
  | step _ handled ih =>
      have longer := (handling_of_handled handled).leaves_names ih
      rw [Step.piecesBy, List.flatMap_append, List.flatMap_singleton, Piece.brackets,
        List.filterMap_append]
      exact longer

/-- With nothing left open, the element of a tag has its start on the page where the tag is opened
and its end where it is closed, or neither. -/
theorem exists_finish {front back : List Step} {here : Step} {tag : Tag} {name : Text}
    (h : (opening setup.settings source).Reaches setup (front ++ here :: back) last)
    (opens : here.token.form = .openTag tag) (named : tag.proper.pageName? = some name)
    (closed : last.document.elements = []) :
    ∃ inner closes rest written, back = inner ++ closes :: rest ∧
      Nested Tag.ClosedBy (Step.brackets inner) ∧ closes.token.form = .closeTag written ∧
      tag.proper.ClosedBy (Tag.properName written) ∧
      here.pieces setup = (if here.document.commented then []
        else [.start name (startAttributes tag.proper)]) ∧
      closes.pieces setup = if here.document.commented then [] else [.finish name] := by
  obtain ⟨inner, closes, rest, late, split, nested, ⟨written, closing, partner⟩, elements, grows⟩ :=
    h.exists_closing_of_openTag opens closed
  have same : late.tag = tag.proper := grows.tag
  have plain : tag.proper.isComment = false := by
    cases role : tag.proper.role <;> simp_all [Tag.isComment, Tag.pageName?]
  have commented : closes.document.commented = here.document.commented := by
    rw [commented_eq, openTags, elements, List.map_cons, List.any_cons, same, plain,
      Bool.false_or, commented_eq, openTags]
  refine ⟨inner, closes, rest, written, split, nested, closing, partner, ?_, ?_⟩
  · simp only [Step.pieces, Document.pieces, opens, startPiece, named]
  · simp only [Step.pieces, Document.pieces, closing, commented, elements, endPiece, same, named,
      List.head?_cons, Option.toList_some, List.map_cons, List.map_nil]

end Compilation.Reaches

/-! ## Pages -/

/-- A page of a source with all tags closed is put together from starts and ends of elements and
from other pieces, with the table of contents between two of them. The starts and ends are nested,
each end having the name of its start. The element of a tag, which is a division for boxes, has its
start on the page where the tag is opened and its end where the tag is closed, if it is outside
comments, and has neither inside. -/
theorem elements_are_shown_whole_and_nested {page : Text}
    (required : setup.settings.closeTags = true) (compiled : compileWith setup source = .ok page) :
    ∃ steps last, (opening setup.settings source).Reaches setup steps last ∧
      last.cursor.rest = [] ∧ Assembled setup steps last.document.bookmarks page ∧
      Step.shownBy setup steps = (Step.piecesBy setup steps).flatMap Piece.text ∧
      Nested Eq (Piece.brackets (Step.piecesBy setup steps)) ∧
      (∀ front here back tag name, steps = front ++ here :: back →
        here.token.form = .openTag tag → tag.proper.pageName? = some name →
        ∃ inner closes rest written, back = inner ++ closes :: rest ∧
          Nested Tag.ClosedBy (Step.brackets inner) ∧ closes.token.form = .closeTag written ∧
          tag.proper.ClosedBy (Tag.properName written) ∧
          here.pieces setup = (if here.document.commented then []
            else [.start name (startAttributes tag.proper)]) ∧
          closes.pieces setup = if here.document.commented then [] else [.finish name]) ∧
      ∀ here ∈ steps, ∀ tag name, here.token.form = .selfCloseTag tag →
        tag.proper.pageName? = some name →
        here.pieces setup = if here.document.commented then []
          else [.start name (startAttributes tag.proper), .finish name] := by
  obtain ⟨steps, last, reaches, finished, left, rfl⟩ := compileWith_eq_ok_iff.mp compiled
  have closed := elements_eq_nil_of_leftOpen required left
  refine ⟨steps, last, reaches, rest_eq_nil_of_finished finished, reaches.assembled,
    (Step.text_piecesBy _ _).symm, ?_, ?_, ?_⟩
  · have leaves := reaches.leaves_names
    rw [openTags, closed] at leaves
    exact leaves.all_nested
  · rintro front here back tag name rfl opens named
    exact reaches.exists_finish opens named closed
  · intro here _ tag name form named
    have opened : (here.document.opened setup tag.proper).tag.pageName? = some name := named
    simp only [Step.pieces, Document.pieces, form, startPiece, endPiece, named, opened]

/-- The box in the comment is not shown, and the element around the comment is. -/
theorem element_around_comment_is_shown :
    ∃ steps, compileWith { settings := { closeTags := true } }
        "<b><comment><note></note></comment></b>".toList = .ok "<b></b>".toList ∧
      Step.shownBy { settings := { closeTags := true } } steps =
        (Step.piecesBy { settings := { closeTags := true } } steps).flatMap Piece.text ∧
      Nested Eq (Piece.brackets (Step.piecesBy { settings := { closeTags := true } } steps)) := by
  have bold : Cursor.IsTagName ['b'] := by decide
  have comment : Cursor.IsTagName "comment".toList := by decide
  have note : Cursor.IsTagName "note".toList := by decide
  have normal : Mode.normal ≠ .code ∧ Mode.normal ≠ .inlineCode := by decide
  have starts := Cursor.next_writtenTag normal.1 normal.2 false bold (List.forall_mem_nil _) false
    "<comment><note></note></comment></b>".toList 0
  have hides := Cursor.next_writtenTag normal.1 normal.2 false comment (List.forall_mem_nil _) false
    "<note></note></comment></b>".toList 3
  have boxes := Cursor.next_writtenTag normal.1 normal.2 false note (List.forall_mem_nil _) false
    "</note></comment></b>".toList 12
  have unboxes := Cursor.next_writtenClose normal.1 normal.2 false note.1 "</comment></b>".toList 18
  have shows := Cursor.next_writtenClose normal.1 normal.2 false comment.1 "</b>".toList 25
  have ends := Cursor.next_writtenClose normal.1 normal.2 false bold.1 [] 35
  have run : ∃ steps document,
      (opening { closeTags := true } "<b><comment><note></note></comment></b>".toList).Reaches
        { settings := { closeTags := true } } steps ⟨⟨[], 39⟩, document⟩ ∧
      document.mode? = some .normal ∧ document.elements = [] ∧
      document.render = "<b></b>".toList :=
    ⟨_, _, .step (.step (.step (.step (.step (.step .refl (advance_of_next rfl starts rfl))
      (advance_of_next rfl hides rfl)) (advance_of_next rfl boxes rfl))
      (advance_of_next rfl unboxes rfl)) (advance_of_next rfl shows rfl))
      (advance_of_next rfl ends rfl), rfl, rfl, rfl⟩
  obtain ⟨steps, document, reaches, current, closed, rendered⟩ := run
  have compiled := compileWith_eq_ok_iff.mpr ⟨steps, _, reaches, advance_at_end current rfl,
    by simp only [leftOpen?, closed], rendered⟩
  obtain ⟨steps', _, _, _, _, text, nested, _⟩ :=
    elements_are_shown_whole_and_nested rfl compiled
  exact ⟨steps', compiled, text, nested⟩

end PageMarkup
