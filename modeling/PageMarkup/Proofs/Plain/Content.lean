import PageMarkup.Proofs.Handling.Parts
import PageMarkup.Proofs.Plain.Text

/-! # Plain documents

Text, ordinary elements, boxes and headings, nested in any way, are compiled piece by piece: a
document written from such pieces has the page on which each piece is rendered in its place. -/

namespace PageMarkup

namespace Plain

/-! ## Elements -/

/-- An ordinary element, a box or a heading. The attributes have no name twice and no value with a
quote in it, and an ordinary element has no author note. -/
structure Element where
  name : Text
  attributes : List (Text × Text)
  named : Cursor.IsTagName name
  plain : name ∉ Role.names.map Prod.fst ∨ name = "note".toList ∨ name = "warning".toList
  writable : ∀ pair ∈ attributes, Cursor.Writable pair
  distinct : (attributes.map Prod.fst).Nodup
  noNote : name ∉ ["note", "warning", "header", "heading"].map String.toList →
    Attributes.authorNote ∉ attributes.map Prod.fst

/-- The attributes of a heading: its class comes after the classes given, or after everything. -/
def headingAttributes : List (Text × Text) → List (Text × Text)
  | [] => [("class".toList, "hpp_header".toList)]
  | (name, value) :: pairs =>
    if name = "class".toList then (name, value ++ " hpp_header".toList) :: pairs
    else (name, value) :: headingAttributes pairs

/-- The attributes that are shown. -/
def withoutNotes (pairs : List (Text × Text)) : List (Text × Text) :=
  pairs.filter fun pair => pair.1 ≠ "comment".toList

namespace Element

/-- The element goes by one of the names of headings. -/
def IsHeading (element : Element) : Prop :=
  element.name = "header".toList ∨ element.name = "heading".toList

instance (element : Element) : Decidable element.IsHeading :=
  inferInstanceAs (Decidable (_ ∨ _))

/-- The opening tag on the page. -/
def opening (element : Element) : Text :=
  if element.name = "note".toList then "<div class=\"note_box\">".toList
  else if element.name = "warning".toList then "<div class=\"warning_box\">".toList
  else if element.IsHeading then
    "<h2".toList ++
      (withoutNotes (headingAttributes element.attributes)).flatMap Attributes.renderEntry ++ ['>']
  else '<' :: element.name ++ element.attributes.flatMap Attributes.renderEntry ++ ['>']

/-- The closing tag on the page. -/
def closing (element : Element) : Text :=
  if element.name = "note".toList ∨ element.name = "warning".toList then "</div>".toList
  else if element.IsHeading then "</h2>".toList
  else "</".toList ++ element.name ++ ['>']

end Element

/-! ## Content -/

/-- Pieces one after another, each with what follows it. -/
inductive Content
  | nothing
  | text (value : Text) (later : Content)
  /-- An element whose tag closes itself. -/
  | single (element : Element) (later : Content)
  /-- An element with content between its tags. -/
  | nested (element : Element) (inside later : Content)

namespace Content

/-- The source in which the content is written. -/
def print : Content → Text
  | nothing => []
  | text value later => value ++ later.print
  | single element later =>
    Cursor.writtenTag element.name element.attributes true ++ later.print
  | nested element inside later =>
    Cursor.writtenTag element.name element.attributes false ++ inside.print ++
      Cursor.writtenClose element.name ++ later.print

/-- The page that the content describes. -/
def render : Content → Text
  | nothing => []
  | text value later => shownText value ++ later.render
  | single element later => element.opening ++ element.closing ++ later.render
  | nested element inside later =>
    element.opening ++ inside.render ++ element.closing ++ later.render

/-- No angle bracket of a text opens markup where `rest` follows the content. -/
def isLoose : Content → Text → Bool
  | nothing, _ => true
  | text value later, rest => Plain.isLoose value (later.print ++ rest) && later.isLoose rest
  | single _ later, rest => later.isLoose rest
  | nested element inside later, rest =>
    inside.isLoose (Cursor.writtenClose element.name ++ later.print ++ rest) && later.isLoose rest

end Content

/-! ## Tags of elements -/

namespace Element

/-- The tag of the element, written at an offset. -/
def tag (element : Element) (offset : Int) : Tag :=
  ⟨element.name, .ofList element.attributes, offset⟩

theorem role_eq (element : Element) (offset : Int) :
    element.name = "note".toList ∨ element.name = "warning".toList ∨
      element.name ≠ "note".toList ∧ element.name ≠ "warning".toList ∧
        (element.tag offset).role = .element := by
  rcases element.plain with ordinary | note | warning
  · refine .inr (.inr ⟨?_, ?_, ?_⟩)
    · rintro same
      exact ordinary (by rw [same]; decide)
    · rintro same
      exact ordinary (by rw [same]; decide)
    · have missing : Role.names.lookup element.name = none := by
        rw [List.lookup_eq_none_iff]
        intro pair mem
        have other : element.name ≠ pair.1 := fun same =>
          ordinary (same ▸ List.mem_map_of_mem mem)
        simpa using other
      simp only [tag, Tag.role, Role.ofName, missing, Option.getD_none]
  · exact .inl note
  · exact .inr (.inl warning)

theorem entries_tag (element : Element) (offset : Int) :
    (element.tag offset).attributes.entries = element.attributes :=
  Attributes.entries_ofList element.distinct

theorem put_class (pairs : List (Text × Text)) :
    Pairs.put "class".toList
        (match pairs.lookup "class".toList with
          | none => Tag.headingClass
          | some given => given ++ ' ' :: Tag.headingClass) pairs = headingAttributes pairs := by
  induction pairs with
  | nil => rfl
  | cons pair pairs ih =>
      obtain ⟨name, value⟩ := pair
      by_cases same : name = "class".toList
      · subst same
        rw [headingAttributes, if_pos rfl, List.lookup_cons_self, Pairs.put, if_pos rfl]
        rfl
      · have other : ("class".toList == name) = false := by simpa using Ne.symm same
        rw [headingAttributes, if_neg same, List.lookup_cons, other, Pairs.put, if_neg same]
        exact congrArg _ ih

theorem isHeading_iff {element : Element} :
    Tag.isHeading element.name = true ↔ element.IsHeading := by
  rw [Tag.isHeading, IsHeading, Bool.or_eq_true, decide_eq_true_iff, decide_eq_true_iff]

theorem proper_of_not_isHeading {element : Element} (h : ¬ element.IsHeading) (offset : Int) :
    (element.tag offset).proper = element.tag offset := by
  rw [Tag.proper, if_neg]
  exact fun heading => h (isHeading_iff.mp heading)

theorem proper_of_isHeading {element : Element} (h : element.IsHeading) (offset : Int) :
    (element.tag offset).proper.name = "h2".toList ∧
      (element.tag offset).proper.attributes.entries = headingAttributes element.attributes := by
  have heading : Tag.isHeading (element.tag offset).name = true := isHeading_iff.mpr h
  rw [Tag.proper, if_pos heading]
  refine ⟨rfl, ?_⟩
  rw [← put_class, ← element.entries_tag offset]
  rfl

theorem withoutNotes_attributes {element : Element} (note : element.name ≠ "note".toList)
    (warning : element.name ≠ "warning".toList) (heading : ¬ element.IsHeading) :
    withoutNotes element.attributes = element.attributes := by
  have ordinary : element.name ∉ ["note", "warning", "header", "heading"].map String.toList := by
    rw [IsHeading, not_or] at heading
    simp only [List.map_cons, List.map_nil, List.mem_cons, List.not_mem_nil, or_false, not_or]
    exact ⟨note, warning, heading⟩
  rw [withoutNotes, List.filter_eq_self]
  intro pair mem
  have other : pair.1 ≠ Attributes.authorNote := fun same =>
    element.noNote ordinary (same ▸ List.mem_map_of_mem mem)
  exact decide_eq_true other

theorem role_of_name {element : Element} {name : Text} (h : element.name = name) (offset : Int) :
    (element.tag offset).proper.role = Role.ofName name := by
  rw [Tag.role_proper, Tag.role, ← h]
  rfl

/-- The two kinds of boxes differ in the name of their class. -/
theorem startMarkup_box {element : Element} {name : Text} (h : element.name = name)
    (box : Role.ofName name = .note ∨ Role.ofName name = .warning) (offset : Int) (number : Nat) :
    Document.startMarkup (element.tag offset).proper number =
      "<div class=\"".toList ++ name ++ "_box\">".toList := by
  have role := role_of_name h offset
  have same : (element.tag offset).proper = element.tag offset := by
    apply Tag.proper_eq_self
    rw [← Tag.role_proper, role]
    rcases box with box | box <;> simp [box]
  rw [← h]
  rcases box with box | box
  · rw [box, same] at role
    simp only [same, Document.startMarkup, role]
    rfl
  · rw [box, same] at role
    simp only [same, Document.startMarkup, role]
    rfl

theorem startMarkup_proper (element : Element) (offset : Int) (number : Nat) :
    Document.startMarkup (element.tag offset).proper number = element.opening := by
  rcases element.role_eq offset with note | warning | ⟨notNote, notWarning, role⟩
  · rw [startMarkup_box note (.inl rfl), opening, if_pos note]
    simp
  · rw [startMarkup_box warning (.inr rfl), opening, if_neg (by rw [warning]; decide),
      if_pos warning]
    simp
  · rw [← Tag.role_proper] at role
    simp only [Document.startMarkup, role, Document.elementStart, Attributes.render_nil]
    rw [opening, if_neg notNote, if_neg notWarning]
    by_cases heading : element.IsHeading
    · obtain ⟨name, entries⟩ := proper_of_isHeading heading offset
      rw [if_pos heading, name, entries]
      rfl
    · have shown := withoutNotes_attributes notNote notWarning heading
      rw [if_neg heading, proper_of_not_isHeading heading, entries_tag]
      exact congrArg (fun pairs => '<' :: element.name ++
        pairs.flatMap Attributes.renderEntry ++ ['>']) shown

theorem endMarkup_proper (setup : Setup) (element : Element) (offset : Int) :
    Document.endMarkup setup { tag := (element.tag offset).proper } = element.closing := by
  rw [Document.endMarkup, OpenElement.role, closing]
  rcases element.role_eq offset with note | warning | ⟨notNote, notWarning, role⟩
  · rw [role_of_name note, if_pos (.inl note)]
    rfl
  · rw [role_of_name warning, if_pos (.inr warning)]
    rfl
  · rw [Tag.role_proper, role, if_neg (not_or.mpr ⟨notNote, notWarning⟩)]
    by_cases heading : element.IsHeading
    · rw [if_pos heading]
      simp only [Document.elementEnd, (proper_of_isHeading heading offset).1]
      rfl
    · rw [if_neg heading]
      simp only [Document.elementEnd, proper_of_not_isHeading heading]
      rfl

/-- The roles of elements whose content stands between two pieces of markup. -/
def Framed (role : Role) : Prop := role = .note ∨ role = .warning ∨ role = .element

theorem framed_proper (element : Element) (offset : Int) :
    Framed (element.tag offset).proper.role := by
  rcases element.role_eq offset with note | warning | ⟨-, -, role⟩
  · exact .inl (role_of_name note offset)
  · exact .inr (.inl (role_of_name warning offset))
  · exact .inr (.inr ((element.tag offset).role_proper.trans role))

end Element

end Plain

end PageMarkup
