import PageMarkup.Attributes

/-! Tags as written in a source, and the role that the name of a tag gives it. -/

namespace PageMarkup

/-- What a tag does to the page. -/
inductive Role
  /-- Hides what it holds. -/
  | comment
  /-- An anchor, listed in the table of contents under the text that it holds. -/
  | bookmark
  /-- Marks the place of the table of contents. -/
  | contents
  /-- Makes backticks delimit inline code. -/
  | backticksOn
  /-- Makes backticks ordinary characters. -/
  | backticksOff
  /-- A box for an aside. -/
  | note
  /-- A box for a warning. -/
  | warning
  /-- An image whose address is the text that it holds. -/
  | image
  /-- A code listing. -/
  | code
  /-- An ordinary element, rendered as written. -/
  | element
deriving DecidableEq, Repr

/-- The names that have a role of their own. -/
def Role.names : List (Text × Role) :=
  [("comment".toList, .comment), ("bookmark".toList, .bookmark),
    ("tableofcontents".toList, .contents), ("enablebackticks".toList, .backticksOn),
    ("disablebackticks".toList, .backticksOff), ("note".toList, .note),
    ("warning".toList, .warning), ("image".toList, .image), ("code".toList, .code)]

/-- The role of a name: an ordinary element unless the name is listed. -/
def Role.ofName (name : Text) : Role := (Role.names.lookup name).getD .element

/-- Every role but that of ordinary elements is given by its listed name. -/
theorem Role.mem_names {name : Text} {role : Role} (h : Role.ofName name = role)
    (other : role ≠ .element) : (name, role) ∈ Role.names := by
  unfold Role.ofName at h
  cases found : Role.names.lookup name with
  | none => simp [found, other.symm] at h
  | some listed =>
      obtain rfl : listed = role := by simpa [found] using h
      obtain ⟨before, after, same, -⟩ := List.lookup_eq_some_iff.mp found
      simp [same]

/-- A tag: its name, its attributes and the offset of its opening angle bracket. -/
structure Tag where
  name : Text
  attributes : Attributes := .empty
  offset : Int := 0
deriving DecidableEq, Inhabited

namespace Tag

/-- The role of the tag, given by its name. -/
def role (tag : Tag) : Role := Role.ofName tag.name

/-- Two names stand for a heading of the second level. -/
def isHeading (name : Text) : Bool := name = "header".toList || name = "heading".toList

/-- The element that a heading becomes. -/
def headingName : Text := "h2".toList

/-- The class that a heading carries, after the classes that it was given. -/
def headingClass : Text := "hpp_header".toList

/-- The name under which a tag is opened and closed: headings go by the name of their element. -/
def properName (name : Text) : Text := if isHeading name then headingName else name

/-- The tag under its proper name, a heading with its class added. -/
def proper (tag : Tag) : Tag :=
  if isHeading tag.name then
    let classes := match tag.attributes.get? "class".toList with
      | none => headingClass
      | some given => given ++ ' ' :: headingClass
    { tag with
      name := headingName
      attributes := tag.attributes.put "class".toList classes }
  else tag

theorem proper_name (tag : Tag) : tag.proper.name = properName tag.name := by
  unfold proper properName
  split <;> rfl

theorem proper_offset (tag : Tag) : tag.proper.offset = tag.offset := by
  unfold proper
  split <;> rfl

/-- A heading is an ordinary element under either name. -/
theorem role_proper (tag : Tag) : tag.proper.role = tag.role := by
  unfold proper
  split
  · next heading =>
      rw [isHeading, Bool.or_eq_true, decide_eq_true_iff, decide_eq_true_iff] at heading
      rw [role, role]
      rcases heading with name | name
      · rw [name]
        rfl
      · rw [name]
        rfl
  · rfl

theorem proper_eq_self {tag : Tag} (h : tag.role ≠ .element) : tag.proper = tag := by
  rw [← role_proper] at h
  unfold proper at h ⊢
  split
  · next heading =>
      rw [if_pos heading] at h
      exact absurd rfl h
  · rfl

theorem name_of_role_code {tag : Tag} (h : tag.role = .code) : tag.name = "code".toList := by
  have listed := Role.mem_names h (by decide)
  simpa [Role.names] using listed

theorem name_of_role_contents {tag : Tag} (h : tag.role = .contents) :
    tag.name = "tableofcontents".toList := by
  have listed := Role.mem_names h (by decide)
  simpa [Role.names] using listed

end Tag

end PageMarkup
