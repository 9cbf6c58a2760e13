import PageMarkup.Text.Escape

/-! Bookmarks and the table of contents that lists them. -/

namespace PageMarkup

/-- A named place on the page. -/
structure Bookmark where
  /-- The name that links point to. -/
  name : Text
  /-- Tells bookmarks apart that are open at the same time. -/
  id : Text
  /-- The text between the bookmark's tags, once it is closed. -/
  label : Text := []
deriving DecidableEq

namespace Bookmark

/-- The place on the page. -/
def anchor (bookmark : Bookmark) : Text :=
  "<a name=\"".toList ++ Text.escape bookmark.name ++ "\"></a>".toList

/-- The line of the table of contents. -/
def entry (bookmark : Bookmark) : Text :=
  "<div><a href=\"#".toList ++ Text.escape bookmark.name ++ "\">".toList ++ bookmark.label ++
    "</a></div>\n".toList

/-- The last bookmark with an id takes a label. -/
def labelLast (id label : Text) : List Bookmark → List Bookmark
  | [] => []
  | bookmark :: later =>
    if later.any (·.id = id) then bookmark :: labelLast id label later
    else if bookmark.id = id then { bookmark with label } :: later
    else bookmark :: later

/-- The table of contents; without bookmarks there is none. -/
def contents : List Bookmark → Text
  | [] => []
  | bookmark :: bookmarks =>
    "\n<div class=\"hpp_tableofcontents\">\n".toList ++
      (bookmark :: bookmarks).flatMap entry ++ "</div>\n".toList

@[simp] theorem length_labelLast (id label : Text) (bookmarks : List Bookmark) :
    (labelLast id label bookmarks).length = bookmarks.length := by
  induction bookmarks with
  | nil => rfl
  | cons bookmark later ih =>
      unfold labelLast
      split
      · simp [ih]
      · split <;> simp

/-- A label changes no name. -/
@[simp] theorem map_name_labelLast (id label : Text) (bookmarks : List Bookmark) :
    (labelLast id label bookmarks).map name = bookmarks.map name := by
  induction bookmarks with
  | nil => rfl
  | cons bookmark later ih =>
      unfold labelLast
      split
      · simp [ih]
      · split <;> rfl

end Bookmark

end PageMarkup
