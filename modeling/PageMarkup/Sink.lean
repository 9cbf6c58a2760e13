import PageMarkup.Text.Basic

/-! The sink collects the page. Inside comments it drops what it is given, and it remembers one
place into which a text can be put at the end. The page is kept backwards, so that adding to it
takes no longer as it grows; `Sink.text` is the page as it reads. -/

namespace PageMarkup

/-- The page so far. -/
structure Sink where
  /-- Everything kept, its last character first. -/
  reversed : Text := []
  /-- How many comments are open. -/
  depth : Int := 0
  /-- How much had been kept when the place was marked. -/
  mark? : Option Nat := none
deriving DecidableEq

namespace Sink

/-- Everything kept. -/
def text (sink : Sink) : Text := sink.reversed.reverse

/-- Outside all comments. -/
def shows (sink : Sink) : Bool := sink.depth = 0

/-- Keeps a fragment, unless a comment is open. -/
def emit (sink : Sink) (fragment : Text) : Sink :=
  if sink.shows then { sink with reversed := fragment.reverse ++ sink.reversed } else sink

/-- Marks the place after all that has been kept. -/
def markHere (sink : Sink) : Sink := { sink with mark? := some sink.text.length }

/-- Goes into or out of comments. -/
def deepen (sink : Sink) (levels : Int) : Sink := { sink with depth := sink.depth + levels }

/-- The page with `block` at the marked place, if there is one. -/
def render (sink : Sink) (block : Text) : Text :=
  match sink.mark? with
  | none => sink.text
  | some place => sink.text.take place ++ block ++ sink.text.drop place

/-- An empty block leaves no trace. -/
@[simp] theorem render_nil (sink : Sink) : sink.render [] = sink.text := by
  unfold render
  split <;> simp

@[simp] theorem emit_nil (sink : Sink) : sink.emit [] = sink := by
  unfold emit
  split <;> rfl

/-- Two fragments are kept as one. -/
theorem emit_emit (sink : Sink) (first second : Text) :
    (sink.emit first).emit second = sink.emit (first ++ second) := by
  by_cases h : sink.shows = true
  · have still : ({ sink with reversed := first.reverse ++ sink.reversed } : Sink).shows = true := h
    simp [emit, h, still]
  · simp [emit, h]

@[simp] theorem deepen_zero (sink : Sink) : sink.deepen 0 = sink := by simp [deepen]

/-- What is shown is added at the end of the page. -/
theorem text_emit_of_shows {sink : Sink} (h : sink.shows = true) (fragment : Text) :
    (sink.emit fragment).text = sink.text ++ fragment := by simp [emit, h, text]

theorem emit_of_hidden {sink : Sink} (h : sink.shows = false) (fragment : Text) :
    sink.emit fragment = sink := by simp [emit, h]

@[simp] theorem depth_emit (sink : Sink) (fragment : Text) :
    (sink.emit fragment).depth = sink.depth := by
  unfold emit
  split <;> rfl

@[simp] theorem shows_emit (sink : Sink) (fragment : Text) :
    (sink.emit fragment).shows = sink.shows := by simp [shows]

/-- A fragment is added at the end of the page where the page is shown. -/
theorem text_emit (sink : Sink) (fragment : Text) :
    (sink.emit fragment).text = sink.text ++ if sink.shows then fragment else [] := by
  by_cases h : sink.shows = true
  · rw [text_emit_of_shows h, if_pos h]
  · rw [emit_of_hidden (by simpa using h), if_neg h, List.append_nil]

@[simp] theorem text_markHere (sink : Sink) : sink.markHere.text = sink.text := rfl

@[simp] theorem text_deepen (sink : Sink) (levels : Int) : (sink.deepen levels).text = sink.text :=
  rfl

@[simp] theorem mark?_emit (sink : Sink) (fragment : Text) :
    (sink.emit fragment).mark? = sink.mark? := by
  unfold emit
  split <;> rfl

@[simp] theorem mark?_deepen (sink : Sink) (levels : Int) :
    (sink.deepen levels).mark? = sink.mark? := rfl

@[simp] theorem depth_deepen (sink : Sink) (levels : Int) :
    (sink.deepen levels).depth = sink.depth + levels := rfl

@[simp] theorem depth_markHere (sink : Sink) : sink.markHere.depth = sink.depth := rfl

end Sink

end PageMarkup
