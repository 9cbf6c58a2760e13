import PageMarkup.Proofs.Relocation

/-! # Toggle tags

Whether backticks delimit inline code is set beforehand or by tags. A tag sets it for all that
follows and leaves nothing else behind, so that a tag in front of a source does what the setting
does. -/

namespace PageMarkup

/-- The name of the tag that enables backticks, or of the one that disables them. -/
def toggleName (backticks : Bool) : Text :=
  if backticks then "enablebackticks".toList else "disablebackticks".toList

/-- The tag that enables backticks, or the one that disables them. -/
def toggleTag (backticks : Bool) : Text := '<' :: toggleName backticks ++ "/>".toList

/-- The setup with backticks enabled, or not. -/
def Setup.withBackticks (setup : Setup) (backticks : Bool) : Setup :=
  { setup with settings := { setup.settings with backticks } }

/-! ## The tag -/

theorem Document.handleSelfClose_toggle (setup : Setup) (document : Document) (backticks : Bool)
    (attributes : Attributes) (place offset : Int) :
    document.handleSelfClose setup ⟨toggleName backticks, attributes, place⟩ offset =
      .ok { document with backticks } := by
  cases backticks <;> rfl

namespace Compilation

/-- Where tags are read, a toggle tag changes the meaning of backticks from there on. -/
theorem run_toggleTag {setup : Setup} {document : Document} {mode : Mode}
    (current : document.mode? = some mode) (tags : mode = .normal ∨ mode = .image)
    (backticks : Bool) (rest : Text) (offset : Nat) :
    (⟨⟨toggleTag backticks ++ rest, offset⟩, document⟩ : Compilation).run setup =
      (⟨⟨rest, offset + (toggleTag backticks).length⟩, { document with backticks }⟩ :
        Compilation).run setup := by
  obtain ⟨code, inline⟩ := Cursor.ne_of_tags tags
  have named : Cursor.IsTagName (toggleName backticks) := by cases backticks <;> decide
  have written : Cursor.writtenTag (toggleName backticks) [] true = toggleTag backticks := by
    cases backticks <;> rfl
  have read := Cursor.next_writtenTag code inline document.backticks named
    (List.forall_mem_nil _) true rest offset
  rw [written] at read
  exact run_of_handled (advance_of_next current read (Document.handleSelfClose_toggle ..))

/-! ## The setting -/

/-- The setting has its effect where a document starts, and none later on. -/
theorem run_withBackticks (setup : Setup) (backticks : Bool) (compilation : Compilation) :
    compilation.run (setup.withBackticks backticks) = compilation.run setup := by
  have advances (here : Compilation) :
      here.advance (setup.withBackticks backticks) = here.advance setup := rfl
  exact run_congr advances compilation

/-- Behind a toggle tag, a source is compiled as it would be under the setting. -/
theorem run_start_toggleTag (setup : Setup) (backticks : Bool) (source : Text) :
    (start setup.settings (toggleTag backticks ++ source)).run setup =
      ((start (setup.withBackticks backticks).settings source).behind
        (toggleTag backticks).length []).run (setup.withBackticks backticks) := by
  have current : (Document.start setup.settings).mode? = some .normal := rfl
  rw [run_withBackticks]
  exact run_toggleTag current (.inl rfl) backticks source 0

end Compilation

/-! ## Pages -/

open Compilation

/-- A toggle tag in front of a source and the setting have the same effect: the same page, or the
same fault with its place moved by the length of the tag. -/
theorem toggle_tag_does_what_setting_does (setup : Setup) (backticks : Bool) (source : Text) :
    compileWith setup (toggleTag backticks ++ source) =
      (compileWith (setup.withBackticks backticks) source).mapError
        (Fault.behind (toggleTag backticks).length) := by
  rw [compileWith_eq_start, compileWith_eq_start, run_start_toggleTag, run_behind]
  exact verdict_behind _ _ _ _

end PageMarkup
