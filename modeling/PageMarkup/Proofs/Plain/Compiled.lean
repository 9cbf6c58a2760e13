import PageMarkup.Proofs.Plain.Content

/-! # Compiled plain documents

The run over a plain document gives each piece to the page where it stands, and leaves the document
otherwise as it was. -/

namespace PageMarkup

/-! ## Handling -/

namespace Document

open Plain.Element (Framed)

variable {setup : Setup} {document : Document}

theorem push_of_framed {written : Tag} (framed : Framed written.proper.role) :
    document.push setup written = .ok ((document.emit
      (startMarkup written.proper document.nextNumber)).enter written.proper none) := by
  rcases framed with role | role | role <;> simp only [push, startMarkup, role]

theorem close_of_framed {element : OpenElement} (framed : Framed element.role) :
    document.close setup element = .ok (document.emit (endMarkup setup element)) := by
  rcases framed with role | role | role <;> simp only [close, endMarkup, role]

theorem handleOpen_element (element : Plain.Element) (offset : Int) :
    document.handleOpen setup (element.tag offset) =
      .ok ((document.emit element.opening).enter (element.tag offset).proper none) := by
  have framed := element.framed_proper offset
  rw [handleOpen, push_of_framed framed, element.startMarkup_proper]
  rcases framed with role | role | role <;> simp only [role, Except.map]

/-- Closing an element that plain content has left as it was opened. -/
theorem pop_element (element : Plain.Element) (offset place : Int) (fragment : Text) :
    (((document.enter (element.tag offset).proper none)).emit fragment).pop setup element.name
        place =
      .ok ({ tag := (element.tag offset).proper },
        document.emit (fragment ++ element.closing)) := by
  have named : (element.tag offset).proper.name = Tag.properName element.name :=
    (element.tag offset).proper_name
  have closed (inside : Document) :
      close setup { tag := (element.tag offset).proper } inside =
        .ok (inside.emit element.closing) := by
    have framed : Framed ({ tag := (element.tag offset).proper } : OpenElement).role :=
      element.framed_proper offset
    rw [close_of_framed framed, element.endMarkup_proper]
  simp only [pop, emit, enter, named, if_true, closed, Except.map, Sink.emit_emit]

theorem handleClose_element (element : Plain.Element) (offset place : Int) (fragment : Text) :
    ((document.enter (element.tag offset).proper none).emit fragment).handleClose setup element.name
        place = .ok (document.emit (fragment ++ element.closing)) := by
  rw [handleClose, pop_element]
  rcases element.framed_proper offset with role | role | role <;>
    simp only [OpenElement.role, role]

theorem handleSelfClose_element (element : Plain.Element) (offset place : Int) :
    document.handleSelfClose setup (element.tag offset) place =
      .ok (document.emit (element.opening ++ element.closing)) := by
  have popped := @pop_element setup (document.emit element.opening) element offset place []
  rw [emit_nil, List.nil_append, emit_emit] at popped
  have name : (element.tag offset).name = element.name := rfl
  simp only [handleSelfClose, push_of_framed (element.framed_proper offset),
    element.startMarkup_proper, bind, Except.bind, name, popped]
  rfl

end Document

/-! ## Runs -/

namespace Compilation

open Plain

variable {setup : Setup} {document : Document}

/-- Written content gives its rendering to the page and leaves nothing else behind. -/
theorem run_print (content : Content) {rest : Text} (clean : document.Clean)
    (loose : content.isLoose rest = true) (offset : Nat) :
    (⟨⟨content.print ++ rest, offset⟩, document⟩ : Compilation).run setup =
      (⟨⟨rest, offset + content.print.length⟩, document.emit content.render⟩ : Compilation).run
        setup := by
  induction content generalizing document rest offset with
  | nothing => rw [Content.render, Document.emit_nil]; rfl
  | text value later ih =>
      rw [Content.isLoose, Bool.and_eq_true] at loose
      rw [Content.print, List.append_assoc, run_text clean loose.1, ih (clean.emit _) loose.2,
        Document.emit_emit, Content.render, List.length_append, Nat.add_assoc]
  | single element later ih =>
      have read := Cursor.next_writtenTag (show Mode.normal ≠ .code by decide) (by decide) false
        element.named element.writable true (later.print ++ rest) offset
      rw [Content.print, List.append_assoc,
        run_of_next clean read (Document.handleSelfClose_element element offset offset),
        ih (clean.emit _) loose, Document.emit_emit, Content.render, List.length_append,
        Nat.add_assoc]
  | nested element inside later ihInside ihLater =>
      rw [Content.isLoose, Bool.and_eq_true, List.append_assoc] at loose
      have entered := (clean.emit element.opening).enter (element.tag offset).proper
      have opens := Cursor.next_writtenTag (show Mode.normal ≠ .code by decide) (by decide) false
        element.named element.writable false
        (inside.print ++ (Cursor.writtenClose element.name ++ (later.print ++ rest))) offset
      have closes := Cursor.next_writtenClose (show Mode.normal ≠ .code by decide) (by decide) false
        element.named.1 (later.print ++ rest)
      rw [Content.print, List.append_assoc, List.append_assoc, List.append_assoc,
        run_of_next clean opens (Document.handleOpen_element element offset),
        ihInside entered loose.1,
        run_of_next (entered.emit _) (closes _)
          (Document.handleClose_element element offset _ inside.render),
        ihLater ((clean.emit _).emit _) loose.2]
      simp only [Document.emit_emit, Content.render, List.length_append, List.append_assoc,
        Nat.add_assoc]

end Compilation

/-- A plain document is compiled to its rendering: text with its angle brackets written out,
ordinary elements as they are written, boxes and headings in the markup that stands for them. -/
theorem compile_print (content : Plain.Content) (loose : content.isLoose [] = true) :
    compile {} content.print = .ok content.render := by
  have clean : ((Document.start {}).tell (.compiling content.print.length)).Clean :=
    ⟨rfl, rfl, rfl⟩
  have run := @Compilation.run_print {} _ content [] clean loose 0
  rw [List.append_nil] at run
  have finished : (⟨⟨[], 0 + content.print.length⟩,
      ((Document.start {}).tell (.compiling content.print.length)).emit content.render⟩ :
        Compilation).advance {} = .finished := rfl
  have page : (((Document.start {}).tell (.compiling content.print.length)).emit
      content.render).render = content.render := by
    change ((Sink.emit {} content.render).render []) = content.render
    rw [Sink.render_nil, Sink.text_emit_of_shows rfl]
    rfl
  have compiled : compileWith {} content.print = .ok content.render := by
    rw [compileWith_eq, Compilation.opening, Cursor.start, run,
      Compilation.run_of_finished finished]
    exact congrArg Except.ok page
  rw [compile_eq_compileWith, compiled, mapError_ok]

/-- A bracket before a blank is text, in a heading as elsewhere. -/
theorem compile_print_heading :
    compile {} "<header class=\"a\" comment=\"b\">1 < 2</header>".toList =
      .ok "<h2 class=\"a hpp_header\">1 &lt; 2</h2>".toList := by
  let heading : Plain.Element :=
    { name := "header".toList
      attributes := [("class".toList, "a".toList), ("comment".toList, "b".toList)]
      named := by decide
      plain := by decide
      writable := by decide
      distinct := by decide
      noNote := by decide }
  let content : Plain.Content := .nested heading (.text "1 < 2".toList .nothing) .nothing
  have source : content.print =
      "<header class=\"a\" comment=\"b\">1 < 2</header>".toList := by decide +kernel
  have page : content.render = "<h2 class=\"a hpp_header\">1 &lt; 2</h2>".toList := by
    decide +kernel
  rw [← source, ← page]
  exact compile_print content (by decide +kernel)

end PageMarkup
