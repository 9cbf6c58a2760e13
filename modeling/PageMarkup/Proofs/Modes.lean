import PageMarkup.Proofs.Handling.Rules
import PageMarkup.Proofs.Reading.Tokens
import PageMarkup.Proofs.Reading.Written
import PageMarkup.Proofs.Run

/-! # Modes and open elements

Code and image elements bring the modes in which their content is read; inline code is read
outside both. Which tokens a mode can bring keeps the two stacks together. -/

namespace PageMarkup

namespace Document

/-! ## The invariant -/

/-- The roles of the open elements, innermost first. -/
def roles (document : Document) : List Role := document.elements.map OpenElement.role

/-- The modes that the open elements bring, innermost first. -/
def captureModes (document : Document) : List Mode :=
  document.roles.filterMap Role.captureMode?

/-- The modes are those of the open elements over the normal one, and a listing holds no element;
or inline code is open, and no element that brings a mode. -/
inductive Coherent (document : Document) : Prop
  | elements (modes : document.modes = document.captureModes ++ [.normal])
      (innermost : .code ∉ document.roles.tail)
  | inlineCode (modes : document.modes = [.inlineCode, .normal])
      (plain : document.captureModes = []) (enabled : document.backticks = true)

theorem start_coherent (settings : Settings) (notice : Notice) :
    ((start settings).tell notice).Coherent :=
  .elements rfl (by simp [roles, start, tell])

variable {setup : Setup} {document before after : Document} {token : Token}

theorem mem_captureModes {mode : Mode} :
    mode ∈ document.captureModes ↔ ∃ role ∈ document.roles, role.captureMode? = some mode :=
  List.mem_filterMap

theorem eq_code_or_image_of_mem_captureModes {mode : Mode} (h : mode ∈ document.captureModes) :
    mode = .code ∨ mode = .image := by
  obtain ⟨role, -, brings⟩ := mem_captureModes.mp h
  cases role <;> simp_all [Role.captureMode?]

/-- With no mode of an element, there is no element that brings one. -/
theorem captureMode?_eq_none_of_mem (plain : document.captureModes = []) {role : Role}
    (h : role ∈ document.roles) : role.captureMode? = none :=
  List.filterMap_eq_nil_iff.mp plain role h

/-- An open listing is the innermost element, and its mode is the current one. -/
theorem head?_roles_of_code_mem (innermost : .code ∉ document.roles.tail)
    (h : Role.code ∈ document.roles) : document.roles.head? = some .code := by
  cases roles : document.roles with
  | nil => simp [roles] at h
  | cons role outer =>
      rw [roles, List.tail_cons] at innermost
      rw [roles, List.mem_cons] at h
      rcases h with rfl | h
      · rfl
      · exact absurd h innermost

theorem mode?_of_head?_roles (modes : document.modes = document.captureModes ++ [.normal])
    (h : document.roles.head? = some .code) : document.mode? = some .code := by
  obtain ⟨outer, roles⟩ := List.head?_eq_some_iff.mp h
  simp [mode?, modes, captureModes, roles, Role.captureMode?]

/-- Where the current mode is not that of a listing, no listing is open. -/
theorem code_notMem_roles (modes : document.modes = document.captureModes ++ [.normal])
    (innermost : .code ∉ document.roles.tail) (mode : document.mode? ≠ some .code) :
    .code ∉ document.roles :=
  fun h => mode (mode?_of_head?_roles modes (head?_roles_of_code_mem innermost h))

/-! ## Steps -/

/-- Only modes, roles and the meaning of backticks matter. -/
theorem Coherent.congr (coherent : before.Coherent) (modes : after.modes = before.modes)
    (roles : after.roles = before.roles) (backticks : after.backticks = before.backticks) :
    after.Coherent := by
  have brought : after.captureModes = before.captureModes := by
    rw [captureModes, roles, captureModes]
  cases coherent with
  | elements stacked innermost =>
      exact .elements (by rw [modes, stacked, brought]) (roles ▸ innermost)
  | inlineCode stacked plain enabled =>
      exact .inlineCode (modes.trans stacked) (brought.trans plain) (backticks.trans enabled)

/-- Outside inline code the modes are those of the elements. -/
theorem Coherent.of_ne (coherent : before.Coherent) (mode : before.mode? ≠ some .inlineCode) :
    before.modes = before.captureModes ++ [.normal] ∧ .code ∉ before.roles.tail := by
  cases coherent with
  | elements modes innermost => exact ⟨modes, innermost⟩
  | inlineCode modes => simp [mode?, modes] at mode

theorem Coherent.code_notMem_tail (coherent : document.Coherent) : .code ∉ document.roles.tail := by
  cases coherent with
  | elements modes innermost => exact innermost
  | inlineCode modes plain enabled =>
      intro code
      have := captureMode?_eq_none_of_mem plain (List.mem_of_mem_tail code)
      simp [Role.captureMode?] at this

theorem Coherent.codeStarts (coherent : before.Coherent) (enabled : before.backticks = true)
    (mode : before.mode? = some .normal) : (before.enterMode .inlineCode).Coherent := by
  obtain ⟨modes, -⟩ := coherent.of_ne (by simp [mode])
  have plain : before.captureModes = [] := by
    cases brought : before.captureModes with
    | nil => rfl
    | cons innermost outer =>
        have head : innermost = .normal := by simpa [mode?, modes, brought] using mode
        have := eq_code_or_image_of_mem_captureModes (brought ▸ List.mem_cons_self)
        simp [head] at this
  exact .inlineCode (by simp [enterMode, modes, plain]) plain enabled

theorem Coherent.codeEnds {outer : List Mode} (coherent : before.Coherent)
    (modes : before.modes = .inlineCode :: outer) : { before with modes := outer }.Coherent := by
  have tail := coherent.code_notMem_tail
  cases coherent with
  | elements stacked innermost =>
      -- No element brings the mode of inline code.
      have head : (before.captureModes ++ [Mode.normal]).head? = some .inlineCode := by
        rw [← stacked, modes, List.head?_cons]
      cases brought : before.captureModes with
      | nil => simp [brought] at head
      | cons innermost outer =>
          have := eq_code_or_image_of_mem_captureModes (brought ▸ List.mem_cons_self)
          simp_all
  | inlineCode stacked plain enabled =>
      have last : outer = [.normal] := by simpa [modes] using stacked
      have none : ({ before with modes := outer } : Document).captureModes = [] := plain
      exact .elements (by rw [none, List.nil_append]; exact last) tail

theorem OpenSpec.roles {tag : Tag} (opening : OpenSpec setup tag before after) :
    after.roles = tag.role :: before.roles := by
  simp only [Document.roles, opening.elements, List.map_cons]
  rfl

/-- What opening a tag outside listings and inline code leaves, in the mode of its content. -/
theorem Coherent.opens {tag : Tag} {inside : Document} (coherent : before.Coherent)
    (code : before.mode? ≠ some .code) (inline : before.mode? ≠ some .inlineCode)
    (opening : OpenSpec setup tag before inside) :
    { inside with modes := tag.role.captureMode?.toList ++ inside.modes }.Coherent := by
  obtain ⟨modes, innermost⟩ := coherent.of_ne inline
  refine .elements ?_ ?_
  · change tag.role.captureMode?.toList ++ inside.modes = inside.captureModes ++ _
    rw [opening.modes, modes, captureModes, captureModes, opening.roles, List.filterMap_cons]
    cases tag.role.captureMode? <;> rfl
  · change Role.code ∉ inside.roles.tail
    rw [opening.roles, List.tail_cons]
    exact code_notMem_roles modes innermost code

/-- An element closed in a mode that reads closing tags leaves the modes of those around it. -/
theorem Coherent.closes {element : OpenElement} {outer : List OpenElement}
    (coherent : before.Coherent) (inline : before.mode? ≠ some .inlineCode)
    (elements : before.elements = element :: outer)
    (closing : CloseSpec setup element { before with elements := outer } after) :
    before.modes = element.role.captureMode?.toList ++ after.captureModes ++ [.normal] ∧
      .code ∉ after.roles.tail := by
  obtain ⟨modes, innermost⟩ := coherent.of_ne inline
  have roles : before.roles = element.role :: after.roles := by
    simp only [Document.roles, elements, closing.elements, List.map_cons]
  refine ⟨?_, fun code => innermost ?_⟩
  · rw [modes, captureModes, captureModes, roles, List.filterMap_cons]
    cases element.role.captureMode? <;> rfl
  · rw [roles, List.tail_cons]
    exact List.mem_of_mem_tail code

/-- A token that its mode can bring keeps modes and elements together. -/
theorem Coherent.step {mode : Mode} (coherent : before.Coherent)
    (current : before.mode? = some mode) (brings : mode.Brings token.form)
    (handling : Handling setup before token after) : after.Coherent := by
  have code (other : ¬ Mode.code.Brings token.form) : before.mode? ≠ some .code := by
    rintro found
    exact other (Option.some.inj (current.symm.trans found) ▸ brings)
  have inline (other : ¬ Mode.inlineCode.Brings token.form) : before.mode? ≠ some .inlineCode := by
    rintro found
    exact other (Option.some.inj (current.symm.trans found) ▸ brings)
  cases handling with
  | text | inlineCode | newline | pipe | backtick => exact coherent.congr rfl rfl rfl
  | captured _ elements =>
      exact coherent.congr rfl (by simp [roles, elements, OpenElement.role]) rfl
  | codeStarts enabled normal => exact coherent.codeStarts enabled normal
  | codeEnds enabled modes => exact coherent.codeEnds modes
  | opens opening =>
      exact coherent.opens (code (by simp [Mode.Brings])) (inline (by simp [Mode.Brings])) opening
  | closes elements named brought closing =>
      obtain ⟨modes, innermost⟩ := coherent.closes (inline (by simp [Mode.Brings])) elements closing
      rw [brought] at modes
      exact .elements (closing.modes.trans modes) innermost
  | closesCapture elements named brought closing leaves =>
      obtain ⟨modes, innermost⟩ := coherent.closes (inline (by simp [Mode.Brings])) elements closing
      obtain ⟨capture, brought⟩ := Option.ne_none_iff_exists'.mp brought
      rw [leaves, brought] at modes
      exact .elements (List.cons.inj modes).2 innermost
  | selfCloses opening closing =>
      obtain ⟨modes, innermost⟩ := coherent.of_ne (inline (by simp [Mode.Brings]))
      have roles : after.roles = before.roles := by
        simp only [Document.roles, closing.elements]
      refine .elements ?_ (roles ▸ innermost)
      rw [captureModes, roles]
      exact (closing.modes.trans opening.modes).trans modes

/-! ## Consequences -/

theorem Coherent.head?_roles_eq_code_iff (coherent : document.Coherent) :
    document.roles.head? = some .code ↔ document.mode? = some .code := by
  cases coherent with
  | elements modes innermost =>
      refine ⟨mode?_of_head?_roles modes, fun mode => head?_roles_of_code_mem innermost ?_⟩
      -- The normal mode is not that of a listing, so some element has brought the mode.
      have brought : Mode.code ∈ document.captureModes := by
        cases captured : document.captureModes with
        | nil => simp [mode?, modes, captured] at mode
        | cons innermost outer =>
            have head : innermost = .code := by simpa [mode?, modes, captured] using mode
            simp [head]
      obtain ⟨role, mem, brings⟩ := mem_captureModes.mp brought
      cases role <;> simp_all [Role.captureMode?]
  | inlineCode modes plain enabled =>
      refine ⟨fun head => ?_, fun mode => by simp [mode?, modes] at mode⟩
      have := captureMode?_eq_none_of_mem plain (List.mem_of_head? head)
      simp [Role.captureMode?] at this

theorem Coherent.modes_ne_nil (coherent : document.Coherent) : document.modes ≠ [] := by
  cases coherent with
  | elements modes => simp [modes]
  | inlineCode modes => simp [modes]

theorem Coherent.mode?_ne_none (coherent : document.Coherent) : document.mode? ≠ none := by
  intro missing
  apply coherent.modes_ne_nil
  simpa [mode?] using missing

/-- Text is captured for an element. -/
theorem Coherent.elements_ne_nil (coherent : document.Coherent)
    (mode : document.mode? = some .code ∨ document.mode? = some .image) :
    document.elements ≠ [] := by
  intro empty
  cases coherent with
  | elements modes => simp [mode?, modes, captureModes, roles, empty] at mode
  | inlineCode modes => simp [mode?, modes] at mode

end Document

/-! ## Runs -/

open Document

namespace Compilation

theorem coherent_of_handled {setup : Setup} {before after : Compilation} {token : Token}
    (h : before.advance setup = .handled token after) (coherent : before.document.Coherent) :
    after.document.Coherent := by
  obtain ⟨⟨mode, current, read⟩, handled⟩ := advance_eq_handled_iff.mp h
  exact coherent.step current (Cursor.brings_of_next read) (handling_of_handle handled)

theorem Reaches.coherent {setup : Setup} {source : Text} {steps : List Step} {last : Compilation}
    (h : (opening setup.settings source).Reaches setup steps last) : last.document.Coherent :=
  h.invariant (fun here => here.document.Coherent) coherent_of_handled (start_coherent _ _)

/-- The mode in which a token is read can bring it. -/
theorem mode?_ne_of_handled {setup : Setup} {before after : Compilation} {token : Token}
    {mode : Mode} (handled : before.advance setup = .handled token after)
    (other : ¬ mode.Brings token.form) : before.document.mode? ≠ some mode := by
  intro current
  obtain ⟨⟨mode', current', read⟩, -⟩ := advance_eq_handled_iff.mp handled
  obtain rfl : mode = mode' := Option.some.inj (current.symm.trans current')
  exact other (Cursor.brings_of_next read)

/-! ### Written tags -/

section Written

variable {setup : Setup} {settings : Settings} {steps : List Step} {here : Compilation}
  {token : Token} {after : Cursor} {read rest name : Text}

theorem Reads.exists_mode (h : here.Reads token after) (code : ¬ Mode.code.Brings token.form)
    (inline : ¬ Mode.inlineCode.Brings token.form) :
    ∃ mode, here.document.mode? = some mode ∧ mode ≠ .code ∧ mode ≠ .inlineCode ∧
      here.cursor.next mode here.document.backticks = .ok (some (token, after)) := by
  obtain ⟨mode, current, next⟩ := h
  have brings := Cursor.brings_of_next next
  exact ⟨mode, current, fun same => code (same ▸ brings), fun same => inline (same ▸ brings), next⟩

/-- Tags that open an element or close themselves are read in the modes that read tags. -/
theorem Reads.exists_mode_of_tag {tag : Tag} (h : here.Reads token after)
    (tagged : token.form = .openTag tag ∨ token.form = .selfCloseTag tag) :
    ∃ mode, here.document.mode? = some mode ∧ (mode = .normal ∨ mode = .image) ∧
      here.cursor.next mode here.document.backticks = .ok (some (token, after)) := by
  obtain ⟨mode, current, code, inline, next⟩ := h.exists_mode
    (by rcases tagged with form | form <;> simp [form, Mode.Brings])
    (by rcases tagged with form | form <;> simp [form, Mode.Brings])
  cases mode with
  | normal => exact ⟨_, current, .inl rfl, next⟩
  | image => exact ⟨_, current, .inr rfl, next⟩
  | code => exact absurd rfl code
  | inlineCode => exact absurd rfl inline

/-- Where a tag is written, and a token is read that only modes with tags bring, it is that tag. -/
theorem Reaches.reads_writtenTag {pairs : List (Text × Text)} {closes : Bool}
    (h : (opening settings (read ++ (Cursor.writtenTag name pairs closes ++ rest))).Reaches setup
      steps here)
    (next : here.Reads token after) (place : token.offset = read.length)
    (code : ¬ Mode.code.Brings token.form) (inline : ¬ Mode.inlineCode.Brings token.form)
    (named : Cursor.IsTagName name) (writable : ∀ pair ∈ pairs, Cursor.Writable pair) :
    here.cursor = ⟨Cursor.writtenTag name pairs closes ++ rest, read.length⟩ ∧
      token = ⟨if closes then .selfCloseTag ⟨name, .ofList pairs, read.length⟩
        else .openTag ⟨name, .ofList pairs, read.length⟩, read.length⟩ ∧
      after = ⟨rest, read.length + (Cursor.writtenTag name pairs closes).length⟩ := by
  obtain ⟨mode, -, notCode, notInline, next⟩ := next.exists_mode code inline
  have cursor := h.cursor_eq (Int.ofNat_inj.mp ((Cursor.next_readAt next).1.symm.trans place))
  have written := Cursor.next_writtenTag notCode notInline here.document.backticks named writable
    closes rest read.length
  rw [← cursor, next] at written
  exact ⟨cursor, Prod.mk.inj (Option.some.inj (Except.ok.inj written))⟩

theorem Reaches.reads_writtenClose
    (h : (opening settings (read ++ (Cursor.writtenClose name ++ rest))).Reaches setup steps here)
    (next : here.Reads token after) (place : token.offset = read.length)
    (code : ¬ Mode.code.Brings token.form) (inline : ¬ Mode.inlineCode.Brings token.form)
    (word : Cursor.IsWord name) :
    here.cursor = ⟨Cursor.writtenClose name ++ rest, read.length⟩ ∧
      token = ⟨.closeTag name, read.length⟩ ∧
      after = ⟨rest, read.length + (Cursor.writtenClose name).length⟩ := by
  obtain ⟨mode, -, notCode, notInline, next⟩ := next.exists_mode code inline
  have cursor := h.cursor_eq (Int.ofNat_inj.mp ((Cursor.next_readAt next).1.symm.trans place))
  have written := Cursor.next_writtenClose notCode notInline here.document.backticks word rest
    read.length
  rw [← cursor, next] at written
  exact ⟨cursor, Prod.mk.inj (Option.some.inj (Except.ok.inj written))⟩

end Written

end Compilation

/-- Between two tokens of a run, the modes are those that the open elements bring, over the normal
one, unless inline code is open: then no element brings a mode, and backticks delimit inline code.
A listing is open only as the innermost element, and it is open exactly while code is read. There
is always a mode, and an element is open wherever text is captured. -/
theorem modes_agree_with_elements {setup : Setup} {source : Text} {steps : List Step}
    {last : Compilation}
    (h : (Compilation.opening setup.settings source).Reaches setup steps last) :
    (last.document.modes = [.inlineCode, .normal] ∧
        (∀ element ∈ last.document.elements, element.role ≠ .code ∧ element.role ≠ .image) ∧
        last.document.backticks = true ∨
      last.document.modes = last.document.captureModes ++ [.normal]) ∧
    (∀ element ∈ last.document.elements.tail, element.role ≠ .code) ∧
    ((∃ element, last.document.elements.head? = some element ∧ element.role = .code) ↔
      last.document.mode? = some .code) ∧
    last.document.modes ≠ [] ∧
    (last.document.mode? = some .code ∨ last.document.mode? = some .image →
      last.document.elements ≠ []) := by
  have coherent := h.coherent
  refine ⟨?_, ?_, ?_, coherent.modes_ne_nil, coherent.elements_ne_nil⟩
  · cases coherent with
    | elements modes innermost => exact .inr modes
    | inlineCode modes plain enabled =>
        refine .inl ⟨modes, fun element mem => ?_, enabled⟩
        have none := captureMode?_eq_none_of_mem plain (List.mem_map_of_mem mem)
        constructor
        · intro code
          simp [code, Role.captureMode?] at none
        · intro image
          simp [image, Role.captureMode?] at none
  · intro element mem code
    apply coherent.code_notMem_tail
    rw [roles, ← List.map_tail, ← code]
    exact List.mem_map_of_mem mem
  · rw [← coherent.head?_roles_eq_code_iff, roles, List.head?_map, Option.map_eq_some_iff]

/-- A listing that is opened inside an image is the innermost element. -/
theorem listing_in_image_is_innermost :
    ∃ steps last, (Compilation.opening {} "<image><code>".toList).Reaches {} steps last ∧
      last.document.mode? = some .code ∧
      ∃ element, last.document.elements.head? = some element ∧ element.role = .code := by
  have image : Cursor.IsTagName "image".toList := by decide
  have code : Cursor.IsTagName "code".toList := by decide
  have first := Cursor.next_writtenTag (show Mode.normal ≠ .code by decide) (by decide) false image
    (List.forall_mem_nil _) false "<code>".toList 0
  have second := Cursor.next_writtenTag (show Mode.image ≠ .code by decide) (by decide) false code
    (List.forall_mem_nil _) false [] 7
  have run : ∃ steps last, (Compilation.opening {} "<image><code>".toList).Reaches {} steps last ∧
      last.document.mode? = some .code :=
    ⟨_, _, .step (.step .refl (Compilation.advance_of_next rfl first rfl))
      (Compilation.advance_of_next rfl second rfl), rfl⟩
  obtain ⟨steps, last, reaches, mode⟩ := run
  exact ⟨steps, last, reaches, mode, (modes_agree_with_elements reaches).2.2.1.mpr mode⟩

end PageMarkup
