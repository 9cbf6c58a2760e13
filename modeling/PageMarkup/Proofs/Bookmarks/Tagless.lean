import PageMarkup.Proofs.Bookmarks.Labels
import PageMarkup.Proofs.Code.Listed
import PageMarkup.Proofs.Reading.Backticks
import PageMarkup.Proofs.Sessions

/-! # Labels without tags

Labels go into the table of contents as they are. No angle bracket comes into them: text that is
read as such has none, an angle bracket that stands for itself is read as an entity, and inline code
is escaped. So all markup of the table is its own. -/

namespace PageMarkup

open Compilation

/-! ## Texts -/

namespace Text

theorem notMem_escape (text : Text) : '<' ∉ escape text := by
  have legible := (Listing.spells_char.stands text).legible
  have tags := Listing.Mark.count_flatMap_write legible
  rw [← Listing.escape_eq, List.countP_map] at tags
  rw [← List.count_eq_zero, tags]
  exact List.countP_eq_zero.mpr fun _ _ => nofun

end Text

namespace Cursor

variable {cursor after : Cursor} {token : Token} {value : Text}

theorem notMem_nextText {backticks : Bool} (h : nextText backticks cursor = (token, after))
    (text : token.form = .text value) : '<' ∉ value := by
  intro mem
  have within : '<' ∈ (Text.run endsText backticks cursor.rest).1 := by
    simp only [nextText] at h
    obtain ⟨rfl, -⟩ := Prod.mk.inj h
    obtain rfl := Token.Form.text.inj text
    unfold runValue at mem
    split at mem
    · exact mem
    · exact Text.mem_of_mem_halveBackticks mem
  exact absurd (Text.stops_of_mem_run within) (by decide)

theorem notMem_nextAtBracket (h : cursor.nextAtBracket = .ok (token, after))
    (text : token.form = .text value) : '<' ∉ value := by
  obtain ⟨rfl, -⟩ := Prod.mk.inj (nextAtBracket_text h text)
  obtain rfl := Token.Form.text.inj text
  decide

/-- Text has no angle bracket where tags are read. -/
theorem notMem_next {backticks : Bool}
    (h : cursor.next .normal backticks = .ok (some (token, after)))
    (text : token.form = .text value) : '<' ∉ value := by
  unfold next at h
  split at h
  · cases h
  simp only [reduceCtorEq, if_false] at h
  split at h
  · cases h
    cases text
  split at h
  · cases h
    cases text
  split at h
  · cases h
    cases text
  split at h
  · obtain ⟨_, bracket, same⟩ := Stop.eq_ok_of_map h
    cases same
    exact notMem_nextAtBracket bracket text
  · exact notMem_nextText (Option.some.inj (Except.ok.inj h)) text

end Cursor

/-- No token brings an angle bracket to labels. -/
theorem Compilation.Reads.notMem_spoken {here : Compilation} {token : Token} {after : Cursor}
    (reads : here.Reads token after) : '<' ∉ here.document.spoken token := by
  obtain ⟨mode, current, read⟩ := reads
  unfold Document.spoken
  split
  · next value form normal =>
      obtain rfl : mode = .normal := Option.some.inj (current.symm.trans normal)
      exact Cursor.notMem_next read form
  · exact Text.notMem_escape _
  · exact List.not_mem_nil

/-! ## The ledger -/

namespace Ledger

/-- No angle bracket has come into a label or into what is recorded for one. -/
structure Tagless (ledger : Ledger) : Prop where
  captures : ∀ capture ∈ ledger.captures, '<' ∉ capture.2
  labels : ∀ bookmark ∈ ledger.bookmarks, '<' ∉ bookmark.label

variable {ledger : Ledger}

theorem Tagless.speak (tagless : ledger.Tagless) {text : Text} (plain : '<' ∉ text) :
    (ledger.speak text).Tagless where
  captures := by
    refine List.forall_mem_map.mpr fun capture mem within => ?_
    exact (List.mem_append.mp within).elim (tagless.captures capture mem) plain
  labels := tagless.labels

theorem Tagless.enter (tagless : ledger.Tagless) {bookmark? : Option Bookmark}
    (unlabelled : ∀ bookmark ∈ bookmark?, bookmark.label = []) :
    (ledger.enter bookmark?).Tagless := by
  cases bookmark? with
  | none => exact ⟨tagless.captures, tagless.labels⟩
  | some bookmark =>
      constructor
      · intro capture mem
        rcases Pairs.mem_put mem with rfl | mem
        · exact List.not_mem_nil
        · exact tagless.captures capture mem
      · refine List.forall_mem_append.mpr ⟨tagless.labels, List.forall_mem_singleton.mpr ?_⟩
        rw [unlabelled bookmark rfl]
        exact List.not_mem_nil

theorem Tagless.leave (tagless : ledger.Tagless) : ledger.leave.Tagless := by
  obtain ⟨ids, captures, bookmarks⟩ := ledger
  match ids with
  | [] => exact tagless
  | none :: outer => exact ⟨tagless.captures, tagless.labels⟩
  | some id :: outer =>
      have recorded : '<' ∉ (captures.lookup id).getD [] := by
        cases found : captures.lookup id with
        | none => exact List.not_mem_nil
        | some text =>
            obtain ⟨front, back, split, -⟩ := List.lookup_eq_some_iff.mp found
            exact tagless.captures (id, text) (by simp [split])
      constructor
      · exact fun capture mem => tagless.captures capture (List.mem_filter.mp mem).1
      · intro bookmark mem
        rcases Bookmark.label_of_mem_labelLast mem with given | ⟨other, mem, same⟩
        · exact given ▸ recorded
        · exact same ▸ tagless.labels other mem

end Ledger

/-! ## Documents -/

namespace Document

variable {setup : Setup} {before after : Document} {token : Token}

theorem label_bookmarkOf? {document : Document} {tag : Tag} :
    ∀ bookmark ∈ document.bookmarkOf? setup tag, bookmark.label = [] := by
  intro bookmark adds
  rw [bookmarkOf?] at adds
  split at adds
  · obtain rfl := Option.some.inj adds
    rfl
  · cases adds

theorem Handling.tagless (handling : Handling setup before token after)
    (plain : '<' ∉ before.spoken token) (tagless : before.ledger.Tagless) :
    after.ledger.Tagless := by
  rw [handling.ledger]
  cases token.form with
  | openTag => exact tagless.enter label_bookmarkOf?
  | closeTag => exact tagless.leave
  | selfCloseTag => exact (tagless.enter label_bookmarkOf?).leave
  | text | newline | pipe | backtick => exact tagless.speak plain

theorem Shortened.tagless (shortened : Shortened before after)
    (tagless : before.ledger.Tagless) : after.ledger.Tagless := by
  cases shortened with
  | same => exact tagless
  | innermost => exact ⟨tagless.captures, tagless.labels⟩
  | told => exact ⟨tagless.captures, tagless.labels⟩

theorem Leftover.tagless (leftover : Leftover setup before after)
    (tagless : before.ledger.Tagless) : after.ledger.Tagless := by
  cases leftover with
  | shortened shortened => exact shortened.tagless tagless
  | opened opening shortened =>
      refine shortened.tagless ?_
      rw [opening.ledger]
      exact tagless.enter label_bookmarkOf?
  | closed elements closing =>
      rw [closing.ledger elements]
      exact tagless.leave

end Document

/-! ## Runs and sessions -/

namespace Compilation

variable {setup : Setup} {first here after last : Compilation} {steps : List Step}

theorem tagless_of_handled {token : Token} (handled : here.advance setup = .handled token after)
    (tagless : here.document.ledger.Tagless) : after.document.ledger.Tagless :=
  (handling_of_handled handled).tagless (advance_eq_handled_iff.mp handled).1.notMem_spoken
    tagless

theorem tagless_of_stopped {token? : Option Token} {fault : Fault}
    (stopped : here.advance setup = .stopped token? fault after)
    (tagless : here.document.ledger.Tagless) : after.document.ledger.Tagless := by
  obtain ⟨cursor, document⟩ := here
  simp only [advance] at stopped
  split at stopped
  · cases stopped
    exact tagless
  split at stopped
  · cases stopped
    exact tagless
  · cases stopped
  split at stopped
  · next refused =>
      cases stopped
      exact (Document.leftover_of_handle refused).tagless tagless
  · cases stopped

theorem Reaches.tagless (h : first.Reaches setup steps last)
    (tagless : first.document.ledger.Tagless) : last.document.ledger.Tagless :=
  h.invariant (fun here => here.document.ledger.Tagless) tagless_of_handled tagless

theorem tagless_run (tagless : first.document.ledger.Tagless) :
    (first.run setup).2.document.ledger.Tagless := by
  obtain ⟨steps, last, reaches, ⟨-, run⟩ | ⟨token?, fault, after, stopped, run⟩⟩ :=
    exists_reaches_run setup first
  · rw [run]
    exact reaches.tagless tagless
  · rw [run]
    exact tagless_of_stopped stopped (reaches.tagless tagless)

end Compilation

namespace Session

variable {setup : Setup} {session : Session} {page : Text}

theorem tagless_parse (tagless : session.compilation.document.ledger.Tagless) :
    (session.parse setup).2.compilation.document.ledger.Tagless := by
  cases kept : session.page? with
  | some page =>
      rw [parse_of_page kept]
      exact tagless
  | none =>
      have told : session.begun.document.ledger.Tagless := tagless
      have ran := @tagless_run setup _ told
      simp only [parse, kept]
      split
      · exact ran
      · exact ran

theorem tagless_after (tagless : session.compilation.document.ledger.Tagless) (calls : Nat) :
    (session.after setup calls).compilation.document.ledger.Tagless := by
  induction calls generalizing session with
  | zero => exact tagless
  | succ calls ih => exact ih (tagless_parse tagless)

theorem exists_render_of_parse (unmade : session.page? = none)
    (answered : (session.parse setup).1 = .ok page) :
    ∃ steps last, session.begun.Reaches setup steps last ∧ last.cursor.rest = [] ∧
      last.document.render = page := by
  rcases ran : session.begun.run setup with ⟨_ | fault, last⟩
  · cases left : leftOpen? setup.settings last.document with
    | none =>
        obtain ⟨steps, reaches, finished⟩ := exists_reaches_of_run ran
        have made := (parse_of_end unmade ran left).1
        exact ⟨steps, last, reaches, rest_eq_nil_of_finished finished,
          Except.ok.inj (made.symm.trans answered)⟩
    | some fault =>
        rw [parse_of_leftOpen unmade ran left] at answered
        cases answered
  · rw [parse_of_fault unmade ran] at answered
    cases answered

/-- A page that is answered has been made by this call or an earlier one. -/
theorem exists_render_of_answer (unmade : session.page? = none) {calls : Nat}
    (answered : session.answer setup calls = .ok page) :
    ∃ earlier ≤ calls, ∃ steps last,
      (session.after setup earlier).begun.Reaches setup steps last ∧ last.cursor.rest = [] ∧
        last.document.render = page := by
  induction calls generalizing session with
  | zero => exact ⟨0, Nat.le_refl 0, exists_render_of_parse unmade answered⟩
  | succ calls ih =>
      cases first : (session.parse setup).1 with
      | ok other =>
          have same := (answer_of_ok first (calls + 1)).symm.trans answered
          exact ⟨0, Nat.zero_le _, exists_render_of_parse unmade (first.trans same)⟩
      | error fault =>
          have call := call_parse setup session
          rw [first] at call
          have unmade : (session.parse setup).2.page? = none := by
            cases call with
            | lasts unmade => exact unmade
            | passes unmade => exact unmade
          obtain ⟨earlier, within, reached⟩ := ih unmade answered
          exact ⟨earlier + 1, Nat.succ_le_succ within, reached⟩

end Session

/-! ## The table of contents -/

namespace Bookmark

theorem count_entry {bookmark : Bookmark} (plain : '<' ∉ bookmark.label) :
    bookmark.entry.count '<' = 4 := by
  have name := List.count_eq_zero.mpr (Text.notMem_escape bookmark.name)
  have label := List.count_eq_zero.mpr plain
  unfold entry
  rw [List.count_append, List.count_append, List.count_append, List.count_append, name, label]
  rfl

theorem count_flatMap_entry {bookmarks : List Bookmark}
    (plain : ∀ bookmark ∈ bookmarks, '<' ∉ bookmark.label) :
    (bookmarks.flatMap entry).count '<' = 4 * bookmarks.length := by
  induction bookmarks with
  | nil => rfl
  | cons bookmark bookmarks ih =>
      rw [List.forall_mem_cons] at plain
      rw [List.flatMap_cons, List.count_append, count_entry plain.1, ih plain.2, List.length_cons]
      omega

/-- Two tags around the list, and four for each bookmark. -/
theorem count_contents {bookmarks : List Bookmark} (listed : bookmarks ≠ [])
    (plain : ∀ bookmark ∈ bookmarks, '<' ∉ bookmark.label) :
    (contents bookmarks).count '<' = 4 * bookmarks.length + 2 := by
  have entries := count_flatMap_entry plain
  cases bookmarks with
  | nil => exact absurd rfl listed
  | cons bookmark bookmarks =>
      have front : "\n<div class=\"hpp_tableofcontents\">\n".toList.count '<' = 1 := by decide
      have back : "</div>\n".toList.count '<' = 1 := by decide
      unfold contents
      rw [List.count_append, List.count_append, entries, front, back]
      omega

example : (contents [{ name := "</a>".toList, id := [], label := ['a'] }]).count '<' = 6 := by
  decide

end Bookmark

/-- Between two tokens of any run of a session, no token brings an angle bracket as text, and there
is none in what has been recorded for labels nor in the labels. So the table of contents has two
tags and four more for each bookmark, whatever their names and labels are. A page that is answered
is made after such a run, at the end of the source. -/
theorem contents_have_no_markup_but_their_own (setup : Setup) (source : Text) :
    (∀ calls steps last,
      ((Session.start setup.settings source).after setup calls).begun.Reaches setup steps last →
        (∀ token after, last.Reads token after → '<' ∉ last.document.spoken token) ∧
        (∀ capture ∈ last.document.captures, '<' ∉ capture.2) ∧
        (∀ bookmark ∈ last.document.bookmarks, '<' ∉ bookmark.label) ∧
        (last.document.bookmarks ≠ [] → (Bookmark.contents last.document.bookmarks).count '<' =
          4 * last.document.bookmarks.length + 2)) ∧
    ∀ calls page, (Session.start setup.settings source).answer setup calls = .ok page →
      ∃ earlier ≤ calls, ∃ steps last,
        ((Session.start setup.settings source).after setup earlier).begun.Reaches setup steps
            last ∧
          last.cursor.rest = [] ∧ last.document.render = page := by
  constructor
  · intro calls steps last reaches
    have start : (Session.start setup.settings source).compilation.document.ledger.Tagless :=
      ⟨nofun, nofun⟩
    obtain ⟨captures, labels⟩ := reaches.tagless (Session.tagless_after start calls)
    exact ⟨fun token after reads => reads.notMem_spoken, captures, labels,
      fun listed => Bookmark.count_contents listed labels⟩
  · exact fun calls page answered => Session.exists_render_of_answer rfl answered

end PageMarkup
