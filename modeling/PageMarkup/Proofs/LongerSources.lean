import PageMarkup.Proofs.Faults
import PageMarkup.Proofs.Joined

/-! # Faults in longer sources

Most faults are in what has been read when they are met, so that they are met in the same place
however the source goes on. Only a tag that is not complete and a tag left open may be mended by
what follows. -/

namespace PageMarkup

/-- A fault of this cause is there to stay, however the source goes on. -/
def Cause.remains : Cause → Bool
  | .unsupportedLanguage _ | .tabTooWide _ | .mismatchedClose _ _ | .repeatedContents
  | .rawComment | .newlineInInlineCode => true
  | _ => false

/-! ## Faults in reading -/

theorem Cause.lasts_of_remains {cause : Cause} {text : Text} (met : cause.MetBy text)
    (remains : cause.remains = true) : cause.lasts = true := by
  cases cause with
  | rawComment | newlineInInlineCode => rfl
  | unsupportedLanguage | tabTooWide | mismatchedClose | repeatedContents => cases met
  | _ => cases remains

/-- A fault that remains shows in the source by a bracket or by the end of a line. -/
theorem Fault.MetFrom.exists_mem {fault : Fault} {cursor : Cursor} (met : fault.MetFrom cursor)
    (remains : fault.cause.remains = true) : ∃ c ∈ cursor.rest, c = '<' ∨ c = '\n' := by
  obtain ⟨cause, offset⟩ := fault
  obtain ⟨read, here, reads, -, met⟩ := met
  rw [reads.rest]
  cases cause with
  | rawComment => exact ⟨'<', List.mem_append_right read (met.subset (by decide)), .inl rfl⟩
  | newlineInInlineCode =>
      exact ⟨'\n', List.mem_append_right read (List.mem_of_head? met), .inr rfl⟩
  | unsupportedLanguage | tabTooWide | mismatchedClose | repeatedContents => cases met
  | _ => cases remains

namespace Stop

/-- The stop where the source goes on with `more`. -/
def followedBy (more : Text) (stop : Stop) : Stop := ⟨stop.fault, stop.cursor.followedBy more⟩

theorem MetFrom.passing {stop : Stop} {cursor : Cursor} (met : stop.MetFrom cursor) :
    stop.fault.cause.remains = false := by
  obtain ⟨_, _, -, -, here⟩ := met.fault
  cases remains : stop.fault.cause.remains with
  | false => rfl
  | true =>
      have lasts := Cause.lasts_of_remains here remains
      rw [met.passes] at lasts
      cases lasts

end Stop

namespace Cursor

variable {cursor : Cursor} {mode : Mode} {backticks : Bool} {stop : Stop}

theorem nextInInlineCode_error_followedBy (h : nextInInlineCode backticks cursor = .error stop)
    (more : Text) :
    nextInInlineCode backticks (cursor.followedBy more) = .error (stop.followedBy more) := by
  obtain ⟨text, offset⟩ := cursor
  obtain ⟨read, rest, ends⟩ : ∃ read rest, Text.run (· = '\n') backticks text = (read, rest) :=
    ⟨_, _, rfl⟩
  have whole := Text.run_append (· = '\n') backticks text
  simp only [nextInInlineCode, ends] at h whole
  subst whole
  split at h
  · next newline =>
      cases h
      obtain ⟨tail, rfl⟩ := List.head?_eq_some_iff.mp newline
      have alike : Text.EndsAlike ('\n' :: tail) ('\n' :: tail ++ more) :=
        .append (List.cons_ne_nil _ _) (by simp)
      have longer := alike.run_eq ends
      rw [← List.append_assoc] at longer
      simp only [nextInInlineCode, followedBy, longer]
      rfl
  · cases h

theorem nextAtBracket_error_followedBy {rest : Text} (bracket : cursor.rest = '<' :: rest)
    (h : cursor.nextAtBracket = .error stop) (remains : stop.fault.cause.remains = true)
    (more : Text) : (cursor.followedBy more).nextAtBracket = .error (stop.followedBy more) := by
  have passing {place : Cursor} (met : stop.MetFrom place) : False := by
    rw [met.passing] at remains
    cases remains
  unfold nextAtBracket at h
  split at h
  · cases h
  next c second =>
  split at h
  · next mark =>
      cases h
      have second' : (cursor.followedBy more).rest.tail.head? = some c := by
        rw [bracket, List.tail_cons] at second
        obtain ⟨tail, rfl⟩ := List.head?_eq_some_iff.mp second
        rw [followedBy, bracket]
        rfl
      unfold nextAtBracket
      simp only [second', if_pos mark]
      rfl
  split at h
  · exact (passing (closeTag_error bracket (Stop.eq_error_of_map h))).elim
  split at h
  · exact (passing (openTag_error bracket (Stop.eq_error_of_map h))).elim
  · cases h

theorem next_error_followedBy (h : cursor.next mode backticks = .error stop)
    (remains : stop.fault.cause.remains = true) (more : Text) :
    (cursor.followedBy more).next mode backticks = .error (stop.followedBy more) := by
  cases first : cursor.rest with
  | nil =>
      rw [next_eq_none_iff.mpr first] at h
      cases h
  | cons c rest =>
      have first' : (cursor.followedBy more).rest = c :: (rest ++ more) := by
        rw [followedBy, first]
        rfl
      rw [next_of_cons first] at h
      rw [next_of_cons first']
      split at h
      · cases h
      next notCode =>
      rw [if_neg notCode]
      split at h
      · cases h
      next noTick =>
      rw [if_neg noTick]
      split at h
      · next inline =>
          have inside := nextInInlineCode_error_followedBy (Stop.eq_error_of_map h) more
          rw [if_pos inline, inside]
          rfl
      next notInline =>
      rw [if_neg notInline]
      split at h
      · cases h
      next noPipe =>
      rw [if_neg noPipe]
      split at h
      · cases h
      next noNewline =>
      rw [if_neg noNewline]
      split at h
      · next bracket =>
          have inside := nextAtBracket_error_followedBy (bracket ▸ first)
            (Stop.eq_error_of_map h) remains more
          rw [if_pos bracket, inside]
          rfl
      · cases h

end Cursor

/-! ## Faults in handling -/

/-- A token that is refused for a cause that remains is a tag. -/
theorem Document.Refusal.mem_bracket {setup : Setup} {before : Document} {token : Token}
    {fault : Fault} {cursor : Cursor} (refusal : Refusal setup before token fault)
    (remains : fault.cause.remains = true) (written : token.form.ReadAt cursor) :
    token.form.kind ≠ .text ∧ '<' ∈ cursor.rest := by
  obtain ⟨form, offset⟩ := token
  have opened {tag : Tag} (written : tag.WrittenAt cursor) : '<' ∈ cursor.rest :=
    written.bracket.subset List.mem_cons_self
  have closed (written : "</".toList <+: cursor.rest) : '<' ∈ cursor.rest :=
    written.subset (by decide)
  cases form with
  | openTag tag => exact ⟨nofun, opened written⟩
  | selfCloseTag tag => exact ⟨nofun, opened written⟩
  | closeTag name => exact ⟨nofun, closed written⟩
  | text | newline | pipe | backtick =>
      cases refusal with
      | repeatedContents opens => cases opens
      | listing closes => cases closes
      | _ => cases remains

namespace Compilation

variable {setup : Setup} {here after : Compilation} {token? : Option Token} {fault : Fault}

/-- A step that stops for a cause that remains stops so in every longer source, and has more before
it than a backtick. -/
theorem advance_stopped_followedBy (stopped : here.advance setup = .stopped token? fault after)
    (remains : fault.cause.remains = true) (more : Text) :
    (∃ c ∈ here.cursor.rest, c = '<' ∨ c = '\n') ∧
      ∃ token? after, (here.followedBy more).advance setup = .stopped token? fault after := by
  rcases advance_eq_stopped stopped with missing | ⟨mode, stop, current, read, rfl⟩ |
    ⟨token, cursor, halt, reads, refused, rfl⟩
  · simp only [advance, missing] at stopped
    cases stopped
    cases remains
  · have again : (here.followedBy more).advance setup =
        .stopped none stop.fault ⟨stop.cursor.followedBy more, here.document⟩ := by
      simp only [advance, followedBy, current, Cursor.next_error_followedBy read remains more]
      rfl
    exact ⟨(Cursor.next_error read).exists_mem remains, none, _, again⟩
  · have refusal := Document.refusal_of_handle refused
    obtain ⟨mode, current, read⟩ := reads
    obtain ⟨notText, bracket⟩ := refusal.mem_bracket remains (Cursor.next_readAt read).2
    have longer := Cursor.next_followedBy more read fun text => absurd text notText
    have again : (here.followedBy more).Reads token (cursor.followedBy more) :=
      ⟨mode, current, longer⟩
    exact ⟨⟨'<', bracket, .inl rfl⟩, some token, _, advance_of_refused again refused⟩

end Compilation

/-! ## Pages -/

open Compilation

/-- A fault that is not at the end of the source is the fault of every source that begins with it,
with the same details and in the same place. -/
theorem faults_remain_in_longer_sources {setup : Setup} {source : Text} {fault : Fault}
    (met : compileWith setup source = .error fault) (remains : fault.cause.remains = true)
    (more : Text) : compileWith setup (source ++ more) = .error fault := by
  have longer : start setup.settings (source ++ more) =
      (start setup.settings source).followedBy more := rfl
  rw [compileWith_eq_start] at met ⊢
  obtain ⟨steps, last, reaches, ⟨-, ran⟩ | ⟨token?, found, after, stopped, ran⟩⟩ :=
    exists_reaches_run setup (start setup.settings source)
  · rw [ran] at met
    simp only [verdict] at met
    split at met
    · next left =>
        cases met
        obtain ⟨element, -, rfl⟩ := leftOpen?_eq_some left
        cases remains
    · cases met
  · rw [ran] at met
    cases met
    obtain ⟨⟨c, mem, mark⟩, token?, after', again⟩ :=
      advance_stopped_followedBy stopped remains more
    -- No token up to here ends at the end of the source or before a backtick there.
    have inside : ¬ last.cursor.rest <:+ ['`'] := by
      intro within
      obtain rfl := List.mem_singleton.mp (within.subset mem)
      simp at mark
    have reached : ((start setup.settings source).followedBy more).Reaches setup steps
        (last.followedBy more) :=
      reaches.followedBy (.inl (List.ne_nil_of_mem mem)) fun within => absurd within inside
    rw [longer, reached.run_eq, run_of_stopped again, verdict]

/-- A closing tag without an opening one is not mended by what follows, not even by the tag. -/
theorem stray_closing_tag_remains :
    compileWith {} "</b>".toList = .error ⟨.mismatchedClose [] ['b'], 0⟩ ∧
      compileWith {} ("</b>".toList ++ "`<b>\n".toList) = .error ⟨.mismatchedClose [] ['b'], 0⟩ := by
  have met : compileWith {} "</b>".toList = .error ⟨.mismatchedClose [] ['b'], 0⟩ :=
    compileWith_eq_error_iff.mpr ⟨[], _, .refl, .inl ⟨_, _, rfl⟩⟩
  exact ⟨met, faults_remain_in_longer_sources met rfl _⟩

end PageMarkup
