import PageMarkup.Code.Listing
import Mathlib.Data.List.DropRight

/-! # Tidied code

What white space is left in code that has been tidied, said without tidying it. Code of this kind
stays as it is when it is tidied, whatever the width of a tab, and all code becomes code of this
kind. -/

namespace PageMarkup

namespace Text

/-! ## Lines -/

theorem splitOn_eq (mark : Char) (text : Text) : splitOn mark text = List.splitOn mark text := by
  induction text with
  | nil => rfl
  | cons c text ih =>
      rw [splitOn, ih, List.splitOn, List.splitOn, List.splitOnP_cons_eq_if_modifyHead]
      by_cases same : c = mark
      · simp [same]
      · obtain ⟨piece, pieces, split⟩ := List.exists_cons_of_ne_nil
          (List.splitOnP_ne_nil (fun x => x == mark) text)
        simp [same, split]

theorem join_splitOn (mark : Char) (text : Text) : join [mark] (splitOn mark text) = text := by
  rw [splitOn_eq]
  exact List.intercalate_splitOn mark

theorem splitOn_join {mark : Char} {pieces : List Text} (nonempty : pieces ≠ [])
    (plain : ∀ piece ∈ pieces, mark ∉ piece) :
    splitOn mark (join [mark] pieces) = pieces := by
  rw [splitOn_eq]
  exact List.splitOn_intercalate mark plain nonempty

/-- The pieces hold the characters of the text except the mark. -/
theorem mem_of_mem_splitOn {mark c : Char} {text piece : Text} (mem : piece ∈ splitOn mark text)
    (inside : c ∈ piece) : c ∈ text ∧ c ≠ mark := by
  induction text generalizing piece with
  | nil =>
      rw [splitOn, List.mem_singleton] at mem
      simp [mem] at inside
  | cons d text ih =>
      rw [splitOn] at mem
      split at mem
      · rcases List.mem_cons.mp mem with rfl | mem
        · cases inside
        · exact (ih mem inside).imp_left (List.mem_cons_of_mem d)
      next other =>
      split at mem
      · next none =>
          rw [splitOn_eq] at none
          exact absurd none (List.splitOn_ne_nil mark text)
      next first pieces split =>
      rcases List.mem_cons.mp mem with rfl | mem
      · rcases List.mem_cons.mp inside with rfl | inside
        · exact ⟨List.mem_cons_self, other⟩
        · exact (ih (split ▸ List.mem_cons_self) inside).imp_left (List.mem_cons_of_mem d)
      · exact (ih (split ▸ List.mem_cons_of_mem first mem) inside).imp_left
          (List.mem_cons_of_mem d)

theorem mem_of_mem_join {mark c : Char} {pieces : List Text} (mem : c ∈ join [mark] pieces) :
    c = mark ∨ ∃ piece ∈ pieces, c ∈ piece := by
  induction pieces with
  | nil => cases mem
  | cons piece pieces ih =>
      cases pieces with
      | nil => exact .inr ⟨piece, by simp, by simpa [join] using mem⟩
      | cons next pieces =>
          rw [join, List.intercalate_cons_cons, List.append_assoc, List.mem_append] at mem
          rcases mem with here | mem
          · exact .inr ⟨piece, List.mem_cons_self, here⟩
          rcases List.mem_cons.mp mem with same | later
          · exact .inl same
          · refine (ih later).imp_right ?_
            rintro ⟨held, mem, inside⟩
            exact ⟨held, List.mem_cons_of_mem _ mem, inside⟩

/-! ## Line ends -/

theorem unifyLineEnds_of_notMem {text : Text} (plain : '\r' ∉ text) :
    unifyLineEnds text = text := by
  fun_induction unifyLineEnds text with
  | case1 => rfl
  | case2 => simp at plain
  | case3 c text _ ih =>
      rw [List.mem_cons, not_or] at plain
      rw [if_neg (Ne.symm plain.1), ih plain.2]

theorem notMem_unifyLineEnds (text : Text) : '\r' ∉ unifyLineEnds text := by
  fun_induction unifyLineEnds text with
  | case1 => simp
  | case2 text ih => simpa using ih
  | case3 c text _ ih =>
      rw [List.mem_cons, not_or]
      refine ⟨?_, ih⟩
      split
      · decide
      · next other => exact Ne.symm other

/-- Each line end may be written with a carriage return, before it or in its place. -/
theorem unifyLineEnds_replace {text lineEnd : Text} (plain : '\r' ∉ text)
    (returned : lineEnd = ['\r', '\n'] ∨ lineEnd = ['\r']) :
    unifyLineEnds (replace '\n' lineEnd text) = text := by
  induction text with
  | nil => rfl
  | cons c text ih =>
      rw [List.mem_cons, not_or] at plain
      have later := ih plain.2
      have split : replace '\n' lineEnd (c :: text) =
          (if c = '\n' then lineEnd else [c]) ++ replace '\n' lineEnd text := List.flatMap_cons
      rw [split]
      by_cases newline : c = '\n'
      · rw [if_pos newline, newline]
        rcases returned with rfl | rfl
        · exact congrArg ('\n' :: ·) later
        · -- No line end is left that the carriage return could belong to.
          have alone (rest : Text) : replace '\n' ['\r'] text ≠ '\n' :: rest := by
            intro begins
            have mem : '\n' ∈ replace '\n' ['\r'] text := begins ▸ List.mem_cons_self
            simp only [replace, List.mem_flatMap] at mem
            obtain ⟨d, -, mem⟩ := mem
            split at mem
            · simp at mem
            · next other => exact other (List.mem_singleton.mp mem).symm
          rw [List.singleton_append, unifyLineEnds.eq_3 '\r' _ fun rest _ => alone rest, later]
          rfl
      · rw [if_neg newline, List.singleton_append,
          unifyLineEnds.eq_3 c _ fun _ same => absurd same.symm plain.1, later,
          if_neg (Ne.symm plain.1)]

end Text

namespace Code

variable {line code : Text} {lines : List Text}

/-! ## Blanks and blank lines -/

/-- The line does not end in a blank. -/
def Trimmed (line : Text) : Prop := ∀ c ∈ line.getLast?, Text.isBlank c = false

/-- The line shows something. -/
def Shows (line : Text) : Prop := ∃ c ∈ line, Text.isBlank c = false

/-- No line ends in a blank, and the first and the last one show something. -/
structure Neat (lines : List Text) : Prop where
  trimmed : ∀ line ∈ lines, Trimmed line
  first : ∀ line ∈ lines.head?, Shows line
  last : ∀ line ∈ lines.getLast?, Shows line

theorem trimmed_trimEnd (line : Text) : Trimmed (Text.trimEnd line) := by
  fun_induction Text.trimEnd line with
  | case1 => nofun
  | case2 => nofun
  | case3 c _ _ shown =>
      intro d last
      obtain rfl : c = d := Option.some.inj last
      simpa using shown
  | case4 c text kept ih =>
      intro d last
      obtain ⟨e, inner, nonempty⟩ := List.exists_cons_of_ne_nil kept
      rw [nonempty] at ih last
      exact ih d last

theorem trimEnd_of_trimmed (trimmed : Trimmed line) : Text.trimEnd line = line := by
  induction line with
  | nil => rfl
  | cons c line ih =>
      cases line with
      | nil =>
          have shown : Text.isBlank c = false := trimmed c rfl
          simp [Text.trimEnd, shown]
      | cons d line =>
          rw [Text.trimEnd, ih trimmed]

theorem trimEnd_isPrefix (line : Text) : Text.trimEnd line <+: line := by
  fun_induction Text.trimEnd line with
  | case1 | case2 => exact List.nil_prefix
  | case3 c text => exact List.prefix_append [c] text
  | case4 c text _ ih => exact (List.prefix_cons_inj c).mpr ih

theorem shows_of_trimmed (trimmed : Trimmed line) (nonempty : line ≠ []) : Shows line :=
  ⟨line.getLast nonempty, List.getLast_mem nonempty,
    trimmed _ (List.getLast?_eq_some_getLast nonempty)⟩

theorem Shows.ne_nil (shows : Shows line) : line ≠ [] := by
  obtain ⟨c, mem, -⟩ := shows
  exact List.ne_nil_of_mem mem

theorem mem_of_mem_trimLines (mem : line ∈ trimLines lines) : line ∈ lines :=
  (List.dropWhile_suffix _).mem ((List.rdropWhile_prefix _ _).mem mem)

theorem neat_trimLines (trimmed : ∀ line ∈ lines, Trimmed line) : Neat (trimLines lines) where
  trimmed line mem := trimmed line (mem_of_mem_trimLines mem)
  first line head := by
    have mem := mem_of_mem_trimLines (List.mem_of_mem_head? head)
    refine shows_of_trimmed (trimmed line mem) ?_
    rintro rfl
    have front : trimLines lines <+: lines.dropWhile List.isEmpty := List.rdropWhile_prefix _ _
    obtain ⟨rest, first⟩ := List.head?_eq_some_iff.mp head
    obtain ⟨back, split⟩ := front
    have stops := List.head?_dropWhile_not List.isEmpty lines
    simp [← split, first] at stops
  last line last := by
    have mem := mem_of_mem_trimLines (List.mem_of_mem_getLast? last)
    refine shows_of_trimmed (trimmed line mem) ?_
    rintro rfl
    have stops := List.head?_dropWhile_not List.isEmpty (lines.dropWhile List.isEmpty).reverse
    rw [trimLines, List.getLast?_reverse] at last
    simp [Option.mem_def.mp last] at stops

/-- No line is dropped if the first and the last one show something. -/
theorem trimLines_of_neat (neat : Neat lines) : trimLines lines = lines := by
  have kept {p : List Text} (first : ∀ line ∈ p.head?, Shows line) :
      p.dropWhile List.isEmpty = p := by
    cases p with
    | nil => rfl
    | cons line p => simp [(first line rfl).ne_nil]
  rw [trimLines, kept neat.first, kept, List.reverse_reverse]
  rw [List.head?_reverse]
  exact neat.last

/-! ## Tabs -/

theorem expandTabs_append (tabSize : Int) (front back : Text) :
    expandTabs tabSize (front ++ back) = expandTabs tabSize front ++ expandTabs tabSize back :=
  List.flatMap_append

theorem expandTabs_of_ne {c : Char} (tabSize : Int) (other : c ≠ '\t') :
    expandTabs tabSize [c] = [c] := by simp [expandTabs, other]

theorem expandTabs_of_notMem (tabSize : Int) (plain : '\t' ∉ code) :
    expandTabs tabSize code = code := by
  induction code with
  | nil => rfl
  | cons c code ih =>
      rw [List.mem_cons, not_or] at plain
      rw [← List.singleton_append, expandTabs_append, expandTabs_of_ne tabSize (Ne.symm plain.1),
        ih plain.2]

theorem mem_expandTabs {tabSize : Int} {c : Char} (mem : c ∈ expandTabs tabSize code) :
    c = ' ' ∨ c ∈ code ∧ c ≠ '\t' := by
  simp only [expandTabs, List.mem_flatMap] at mem
  obtain ⟨d, within, mem⟩ := mem
  split at mem
  · exact .inl (List.eq_of_mem_replicate mem)
  · next other =>
      obtain rfl := List.mem_singleton.mp mem
      exact .inr ⟨within, other⟩

theorem mem_expandTabs_of_ne {c : Char} (tabSize : Int) (mem : c ∈ code) (other : c ≠ '\t') :
    c ∈ expandTabs tabSize code := by
  rw [expandTabs, List.mem_flatMap]
  exact ⟨c, mem, by rw [if_neg other]; exact List.mem_singleton.mpr rfl⟩

theorem expandTabs_join (tabSize : Int) (lines : List Text) :
    expandTabs tabSize (Text.join ['\n'] lines) =
      Text.join ['\n'] (lines.map (expandTabs tabSize)) := by
  induction lines with
  | nil => rfl
  | cons line lines ih =>
      cases lines with
      | nil => simp [Text.join]
      | cons next lines =>
          rw [Text.join, Text.join, List.map_cons] at ih
          rw [Text.join, Text.join, List.map_cons, List.map_cons]
          rw [List.intercalate_cons_cons, List.intercalate_cons_cons, expandTabs_append,
            expandTabs_append, ih, expandTabs_of_ne tabSize (by decide)]

theorem ne_tab_of_not_isBlank {c : Char} (shown : Text.isBlank c = false) : c ≠ '\t' := by
  rintro rfl
  exact absurd shown (by decide)

theorem Trimmed.expandTabs (trimmed : Trimmed line) (tabSize : Int) :
    Trimmed (expandTabs tabSize line) := by
  rcases List.eq_nil_or_concat line with rfl | ⟨front, c, rfl⟩
  · nofun
  · rw [List.concat_eq_append] at trimmed ⊢
    have shown := trimmed c (by simp)
    rw [expandTabs_append, expandTabs_of_ne tabSize (ne_tab_of_not_isBlank shown)]
    intro d last
    obtain rfl : c = d := by simpa using last
    exact shown

theorem Shows.expandTabs (shows : Shows line) (tabSize : Int) :
    Shows (expandTabs tabSize line) := by
  obtain ⟨c, mem, shown⟩ := shows
  exact ⟨c, mem_expandTabs_of_ne tabSize mem (ne_tab_of_not_isBlank shown), shown⟩

theorem Neat.expandTabs (neat : Neat lines) (tabSize : Int) :
    Neat (lines.map (expandTabs tabSize)) where
  trimmed := List.forall_mem_map.mpr fun line mem => (neat.trimmed line mem).expandTabs tabSize
  first := by
    rw [List.head?_map]
    intro line head
    obtain ⟨original, first, rfl⟩ := Option.map_eq_some_iff.mp head
    exact (neat.first original first).expandTabs tabSize
  last := by
    rw [List.getLast?_map]
    intro line last
    obtain ⟨original, found, rfl⟩ := Option.map_eq_some_iff.mp last
    exact (neat.last original found).expandTabs tabSize

/-! ## Tidied code -/

/-- Code in which no white space is left to tidy: it has neither carriage returns nor tabs, no line
of it ends in a blank, and unless it is empty its first and its last line show something. -/
structure Tidied (code : Text) : Prop where
  returns : '\r' ∉ code
  tabs : '\t' ∉ code
  lines : code = [] ∨ Neat (Text.splitOn '\n' code)

theorem tidied_tidy (tabSize : Int) (code : Text) : Tidied (tidy tabSize code) := by
  let lines := trimLines ((Text.splitOn '\n' (Text.unifyLineEnds code)).map Text.trimEnd)
  have neat : Neat lines :=
    neat_trimLines (List.forall_mem_map.mpr fun line _ => trimmed_trimEnd line)
  have inside : ∀ line ∈ lines, ∀ c ∈ line, c ≠ '\r' ∧ c ≠ '\n' := by
    intro line mem c held
    obtain ⟨original, piece, rfl⟩ := List.mem_map.mp (mem_of_mem_trimLines mem)
    obtain ⟨within, other⟩ :=
      Text.mem_of_mem_splitOn piece ((trimEnd_isPrefix original).mem held)
    exact ⟨fun same => Text.notMem_unifyLineEnds code (same ▸ within), other⟩
  have whole : tidy tabSize code = expandTabs tabSize (Text.join ['\n'] lines) := rfl
  rw [whole]
  refine ⟨fun mem => ?_, fun mem => ?_, ?_⟩
  · rcases mem_expandTabs mem with space | ⟨within, -⟩
    · cases space
    rcases Text.mem_of_mem_join within with newline | ⟨line, mem, held⟩
    · cases newline
    · exact (inside line mem _ held).1 rfl
  · rcases mem_expandTabs mem with space | ⟨-, other⟩
    · cases space
    · exact other rfl
  · rw [expandTabs_join]
    by_cases empty : lines = []
    · exact .inl (by rw [empty]; rfl)
    · refine .inr ?_
      rw [Text.splitOn_join (by simpa using empty)]
      · exact neat.expandTabs tabSize
      · refine List.forall_mem_map.mpr fun line mem newline => ?_
        rcases mem_expandTabs newline with space | ⟨within, -⟩
        · cases space
        · exact (inside line mem _ within).2 rfl

theorem Tidied.tidy_eq (tidied : Tidied code) (tabSize : Int) : tidy tabSize code = code := by
  obtain ⟨returns, tabs, rfl | neat⟩ := tidied
  · rfl
  · have trimmed : (Text.splitOn '\n' code).map Text.trimEnd = Text.splitOn '\n' code := by
      rw [List.map_congr_left fun line mem => trimEnd_of_trimmed (neat.trimmed line mem),
        List.map_id']
    rw [tidy, Text.unifyLineEnds_of_notMem returns]
    simp only [trimmed, trimLines_of_neat neat, Text.join_splitOn, expandTabs_of_notMem _ tabs]

theorem tidy_eq_self_iff (tabSize : Int) : tidy tabSize code = code ↔ Tidied code :=
  ⟨fun same => same ▸ tidied_tidy tabSize code, fun tidied => tidied.tidy_eq tabSize⟩

theorem tidy_replace (tabSize : Int) {lineEnd : Text} (plain : '\r' ∉ code)
    (returned : lineEnd = ['\r', '\n'] ∨ lineEnd = ['\r']) :
    tidy tabSize (Text.replace '\n' lineEnd code) = tidy tabSize code := by
  rw [tidy, Text.unifyLineEnds_replace plain returned, tidy, Text.unifyLineEnds_of_notMem plain]

end Code

namespace Listing

/-- A listing is laid out alike whether its code has been tidied before or not. -/
theorem lay_tidy (listing : Listing) (code : Text) :
    listing.lay (Code.tidy listing.tabSize code) = listing.lay code := by
  have again := (Code.tidied_tidy listing.tabSize code).tidy_eq listing.tabSize
  unfold lay render body
  rw [again]

/-- Unless the tabs of a listing are too wide, its code is tidied to code that has no white space
left to tidy, and just such code is not changed any more. Code is listed like the tidied code, and
how its line ends are written makes no difference. -/
theorem tidying_is_projection (listing : Listing) (code : Text) :
    (Text.isLength listing.tabSize = true → ∃ text, listing.tidied code = .ok text ∧
      Code.Tidied text ∧
      (∀ other, listing.tidied other = .ok other ↔ Code.Tidied other) ∧
      listing.tidied text = .ok text ∧ listing.lay text = listing.lay code ∧
      ('\r' ∉ code → ∀ lineEnd ∈ [['\r', '\n'], ['\r']],
        listing.tidied (Text.replace '\n' lineEnd code) = .ok text)) ∧
    (Text.isLength listing.tabSize = false →
      ∀ other, listing.tidied other = .error (.tabTooWide listing.tabSize)) := by
  constructor
  · intro fits
    have tidied (other : Text) :
        listing.tidied other = .ok (Code.tidy listing.tabSize other) := if_pos fits
    have fixed (other : Text) : listing.tidied other = .ok other ↔ Code.Tidied other := by
      rw [tidied, Except.ok.injEq, Code.tidy_eq_self_iff]
    have reached := Code.tidied_tidy listing.tabSize code
    refine ⟨_, tidied code, reached, fixed, (fixed _).mpr reached, listing.lay_tidy code, ?_⟩
    intro plain lineEnd returned
    rw [tidied, Code.tidy_replace listing.tabSize plain (by simpa using returned)]
  · intro wide other
    rw [Listing.tidied, if_neg (by simp [wide])]

/-- Tabs and blanks are tidied whatever the line ends are, but no code is if tabs are too wide. -/
theorem code_with_returns_and_with_overwide_tabs :
    (∃ text, Listing.tidied ⟨.python, 2, []⟩ "\n\ta \n".toList = .ok text ∧
      Code.Tidied text ∧ text = "  a".toList ∧
      Listing.tidied ⟨.python, 2, []⟩ "\r\n\ta \r\n".toList = .ok text) ∧
    Listing.tidied ⟨.python, 1180591620717411303424, []⟩ ['x'] =
      .error (.tabTooWide 1180591620717411303424) := by
  constructor
  · obtain ⟨text, tidied, reached, -, -, -, returned⟩ :=
      (tidying_is_projection ⟨.python, 2, []⟩ "\n\ta \n".toList).1 (by decide)
    have written : Text.replace '\n' ['\r', '\n'] "\n\ta \n".toList = "\r\n\ta \r\n".toList := by
      decide
    refine ⟨text, tidied, reached, ?_, ?_⟩
    · exact (Except.ok.inj tidied).symm
    · rw [← written]
      exact returned (by decide) _ List.mem_cons_self
  · exact (tidying_is_projection ⟨.python, 1180591620717411303424, []⟩ []).2 (by decide) ['x']

end Listing

end PageMarkup
