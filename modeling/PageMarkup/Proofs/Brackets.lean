/-! # Brackets

Which of the brackets in a row have partners is told by a grammar: a bracket and its partner enclose
a row in which all have theirs. A stack finds them out, taking one bracket after the other. -/

namespace PageMarkup

/-- A bracket, with what it tells about itself. -/
inductive Bracket (α β : Type)
  | opens (a : α)
  | closes (b : β)

namespace Bracket

/-- All brackets have partners that fit them. -/
inductive Nested {α β : Type} (fits : α → β → Prop) : List (Bracket α β) → Prop
  | nil : Nested fits []
  | pair {a b inner later} (partner : fits a b) (inside : Nested fits inner)
      (behind : Nested fits later) : Nested fits (.opens a :: (inner ++ .closes b :: later))

/-- All closing brackets have partners that fit them. The opening ones that have none are left,
innermost first. -/
inductive Leaves {α β : Type} (fits : α → β → Prop) : List (Bracket α β) → List α → Prop
  | nested {brackets} (all : Nested fits brackets) : Leaves fits brackets []
  | opens {earlier a inner outer} (before : Leaves fits earlier outer)
      (inside : Nested fits inner) : Leaves fits (earlier ++ .opens a :: inner) (a :: outer)

variable {α β : Type} {fits : α → β → Prop} {brackets front back : List (Bracket α β)}
  {left : List α} {a : α} {b : β}

theorem Nested.append (first : Nested fits front) (second : Nested fits back) :
    Nested fits (front ++ back) := by
  induction first with
  | nil => exact second
  | pair partner inside _ _ ih =>
      rw [List.cons_append, List.append_assoc, List.cons_append]
      exact .pair partner inside ih

theorem Leaves.append_nested (earlier : Leaves fits front left) (later : Nested fits back) :
    Leaves fits (front ++ back) left := by
  cases earlier with
  | nested all => exact .nested (all.append later)
  | opens before inside =>
      rw [List.append_assoc, List.cons_append]
      exact .opens before (inside.append later)

theorem Leaves.open (earlier : Leaves fits brackets left) (a : α) :
    Leaves fits (brackets ++ [.opens a]) (a :: left) :=
  .opens earlier .nil

theorem Leaves.close (earlier : Leaves fits brackets (a :: left)) (partner : fits a b) :
    Leaves fits (brackets ++ [.closes b]) left := by
  cases earlier with
  | @opens earlier _ inner _ before inside =>
      have pair : Nested fits (.opens a :: (inner ++ [.closes b])) := .pair partner inside .nil
      rw [List.append_assoc, List.cons_append]
      exact before.append_nested pair

/-- With nothing left, all brackets have partners. -/
theorem Leaves.all_nested (leaves : Leaves fits brackets []) : Nested fits brackets := by
  cases leaves with
  | nested all => exact all

/-- What is left has been opened. -/
theorem Leaves.mem_opens (leaves : Leaves fits brackets left) (mem : a ∈ left) :
    .opens a ∈ brackets := by
  induction leaves with
  | nested => cases mem
  | opens _ _ ih =>
      rcases List.mem_cons.mp mem with rfl | mem
      · exact List.mem_append_right _ List.mem_cons_self
      · exact List.mem_append_left _ (ih mem)

/-! ## The stack -/

/-- What brackets make of a stack: an opening bracket is put on it, and a closing one takes its
partner off, which has to be on top. -/
def scan (fits : α → β → Prop) [DecidableRel fits] : List α → List (Bracket α β) → Option (List α)
  | stack, [] => some stack
  | stack, .opens a :: later => scan fits (a :: stack) later
  | [], .closes _ :: _ => none
  | a :: outer, .closes b :: later => if fits a b then scan fits outer later else none

variable [DecidableRel fits]

theorem scan_append (stack : List α) (front back : List (Bracket α β)) :
    scan fits stack (front ++ back) =
      (scan fits stack front).bind fun stack => scan fits stack back := by
  fun_induction scan fits stack front with
  | case1 stack => rfl
  | case2 stack a later ih => exact ih
  | case3 => rfl
  | case4 a outer b later partner ih => rw [List.cons_append, scan, if_pos partner, ih]
  | case5 a outer b later other =>
      rw [List.cons_append, scan, if_neg other]
      rfl

/-- Brackets that all have partners leave every stack as it is. -/
theorem Nested.scan_append (nested : Nested fits brackets) (stack : List α)
    (later : List (Bracket α β)) :
    scan fits stack (brackets ++ later) = scan fits stack later := by
  induction nested generalizing stack later with
  | nil => rfl
  | pair partner _ _ inner behind =>
      rw [List.cons_append, List.append_assoc, List.cons_append, scan, inner, scan,
        if_pos partner, behind]

theorem Leaves.scan_eq (leaves : Leaves fits brackets left) :
    scan fits [] brackets = some left := by
  induction leaves with
  | nested all =>
      have kept := all.scan_append [] []
      rwa [List.append_nil] at kept
  | @opens earlier a inner outer _ inside ih =>
      have kept := inside.scan_append (a :: outer) []
      rw [List.append_nil] at kept
      rw [Bracket.scan_append, ih, Option.bind_some, scan, kept, scan]

/-- Which opening brackets are left is determined. -/
theorem Leaves.unique {other : List α} (one : Leaves fits brackets left)
    (two : Leaves fits brackets other) : left = other :=
  Option.some.inj (one.scan_eq.symm.trans two.scan_eq)

/-- Behind brackets that all have partners, no closing bracket finds one. -/
theorem Nested.not_leaves_closes (nested : Nested fits front) :
    ¬ Leaves fits (front ++ .closes b :: back) left := by
  intro leaves
  have found := leaves.scan_eq
  rw [nested.scan_append, scan] at found
  cases found

end Bracket

end PageMarkup
