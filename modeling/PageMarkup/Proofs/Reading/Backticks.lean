import PageMarkup.Token.Read

/-! # Doubled backticks

Where backticks are enabled, a literal backtick is written twice. A text whose backticks have been
doubled is one run, and halving them gives the text back. -/

namespace PageMarkup.Text

variable {stops : Char → Bool} {backticks : Bool} {text : Text}

/-! ## Halving -/

theorem halveBackticks_of_not_mem (h : '`' ∉ text) : halveBackticks text = text := by
  fun_induction halveBackticks text with
  | case1 => rfl
  | case2 text ih => simp at h
  | case3 c text single ih => rw [ih fun mem => h (List.mem_cons_of_mem c mem)]

theorem halveBackticks_ne_nil (nonempty : text ≠ []) : halveBackticks text ≠ [] := by
  fun_cases halveBackticks text with
  | case1 => exact absurd rfl nonempty
  | case2 => exact List.cons_ne_nil _ _
  | case3 => exact List.cons_ne_nil _ _

theorem length_halveBackticks_le (text : Text) :
    (halveBackticks text).length ≤ text.length := by
  fun_induction halveBackticks text with
  | case1 => exact Nat.le_refl 0
  | case2 text ih =>
      simp only [List.length_cons]
      omega
  | case3 c text single ih => exact Nat.succ_le_succ ih

theorem mem_of_mem_halveBackticks {c : Char} (mem : c ∈ halveBackticks text) :
    c ∈ text := by
  fun_induction halveBackticks text with
  | case1 => cases mem
  | case2 text ih =>
      rcases List.mem_cons.mp mem with rfl | mem
      · exact List.mem_cons_self
      · exact List.mem_cons_of_mem _ (List.mem_cons_of_mem _ (ih mem))
  | case3 d text _ ih =>
      rcases List.mem_cons.mp mem with rfl | mem
      · exact List.mem_cons_self
      · exact List.mem_cons_of_mem _ (ih mem)

/-- Halving changes exactly the texts with two backticks in a row. -/
theorem halveBackticks_eq_self_iff : halveBackticks text = text ↔ ¬ ['`', '`'] <:+: text := by
  fun_induction halveBackticks text with
  | case1 => simp
  | case2 text ih =>
      have shorter := length_halveBackticks_le text
      have double : ['`', '`'] <:+: '`' :: '`' :: text := ⟨[], text, rfl⟩
      refine iff_of_false (fun same => ?_) (fun none => none double)
      have lengths := congrArg List.length same
      simp only [List.length_cons] at lengths
      omega
  | case3 c text single ih =>
      have later : ['`', '`'] <:+: c :: text ↔ ['`', '`'] <:+: text := by
        rw [List.infix_cons_iff]
        refine or_iff_right fun begins => ?_
        obtain ⟨rest, same⟩ := begins
        obtain ⟨rfl, rfl⟩ := List.cons.inj same
        exact single rest rfl rfl
      rw [later, ← ih, List.cons.injEq, and_iff_right rfl]

/-! ## Doubling -/

/-- The text with every backtick written twice. -/
def doubleBackticks (text : Text) : Text := replace '`' ['`', '`'] text

theorem doubleBackticks_cons_tick (text : Text) :
    doubleBackticks ('`' :: text) = '`' :: '`' :: doubleBackticks text := rfl

theorem doubleBackticks_cons {c : Char} (other : c ≠ '`') (text : Text) :
    doubleBackticks (c :: text) = c :: doubleBackticks text := by
  simp [doubleBackticks, replace, other]

theorem halveBackticks_cons {c : Char} (other : c ≠ '`') (text : Text) :
    halveBackticks (c :: text) = c :: halveBackticks text :=
  halveBackticks.eq_3 c text fun _ tick _ => other tick

theorem halveBackticks_doubleBackticks (text : Text) :
    halveBackticks (doubleBackticks text) = text := by
  induction text with
  | nil => rfl
  | cons c text ih =>
      by_cases tick : c = '`'
      · rw [tick, doubleBackticks_cons_tick, halveBackticks, ih]
      · rw [doubleBackticks_cons tick, halveBackticks_cons tick, ih]

/-! ## Runs -/

theorem stops_of_mem_run {c : Char} (mem : c ∈ (run stops backticks text).1) :
    stops c = false := by
  fun_induction run stops backticks text with
  | case1 | case2 | case3 | case5 => cases mem
  | case4 d plain tick text ih =>
      have plain : stops d = false := by simpa using plain
      obtain ⟨-, rfl⟩ : backticks = true ∧ d = '`' := by simpa using tick
      rcases List.mem_cons.mp mem with rfl | mem
      · exact plain
      rcases List.mem_cons.mp mem with rfl | mem
      · exact plain
      · exact ih mem
  | case6 d text plain tick ih =>
      rcases List.mem_cons.mp mem with rfl | mem
      · simpa using plain
      · exact ih mem

/-- A run is one run by itself. -/
theorem run_run (stops : Char → Bool) (backticks : Bool) (text : Text) :
    run stops backticks (run stops backticks text).1 = ((run stops backticks text).1, []) := by
  fun_induction run stops backticks text with
  | case4 c plain tick text ih => simp [run, plain, tick, ih]
  | case6 c text plain tick ih =>
      rw [run_of_plain (by simpa using plain) (by rw [Bool.and_comm]; simpa using tick), ih]
  | _ => rfl

theorem run_doubleBackticks (plain : ∀ c ∈ text, stops c = false) :
    run stops true (doubleBackticks text) = (doubleBackticks text, []) := by
  induction text with
  | nil => rfl
  | cons c text ih =>
      have first := plain c List.mem_cons_self
      have inner := ih fun d mem => plain d (List.mem_cons_of_mem c mem)
      by_cases tick : c = '`'
      · rw [tick] at first ⊢
        simp [doubleBackticks_cons_tick, run, first, inner]
      · rw [doubleBackticks_cons tick, run_of_plain first (by simp [tick]), inner]

end PageMarkup.Text
