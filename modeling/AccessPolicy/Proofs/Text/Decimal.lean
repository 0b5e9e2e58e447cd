import Mathlib.Data.List.TakeWhile
import Mathlib.Tactic.IntervalCases

/-!
# Runs of characters and decimal digits

A run of characters of one kind extends up to the first character of another
kind.  The digits of a number are such a run, and begin with no needless zero.
-/

namespace AccessPolicy.Text

section

variable {isKind : Char → Bool} {run rest later : List Char} {mark : Char}

theorem takeWhile_run (hrun : ∀ c ∈ run, isKind c = true)
    (hrest : ∀ c ∈ rest.head?, isKind c = false) :
    (run ++ rest).takeWhile isKind = run := by
  rw [List.takeWhile_append_of_pos hrun]
  cases rest with
  | nil => exact List.append_nil run
  | cons c later =>
      have hc : ¬isKind c = true := by simp [hrest c rfl]
      rw [List.takeWhile_cons_of_neg hc, List.append_nil]

theorem dropWhile_run (hrun : ∀ c ∈ run, isKind c = true)
    (hrest : ∀ c ∈ rest.head?, isKind c = false) :
    (run ++ rest).dropWhile isKind = rest := by
  rw [List.dropWhile_append_of_pos hrun]
  cases rest with
  | nil => rfl
  | cons c later =>
      have hc : ¬isKind c = true := by simp [hrest c rfl]
      exact List.dropWhile_cons_of_neg hc

/-- A text that begins with a run begins with no mark of another kind. -/
theorem run_append_ne (hrun : ∀ c ∈ run, isKind c = true) (hne : run ≠ [])
    (hmark : isKind mark = false) : run ++ rest ≠ mark :: later := by
  intro htext
  cases run with
  | nil => exact hne rfl
  | cons c more =>
      obtain ⟨rfl, -⟩ := List.cons.inj htext
      rw [hrun _ List.mem_cons_self] at hmark
      cases hmark

end

theorem isDigit_of_mem_digits {value : Nat} {c : Char}
    (hc : c ∈ Nat.toDigits 10 value) : c.isDigit = true :=
  Nat.isDigit_of_mem_toDigits (by decide) (by decide) hc

/-- The digits of a number begin with no zero, unless the number is zero. -/
theorem head?_toDigits {value : Nat} (hvalue : value ≠ 0) :
    (Nat.toDigits 10 value).head? ≠ some '0' := by
  induction value using Nat.strongRecOn with
  | ind value ih =>
      by_cases hsmall : value < 10
      · rw [Nat.toDigits_of_lt_base hsmall]
        interval_cases value
        · exact absurd rfl hvalue
        all_goals decide
      · rw [Nat.toDigits_of_base_le (by decide) (Nat.not_lt.1 hsmall),
          List.head?_append,
          Option.or_of_isSome (List.isSome_head?.2 Nat.toDigits_ne_nil)]
        exact ih (value / 10)
          (Nat.div_lt_self (by omega) (by decide)) (by omega)

/-- No digit follows a leading zero. -/
theorem eq_nil_of_toDigits {value : Nat} {later : List Char}
    (hdigits : Nat.toDigits 10 value = '0' :: later) : later = [] := by
  by_cases hvalue : value = 0
  · subst hvalue
    exact (List.cons.inj hdigits).2.symm
  · exact absurd (congrArg List.head? hdigits) (head?_toDigits hvalue)

end AccessPolicy.Text
