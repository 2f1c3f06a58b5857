import Mathlib.Data.List.Basic
import Mathlib.Data.List.TakeWhile

set_option autoImplicit false

/-! # Texts with a separator

A text that has a separator in it is cut at the first one: what stands before it has none, and with
that the two parts are told (`append_cons_inj`). A function that reads up to the separator finds
these parts (`takeWhile_append_cons`, `dropWhile_append_cons`), and reads to the end where there is
none. -/

namespace AdmissionRules.Text

variable {α : Type} {a : α} {l l' r r' : List α}

/-- Two lists that agree up to the first occurrence of a member agree before it and behind. -/
theorem append_cons_inj (hl : a ∉ l) (hl' : a ∉ l')
    (h : l ++ a :: r = l' ++ a :: r') : l = l' ∧ r = r' := by
  induction l generalizing l' with
  | nil =>
      cases l' with
      | nil => exact ⟨rfl, (List.cons.inj h).2⟩
      | cons b l' => exact absurd (List.cons.inj h).1 (List.ne_of_not_mem_cons hl')
  | cons b l ih =>
      cases l' with
      | nil => exact absurd (List.cons.inj h).1.symm (List.ne_of_not_mem_cons hl)
      | cons b' l' =>
          obtain ⟨rfl, htail⟩ := List.cons.inj h
          obtain ⟨rfl, hr⟩ :=
            ih (List.not_mem_of_not_mem_cons hl) (List.not_mem_of_not_mem_cons hl') htail
          exact ⟨rfl, hr⟩

/-- Two lists that agree from the last occurrence of a member agree before it and behind. -/
theorem append_cons_inj_of_last (hr : a ∉ r) (hr' : a ∉ r')
    (h : l ++ a :: r = l' ++ a :: r') : l = l' ∧ r = r' := by
  have hreverse : r.reverse ++ a :: l.reverse = r'.reverse ++ a :: l'.reverse := by
    simpa using congrArg List.reverse h
  obtain ⟨hr, hl⟩ :=
    append_cons_inj (mt List.mem_reverse.1 hr) (mt List.mem_reverse.1 hr') hreverse
  exact ⟨List.reverse_injective hl, List.reverse_injective hr⟩

/-! ## Reading up to a separator -/

variable [DecidableEq α]

theorem forall_ne_of_not_mem (h : a ∉ l) : ∀ b ∈ l, decide (b ≠ a) = true := by
  intro b hb
  rw [decide_eq_true_iff]
  rintro rfl
  exact h hb

theorem takeWhile_of_not_mem (h : a ∉ l) : l.takeWhile (· ≠ a) = l :=
  List.takeWhile_eq_self_iff.2 (forall_ne_of_not_mem h)

theorem dropWhile_of_not_mem (h : a ∉ l) : l.dropWhile (· ≠ a) = [] :=
  List.dropWhile_eq_nil_iff.2 (forall_ne_of_not_mem h)

theorem takeWhile_append_cons (h : a ∉ l) : (l ++ a :: r).takeWhile (· ≠ a) = l := by
  rw [List.takeWhile_append_of_pos (forall_ne_of_not_mem h)]
  simp

theorem dropWhile_append_cons (h : a ∉ l) : (l ++ a :: r).dropWhile (· ≠ a) = a :: r := by
  rw [List.dropWhile_append_of_pos (forall_ne_of_not_mem h)]
  simp

end AdmissionRules.Text
