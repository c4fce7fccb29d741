import Mathlib.Algebra.BigOperators.Group.Finset.Basic

/-!
# Cutting a list into pieces of bounded size

A sender that may put at most `cap k` elements into its `k`-th packet cuts
its data greedily: full pieces while more than one piece is left, then the
rest. `Cut cap xs ps` says that `ps` is that cut of `xs`. It is a relation,
not a function: it follows the sender's loop one packet at a time, and the
capacities may be known only as the loop goes.

The results are the round trip (`Cut.flatten`), the size of each piece
(`Cut.length_le`) and the number of pieces (`Cut.length_le_iff`).
-/

namespace Chunks

open List

variable {α : Type*}

def shift (cap : ℕ → ℕ) : ℕ → ℕ := fun k => cap (k + 1)

@[simp] theorem shift_apply (cap : ℕ → ℕ) (k : ℕ) : shift cap k = cap (k + 1) := rfl

inductive Cut : (ℕ → ℕ) → List α → List (List α) → Prop where
  | last {cap : ℕ → ℕ} {xs : List α} (h : xs.length ≤ cap 0) : Cut cap xs [xs]
  | more {cap : ℕ → ℕ} {xs : List α} {ps : List (List α)} (h : cap 0 < xs.length)
      (hrest : Cut (shift cap) (xs.drop (cap 0)) ps) :
      Cut cap xs (xs.take (cap 0) :: ps)

namespace Cut

variable {cap : ℕ → ℕ} {xs : List α} {ps : List (List α)}

theorem ne_nil (h : Cut cap xs ps) : ps ≠ [] := by
  cases h <;> exact cons_ne_nil _ _

theorem flatten (h : Cut cap xs ps) : ps.flatten = xs := by
  induction h with
  | last h => simp
  | more h _ ih => rw [flatten_cons, ih, take_append_drop]

theorem length_le (h : Cut cap xs ps) {k : ℕ} {p : List α} (hk : ps[k]? = some p) :
    p.length ≤ cap k := by
  induction h generalizing k with
  | last h =>
    cases k with
    | zero =>
      cases hk
      exact h
    | succ k => simp at hk
  | more h _ ih =>
    cases k with
    | zero =>
      cases hk
      exact length_take_le _ _
    | succ k => exact ih hk

theorem length_le_iff (h : Cut cap xs ps) {n : ℕ} (hn : 0 < n) :
    ps.length ≤ n ↔ xs.length ≤ ∑ k ∈ Finset.range n, cap k := by
  induction h generalizing n with
  | last h =>
    obtain ⟨m, rfl⟩ := Nat.exists_eq_succ_of_ne_zero hn.ne'
    rw [Finset.sum_range_succ']
    refine iff_of_true ?_ (h.trans (Nat.le_add_left _ _))
    simp
  | @more cap xs ps h hrest ih =>
    obtain ⟨m, rfl⟩ := Nat.exists_eq_succ_of_ne_zero hn.ne'
    rw [Finset.sum_range_succ', length_cons, Nat.succ_eq_add_one, Nat.add_le_add_iff_right]
    rcases Nat.eq_zero_or_pos m with rfl | hm
    · -- one packet holds `cap 0` elements only, and there are more
      have hps := length_pos_iff.mpr hrest.ne_nil
      simp only [Finset.range_zero, Finset.sum_empty]
      omega
    · rw [ih hm, length_drop]
      simp only [shift_apply]
      omega

end Cut

end Chunks
