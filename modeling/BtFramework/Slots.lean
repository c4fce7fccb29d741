import Mathlib.Data.List.Basic

/-!
# Arrays filled by a counter

A C array of fixed capacity with a counter of the cells in use: the next free cell is
handed out by incrementing the counter and is then written, possibly only in part, so a
new entry may keep what the cell held before. Resetting the counter leaves the cells as
they are.
-/

structure Slots (α : Type) where
  cell : Nat → α
  size : Nat

variable {α : Type}

namespace Slots

def live (s : Slots α) : List α :=
  (List.range s.size).map s.cell

def push (fill : α → α) (s : Slots α) : Slots α where
  cell := Function.update s.cell s.size (fill (s.cell s.size))
  size := s.size + 1

def clear (s : Slots α) : Slots α :=
  { s with size := 0 }

variable (fill : α → α) (s : Slots α)

@[simp] theorem size_push : (s.push fill).size = s.size + 1 :=
  rfl

@[simp] theorem size_clear (s : Slots α) : s.clear.size = 0 := rfl

@[simp] theorem length_live (s : Slots α) : s.live.length = s.size := by
  simp [live]

@[simp] theorem live_clear (s : Slots α) : s.clear.live = [] := rfl

theorem live_push : (s.push fill).live = s.live ++ [fill (s.cell s.size)] := by
  have hsame : (List.range s.size).map (Function.update s.cell s.size (fill (s.cell s.size)))
      = (List.range s.size).map s.cell := by
    apply List.map_congr_left
    intro i hi
    exact Function.update_of_ne (Nat.ne_of_lt (List.mem_range.mp hi)) _ _
  simp [live, push, List.range_succ, hsame]

theorem cell_of_live {s : Slots α} {i : Nat} {a : α} (h : s.live[i]? = some a) : s.cell i = a := by
  obtain ⟨hi, hget⟩ := List.getElem?_eq_some_iff.mp h
  simpa [live] using hget

end Slots
