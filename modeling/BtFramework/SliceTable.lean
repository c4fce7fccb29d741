import Mathlib.Data.List.Nodup

/-!
# Slices of a shared array

An array filled from the front by slices of different owners, and a table of slots that
say where each slice starts and how long it is. A new slice goes to the end and into a
free slot; one is taken out by moving what stands behind it down. `Lays body reg cells
slice` says that the array holds, in the order of `reg`, the bodies of the registered
owners, each described by its slot, and that all other slots are free.
-/

namespace SliceTable

open List

variable {α β : Type}

def extent (body : β → List α) (reg : List (β × Nat)) : Nat :=
  (reg.flatMap fun r => body r.1).length

structure Lays (body : β → List α) (reg : List (β × Nat)) (cells : List α)
    (slice : Nat → Option (Nat × Nat)) : Prop where
  cells_eq : cells = reg.flatMap fun r => body r.1
  used : ∀ pre b k post, reg = pre ++ (b, k) :: post →
    slice k = some (extent body pre, (body b).length)
  unused : ∀ k, k ∉ reg.map Prod.snd → slice k = none
  nodup : (reg.map Prod.snd).Nodup

def compact (start count : Nat) (cells : List α) : List α :=
  cells.take start ++ cells.drop (start + count)

def lower (start count : Nat) : Nat × Nat → Nat × Nat
  | (a, n) => if a > start then (a - count, n) else (a, n)

section Lays

variable {body : β → List α} {reg : List (β × Nat)} {cells : List α}
  {slice : Nat → Option (Nat × Nat)}

theorem extent_append (reg reg' : List (β × Nat)) :
    extent body (reg ++ reg') = extent body reg + extent body reg' := by
  simp [extent]

theorem extent_cons (b : β) (k : Nat) (reg : List (β × Nat)) :
    extent body ((b, k) :: reg) = (body b).length + extent body reg := by
  simp [extent]

theorem lays_nil (body : β → List α) : Lays body [] [] fun _ => none :=
  ⟨rfl, fun pre b k post h => by simp at h, fun _ _ => rfl, nodup_nil⟩

section

variable (h : Lays body reg cells slice)
include h

theorem Lays.length_cells : cells.length = extent body reg := by
  rw [h.cells_eq, extent]

theorem Lays.exists_split {x : Nat × Nat} {k : Nat} (hk : slice k = some x) :
    ∃ pre b post, reg = pre ++ (b, k) :: post := by
  by_contra hnot
  have hmem : k ∉ reg.map Prod.snd := by
    intro hmem
    obtain ⟨⟨b, j⟩, hb, rfl⟩ := mem_map.mp hmem
    obtain ⟨pre, post, hsplit⟩ := append_of_mem hb
    exact hnot ⟨pre, b, post, hsplit⟩
  rw [h.unused k hmem] at hk
  cases hk

theorem Lays.part_eq {pre post : List (β × Nat)} {b : β} {k : Nat}
    (hsplit : reg = pre ++ (b, k) :: post) :
    (cells.drop (extent body pre)).take (body b).length = body b := by
  rw [h.cells_eq, hsplit, flatMap_append, flatMap_cons, extent, drop_left, take_left]

theorem Lays.slice_ne_none {b : β} {k : Nat} (hmem : (b, k) ∈ reg) : slice k ≠ none := by
  obtain ⟨pre, post, hsplit⟩ := append_of_mem hmem
  rw [h.used pre b k post hsplit]
  simp

theorem Lays.append {b : β} {k : Nat} (hk : slice k = none) :
    Lays body (reg ++ [(b, k)]) (cells ++ body b)
      (Function.update slice k (some (cells.length, (body b).length))) := by
  have hnew : k ∉ reg.map Prod.snd := by
    intro hmem
    obtain ⟨⟨b', j⟩, hb, rfl⟩ := mem_map.mp hmem
    exact h.slice_ne_none hb hk
  refine ⟨?_, ?_, ?_, ?_⟩
  · rw [h.cells_eq]
    simp
  · intro pre b' j post hsplit
    rcases eq_nil_or_concat' post with rfl | ⟨post, last, rfl⟩
    · obtain ⟨hreg, heq⟩ := append_inj' hsplit rfl
      obtain ⟨rfl, rfl⟩ := Prod.mk.inj (singleton_inj.mp heq)
      rw [Function.update_self, h.length_cells, hreg]
    · rw [← cons_append, ← append_assoc] at hsplit
      obtain ⟨hreg, _⟩ := append_inj' hsplit rfl
      have hj : j ≠ k := by
        rintro rfl
        exact hnew (by rw [hreg]; simp)
      rw [Function.update_of_ne hj, h.used pre b' j post hreg]
  · intro j hj
    rw [map_append, mem_append, not_or] at hj
    have hjk : j ≠ k := by simpa using hj.2
    rw [Function.update_of_ne hjk, h.unused j hj.1]
  · rw [map_append, nodup_append]
    refine ⟨h.nodup, by simp, ?_⟩
    intro j hj j' hj' heq
    rw [map_singleton, mem_singleton] at hj'
    rw [heq, hj'] at hj
    exact hnew hj

end

theorem compact_of_split {front mid back : List α} :
    compact front.length mid.length (front ++ mid ++ back) = front ++ back := by
  have hlen : front.length + mid.length = (front ++ mid).length := by simp
  rw [compact, hlen, drop_left, append_assoc, take_left]

theorem append_split_cases {pre post pre' post' : List β} {x : β}
    (h : pre ++ post = pre' ++ x :: post') :
    (∃ mid, pre = pre' ++ x :: mid) ∨ ∃ mid, pre' = pre ++ mid ∧ post = mid ++ x :: post' := by
  rcases append_eq_append_iff.mp h with ⟨mid, hpre, hpost⟩ | ⟨mid, hpre, hpost⟩
  · exact .inr ⟨mid, hpre, hpost⟩
  · cases mid with
    | nil => exact .inr ⟨[], by simpa using hpre.symm, by simpa using hpost.symm⟩
    | cons y mid =>
      rw [cons_append, List.cons.injEq] at hpost
      exact .inl ⟨mid, hpost.1 ▸ hpre⟩

theorem Lays.remove {pre post : List (β × Nat)} {b : β} {k : Nat}
    (hbody : ∀ b, body b ≠ []) (h : Lays body reg cells slice)
    (hsplit : reg = pre ++ (b, k) :: post) :
    Lays body (pre ++ post) (compact (extent body pre) (body b).length cells)
      (fun j => if j = k then none
        else (slice j).map (lower (extent body pre) (body b).length)) := by
  have hnodup := h.nodup
  rw [hsplit, map_append, map_cons, nodup_middle, ← map_append, nodup_cons] at hnodup
  have hpos : ∀ b, 0 < (body b).length := fun b => length_pos_iff.mpr (hbody b)
  refine ⟨?_, ?_, ?_, hnodup.2⟩
  · rw [h.cells_eq, hsplit, flatMap_append, flatMap_cons, ← append_assoc, extent, compact_of_split,
      flatMap_append]
  · intro pre' b' j post' hsplit'
    have hj : j ≠ k := by
      rintro rfl
      exact hnodup.1 (by rw [hsplit']; simp)
    rw [if_neg hj]
    rcases append_split_cases hsplit' with ⟨mid, hpre⟩ | ⟨mid, hpre, hpost⟩
    · have hreg : reg = pre' ++ (b', j) :: (mid ++ (b, k) :: post) := by
        rw [hsplit, hpre]
        simp
      have hlt : extent body pre' < extent body pre := by
        have := hpos b'
        rw [hpre, extent_append, extent_cons]
        omega
      rw [h.used pre' b' j _ hreg, Option.map_some, lower, if_neg (by omega)]
    · have hreg : reg = (pre ++ (b, k) :: mid) ++ (b', j) :: post' := by
        rw [hsplit, hpost]
        simp
      have hlen := hpos b
      rw [h.used _ b' j _ hreg, Option.map_some, lower, hpre, extent_append, extent_append,
        extent_cons, if_pos (by omega)]
      congr 2
      omega
  · intro j hj
    split
    · rfl
    · have hmem : j ∉ reg.map Prod.snd := by
        rw [hsplit, map_append, map_cons, mem_append, mem_cons]
        rw [map_append, mem_append] at hj
        tauto
      rw [h.unused j hmem, Option.map_none]

end Lays

end SliceTable
