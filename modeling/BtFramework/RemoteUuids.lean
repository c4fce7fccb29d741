import Mathlib.Data.List.Basic
import BtFramework.BtUuid

/-!
# The UUIDs of a remote device

`device_set_uuids` keeps the old list if the new one is as long and the loop over it ends with
the flag `update` cleared. The flag is set anew for each UUID, so that it says in the end only
whether the last one is known.
-/

namespace BtFramework

open List

namespace Uuid

def Covers (us vs : List Uuid) : Prop := ∀ u ∈ us, ∃ v ∈ vs, u.same v = true
deriving Decidable

/-- The lists have the same UUIDs, whatever their sizes. -/
def SameSet (us vs : List Uuid) : Prop := Covers us vs ∧ Covers vs us
deriving Decidable

theorem sameSet_refl (us : List Uuid) : SameSet us us :=
  ⟨fun u hu => ⟨u, hu, same_self u⟩, fun u hu => ⟨u, hu, same_self u⟩⟩

end Uuid

open Uuid

def updateFlag (stored new : List Uuid) : Bool :=
  new.foldl (fun _ u => !stored.any (u.same ·)) true

/-- The list kept, and whether it is new. -/
def deviceSetUuids (stored new : List Uuid) : List Uuid × Bool :=
  if stored.length = 0 then (new, true)
  else
    let update := if stored.length = new.length then updateFlag stored new else true
    if update then (new, true) else (stored, false)

theorem updateFlag_eq_false_iff {stored new : List Uuid} :
    updateFlag stored new = false ↔ ∃ u, new.getLast? = some u ∧ ∃ v ∈ stored, u.same v = true := by
  rcases eq_nil_or_concat new with rfl | ⟨front, u, rfl⟩
  · exact iff_of_false Bool.noConfusion fun ⟨u, hu, _⟩ => Option.some_ne_none u hu.symm
  · rw [updateFlag, concat_eq_append, foldl_append, getLast?_concat]
    show (!stored.any (u.same ·)) = false ↔ _
    rw [Bool.not_eq_false', any_eq_true]
    exact ⟨fun h => ⟨u, rfl, h⟩, fun ⟨u', hu', h⟩ => Option.some.inj hu' ▸ h⟩

theorem deviceSetUuids_cases (stored new : List Uuid) :
    (deviceSetUuids stored new = (stored, false) ∧ stored.length = new.length
        ∧ ∃ u, new.getLast? = some u ∧ ∃ v ∈ stored, u.same v = true)
      ∨ (deviceSetUuids stored new = (new, true) ∧ ¬(stored.length = new.length
        ∧ ∃ u, new.getLast? = some u ∧ ∃ v ∈ stored, u.same v = true)) := by
  rw [deviceSetUuids]
  split
  next hnil =>
    refine Or.inr ⟨rfl, ?_⟩
    rintro ⟨-, u, -, v, hv, -⟩
    rw [length_eq_zero_iff.mp hnil] at hv
    exact absurd hv not_mem_nil
  · by_cases hlen : stored.length = new.length
    · simp only [if_pos hlen]
      cases hflag : updateFlag stored new with
      | false => exact Or.inl ⟨rfl, hlen, updateFlag_eq_false_iff.mp hflag⟩
      | true =>
        refine Or.inr ⟨rfl, fun hkept => ?_⟩
        rw [updateFlag_eq_false_iff.mpr hkept.2] at hflag
        exact Bool.noConfusion hflag
    · simp only [if_neg hlen]
      exact Or.inr ⟨rfl, fun hkept => hlen hkept.1⟩

/-- Afterwards the stored list has the UUIDs of the new one, and `false` is returned only if it
already had, exactly if the lists are not just equally long with the last new UUID known. -/
theorem deviceSetUuids_right_iff (stored new : List Uuid) :
    (SameSet (deviceSetUuids stored new).1 new
        ∧ ((deviceSetUuids stored new).2 = false → SameSet stored new))
      ↔ (stored.length = new.length →
        (∃ u, new.getLast? = some u ∧ ∃ v ∈ stored, u.same v = true) → SameSet stored new) := by
  rcases deviceSetUuids_cases stored new with ⟨heq, hlen, hlast⟩ | ⟨heq, hnot⟩
  · rw [heq]
    exact ⟨fun h _ _ => h.1, fun h => ⟨h hlen hlast, fun _ => h hlen hlast⟩⟩
  · rw [heq]
    exact iff_of_true ⟨sameSet_refl new, fun hfalse => Bool.noConfusion hfalse⟩
      fun hlen hlast => absurd ⟨hlen, hlast⟩ hnot

/-- Two services are stored; one of them and a new one are discovered. -/
theorem new_service_not_stored :
    deviceSetUuids [.uuid16 0x110A, .uuid16 0x110B] [.uuid16 0x111E, .uuid16 0x110A]
        = ([.uuid16 0x110A, .uuid16 0x110B], false)
      ∧ ¬SameSet [.uuid16 0x110A, .uuid16 0x110B] [.uuid16 0x111E, .uuid16 0x110A] := by
  decide

end BtFramework
