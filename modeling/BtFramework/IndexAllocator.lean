import Mathlib.Data.List.Nodup

/-!
# The index allocator

`index_allocator.c` hands out small numbers, up to `id_max` included. A bit map says which are
taken, and `id_next` is where the next search begins. Freeing a number that is not taken, which
the source excludes by an assertion, leaves the list as it is.
-/

namespace BtFramework

/-- The bit map is the list of the numbers taken. -/
structure IndexAllocator where
  idMax : Nat
  idNext : Nat
  taken : List Nat

namespace IndexAllocator

def create (max : Nat) : IndexAllocator := { idMax := max, idNext := 0, taken := [] }

def bump (a : IndexAllocator) (minor : Nat) : Nat := if a.idMax ≤ minor then 0 else minor + 1

def search (a : IndexAllocator) : Nat → Nat → Option Nat
  | 0, _ => none
  | rounds + 1, minor =>
    if minor ∈ a.taken then a.search rounds (a.bump minor) else some minor

def indexAlloc (a : IndexAllocator) : Option Nat × IndexAllocator :=
  match a.search (a.idMax + 1) a.idNext with
  | some id => (some id, { a with taken := id :: a.taken, idNext := a.bump id })
  | none => (none, a)

def indexFree (a : IndexAllocator) (id : Nat) : IndexAllocator :=
  { a with
    taken := a.taken.erase id
    idNext := if id < a.idNext then id else a.idNext }

theorem search_notMem {a : IndexAllocator} {rounds minor id : Nat}
    (h : a.search rounds minor = some id) : id ∉ a.taken := by
  induction rounds generalizing minor with
  | zero => cases h
  | succ rounds ih =>
    rw [search] at h
    split at h
    · exact ih h
    next hfree =>
      cases h
      exact hfree

theorem indexAlloc_some {a a' : IndexAllocator} {id : Nat} (h : a.indexAlloc = (some id, a')) :
    id ∉ a.taken ∧ a'.taken = id :: a.taken := by
  rw [indexAlloc] at h
  split at h
  next found hfound =>
    obtain ⟨hid, rfl⟩ := Prod.mk.inj h
    cases hid
    exact ⟨search_notMem hfound, rfl⟩
  · obtain ⟨hid, -⟩ := Prod.mk.inj h
    cases hid

theorem indexAlloc_none {a a' : IndexAllocator} (h : a.indexAlloc = (none, a')) : a' = a := by
  rw [indexAlloc] at h
  split at h
  · cases h
  · cases h
    rfl

/-! ## Calls

What a user of an allocator asks of it, with the answers. -/

/-- A call with its answer. -/
inductive Call where
  | alloc (id : Option Nat)
  | free (id : Nat)

/-- The calls, made in turn, have these answers; only what is taken is freed. -/
inductive Answers : IndexAllocator → List Call → IndexAllocator → Prop where
  | nil (a : IndexAllocator) : Answers a [] a
  | alloc {a a' a'' : IndexAllocator} {id : Option Nat} {calls : List Call}
      (h : a.indexAlloc = (id, a')) (hrest : Answers a' calls a'') :
      Answers a (.alloc id :: calls) a''
  | free {a a'' : IndexAllocator} {id : Nat} {calls : List Call} (h : id ∈ a.taken)
      (hrest : Answers (a.indexFree id) calls a'') : Answers a (.free id :: calls) a''

variable {a a' a'' : IndexAllocator} {calls calls' : List Call}

theorem Answers.append (h : Answers a calls a') (h' : Answers a' calls' a'') :
    Answers a (calls ++ calls') a'' := by
  induction h with
  | nil a => exact h'
  | alloc halloc _ ih => exact .alloc halloc (ih h')
  | free hfree _ ih => exact .free hfree (ih h')

def Call.handedOut : Call → Option Nat
  | .alloc id => id
  | .free _ => none

def Call.freed : Call → Option Nat
  | .alloc _ => none
  | .free id => some id

theorem Answers.perm (h : Answers a calls a') :
    (calls.filterMap Call.handedOut ++ a.taken).Perm (calls.filterMap Call.freed ++ a'.taken) := by
  induction h with
  | nil a => exact .refl _
  | @alloc a a' _ found calls halloc _ ih =>
    cases found with
    | none => rwa [indexAlloc_none halloc] at ih
    | some found =>
      rw [(indexAlloc_some halloc).2] at ih
      exact List.perm_middle.symm.trans ih
  | @free a _ freed calls hfree _ ih =>
    have htaken : a.taken.Perm (freed :: (a.indexFree freed).taken) := List.perm_cons_erase hfree
    exact (htaken.append_left _).trans (List.perm_middle.trans (ih.cons freed))

/-! ## The smallest free number -/

/-- Nothing below the place where the next search begins is free. -/
structure Packed (a : IndexAllocator) : Prop where
  next : a.idNext ≤ a.idMax
  below : ∀ j < a.idNext, j ∈ a.taken
  nodup : a.taken.Nodup
  bound : ∀ id ∈ a.taken, id ≤ a.idMax

variable {minor rounds : Nat}

end IndexAllocator

end BtFramework
