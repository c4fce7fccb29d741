import Mathlib.Data.List.Basic

/-!
# Flat buffers

A block of memory as a list of cells, written and read at offsets. A write
that does not lie within the block has no result. `read_write_self` and
`read_write_of_disjoint` say what a write does to the regions read later, and
`writeFrom` is the loop that writes one piece after the other, each into a slot of
its own.
-/

namespace FlatBuffer

open List Option

variable {α : Type*} {buf buf' : List α} {off : Nat} {xs : List α}

def write (buf : List α) (off : Nat) (xs : List α) : Option (List α) :=
  if off + xs.length ≤ buf.length then
    some (buf.take off ++ xs ++ buf.drop (off + xs.length))
  else none

def read (buf : List α) (off n : Nat) : List α := (buf.drop off).take n

theorem length_read {n : Nat} (h : off + n ≤ buf.length) : (read buf off n).length = n := by
  rw [read, length_take, length_drop]
  omega

theorem write_isSome_iff : (write buf off xs).isSome ↔ off + xs.length ≤ buf.length := by
  unfold write
  split <;> simp_all

theorem exists_write (h : off + xs.length ≤ buf.length) : ∃ buf', write buf off xs = some buf' :=
  isSome_iff_exists.mp (write_isSome_iff.mpr h)

theorem length_write (h : write buf off xs = some buf') : buf'.length = buf.length := by
  unfold write at h
  split at h
  next hfit =>
    cases h
    simp only [length_append, length_take, length_drop]
    omega
  · cases h

theorem getElem?_write (h : write buf off xs = some buf') (j : Nat) :
    buf'[j]? = if off ≤ j ∧ j < off + xs.length then xs[j - off]? else buf[j]? := by
  unfold write at h
  split at h
  next hfit =>
    cases h
    have htake : (buf.take off).length = off := by
      rw [length_take]
      omega
    rcases Nat.lt_or_ge j off with hj | hj
    · rw [if_neg (by omega), append_assoc, getElem?_append_left (by omega), getElem?_take_of_lt hj]
    · rcases Nat.lt_or_ge j (off + xs.length) with hj' | hj'
      · rw [if_pos ⟨hj, hj'⟩, append_assoc, getElem?_append_right (by omega),
          htake, getElem?_append_left (by omega)]
      · rw [if_neg (by omega), getElem?_append_right (by simp; omega),
          length_append, htake, getElem?_drop]
        congr 1
        omega
  · cases h

theorem getElem?_read {n j : Nat} :
    (read buf off n)[j]? = if j < n then buf[off + j]? else none := by
  rw [read, getElem?_take, getElem?_drop]

theorem read_write_self (h : write buf off xs = some buf') : read buf' off xs.length = xs := by
  apply ext_getElem?
  intro j
  rw [getElem?_read, getElem?_write h]
  split
  next hj => rw [if_pos ⟨by omega, by omega⟩, Nat.add_sub_cancel_left]
  next hj => exact (getElem?_eq_none (by omega)).symm

theorem read_write_of_disjoint (h : write buf off xs = some buf') {off' n : Nat}
    (hdis : off' + n ≤ off ∨ off + xs.length ≤ off') : read buf' off' n = read buf off' n := by
  apply ext_getElem?
  intro j
  rw [getElem?_read, getElem?_read, getElem?_write h]
  split
  next hj => rw [if_neg (by omega)]
  · rfl

/-! ## Writing pieces in a row -/

def writeFrom (n off : Nat) : Nat → List (List α) → List α → Option (List α)
  | _, [], buf => some buf
  | i, xs :: rest, buf => (write buf (i * n + off) xs).bind (writeFrom n off (i + 1) rest)

variable {pieces : List (List α)} {i n : Nat}

theorem length_writeFrom (h : writeFrom n off i pieces buf = some buf') :
    buf'.length = buf.length := by
  induction pieces generalizing i buf with
  | nil =>
    cases h
    rfl
  | cons xs rest ih =>
    obtain ⟨buf₁, hwrite, hrest⟩ := bind_eq_some_iff.mp h
    rw [ih hrest, length_write hwrite]

theorem read_writeFrom_of_disjoint (h : writeFrom n off i pieces buf = some buf')
    {off' m : Nat}
    (hdis : ∀ k xs, pieces[k]? = some xs →
      off' + m ≤ (i + k) * n + off ∨ (i + k) * n + off + xs.length ≤ off') :
    read buf' off' m = read buf off' m := by
  induction pieces generalizing i buf with
  | nil =>
    cases h
    rfl
  | cons xs rest ih =>
    obtain ⟨buf₁, hwrite, hrest⟩ := bind_eq_some_iff.mp h
    rw [ih hrest, read_write_of_disjoint hwrite (hdis 0 xs rfl)]
    intro k ys hys
    have := hdis (k + 1) ys hys
    rwa [← Nat.add_assoc, Nat.add_right_comm] at this

theorem read_writeFrom_front (h : writeFrom n off i pieces buf = some buf')
    (hfit : ∀ xs ∈ pieces, off + xs.length ≤ n) {m : Nat} (hm : m ≤ off) (j : Nat) :
    read buf' (j * n) m = read buf (j * n) m := by
  refine read_writeFrom_of_disjoint h fun k xs hxs => ?_
  have hxs := hfit xs (mem_of_getElem? hxs)
  rcases Nat.lt_or_ge (i + k) j with hlt | hge
  · right
    have hle := Nat.mul_le_mul_right n hlt
    rw [Nat.succ_mul] at hle
    omega
  · left
    have hle := Nat.mul_le_mul_right n hge
    omega

theorem exists_writeFrom {β : Type*} {f : β → List α} {l : List β} {len : Nat}
    (hlen : ∀ a ∈ l, (f a).length = len) (hfit : len ≤ n) (off : Nat) (buf : List α)
    (hroom : ∀ k < l.length, (i + k) * n + off + len ≤ buf.length) :
    ∃ buf', writeFrom n off i (l.map f) buf = some buf'
      ∧ ∀ k a, l[k]? = some a → read buf' ((i + k) * n + off) len = f a := by
  induction l generalizing i buf with
  | nil => exact ⟨buf, rfl, nofun⟩
  | cons a rest ih =>
    obtain ⟨ha, hrest⟩ := forall_mem_cons.mp hlen
    have hfirst : i * n + off + (f a).length ≤ buf.length := ha ▸ hroom 0 (Nat.succ_pos _)
    obtain ⟨buf₁, hwrite⟩ := exists_write hfirst
    have hroom' : ∀ k < rest.length, (i + 1 + k) * n + off + len ≤ buf₁.length := by
      intro k hk
      rw [length_write hwrite, Nat.add_assoc i 1 k, Nat.add_comm 1 k]
      exact hroom (k + 1) (Nat.succ_lt_succ hk)
    obtain ⟨buf', hmore, hread⟩ := ih hrest _ hroom'
    refine ⟨buf', ?_, fun k b hb => ?_⟩
    · rw [map_cons, writeFrom, hwrite]
      exact hmore
    · cases k with
      | zero =>
        cases hb
        rw [read_writeFrom_of_disjoint hmore]
        · rw [← ha]
          exact read_write_self hwrite
        · intro k zs hzs
          left
          rw [Nat.add_zero, Nat.add_assoc i 1 k, Nat.add_mul, Nat.add_mul]
          omega
      | succ k =>
        have := hread k b hb
        rwa [Nat.add_assoc i 1 k, Nat.add_comm 1 k] at this

theorem writeFrom_eq_none {k : Nat} (hk : pieces[k]? = some xs)
    (hout : buf.length < (i + k) * n + off + xs.length) :
    writeFrom n off i pieces buf = none := by
  induction pieces generalizing i k buf with
  | nil => cases hk
  | cons ys rest ih =>
    rw [writeFrom, bind_eq_none_iff]
    intro buf₁ hwrite
    cases k with
    | zero =>
      cases hk
      have := write_isSome_iff.mp (isSome_of_eq_some hwrite)
      rw [Nat.add_zero] at hout
      omega
    | succ k =>
      refine ih hk ?_
      rw [length_write hwrite, Nat.add_assoc i 1 k, Nat.add_comm 1 k]
      exact hout

theorem map_range_eq_map {α β : Type} {f : Nat → β} {g : α → β} {l : List α}
    (h : ∀ i a, l[i]? = some a → f i = g a) : (List.range l.length).map f = l.map g := by
  refine ext_getElem (by simp) fun i hi hi' => ?_
  rw [getElem_map, getElem_map, getElem_range]
  exact h i _ (getElem?_eq_getElem (by simpa using hi'))

theorem read_append_flatten (pre post : List α) (pieces : List (List α))
    (hlen : ∀ ys ∈ pieces, ys.length = n) {k : Nat} (hk : pieces[k]? = some xs) :
    read (pre ++ (pieces.flatten ++ post)) (pre.length + k * n) n = xs := by
  induction pieces generalizing k pre with
  | nil => cases hk
  | cons ys rest ih =>
    have hys := hlen ys mem_cons_self
    rw [flatten_cons, append_assoc]
    cases k with
    | zero =>
      cases hk
      rw [read, Nat.zero_mul, Nat.add_zero, drop_left, ← hys, take_left]
    | succ k =>
      have hrest := ih (pre ++ ys) (fun zs hzs => hlen zs (mem_cons_of_mem _ hzs)) hk
      rwa [length_append, hys, append_assoc, Nat.add_assoc, Nat.add_comm n, ← Nat.succ_mul] at hrest

theorem read_flatten (hlen : ∀ ys ∈ pieces, ys.length = n) {k : Nat}
    (hk : pieces[k]? = some xs) : read pieces.flatten (k * n) n = xs := by
  have hread := read_append_flatten [] [] pieces hlen hk
  rwa [nil_append, append_nil, length_nil, Nat.zero_add] at hread

end FlatBuffer
