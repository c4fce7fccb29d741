import Mathlib.Data.List.Nodup
import Mathlib.Data.List.TakeWhile
import Mathlib.Tactic.Ring
import BtFramework.FlatBuffer

/-!
# Structures in memory

A declaration of a C structure is the list of its members with their sizes and
alignments, each placed at the next offset that its alignment allows, so that no two
overlap (`apart`). `get` and `put` read and write a member of a record. `convert`
fills a record member by member from one of another declaration: as bytes, as an
unsigned integer, which may change its size, or as a terminated string, which is cut
where the new member ends.
-/

namespace CStruct

open FlatBuffer List Nat

variable {μ : Type*} [DecidableEq μ]

structure Member (μ : Type*) where
  name : μ
  size : Nat
  align : Nat

structure Decl (μ : Type*) where
  members : List (Member μ)
  align : Nat

/-! ## Placing the members -/

def alignUp (n a : Nat) : Nat := n + (a - n % a) % a

theorem le_alignUp (n a : Nat) : n ≤ alignUp n a := le_add_right _ _

def offsetFrom (x : μ) : Nat → List (Member μ) → Nat
  | n, [] => n
  | n, m :: ms =>
    if m.name = x then alignUp n m.align else offsetFrom x (alignUp n m.align + m.size) ms

def endFrom : Nat → List (Member μ) → Nat
  | n, [] => n
  | n, m :: ms => endFrom (alignUp n m.align + m.size) ms

def widthIn (x : μ) : List (Member μ) → Nat
  | [] => 0
  | m :: ms => if m.name = x then m.size else widthIn x ms

def Decl.offset (d : Decl μ) (x : μ) : Nat := offsetFrom x 0 d.members

def Decl.width (d : Decl μ) (x : μ) : Nat := widthIn x d.members

/-- The size is padded to the strictest alignment. -/
def Decl.sizeof (d : Decl μ) : Nat :=
  alignUp (endFrom 0 d.members) ((d.members.map Member.align).foldl max d.align)

def Decl.names (d : Decl μ) : List μ := d.members.map Member.name

omit [DecidableEq μ] in
theorem le_endFrom (ms : List (Member μ)) (n : Nat) : n ≤ endFrom n ms := by
  induction ms generalizing n with
  | nil => exact le_refl _
  | cons m ms ih =>
    have := le_alignUp n m.align
    have := ih (alignUp n m.align + m.size)
    rw [endFrom]
    omega

theorem le_offsetFrom (x : μ) (ms : List (Member μ)) (n : Nat) : n ≤ offsetFrom x n ms := by
  induction ms generalizing n with
  | nil => exact le_refl _
  | cons m ms ih =>
    have := le_alignUp n m.align
    have := ih (alignUp n m.align + m.size)
    rw [offsetFrom]
    split <;> omega

variable {ms : List (Member μ)} {bs : List UInt8} {vals : List (μ × List UInt8)}

theorem offsetFrom_add_width_le {x : μ} (h : x ∈ ms.map Member.name) (n : Nat) :
    offsetFrom x n ms + widthIn x ms ≤ endFrom n ms := by
  induction ms generalizing n with
  | nil => cases h
  | cons m ms ih =>
    rw [offsetFrom, widthIn, endFrom]
    by_cases hx : m.name = x
    · rw [if_pos hx, if_pos hx]
      exact le_endFrom _ _
    · rw [if_neg hx, if_neg hx]
      rw [map_cons, mem_cons] at h
      exact ih (h.resolve_left fun h => hx h.symm) _

theorem Decl.offset_add_width_le {d : Decl μ} {x : μ} (h : x ∈ d.names) :
    d.offset x + d.width x ≤ d.sizeof :=
  Nat.le_trans (offsetFrom_add_width_le h 0) (le_alignUp _ _)

theorem offsetFrom_apart {x y : μ} (hne : x ≠ y) (hx : x ∈ ms.map Member.name)
    (hy : y ∈ ms.map Member.name) (n : Nat) :
    offsetFrom x n ms + widthIn x ms ≤ offsetFrom y n ms
      ∨ offsetFrom y n ms + widthIn y ms ≤ offsetFrom x n ms := by
  induction ms generalizing n with
  | nil => cases hx
  | cons m ms ih =>
    rw [map_cons, mem_cons] at hx hy
    simp only [offsetFrom, widthIn]
    by_cases hmx : m.name = x
    · have hmy : m.name ≠ y := fun h => hne (hmx.symm.trans h)
      rw [if_pos hmx, if_pos hmx, if_neg hmy]
      exact Or.inl (le_offsetFrom _ _ _)
    · by_cases hmy : m.name = y
      · rw [if_neg hmx, if_pos hmy, if_pos hmy]
        exact Or.inr (le_offsetFrom _ _ _)
      · rw [if_neg hmx, if_neg hmx, if_neg hmy, if_neg hmy]
        exact ih (hx.resolve_left fun h => hmx h.symm) (hy.resolve_left fun h => hmy h.symm) _

theorem Decl.apart {d : Decl μ} {x y : μ} (hne : x ≠ y) (hx : x ∈ d.names) (hy : y ∈ d.names) :
    d.offset x + d.width x ≤ d.offset y ∨ d.offset y + d.width y ≤ d.offset x :=
  offsetFrom_apart hne hx hy 0

theorem offsetFrom_append {x : μ} (h : x ∈ ms.map Member.name) (rest : List (Member μ)) (n : Nat) :
    offsetFrom x n (ms ++ rest) = offsetFrom x n ms ∧ widthIn x (ms ++ rest) = widthIn x ms := by
  induction ms generalizing n with
  | nil => cases h
  | cons m ms ih =>
    simp only [cons_append, offsetFrom, widthIn]
    by_cases hx : m.name = x
    · simp only [if_pos hx, and_self]
    · simp only [if_neg hx]
      rw [map_cons, mem_cons] at h
      exact ih (h.resolve_left fun h => hx h.symm) _

structure Decl.Extends (d d' : Decl μ) : Prop where
  members : d.members <+: d'.members

theorem Decl.Extends.place {d d' : Decl μ} (h : d.Extends d') {x : μ} (hx : x ∈ d.names) :
    d'.offset x = d.offset x ∧ d'.width x = d.width x := by
  obtain ⟨rest, hrest⟩ := h.members
  rw [Decl.offset, Decl.width, ← hrest]
  exact offsetFrom_append hx rest 0

/-! ## Members of a record -/

variable {d d' : Decl μ} {x y : μ} {v r old : List UInt8}

def get (d : Decl μ) (x : μ) (r : List UInt8) : List UInt8 := read r (d.offset x) (d.width x)

def put (d : Decl μ) (x : μ) (v r : List UInt8) : List UInt8 :=
  (write r (d.offset x) v).getD r

theorem length_put : (put d x v r).length = r.length := by
  unfold put
  cases h : write r (d.offset x) v with
  | none => rfl
  | some r' => exact length_write h

structure Fits (d : Decl μ) (x : μ) (v r : List UInt8) : Prop where
  mem : x ∈ d.names
  room : v.length ≤ d.width x
  record : r.length = d.sizeof

theorem Fits.write_eq (h : Fits d x v r) : write r (d.offset x) v = some (put d x v r) := by
  have hle := Decl.offset_add_width_le h.mem
  have hroom : d.offset x + v.length ≤ r.length := by
    rw [h.record]
    exact Nat.le_trans (Nat.add_le_add_left h.room _) hle
  obtain ⟨r', hr'⟩ := exists_write hroom
  rw [put, hr']
  rfl

theorem get_put_self (h : Fits d x v r) :
    get d x (put d x v r) = v ++ (get d x r).drop v.length := by
  have hroom := h.room
  apply ext_getElem?
  intro j
  rw [get, getElem?_read, getElem?_write h.write_eq]
  rcases lt_or_ge j v.length with hj | hj
  · rw [if_pos (by omega), if_pos (by omega), getElem?_append_left hj, Nat.add_sub_cancel_left]
  · rw [getElem?_append_right hj, getElem?_drop, get, getElem?_read,
      Nat.add_sub_cancel' hj, if_neg (by omega : ¬ (d.offset x ≤ d.offset x + j
        ∧ d.offset x + j < d.offset x + v.length))]

theorem get_put_of_ne (h : Fits d x v r) (hne : y ≠ x) (hy : y ∈ d.names) :
    get d y (put d x v r) = get d y r := by
  have hroom := h.room
  refine read_write_of_disjoint h.write_eq ?_
  rcases Decl.apart hne hy h.mem with hle | hle
  · exact Or.inl hle
  · exact Or.inr (by omega)

theorem length_get (hx : x ∈ d.names) (hr : r.length = d.sizeof) :
    (get d x r).length = d.width x := by
  refine length_read ?_
  rw [hr]
  exact Decl.offset_add_width_le hx

theorem get_take_append (h : d.Extends d') (hx : x ∈ d.names) (hr : r.length = d.sizeof)
    (rest : List UInt8) : get d' x (r ++ rest) = get d x r := by
  have hle := Decl.offset_add_width_le hx
  obtain ⟨hoff, hwidth⟩ := h.place hx
  rw [get, get, hoff, hwidth]
  apply ext_getElem?
  intro j
  rw [getElem?_read, getElem?_read]
  split
  next hj => rw [getElem?_append_left (by omega)]
  · rfl

/-! ## Integers and strings -/

def natOf : List UInt8 → Nat
  | [] => 0
  | b :: bs => b.toNat + 256 * natOf bs

def resize (n : Nat) (bs : List UInt8) : List UInt8 :=
  bs.take n ++ List.replicate (n - bs.length) 0

theorem length_resize (n : Nat) (bs : List UInt8) : (resize n bs).length = n := by
  rw [resize, length_append, length_take, length_replicate]
  omega

theorem natOf_lt (bs : List UInt8) : natOf bs < 256 ^ bs.length := by
  induction bs with
  | nil => decide
  | cons b bs ih =>
    have := b.toNat_lt
    rw [natOf, length_cons, pow_succ]
    omega

theorem natOf_append (bs cs : List UInt8) :
    natOf (bs ++ cs) = natOf bs + 256 ^ bs.length * natOf cs := by
  induction bs with
  | nil => simp [natOf]
  | cons b bs ih =>
    rw [cons_append, natOf, natOf, ih, length_cons, pow_succ]
    ring

theorem natOf_replicate_zero (n : Nat) : natOf (List.replicate n 0) = 0 := by
  induction n with
  | zero => rfl
  | succ n ih =>
    rw [replicate_succ, natOf, ih]
    rfl

theorem natOf_resize {n : Nat} (h : natOf bs < 256 ^ n) : natOf (resize n bs) = natOf bs := by
  rw [resize, natOf_append, natOf_replicate_zero, mul_zero, add_zero]
  rcases lt_or_ge n bs.length with hn | hn
  · have hsplit := natOf_append (bs.take n) (bs.drop n)
    rw [take_append_drop, length_take, min_eq_left (by omega)] at hsplit
    have hzero : natOf (bs.drop n) = 0 := by
      by_contra hne
      have := Nat.le_mul_of_pos_right (256 ^ n) (Nat.pos_of_ne_zero hne)
      omega
    rw [hsplit, hzero, mul_zero, add_zero]
  · rw [take_of_length_le hn]

def bytesOf : Nat → Nat → List UInt8
  | 0, _ => []
  | w + 1, v => UInt8.ofNat v :: bytesOf w (v / 256)

@[simp] theorem length_bytesOf (w v : Nat) : (bytesOf w v).length = w := by
  induction w generalizing v with
  | zero => rfl
  | succ w ih => rw [bytesOf, length_cons, ih]

theorem natOf_bytesOf {w v : Nat} (h : v < 256 ^ w) : natOf (bytesOf w v) = v := by
  induction w generalizing v with
  | zero =>
    exact (lt_one_iff.mp h).symm
  | succ w ih =>
    rw [bytesOf, natOf, ih (by omega), UInt8.toNat_ofNat']
    omega

def strOf (bs : List UInt8) : List UInt8 := bs.takeWhile (· ≠ 0)

def cut (n : Nat) (bs : List UInt8) : List UInt8 := (strOf bs).take (n - 1) ++ [0]

theorem ne_zero_of_mem_strOf {c : UInt8} (h : c ∈ strOf bs) : c ≠ 0 := by
  simpa using mem_takeWhile_imp h

theorem strOf_terminated {rest : List UInt8} (h : ∀ c ∈ bs, c ≠ 0) :
    strOf (bs ++ 0 :: rest) = bs := by
  rw [strOf, takeWhile_append_of_pos (by simpa using h),
    takeWhile_cons_of_neg (by decide), append_nil]

theorem strOf_cut (n : Nat) (bs rest : List UInt8) :
    strOf (cut n bs ++ rest) = (strOf bs).take (n - 1) := by
  rw [cut, append_assoc]
  exact strOf_terminated fun c hc => ne_zero_of_mem_strOf (mem_of_mem_take hc)

theorem length_cut_le {n : Nat} (hn : 0 < n) (bs : List UInt8) : (cut n bs).length ≤ n := by
  rw [cut, length_append, length_take, length_singleton]
  omega

/-! ## Filling a record from another -/

inductive Copy where
  | bytes | int | str
  deriving DecidableEq

def Copy.value (d d' : Decl μ) (old : List UInt8) (x : μ) : Copy → List UInt8
  | .bytes => get d x old
  | .int => resize (d'.width x) (get d x old)
  | .str => cut (d'.width x) (get d x old)

def convert (d d' : Decl μ) (steps : List (μ × Copy)) (old : List UInt8) : List UInt8 :=
  steps.foldl (fun r s => put d' s.1 (s.2.value d d' old s.1) r) (List.replicate d'.sizeof 0)

structure Convertible (d d' : Decl μ) (steps : List (μ × Copy)) : Prop where
  nodup : (steps.map Prod.fst).Nodup
  source : ∀ s ∈ steps, s.1 ∈ d.names
  target : ∀ s ∈ steps, s.1 ∈ d'.names
  bytes : ∀ s ∈ steps, s.2 = .bytes → d'.width s.1 = d.width s.1
  str : ∀ s ∈ steps, s.2 = .str → 0 < d'.width s.1

variable {steps : List (μ × Copy)}

theorem length_value_le {s : μ × Copy} (h : Convertible d d' steps) (hs : s ∈ steps)
    (hold : old.length = d.sizeof) : (s.2.value d d' old s.1).length ≤ d'.width s.1 := by
  cases hc : s.2 with
  | bytes =>
    rw [Copy.value, length_get (h.source s hs) hold, h.bytes s hs hc]
  | int => exact le_of_eq (length_resize _ _)
  | str => exact length_cut_le (h.str s hs hc) _

theorem get_foldl_put_of_notMem (hfit : ∀ s ∈ vals, s.1 ∈ d.names ∧ s.2.length ≤ d.width s.1)
    (hr : r.length = d.sizeof) (hy : y ∈ d.names) (hmem : y ∉ vals.map Prod.fst) :
    get d y (vals.foldl (fun r s => put d s.1 s.2 r) r) = get d y r := by
  induction vals generalizing r with
  | nil => rfl
  | cons s vals ih =>
    rw [map_cons, mem_cons, not_or] at hmem
    obtain ⟨hname, hroom⟩ := hfit s mem_cons_self
    rw [foldl_cons, ih (fun t ht => hfit t (mem_cons_of_mem _ ht)) (length_put.trans hr) hmem.2]
    exact get_put_of_ne ⟨hname, hroom, hr⟩ hmem.1 hy

theorem get_foldl_put_of_mem (hfit : ∀ s ∈ vals, s.1 ∈ d.names ∧ s.2.length ≤ d.width s.1)
    (hr : r.length = d.sizeof) (hnodup : (vals.map Prod.fst).Nodup) (hmem : (x, v) ∈ vals) :
    get d x (vals.foldl (fun r s => put d s.1 s.2 r) r) = v ++ (get d x r).drop v.length := by
  induction vals generalizing r with
  | nil => cases hmem
  | cons s vals ih =>
    rw [map_cons, nodup_cons] at hnodup
    have hrest := fun t ht => hfit t (mem_cons_of_mem s ht)
    obtain ⟨hname, hroom⟩ := hfit s mem_cons_self
    rw [foldl_cons]
    rcases mem_cons.mp hmem with rfl | hmem
    · rw [get_foldl_put_of_notMem hrest (length_put.trans hr) hname hnodup.1]
      exact get_put_self ⟨hname, hroom, hr⟩
    · rw [ih hrest (length_put.trans hr) hnodup.2 hmem]
      rw [get_put_of_ne ⟨hname, hroom, hr⟩ _ (hrest _ hmem).1]
      rintro rfl
      exact hnodup.1 (mem_map.mpr ⟨_, hmem, rfl⟩)

theorem length_foldl_put : (vals.foldl (fun r s => put d s.1 s.2 r) r).length = r.length := by
  induction vals generalizing r with
  | nil => rfl
  | cons s vals ih => rw [foldl_cons, ih, length_put]

theorem length_convert : (convert d d' steps old).length = d'.sizeof := by
  have hmap : convert d d' steps old
      = (steps.map fun s => (s.1, s.2.value d d' old s.1)).foldl (fun r s => put d' s.1 s.2 r)
          (List.replicate d'.sizeof 0) := by
    rw [foldl_map]
    rfl
  rw [hmap, length_foldl_put, length_replicate]

theorem get_convert (h : Convertible d d' steps) (hold : old.length = d.sizeof) {c : Copy}
    (hmem : (x, c) ∈ steps) :
    ∃ rest, get d' x (convert d d' steps old) = c.value d d' old x ++ rest := by
  have hfit : ∀ s ∈ steps.map fun s => (s.1, s.2.value d d' old s.1),
      s.1 ∈ d'.names ∧ s.2.length ≤ d'.width s.1 := by
    intro s hs
    obtain ⟨t, ht, rfl⟩ := mem_map.mp hs
    exact ⟨h.target t ht, length_value_le h ht hold⟩
  have hnames : (steps.map fun s => (s.1, s.2.value d d' old s.1)).map Prod.fst
      = steps.map Prod.fst := by
    rw [map_map]
    rfl
  have hget := get_foldl_put_of_mem (r := List.replicate d'.sizeof 0) (x := x)
    (v := c.value d d' old x) hfit length_replicate (by rw [hnames]; exact h.nodup)
    (mem_map.mpr ⟨(x, c), hmem, rfl⟩)
  rw [foldl_map] at hget
  exact ⟨_, hget⟩

/-- What a copy keeps of a member; a string may be cut to its new room. -/
def Copy.Keeps (d d' : Decl μ) (old new : List UInt8) (x : μ) : Copy → Prop
  | .bytes => get d' x new = get d x old
  | .int => natOf (get d' x new) = natOf (get d x old)
  | .str => strOf (get d' x new) = (strOf (get d x old)).take (d'.width x - 1) ∧ 0 ∈ get d' x new

theorem keeps_convert {s : μ × Copy} (h : Convertible d d' steps) (hold : old.length = d.sizeof)
    (hs : s ∈ steps) (hint : s.2 = .int → natOf (get d s.1 old) < 256 ^ d'.width s.1) :
    s.2.Keeps d d' old (convert d d' steps old) s.1 := by
  obtain ⟨x, c⟩ := s
  obtain ⟨rest, hrest⟩ := get_convert h hold hs
  have hfull (hlen : (c.value d d' old x).length = d'.width x) :
      get d' x (convert d d' steps old) = c.value d d' old x := by
    have hsum := congrArg List.length hrest
    rw [length_get (h.target _ hs) length_convert, length_append, hlen] at hsum
    rw [hrest, eq_nil_of_length_eq_zero (Nat.left_eq_add.mp hsum), append_nil]
  cases c with
  | bytes => exact hfull ((length_get (h.source _ hs) hold).trans (h.bytes _ hs rfl).symm)
  | int =>
    rw [Copy.Keeps, hfull (length_resize _ _)]
    exact natOf_resize (hint rfl)
  | str =>
    rw [Copy.Keeps, hrest]
    exact ⟨strOf_cut _ _ _, mem_append_left _ (mem_append_right _ (mem_singleton_self 0))⟩

theorem length_strOf_lt (h : 0 ∈ bs) : (strOf bs).length < bs.length := by
  have hpre : strOf bs <+: bs := takeWhile_prefix _
  refine lt_of_le_of_ne hpre.length_le fun heq => ?_
  have hall := hpre.eq_of_length heq
  rw [← hall] at h
  exact ne_zero_of_mem_strOf h rfl

theorem keeps_of_get {new : List UInt8} {s : μ × Copy} (h : get d' s.1 new = get d s.1 old)
    (hlen : (get d s.1 old).length ≤ d'.width s.1) (hstr : s.2 = .str → 0 ∈ get d s.1 old) :
    s.2.Keeps d d' old new s.1 := by
  obtain ⟨x, c⟩ := s
  cases c with
  | bytes => exact h
  | int => exact congrArg natOf h
  | str =>
    have hlt := length_strOf_lt (hstr rfl)
    rw [Copy.Keeps, h, take_of_length_le (by omega)]
    exact ⟨rfl, hstr rfl⟩

end CStruct
