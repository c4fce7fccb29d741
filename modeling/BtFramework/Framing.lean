import Mathlib.Data.List.Flatten
import Mathlib.Data.List.Infix

/-!
# Reassembling frames from a byte stream

A reader appends what the descriptor has ready to a bounded buffer and takes complete
frames off its front until only part of one is left; `decode` says what is there. A
list is a frame of the format if `decode` recognises it whatever follows, and asks for
more while only part of it is there (`IsFrame`). For a stream of frames the state of the
reader depends on how much has been read and not on how it was cut (`Reader.At`).

Where all frames have one size no format is needed to find them: what fills a
buffer of that size is the next frame (`Remains.full`).
-/

namespace Framing

open List Nat

variable {α σ : Type*}

inductive Decode where
  | bad
  | more
  | frame (n : ℕ)

structure IsFrame (decode : List α → Decode) (p : List α) : Prop where
  ne_nil : p ≠ []
  whole : ∀ rest, decode (p ++ rest) = .frame p.length
  part : ∀ q, q ≠ [] → q <+: p → q.length < p.length → decode q = .more

/-- What cannot be a frame is dropped, and so is a full buffer that does not hold one. Frames are
not empty, so the length of the buffer bounds the rounds. -/
def drain (decode : List α → Decode) (cap : ℕ) (handle : σ → List α → σ) :
    ℕ → σ → List α → σ × List α
  | 0, st, buf => (st, buf)
  | fuel + 1, st, buf =>
    if buf.length = 0 then (st, buf)
    else
      match decode buf with
      | .bad => (st, [])
      | .more => if buf.length = cap then (st, []) else (st, buf)
      | .frame n => drain decode cap handle fuel (handle st (buf.take n)) (buf.drop n)

structure Reader (σ α : Type*) where
  st : σ
  buf : List α
  unread : List α

def Reader.read (decode : List α → Decode) (cap : ℕ) (handle : σ → List α → σ)
    (x : Reader σ α) (n : ℕ) : Reader σ α :=
  let len := min n (cap - x.buf.length)
  let buf := x.buf ++ x.unread.take len
  let (st, buf) := drain decode cap handle buf.length x.st buf
  { st, buf, unread := x.unread.drop len }

/-! ## Part of a stream of frames -/

variable {decode : List α → Decode} {cap : ℕ} {handle : σ → List α → σ}

def Pending (r : List α) (ps : List (List α)) : Prop :=
  r = [] ∨ ∃ p ps', ps = p :: ps' ∧ r <+: p ∧ r.length < p.length

variable {ps : List (List α)} {st : σ} {x : Reader σ α}

theorem cases_prefix {p : List α} {buf : List α} (h : buf <+: p ++ ps.flatten) :
    (buf <+: p ∧ buf.length < p.length) ∨ ∃ rest, buf = p ++ rest ∧ rest <+: ps.flatten := by
  rcases lt_or_ge buf.length p.length with hlt | hge
  · exact .inl ⟨prefix_of_prefix_length_le h (prefix_append p _) hlt.le, hlt⟩
  · obtain ⟨rest, rfl⟩ := prefix_of_prefix_length_le (prefix_append p _) h hge
    exact .inr ⟨rest, rfl, (prefix_append_right_inj p).mp h⟩

theorem drain_prefix (handle : σ → List α → σ) (st : σ) (hps : ∀ p ∈ ps, IsFrame decode p)
    (hcap : ∀ p ∈ ps, p.length ≤ cap) {fuel : ℕ} {buf : List α} (hbuf : buf <+: ps.flatten)
    (hfuel : buf.length ≤ fuel) :
    ∃ ds ps' r, ps = ds ++ ps' ∧ buf = ds.flatten ++ r ∧ Pending r ps'
      ∧ drain decode cap handle fuel st buf = (ds.foldl handle st, r) := by
  induction fuel generalizing ps buf st with
  | zero =>
    obtain rfl := length_eq_zero_iff.mp (le_zero.mp hfuel)
    exact ⟨[], ps, [], rfl, rfl, .inl rfl, rfl⟩
  | succ fuel ih =>
    unfold drain
    by_cases hnil : buf.length = 0
    · obtain rfl := length_eq_zero_iff.mp hnil
      exact ⟨[], ps, [], rfl, rfl, .inl rfl, if_pos rfl⟩
    · rw [if_neg hnil]
      cases ps with
      | nil =>
        obtain rfl := prefix_nil.mp hbuf
        exact absurd rfl hnil
      | cons p ps =>
        have hp := hps p (mem_cons_self ..)
        rcases cases_prefix hbuf with ⟨hpre, hlt⟩ | ⟨rest, rfl, hrest⟩
        · have hfull : ¬ buf.length = cap := by
            have := hcap p (mem_cons_self ..)
            omega
          rw [hp.part buf (fun h => hnil (by rw [h]; rfl)) hpre hlt]
          exact ⟨[], p :: ps, buf, rfl, rfl, .inr ⟨p, ps, rfl, hpre, hlt⟩, if_neg hfull⟩
        · have hpos := length_pos_iff.mpr hp.ne_nil
          rw [length_append] at hfuel
          obtain ⟨ds, ps', r, hps', hr, hpend, hdrain⟩ := ih (handle st p)
            (fun q hq => hps q (mem_cons_of_mem _ hq))
            (fun q hq => hcap q (mem_cons_of_mem _ hq)) hrest (by omega)
          rw [hp.whole rest]
          refine ⟨p :: ds, ps', r, by rw [hps', cons_append], ?_, hpend, ?_⟩
          · rw [hr, flatten_cons, append_assoc]
          · dsimp only
            rw [take_left, drop_left, hdrain]
            rfl

/-! ## Reads -/

def Reader.At (handle : σ → List α → σ) (st : σ) (ps : List (List α)) (x : Reader σ α) :
    Prop :=
  ∃ ds ps', ps = ds ++ ps' ∧ x.st = ds.foldl handle st ∧ Pending x.buf ps'
    ∧ x.buf ++ x.unread = ps'.flatten

section

variable (hps : ∀ p ∈ ps, IsFrame decode p)
include hps

theorem Reader.At.read (hcap : ∀ p ∈ ps, p.length ≤ cap) (h : x.At handle st ps) (n : ℕ) :
    (x.read decode cap handle n).At handle st ps := by
  obtain ⟨ds, ps', rfl, hst, -, hflat⟩ := h
  have hfront : x.buf ++ x.unread.take (min n (cap - x.buf.length)) <+: ps'.flatten := by
    rw [← hflat, prefix_append_right_inj]
    exact take_prefix _ _
  obtain ⟨es, qs, r, rfl, hbuf, hpend, hdrain⟩ := drain_prefix handle x.st
    (fun p hp => hps p (mem_append_right _ hp))
    (fun p hp => hcap p (mem_append_right _ hp)) hfront le_rfl
  have hread : x.read decode cap handle n
      = ⟨es.foldl handle x.st, r, x.unread.drop (min n (cap - x.buf.length))⟩ := by
    simp only [Reader.read, hdrain]
  have hrest : r ++ x.unread.drop (min n (cap - x.buf.length)) = qs.flatten := by
    have hall : es.flatten ++ (r ++ x.unread.drop (min n (cap - x.buf.length)))
        = es.flatten ++ qs.flatten := by
      rw [← append_assoc, ← hbuf, append_assoc, take_append_drop, hflat, flatten_append]
    exact append_cancel_left hall
  rw [hread]
  refine ⟨ds ++ es, qs, by rw [append_assoc], ?_, hpend, hrest⟩
  rw [foldl_append, hst]

theorem Reader.At.reads (hcap : ∀ p ∈ ps, p.length ≤ cap) (h : x.At handle st ps) (ns : List ℕ) :
    (ns.foldl (Reader.read decode cap handle) x).At handle st ps := by
  induction ns generalizing x with
  | nil => exact h
  | cons n ns ih => exact ih (h.read hps hcap n)

theorem Reader.At.drained (h : x.At handle st ps) (hend : x.unread = []) :
    x.st = ps.foldl handle st ∧ x.buf = [] := by
  obtain ⟨ds, ps', rfl, hst, hpend, hflat⟩ := h
  rw [hend, append_nil] at hflat
  cases ps' with
  | nil => exact ⟨by rw [hst, append_nil], hflat⟩
  | cons p ps' =>
    have hp := (hps p (mem_append_right _ (mem_cons_self ..))).ne_nil
    have hle : p.length ≤ x.buf.length := by
      rw [hflat, flatten_cons, length_append]
      exact le_add_right _ _
    rcases hpend with hnil | ⟨q, qs, hq, -, hlt⟩
    · rw [hnil] at hle
      exact absurd (length_eq_zero_iff.mp (le_zero.mp hle)) hp
    · cases hq
      exact absurd hle (not_le.mpr hlt)

theorem Reader.At.unread_read (hcap : ∀ p ∈ ps, p.length ≤ cap) (h : x.At handle st ps) {n : ℕ}
    (hn : 0 < n) :
    (x.read decode cap handle n).unread.length ≤ x.unread.length - 1 := by
  obtain ⟨ds, ps', rfl, -, hpend, hflat⟩ := h
  show (x.unread.drop (min n (cap - x.buf.length))).length ≤ _
  rw [length_drop]
  rcases Nat.eq_zero_or_pos x.unread.length with hzero | hpos
  · omega
  · have hroom : x.buf.length < cap := by
      cases ps' with
      | nil =>
        have hlen := congrArg List.length hflat
        rw [length_append, flatten_nil, length_nil] at hlen
        omega
      | cons p ps' =>
        have hle := hcap p (mem_append_right _ (mem_cons_self ..))
        rcases hpend with hnil | ⟨q, qs, hq, -, hlt⟩
        · have hp := (hps p (mem_append_right _ (mem_cons_self ..))).ne_nil
          rw [hnil]
          exact lt_of_lt_of_le (length_pos_iff.mpr hp) hle
        · cases hq
          exact lt_of_lt_of_le hlt hle
    omega

theorem Reader.At.unread_reads (hcap : ∀ p ∈ ps, p.length ≤ cap) (h : x.At handle st ps)
    {ns : List ℕ} (hns : ∀ n ∈ ns, 0 < n) (hlen : x.unread.length ≤ ns.length) :
    (ns.foldl (Reader.read decode cap handle) x).unread = [] := by
  induction ns generalizing x with
  | nil => exact length_eq_zero_iff.mp (le_zero.mp hlen)
  | cons n ns ih =>
    have hread := h.unread_read hps hcap (hns n (mem_cons_self ..))
    rw [length_cons] at hlen
    exact ih (h.read hps hcap n) (fun m hm => hns m (mem_cons_of_mem _ hm)) (by omega)

end

/-! ## Frames of one size -/

section OneSize

variable {π : Type*} {bytes : π → List α} {size : ℕ}

theorem exists_cons_of_full (hsize : ∀ p, (bytes p).length = size) (hpos : 0 < size)
    {ps : List π} {buf rest : List α} (h : buf ++ rest = ps.flatMap bytes)
    (hfull : buf.length = size) :
    ∃ p qs, ps = p :: qs ∧ bytes p = buf ∧ rest = qs.flatMap bytes := by
  cases ps with
  | nil =>
    rw [flatMap_nil, append_eq_nil_iff] at h
    rw [h.1, length_nil] at hfull
    omega
  | cons p qs =>
    obtain ⟨hbuf, hrest⟩ := append_inj h (by rw [hfull, hsize])
    exact ⟨p, qs, rfl, hbuf.symm, hrest⟩

theorem eq_nil_of_short (hsize : ∀ p, (bytes p).length = size) {ps : List π} {buf : List α}
    (h : buf = ps.flatMap bytes) (hshort : buf.length < size) : ps = [] := by
  cases ps with
  | nil => rfl
  | cons p qs =>
    rw [h, flatMap_cons, length_append, hsize] at hshort
    omega

def Remains (bytes : π → List α) (ps ds : List π) (buf rest : List α) : Prop :=
  ∃ qs, ps = ds ++ qs ∧ buf ++ rest = qs.flatMap bytes

variable {ps ds : List π} {buf rest : List α}

theorem Remains.append (h : Remains bytes ps ds buf rest) (more : List π) :
    Remains bytes (ps ++ more) ds buf (rest ++ more.flatMap bytes) := by
  obtain ⟨qs, rfl, hbytes⟩ := h
  exact ⟨qs ++ more, append_assoc .., by
    rw [← append_assoc, hbytes, flatMap_append]⟩

theorem Remains.shift {c rest' : List α} (h : Remains bytes ps ds buf (c ++ rest')) :
    Remains bytes ps ds (buf ++ c) rest' := by
  obtain ⟨qs, hps, hbytes⟩ := h
  exact ⟨qs, hps, by rw [append_assoc, hbytes]⟩

theorem Remains.full (hsize : ∀ p, (bytes p).length = size) (hpos : 0 < size)
    (h : Remains bytes ps ds buf rest) (hfull : buf.length = size) :
    ∃ p ∈ ps, bytes p = buf ∧ Remains bytes ps (ds ++ [p]) [] rest := by
  obtain ⟨qs, rfl, hbytes⟩ := h
  obtain ⟨p, qs, rfl, hp, hrest⟩ := exists_cons_of_full hsize hpos hbytes hfull
  exact ⟨p, by simp, hp, qs, by simp, hrest⟩

theorem Remains.drained (hsize : ∀ p, (bytes p).length = size)
    (h : Remains bytes ps ds buf []) (hshort : buf.length < size) : ds = ps := by
  obtain ⟨qs, rfl, hbytes⟩ := h
  rw [append_nil] at hbytes
  rw [eq_nil_of_short hsize hbytes hshort, append_nil]

end OneSize

end Framing
