import Mathlib.Algebra.Order.Ring.Nat
import Mathlib.Data.List.Flatten
import BtFramework.Runs

/-!
# Sending over a serial port connection

What the application writes to the pipe is read in pieces of at most a frame (`mfs`). A full
frame goes to the stack at once; less is cached, and goes out with the next read or when a timer
expires. If the stack has no memory the buffer becomes the cache again. The loop of
`do_spp_write` never has anything left for a second round.
-/

namespace BtFramework.Spp

open List

/-! ## The device -/

def sendingBufsQuota : UInt8 := 13

inductive WriteStatus where
  | success
  | nomem
  | failed
deriving DecidableEq

/-- The part of a `spp_device_t` that sending uses. `cache` are the bytes of `cache_buf`, in a
block of `capacity`; `timer` and `reading` say whether the cache timer runs and the pipe is read;
`accepted` are the buffers the stack has taken, `completed` how many it has given back; `failed`:
the assertion of `do_spp_write` did not hold. -/
structure Device where
  mfs : UInt16
  cache : List UInt8
  capacity : Nat
  timer : Bool
  remainingQuota : UInt8
  reading : Bool
  txBytes : UInt32
  accepted : List (List UInt8)
  completed : Nat
  failed : Bool

def Device.start (mfs : UInt16) : Device where
  mfs
  cache := []
  capacity := 0
  timer := false
  remainingQuota := sendingBufsQuota
  reading := true
  txBytes := 0
  accepted := []
  completed := 0
  failed := false

def euvAllocBuffer (d : Device) : Nat :=
  if d.cache.length > 0 then (2 ^ 32 + d.mfs.toNat - d.cache.length) % 2 ^ 32 else d.mfs.toNat

def sppCacheFragement (d : Device) (bytes : List UInt8) (capacity : Nat) : Device :=
  { d with cache := bytes, capacity, timer := true }

def sppCacheStop (d : Device) : Device := { d with timer := false }

def takeCache (d : Device) : Device :=
  if d.cache.length > 0 then { sppCacheStop d with cache := [] } else d

/-- `buffer` is what stands at the pointer, in a block of `capacity` bytes. The loop body, which
runs once: after it nothing remains or the assertion fails. -/
def doSppWrite (d : Device) (buffer : List UInt8) (capacity : Nat) (status : WriteStatus) :
    Device :=
  let cacheSize := d.cache.length
  let remaining := (buffer.length + cacheSize) % 2 ^ 16
  let size := if remaining > d.mfs.toNat then d.mfs.toNat else remaining
  if cacheSize = 0 ∧ size < d.mfs.toNat then sppCacheFragement d (buffer.take size) capacity
  else
    let tmpbuf := (d.cache ++ buffer).take size
    let tmpcap := if cacheSize > 0 then d.capacity else capacity
    let d := takeCache d
    match status with
    | .nomem =>
      { sppCacheFragement d tmpbuf tmpcap with reading := false, remainingQuota := 0 }
    | .failed => d
    | .success =>
      { d with
        txBytes := d.txBytes + UInt32.ofNat size
        remainingQuota := d.remainingQuota - 1
        reading := if d.remainingQuota - 1 = 0 then false else d.reading
        accepted := d.accepted ++ [tmpbuf]
        failed := d.failed || decide (remaining - size ≠ 0) }

/-! ## Events -/

def euvReadComplete (d : Device) (bytes : List UInt8) (status : WriteStatus) : Device :=
  if bytes.length = 0 then d else doSppWrite d bytes d.mfs.toNat status

def sppCacheTimeout (d : Device) (status : WriteStatus) : Device :=
  if d.cache.length = 0 then d else doSppWrite d [] 0 status

def euvPipeReadStart (d : Device) (writing : Bool) : Device :=
  if d.reading || writing then d else { d with reading := true }

def sppOnOutgoingComplete (d : Device) (status : WriteStatus) (writing : Bool) : Device :=
  let d := { d with completed := d.completed + 1, remainingQuota := d.remainingQuota + 1 }
  if d.remainingQuota = 1 then
    if d.cache.length > 0 then doSppWrite d [] 0 status else euvPipeReadStart d writing
  else d

inductive Event where
  | read (bytes : List UInt8) (status : WriteStatus)
  | cacheTimeout (status : WriteStatus)
  | outgoingComplete (status : WriteStatus) (writing : Bool)
  | updateMfs (mfs : UInt16)

def step (d : Device) : Event → Device
  | .read bytes status => euvReadComplete d bytes status
  | .cacheTimeout status =>
    if d.timer then sppCacheTimeout { d with timer := false } status else d
  | .outgoingComplete status writing => sppOnOutgoingComplete d status writing
  | .updateMfs mfs => { d with mfs }

namespace Event

def bytes : Event → List UInt8
  | .read bytes _ => bytes
  | _ => []

/-- Reads fit, no write fails for good, and the frame size stays. -/
def Allowed (d : Device) : Event → Prop
  | .read bytes status => bytes.length ≤ euvAllocBuffer d ∧ status ≠ .failed
  | .cacheTimeout status => status ≠ .failed
  | .outgoingComplete status _ => status ≠ .failed
  | .updateMfs mfs => mfs = d.mfs

instance (d : Device) (e : Event) : Decidable (e.Allowed d) := by
  apply e.casesOn (motive := fun e => Decidable (e.Allowed d)) <;> intros <;> unfold Allowed <;>
    infer_instance

end Event

/-! ## The stream -/

structure Device.Carries (mfs : UInt16) (sent : List UInt8) (d : Device) : Prop where
  size : d.mfs = mfs
  bytes : d.accepted.flatten ++ d.cache = sent
  chunks : ∀ c ∈ d.accepted, 1 ≤ c.length ∧ c.length ≤ mfs.toNat
  cached : d.cache.length ≤ mfs.toNat
  asserted : d.failed = false

variable {mfs : UInt16} {sent : List UInt8} {d : Device}

theorem euvAllocBuffer_add_le (h : d.Carries mfs sent) :
    euvAllocBuffer d + d.cache.length ≤ mfs.toNat := by
  have hcached := h.cached
  rw [euvAllocBuffer, h.size]
  split <;> omega

theorem takeCache_eq (d : Device) :
    (takeCache d).mfs = d.mfs ∧ (takeCache d).cache = [] ∧ (takeCache d).accepted = d.accepted
      ∧ (takeCache d).failed = d.failed := by
  unfold takeCache
  split
  · exact ⟨rfl, rfl, rfl, rfl⟩
  next hnone => exact ⟨rfl, length_eq_zero_iff.mp (by omega), rfl, rfl⟩

theorem Device.Carries.doSppWrite (h : d.Carries mfs sent) (buffer : List UInt8) (capacity : Nat)
    {status : WriteStatus} (hroom : buffer.length + d.cache.length ≤ mfs.toNat)
    (hpos : 0 < buffer.length + d.cache.length) (hstatus : status ≠ .failed) :
    (doSppWrite d buffer capacity status).Carries mfs (sent ++ buffer) := by
  have hlt := mfs.toNat_lt
  have hremaining : (buffer.length + d.cache.length) % 2 ^ 16
      = buffer.length + d.cache.length := Nat.mod_eq_of_lt (by omega)
  have htmpbuf : (d.cache ++ buffer).take (buffer.length + d.cache.length) = d.cache ++ buffer :=
    take_of_length_le (by rw [length_append]; omega)
  have hsent : d.accepted.flatten ++ (d.cache ++ buffer) = sent ++ buffer := by
    rw [← append_assoc, h.bytes]
  have hlen : (d.cache ++ buffer).length = buffer.length + d.cache.length := by
    rw [length_append]
    omega
  simp only [Spp.doSppWrite, hremaining, h.size, if_neg (Nat.not_lt.mpr hroom), htmpbuf,
    Nat.sub_self, ne_eq, not_true_eq_false, decide_false, Bool.or_false]
  by_cases hfrag : d.cache.length = 0 ∧ buffer.length + d.cache.length < mfs.toNat
  · have hnil := length_eq_zero_iff.mp hfrag.1
    rw [if_pos hfrag, hfrag.1, Nat.add_zero, take_length]
    rw [hnil, nil_append] at hsent
    exact ⟨h.size, hsent, h.chunks, by show buffer.length ≤ _; omega, h.asserted⟩
  obtain ⟨hmfs, hcache, haccepted, hfailed⟩ := takeCache_eq d
  rw [if_neg hfrag]
  cases status with
  | failed => exact absurd rfl hstatus
  | nomem =>
    refine ⟨hmfs.trans h.size, ?_, ?_, ?_, hfailed.trans h.asserted⟩
    · show (takeCache d).accepted.flatten ++ (d.cache ++ buffer) = _
      rw [haccepted, hsent]
    · show ∀ c ∈ (takeCache d).accepted, _
      rw [haccepted]
      exact h.chunks
    · show (d.cache ++ buffer).length ≤ _
      omega
  | success =>
    refine ⟨hmfs.trans h.size, ?_, ?_, ?_, hfailed.trans h.asserted⟩
    · show ((takeCache d).accepted ++ [d.cache ++ buffer]).flatten ++ (takeCache d).cache = _
      rw [haccepted, hcache, append_nil, flatten_append, flatten_singleton, hsent]
    · show ∀ c ∈ (takeCache d).accepted ++ [d.cache ++ buffer], _
      rw [haccepted]
      intro c hc
      rcases mem_append.mp hc with hc | hc
      · exact h.chunks c hc
      · rw [mem_singleton.mp hc]
        omega
    · show (takeCache d).cache.length ≤ _
      rw [hcache]
      exact Nat.zero_le _

theorem Device.Carries.flush (h : d.Carries mfs sent) {status : WriteStatus}
    (hstatus : status ≠ .failed) (hpos : 0 < d.cache.length) :
    (Spp.doSppWrite d [] 0 status).Carries mfs sent := by
  have hwrite := h.doSppWrite [] 0 (by simpa using h.cached) (by simpa using hpos) hstatus
  rwa [append_nil] at hwrite

theorem Device.Carries.step (h : d.Carries mfs sent) {e : Event} (he : e.Allowed d) :
    (Spp.step d e).Carries mfs (sent ++ e.bytes) := by
  cases e with
  | read bytes status =>
    obtain ⟨hoffered, hstatus⟩ := he
    have hle := euvAllocBuffer_add_le h
    simp only [Spp.step, euvReadComplete, Event.bytes]
    split
    next hzero => rwa [length_eq_zero_iff.mp hzero, append_nil]
    next hne => exact h.doSppWrite bytes _ (by omega) (by omega) hstatus
  | cacheTimeout status =>
    have hfired : Device.Carries mfs sent { d with timer := false } :=
      ⟨h.size, h.bytes, h.chunks, h.cached, h.asserted⟩
    simp only [Spp.step, sppCacheTimeout, Event.bytes, append_nil]
    split
    · split
      · exact hfired
      next hne => exact hfired.flush he (Nat.pos_of_ne_zero hne)
    · exact h
  | outgoingComplete status writing =>
    have hback : Device.Carries mfs sent { d with
        completed := d.completed + 1, remainingQuota := d.remainingQuota + 1 } :=
      ⟨h.size, h.bytes, h.chunks, h.cached, h.asserted⟩
    simp only [Spp.step, sppOnOutgoingComplete, Event.bytes, append_nil, euvPipeReadStart]
    split
    · split
      next hpos => exact hback.flush he hpos
      · split <;> exact ⟨h.size, h.bytes, h.chunks, h.cached, h.asserted⟩
    · exact hback
  | updateMfs mfs' =>
    simp only [Spp.step, Event.bytes, append_nil]
    exact ⟨he.trans h.size, h.bytes, h.chunks, h.cached, h.asserted⟩

/-- What the stack has taken and what is cached is what was read, in order, in pieces of one to
`mfs` bytes, and nothing ever remains in `do_spp_write`. -/
theorem accepted_append_cache {mfs : UInt16} {es : List Event}
    (hes : Runs.Guarded step (fun d e => e.Allowed d) (Device.start mfs) es) :
    (Runs.after step (Device.start mfs) es).accepted.flatten
        ++ (Runs.after step (Device.start mfs) es).cache = es.flatMap Event.bytes
      ∧ (∀ c ∈ (Runs.after step (Device.start mfs) es).accepted,
        1 ≤ c.length ∧ c.length ≤ mfs.toNat)
      ∧ (Runs.after step (Device.start mfs) es).failed = false := by
  have hrun := hes.history_invariant (fun es d => d.Carries mfs (es.flatMap Event.bytes))
    ⟨rfl, rfl, nofun, Nat.zero_le _, rfl⟩
    (fun es e h he => by
      simpa using h.step he)
  exact ⟨hrun.bytes, hrun.chunks, hrun.asserted⟩

def fragmentRun : List Event :=
  [.read [1, 2] .success, .read [3] .nomem, .cacheTimeout .success,
    .outgoingComplete .success false, .read [4, 5, 6, 7] .success, .read [8] .success]

theorem fragmentRun_carried :
    Runs.Guarded step (fun d e => e.Allowed d) (Device.start 4) fragmentRun
      ∧ (Runs.after step (Device.start 4) fragmentRun).accepted.flatten
        ++ (Runs.after step (Device.start 4) fragmentRun).cache = [1, 2, 3, 4, 5, 6, 7, 8]
      ∧ (Runs.after step (Device.start 4) fragmentRun).accepted = [[1, 2, 3], [4, 5, 6, 7]] := by
  have hes : Runs.Guarded step (fun d e => e.Allowed d) (Device.start 4) fragmentRun := by decide
  exact ⟨hes, (accepted_append_cache hes).1, by decide⟩

end BtFramework.Spp
