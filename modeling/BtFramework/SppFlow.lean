import BtFramework.SppTransmit

/-!
# The quota and the cache of a serial port connection

Every write happens while the pipe is read (`Balanced`), so the sum of the quota and of the
uncompleted writes stays; but a write for which the stack has no memory sets the quota to zero
without a completion to come, and a pipe that is being written is not read again.
-/

namespace BtFramework.Spp

open List Nat

/-! ## One write -/

def writeSize (d : Device) (buffer : List UInt8) : Nat :=
  let remaining := (buffer.length + d.cache.length) % 2 ^ 16
  if remaining > d.mfs.toNat then d.mfs.toNat else remaining

def Writes (d : Device) (buffer : List UInt8) : Prop :=
  ¬(d.cache.length = 0 ∧ writeSize d buffer < d.mfs.toNat)
deriving Decidable

variable {d : Device} {buffer : List UInt8} {e : Event}

theorem takeCache_flow (d : Device) :
    (takeCache d).remainingQuota = d.remainingQuota ∧ (takeCache d).reading = d.reading
      ∧ (takeCache d).completed = d.completed := by
  unfold takeCache
  split <;> exact ⟨rfl, rfl, rfl⟩

theorem doSppWrite_fragment (h : ¬Writes d buffer) (capacity : Nat) (status : WriteStatus) :
    doSppWrite d buffer capacity status
      = sppCacheFragement d (buffer.take (writeSize d buffer)) capacity :=
  if_pos (not_not.mp h)

theorem doSppWrite_nomem (h : Writes d buffer) (capacity : Nat) :
    doSppWrite d buffer capacity .nomem =
      { sppCacheFragement (takeCache d) ((d.cache ++ buffer).take (writeSize d buffer))
          (if d.cache.length > 0 then d.capacity else capacity) with
        reading := false, remainingQuota := 0 } :=
  if_neg h

theorem doSppWrite_success (h : Writes d buffer) (capacity : Nat) :
    let d' := doSppWrite d buffer capacity .success
    d'.mfs = d.mfs ∧ d'.cache = [] ∧ d'.remainingQuota = d.remainingQuota - 1
      ∧ d'.reading = (if d.remainingQuota - 1 = 0 then false else d.reading)
      ∧ d'.accepted.length = d.accepted.length + 1 ∧ d'.completed = d.completed := by
  obtain ⟨hmfs, hcache, haccepted, -⟩ := takeCache_eq d
  obtain ⟨hquota, hreading, hcompleted⟩ := takeCache_flow d
  simp only [Writes, writeSize] at h
  simp only [doSppWrite]
  rw [if_neg h]
  refine ⟨hmfs, hcache, ?_, ?_, ?_, hcompleted⟩
  · rw [hquota]
  · rw [hquota, hreading]
  · rw [haccepted, length_append, length_singleton]

/-! ## The quota -/

def Device.uncompleted (d : Device) : Nat := d.accepted.length - d.completed

/-- The quota is what the stack may still be given. -/
def Device.QuotaKept (d : Device) : Prop :=
  d.remainingQuota.toNat + d.uncompleted = sendingBufsQuota.toNat
deriving Decidable

/-- While the pipe is not read a write is uncompleted, and the quota is used up: only the
completion that finds it so restarts the pipe. -/
def Device.Restartable (d : Device) : Prop :=
  d.reading = false → 0 < d.uncompleted ∧ d.remainingQuota = 0
deriving Decidable

namespace Event

/-- Only a pipe that is read brings data, and only accepted writes complete. -/
def Paced (d : Device) (e : Event) : Prop :=
  e.Allowed d ∧ match e with
    | .read _ _ => d.reading = true
    | .outgoingComplete _ _ => d.completed < d.accepted.length
    | _ => True

/-- The stack has no memory for what is written. -/
def RunsOut (d : Device) : Event → Prop
  | .read bytes status => status = .nomem ∧ bytes ≠ [] ∧ Writes d bytes
  | .cacheTimeout status => status = .nomem ∧ d.timer = true ∧ d.cache ≠ []
  | .outgoingComplete status _ =>
    status = .nomem ∧ d.remainingQuota + 1 = 1 ∧ d.cache ≠ []
  | .updateMfs _ => False

/-- The completion at quota zero finds the pipe being written: `euv_pipe_read_start` returns
without starting. -/
def LosesRestart (d : Device) : Event → Prop
  | .outgoingComplete _ writing => d.remainingQuota = 0 ∧ writing = true
  | _ => False

instance (d : Device) (e : Event) : Decidable (e.Paced d) := by
  cases e <;> unfold Paced <;> infer_instance

instance (d : Device) (e : Event) : Decidable (e.RunsOut d) := by
  cases e <;> unfold RunsOut <;> infer_instance

instance (d : Device) (e : Event) : Decidable (e.LosesRestart d) := by
  cases e <;> unfold LosesRestart <;> infer_instance

end Event

/-- The pipe is read exactly while there is quota, and nothing is cached without. -/
structure Device.Balanced (d : Device) : Prop where
  sum : d.remainingQuota.toNat + d.accepted.length = sendingBufsQuota.toNat + d.completed
  completed_le : d.completed ≤ d.accepted.length
  stopped : d.reading = false ↔ d.remainingQuota = 0
  drained : d.reading = false → d.cache = []

section

variable (h : d.Balanced)
include h

theorem Device.Balanced.quotaKept : d.QuotaKept := by
  have hsum := h.sum
  have hle := h.completed_le
  unfold Device.QuotaKept Device.uncompleted
  omega

theorem Device.Balanced.restartable : d.Restartable := by
  intro hreading
  have hzero := h.stopped.mp hreading
  have hsum := h.sum
  have hinit : sendingBufsQuota.toNat = 13 := rfl
  rw [hzero, UInt8.toNat_zero] at hsum
  exact ⟨Nat.sub_pos_of_lt (by omega), hzero⟩

theorem Device.Balanced.quota_pos (hreading : d.reading = true) : 0 < d.remainingQuota.toNat := by
  refine pos_of_ne_zero fun hzero => ?_
  have hstop := h.stopped.mpr (UInt8.toNat_inj.mp hzero)
  rw [hreading] at hstop
  exact Bool.noConfusion hstop

theorem Device.Balanced.reading_of_cache (hcache : d.cache ≠ []) : d.reading = true :=
  Bool.of_not_eq_false fun hreading => hcache (h.drained hreading)

theorem Device.Balanced.doSppWrite (hreading : d.reading = true) (buffer : List UInt8)
    (capacity : Nat) {status : WriteStatus} (hfailed : status ≠ .failed)
    (hmem : ¬(status = .nomem ∧ Writes d buffer)) :
    (doSppWrite d buffer capacity status).Balanced := by
  have hpos := h.quota_pos hreading
  have hsum := h.sum
  have hle := h.completed_le
  have hread : ¬d.reading = false := by rw [hreading]; exact Bool.noConfusion
  by_cases hw : Writes d buffer
  · cases status with
    | failed => exact absurd rfl hfailed
    | nomem => exact absurd ⟨rfl, hw⟩ hmem
    | success =>
      obtain ⟨-, hcache, hquota, hreads, haccepted, hcompleted⟩ := doSppWrite_success hw capacity
      have hone : (d.remainingQuota - 1).toNat = d.remainingQuota.toNat - 1 :=
        UInt8.toNat_sub_of_le _ _ hpos
      rw [hreading] at hreads
      refine ⟨?_, ?_, ?_, fun _ => hcache⟩
      · rw [hquota, haccepted, hcompleted, hone]
        omega
      · omega
      · rw [hquota, hreads]
        exact ite_eq_left_iff.trans (by simp)
  · rw [doSppWrite_fragment hw]
    exact ⟨hsum, hle, h.stopped, fun hstop => absurd hstop hread⟩

theorem Device.Balanced.not_quotaKept_of_nomem (hreading : d.reading = true)
    (hw : Writes d buffer) (capacity : Nat) :
    ¬(Spp.doSppWrite d buffer capacity .nomem).QuotaKept := by
  have hpos := h.quota_pos hreading
  have hsum := h.sum
  have hle := h.completed_le
  have haccepted := (takeCache_eq d).2.2.1
  have hcompleted := (takeCache_flow d).2.2
  rw [doSppWrite_nomem hw]
  show ¬(0 + ((takeCache d).accepted.length - (takeCache d).completed) = _)
  rw [haccepted, hcompleted]
  omega

theorem Device.Balanced.toNat_quota_complete (hlt : d.completed < d.accepted.length) :
    (d.remainingQuota + 1).toNat = d.remainingQuota.toNat + 1 := by
  have hsum := h.sum
  have hinit : sendingBufsQuota.toNat = 13 := rfl
  rw [UInt8.toNat_add, UInt8.toNat_one]
  omega

theorem Device.Balanced.timerOff : Device.Balanced { d with timer := false } :=
  ⟨h.sum, h.completed_le, h.stopped, h.drained⟩

theorem Device.Balanced.complete (hlt : d.completed < d.accepted.length) (status : WriteStatus)
    {writing : Bool} (hrestart : ¬(d.remainingQuota = 0 ∧ writing = true)) :
    (sppOnOutgoingComplete d status writing).Balanced := by
  have hquota := h.toNat_quota_complete hlt
  have hsum : (d.remainingQuota + 1).toNat + d.accepted.length
      = sendingBufsQuota.toNat + (d.completed + 1) := by
    have := h.sum
    omega
  have hne : ¬(d.remainingQuota + 1 = 0) := fun hzero => by
    rw [hzero, UInt8.toNat_zero] at hquota
    omega
  simp only [sppOnOutgoingComplete]
  split
  next hfirst =>
    -- the quota was used up, so the pipe is not read and nothing is cached
    have hzero : d.remainingQuota = 0 := by simpa using hfirst
    have hstop := h.stopped.mpr hzero
    have hfree : writing = false := Bool.eq_false_of_not_eq_true fun hw => hrestart ⟨hzero, hw⟩
    rw [if_neg (by rw [h.drained hstop]; exact lt_irrefl 0), euvPipeReadStart, hstop, hfree]
    exact ⟨hsum, hlt, ⟨fun hf => Bool.noConfusion hf, fun hz => absurd hz hne⟩,
      fun hf => Bool.noConfusion hf⟩
  next hlater =>
    have hreads : ¬d.reading = false := fun hf =>
      hlater (by rw [h.stopped.mp hf]; rfl)
    exact ⟨hsum, hlt, ⟨fun hf => absurd hf hreads, fun hz => absurd hz hne⟩, h.drained⟩

theorem Device.Balanced.step (he : e.Paced d) (hok : ¬e.RunsOut d ∧ ¬e.LosesRestart d) :
    (Spp.step d e).Balanced := by
  obtain ⟨hmem, hrestart⟩ := hok
  cases e with
  | read bytes status =>
    obtain ⟨⟨-, hfailed⟩, hreading⟩ := he
    simp only [Spp.step, euvReadComplete]
    split
    · exact h
    next hne =>
      have hbytes : bytes ≠ [] := fun hnil => hne (by rw [hnil]; rfl)
      exact h.doSppWrite hreading bytes _ hfailed fun hw => hmem ⟨hw.1, hbytes, hw.2⟩
  | cacheTimeout status =>
    simp only [Spp.step, sppCacheTimeout]
    split
    next htimer =>
      split
      · exact h.timerOff
      next hne =>
        have hcache : d.cache ≠ [] := fun hnil => hne (by rw [hnil]; rfl)
        exact h.timerOff.doSppWrite (h.reading_of_cache hcache) [] 0 he.1
          fun hw => hmem ⟨hw.1, htimer, hcache⟩
    · exact h
  | outgoingComplete status writing => exact h.complete he.2 status hrestart
  | updateMfs mfs => exact ⟨h.sum, h.completed_le, h.stopped, h.drained⟩

theorem Device.Balanced.breaks (he : e.Paced d) (hbad : e.RunsOut d ∨ e.LosesRestart d) :
    ¬((Spp.step d e).QuotaKept ∧ (Spp.step d e).Restartable) := by
  rintro ⟨hkept, hlive⟩
  cases e with
  | read bytes status =>
    obtain ⟨rfl, hbytes, hw⟩ := hbad.resolve_right id
    have hne : ¬bytes.length = 0 := fun hzero => hbytes (length_eq_zero_iff.mp hzero)
    simp only [Spp.step, euvReadComplete, if_neg hne] at hkept
    exact h.not_quotaKept_of_nomem he.2 hw _ hkept
  | cacheTimeout status =>
    obtain ⟨rfl, htimer, hcache⟩ := hbad.resolve_right id
    have hne : ¬d.cache.length = 0 := fun hzero => hcache (length_eq_zero_iff.mp hzero)
    simp only [Spp.step, if_pos htimer, sppCacheTimeout, if_neg hne] at hkept
    exact h.timerOff.not_quotaKept_of_nomem (h.reading_of_cache hcache)
      (fun hfrag => hcache (length_eq_zero_iff.mp hfrag.1)) _ hkept
  | outgoingComplete status writing =>
    rcases hbad with ⟨-, hfirst, hcache⟩ | ⟨hzero, rfl⟩
    · exact hcache (h.drained (h.stopped.mpr (by simpa using hfirst)))
    · have hstop := h.stopped.mpr hzero
      have hcache : ¬d.cache.length > 0 := by rw [h.drained hstop]; exact lt_irrefl 0
      simp only [Spp.step, sppOnOutgoingComplete, hzero, UInt8.zero_add, if_true, if_neg hcache,
        euvPipeReadStart, Bool.or_true] at hlive
      exact absurd (hlive hstop).2 (show ¬(1 : UInt8) = 0 by decide)
  | updateMfs mfs => exact hbad.elim id id

end

theorem Device.balanced_start (mfs : UInt16) : (Device.start mfs).Balanced where
  sum := rfl
  completed_le := le_refl 0
  stopped := iff_of_false Bool.noConfusion (show sendingBufsQuota ≠ 0 by decide)
  drained := fun _ => rfl

/-- The quota and the uncompleted writes always add up, and a completion that restarts the pipe
is to come whenever it is not read, exactly if the stack is never out of memory and no completion
at quota zero finds the pipe being written. -/
theorem quotaKept_iff {mfs : UInt16} {es : List Event}
    (hes : Runs.Guarded step (fun d e => e.Paced d) (Device.start mfs) es) :
    (∀ d ∈ Runs.visited step (Device.start mfs) es, d.QuotaKept ∧ d.Restartable)
      ↔ Runs.Guarded step (fun d e => ¬e.RunsOut d ∧ ¬e.LosesRestart d) (Device.start mfs) es :=
  hes.forall_visited_iff (fun _ h => ⟨Device.Balanced.quotaKept h, h.restartable⟩)
    (fun _ _ h he hok => h.step he hok)
    (fun _ _ h he hbad => h.breaks he (by rwa [← not_or, not_not] at hbad))
    (Device.balanced_start mfs)

/-- A fragment for which the stack has no memory when the timer sends it: nothing is
outstanding, the pipe is not read, and the timer that sends it again wraps the quota. -/
def outOfMemoryRun : List Event :=
  [.read [1] .success, .cacheTimeout .nomem, .cacheTimeout .success]

theorem outOfMemoryRun_not_kept :
    Runs.Guarded step (fun d e => e.Paced d) (Device.start 255) outOfMemoryRun
      ∧ ¬(∀ d ∈ Runs.visited step (Device.start 255) outOfMemoryRun, d.QuotaKept ∧ d.Restartable)
      ∧ (Runs.visited step (Device.start 255) outOfMemoryRun).map
          (fun d => (d.remainingQuota, d.uncompleted, d.reading))
        = [(13, 0, true), (13, 0, true), (0, 0, false), (255, 1, false)] := by
  decide

def fullFramesRun : List Event :=
  List.replicate 13 (.read [1] .success) ++ List.replicate 13 (.outgoingComplete .success false)

theorem fullFramesRun_kept :
    Runs.Guarded step (fun d e => e.Paced d) (Device.start 1) fullFramesRun
      ∧ ∀ d ∈ Runs.visited step (Device.start 1) fullFramesRun, d.QuotaKept ∧ d.Restartable :=
  ⟨by decide, (quotaKept_iff (by decide)).mpr (by decide)⟩

/-! ## The block of the cache -/

def Device.block (d : Device) : Nat := if d.cache.length > 0 then d.capacity else d.mfs.toNat

/-- The cache stays below a frame, and what can be read fits behind it. -/
@[mk_iff cacheFits_def]
structure Device.CacheFits (d : Device) : Prop where
  free : d.cache.length + euvAllocBuffer d = d.block
  frame : d.cache.length + euvAllocBuffer d ≤ d.mfs.toNat
  below : d.cache.length < d.mfs.toNat

instance (d : Device) : Decidable d.CacheFits := decidable_of_iff _ d.cacheFits_def.symm

theorem cacheFits_iff (d : Device) :
    d.CacheFits ↔ d.cache.length < d.mfs.toNat ∧ (d.cache ≠ [] → d.capacity = d.mfs.toNat) := by
  have hlt := d.mfs.toNat_lt
  rw [d.cacheFits_def, euvAllocBuffer, Device.block]
  by_cases hcache : d.cache = []
  · simp [hcache]
  · have hpos : d.cache.length > 0 := length_pos_iff.mpr hcache
    rw [if_pos hpos, if_pos hpos]
    refine ⟨fun h => ⟨h.2.2, fun _ => by omega⟩, fun h => ?_⟩
    have hcap := h.2 hcache
    omega

namespace Event

/-- A read brings no more than was asked for. -/
def Fits (d : Device) : Event → Prop
  | .read bytes _ => bytes.length ≤ euvAllocBuffer d
  | _ => True

/-- What is free in the cache is computed from the `mfs` of that moment: the frame size stays while
something is cached, and no full frame is refused. -/
def KeepsFrame (d : Device) : Event → Prop
  | .read bytes status => ¬(status = .nomem ∧ d.cache.length + bytes.length = d.mfs.toNat)
  | .updateMfs mfs => if d.cache = [] then 0 < mfs.toNat else mfs = d.mfs
  | _ => True

instance (d : Device) (e : Event) : Decidable (e.Fits d) := by
  cases e <;> unfold Fits <;> infer_instance

instance (d : Device) (e : Event) : Decidable (e.KeepsFrame d) := by
  cases e <;> unfold KeepsFrame <;> infer_instance

end Event

theorem cacheFits_of_empty (hcache : d.cache = []) (hmfs : 0 < d.mfs.toNat) :
    d.CacheFits :=
  (cacheFits_iff d).mpr ⟨by rw [hcache]; exact hmfs, fun hne => absurd hcache hne⟩

theorem writeSize_of_le (h : d.cache.length + buffer.length ≤ d.mfs.toNat) :
    writeSize d buffer = d.cache.length + buffer.length := by
  have hlt := d.mfs.toNat_lt
  have hmod : (buffer.length + d.cache.length) % 2 ^ 16 = buffer.length + d.cache.length :=
    mod_eq_of_lt (by omega)
  simp only [writeSize, hmod]
  rw [if_neg (by omega), add_comm]

theorem Device.CacheFits.doSppWrite_iff (h : d.CacheFits)
    (hfit : d.cache.length + buffer.length ≤ d.mfs.toNat) {capacity : Nat}
    (hcap : d.cache = [] → capacity = d.mfs.toNat) (status : WriteStatus) :
    (doSppWrite d buffer capacity status).CacheFits
      ↔ ¬(status = .nomem ∧ d.cache.length + buffer.length = d.mfs.toNat) := by
  obtain ⟨hbelow, hblock⟩ := (cacheFits_iff d).mp h
  obtain ⟨hmfs, hcache, -, -⟩ := takeCache_eq d
  have hpos : 0 < d.mfs.toNat := lt_of_le_of_lt (zero_le _) hbelow
  have hsize := writeSize_of_le hfit
  by_cases hw : Writes d buffer
  · cases status with
    | success =>
      obtain ⟨hmfs', hcache', -⟩ := doSppWrite_success hw capacity
      exact iff_of_true (cacheFits_of_empty hcache' (by rwa [hmfs'])) (by simp)
    | failed =>
      rw [show doSppWrite d buffer capacity .failed = takeCache d from if_neg hw]
      exact iff_of_true (cacheFits_of_empty hcache (by rwa [hmfs])) (by simp)
    | nomem =>
      have htmpcap : (if d.cache.length > 0 then d.capacity else capacity) = d.mfs.toNat := by
        split
        next hpos => exact hblock (length_pos_iff.mp hpos)
        next hnone => exact hcap (length_eq_zero_iff.mp (by omega))
      have hlen : ((d.cache ++ buffer).take (writeSize d buffer)).length
          = d.cache.length + buffer.length := by
        rw [length_take, length_append, hsize, min_self]
      rw [doSppWrite_nomem hw, cacheFits_iff]
      show (List.take _ _).length < (takeCache d).mfs.toNat
        ∧ (_ → (if _ then _ else _) = (takeCache d).mfs.toNat) ↔ _
      rw [hmfs, hlen, htmpcap]
      simp only [implies_true, and_true, true_and]
      omega
  · have hshort := not_not.mp hw
    rw [doSppWrite_fragment hw, cacheFits_iff]
    show (List.take _ _).length < d.mfs.toNat ∧ (_ → capacity = d.mfs.toNat) ↔ _
    rw [length_take]
    have hnil := length_eq_zero_iff.mp hshort.1
    exact iff_of_true ⟨by omega, fun _ => hcap hnil⟩ (by omega)

theorem Device.CacheFits.flush (h : d.CacheFits) (hcache : d.cache ≠ []) (status : WriteStatus) :
    (Spp.doSppWrite d [] 0 status).CacheFits := by
  have hbelow := h.below
  refine (h.doSppWrite_iff ?_ (fun hnil => absurd hnil hcache) status).mpr ?_
  · rw [length_nil]
    omega
  · rw [length_nil]
    omega

theorem Device.CacheFits.step_iff (h : d.CacheFits) (he : e.Fits d) :
    (Spp.step d e).CacheFits ↔ e.KeepsFrame d := by
  obtain ⟨hbelow, hblock⟩ := (cacheFits_iff d).mp h
  cases e with
  | read bytes status =>
    have hoffered : bytes.length ≤ euvAllocBuffer d := he
    have hframe := h.frame
    simp only [Spp.step, euvReadComplete, Event.KeepsFrame]
    split
    next hzero => exact iff_of_true h (by omega)
    · exact h.doSppWrite_iff (by omega) (fun _ => rfl) status
  | cacheTimeout status =>
    have hfired : Device.CacheFits { d with timer := false } := ⟨h.free, h.frame, h.below⟩
    refine iff_of_true ?_ trivial
    simp only [Spp.step, sppCacheTimeout]
    split
    · split
      · exact hfired
      next hne => exact hfired.flush (fun hnil => hne (length_eq_zero_iff.mpr hnil)) status
    · exact h
  | outgoingComplete status writing =>
    have hback : Device.CacheFits { d with
        completed := d.completed + 1, remainingQuota := d.remainingQuota + 1 } :=
      ⟨h.free, h.frame, h.below⟩
    refine iff_of_true ?_ trivial
    simp only [Spp.step, sppOnOutgoingComplete, euvPipeReadStart]
    split
    · split
      next hpos => exact hback.flush (length_pos_iff.mp hpos) status
      · split <;> exact ⟨h.free, h.frame, h.below⟩
    · exact hback
  | updateMfs mfs =>
    rw [cacheFits_iff]
    simp only [Spp.step, Event.KeepsFrame]
    by_cases hcache : d.cache = []
    · simp [hcache]
    · -- the block stays, and the bytes in it are fewer than a frame of its size
      rw [if_neg hcache, hblock hcache, ← UInt16.toNat_inj]
      exact ⟨fun hfits => (hfits.2 hcache).symm, fun hsame => ⟨by omega, fun _ => hsame.symm⟩⟩

/-- What is offered is always what is free in the block, below the frame size and without a wrap,
exactly if the stack has memory for each full frame and the frame size changes only while nothing
is cached. -/
theorem cacheFits_along_iff {mfs : UInt16} {es : List Event} (hmfs : 0 < mfs.toNat)
    (hes : Runs.Guarded step (fun d e => e.Fits d) (Device.start mfs) es) :
    (∀ d ∈ Runs.visited step (Device.start mfs) es, d.CacheFits)
      ↔ Runs.Guarded step (fun d e => e.KeepsFrame d) (Device.start mfs) es :=
  hes.forall_visited_iff (fun _ h => h) (fun _ _ h he => (Device.CacheFits.step_iff h he).mpr)
    (fun _ _ h he => mt (Device.CacheFits.step_iff h he).mp)
    (cacheFits_of_empty rfl hmfs)

def shrinkingRun : List Event := [.read [1, 2, 3] .success, .updateMfs 2]

def growingRun : List Event := [.read [1, 2, 3] .success, .updateMfs 1000]

/-- The first frame size offers nearly the whole address space, the second one more than
is left of the block. -/
theorem cache_outgrown :
    Runs.Guarded step (fun d e => e.Fits d) (Device.start 255) shrinkingRun
      ∧ euvAllocBuffer (Runs.after step (Device.start 255) shrinkingRun) = 2 ^ 32 - 1
      ∧ ¬(Runs.after step (Device.start 255) shrinkingRun).CacheFits
      ∧ Runs.Guarded step (fun d e => e.Fits d) (Device.start 255) growingRun
      ∧ euvAllocBuffer (Runs.after step (Device.start 255) growingRun) = 997
      ∧ (Runs.after step (Device.start 255) growingRun).block = 255 := by
  decide

theorem fragmentRun_fits :
    Runs.Guarded step (fun d e => e.Fits d) (Device.start 4)
        (fragmentRun ++ [.cacheTimeout .success, .updateMfs 990])
      ∧ ∀ d ∈ Runs.visited step (Device.start 4)
        (fragmentRun ++ [.cacheTimeout .success, .updateMfs 990]), d.CacheFits :=
  ⟨by decide, (cacheFits_along_iff (by decide) (by decide)).mpr (by decide)⟩

end BtFramework.Spp
