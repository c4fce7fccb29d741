import BtFramework.Chunks
import BtFramework.RasProcedures
import BtFramework.Runs

/-!
# On-demand segments

The subevent results of a procedure arrive one at a time, with other events in between and an
MTU that may change; each is cut on its own (`Chunks.Cut`), and the segment index and the First
and Last bits run on across them. `OdBuilt` relates a stored procedure to the results received
for it so far.
-/

namespace BtFramework

open Chunks Keyed List Nat Option Runs

/-! ## Pieces with their Last flag -/

def flagLast {α : Type} : List α → Bool → List (α × Bool)
  | [], _ => []
  | [q], b => [(q, b)]
  | q :: r :: qs, b => (q, false) :: flagLast (r :: qs) b

variable {α : Type} {p : RasOdProcedure} {fs rs : List (List UInt8 × Bool)} {c : Nat} {i : RasInput}

theorem flagLast_cons {qs : List α} (hqs : qs ≠ []) (q : α) (b : Bool) :
    flagLast (q :: qs) b = (q, false) :: flagLast qs b := by
  cases qs with
  | nil => exact absurd rfl hqs
  | cons r qs => rfl

theorem flagLast_concat (qs : List α) (q : α) (b : Bool) :
    flagLast (qs ++ [q]) b = qs.map (·, false) ++ [(q, b)] := by
  induction qs with
  | nil => rfl
  | cons r qs ih =>
    rw [cons_append, flagLast_cons (by simp), ih]
    rfl

theorem map_fst_flagLast (qs : List α) (b : Bool) : (flagLast qs b).map (·.1) = qs := by
  induction qs with
  | nil => rfl
  | cons q qs ih =>
    cases qs with
    | nil => rfl
    | cons r qs => rw [flagLast, map_cons, ih]

def odFrames (fs : List (List UInt8 × Bool)) : List RasSegment :=
  fs.mapIdx fun k f =>
    { segIdx := k % 65536
      len := (f.1.length + 1) % 65536
      data := rasSegHeader (k % 65536) f.2 :: f.1 }

structure OdHolds (p : RasOdProcedure) (fs : List (List UInt8 × Bool)) : Prop where
  segList : p.segList = odFrames fs
  nextSegIndex : p.nextSegIndex = fs.length % 65536

theorem OdHolds.append (h : OdHolds p fs) (q : List UInt8) (b : Bool) :
    OdHolds (odAppend p q b) (fs ++ [(q, b)]) where
  segList := by
    rw [odAppend, h.segList, h.nextSegIndex, odFrames, odFrames, mapIdx_concat]
  nextSegIndex := by
    rw [odAppend, h.nextSegIndex, length_append, mod_add_mod]
    rfl

/-! ## Cutting one result -/

def odAppendAll (p : RasOdProcedure) (fs : List (List UInt8 × Bool)) : RasOdProcedure :=
  fs.foldl (fun p f => odAppend p f.1 f.2) p

theorem OdHolds.appendAll (h : OdHolds p fs) (gs : List (List UInt8 × Bool)) :
    OdHolds (odAppendAll p gs) (fs ++ gs) := by
  induction gs generalizing p fs with
  | nil => rwa [append_nil]
  | cons g gs ih =>
    have hrest := ih (h.append g.1 g.2)
    rwa [append_assoc] at hrest

variable {s : RasSrv}

theorem odSplitLoop_cut {fuel : Nat} (buf : List UInt8)
    (halloc : ∀ r ∈ s.allocResults, r = true) (hmtu : 5 < s.rasMtu)
    (hfuel : buf.length < fuel) (p : RasOdProcedure) (b : Bool) :
    ∃ as ps, (∀ r ∈ as, r = true) ∧ Cut (fun _ => s.rasMtu - 5) buf ps
      ∧ odSplitLoop fuel s p buf b
          = (true, { s with allocResults := as }, odAppendAll p (flagLast ps b)) := by
  induction fuel generalizing s p buf with
  | zero => exact absurd hfuel (not_lt_zero _)
  | succ fuel ih =>
    have hcap : s.rasMtu - rasSegHeaderSize - 1 = s.rasMtu - 5 := by
      unfold rasSegHeaderSize
      omega
    have htail : ∀ r ∈ s.allocResults.tail, r = true :=
      fun r hr => halloc r (mem_of_mem_tail hr)
    unfold odSplitLoop
    rw [hcap, RasSrv.alloc_eq halloc]
    by_cases hmore : s.rasMtu - 5 < buf.length
    · obtain ⟨as, ps, has, hcut, hloop⟩ := ih
        (s := { s with allocResults := s.allocResults.tail })
        (buf.drop (s.rasMtu - 5)) htail hmtu
        (by rw [length_drop]; omega)
        (odAppend p (buf.take (s.rasMtu - 5)) false)
      refine ⟨as, _, has, .more hmore hcut, ?_⟩
      rw [flagLast_cons hcut.ne_nil]
      simp only [hmore, if_true, Bool.not_true, Bool.false_eq_true, if_false]
      exact hloop
    · refine ⟨_, [buf], htail, .last (Nat.le_of_not_lt hmore), ?_⟩
      simp only [hmore, if_false, Bool.not_true, Bool.false_eq_true]
      rfl

theorem csRasSplitOnDemandSegment_cut (buf : List UInt8)
    (halloc : ∀ r ∈ s.allocResults, r = true) (hmtu : 5 < s.rasMtu) (hp : OdHolds p fs)
    (b : Bool) :
    ∃ ps, Cut (fun _ => s.rasMtu - 5) buf ps
      ∧ OdHolds (csRasSplitOnDemandSegment s buf p b).2 (fs ++ flagLast ps b) := by
  obtain ⟨as, ps, -, hcut, hloop⟩ := odSplitLoop_cut buf halloc hmtu (lt_succ_self buf.length) p b
  have hall := hp.appendAll (flagLast ps b)
  refine ⟨ps, hcut, ?_⟩
  unfold csRasSplitOnDemandSegment
  rw [if_neg (by unfold rasSegHeaderSize; omega), hloop]
  dsimp only
  split
  · exact ⟨hall.segList, hall.nextSegIndex⟩
  · exact hall

/-! ## Storing one result -/

/-- The server has procedure `c`. -/
def Stored (s : RasSrv) (c : Nat) : Prop := ∃ p ∈ s.odProcedureList, p.count = c
deriving Decidable

def HasSlot (s : RasSrv) : Prop :=
  s.odProcedureList.length < rasOdProcedureMax ∨ ∃ p ∈ s.odProcedureList, p.processing = false
deriving Decidable

theorem odMakeRoom_room (fuel : Nat) {l : List RasOdProcedure} (hn : (l.map (·.id)).Nodup)
    (hbound : l.length ≤ rasOdProcedureMax)
    (hslot : l.length < rasOdProcedureMax ∨ ∃ p ∈ l, p.processing = false) :
    (odMakeRoom fuel l).1 = true := by
  induction fuel generalizing l with
  | zero => rfl
  | succ fuel ih =>
    unfold odMakeRoom
    split
    next hfull =>
      obtain ⟨l', hl'⟩ := isSome_iff_exists.mp
        (csRasOdRemoveOld_isSome (hslot.resolve_left (not_lt.mpr hfull)))
      obtain ⟨p, hp, -, rfl⟩ := csRasOdRemoveOld_spec hn hl'
      have hshort : (Keyed.remove (·.id) p.id l).length < l.length :=
        length_filter_lt_length_iff_exists.mpr ⟨p, hp, by simp⟩
      rw [hl']
      exact ih (nodup_remove hn) (by omega) (.inl (by omega))
    · rfl

theorem csRasOdAllocProcedure_ready (h : s.od.WF) (halloc : ∀ r ∈ s.allocResults, r = true)
    (hslot : Stored s c ∨ HasSlot s) :
    ∃ id as l n p, (∀ r ∈ as, r = true)
      ∧ csRasOdAllocProcedure s c
          = (some id, { s with allocResults := as, odProcedureList := l, nextId := n })
      ∧ p ∈ l ∧ p.id = id ∧ p.count = c
      ∧ (p ∈ s.odProcedureList ∨ (∀ q ∈ s.odProcedureList, q.count ≠ c) ∧ OdHolds p []) := by
  unfold csRasOdAllocProcedure
  cases hfind : csRasOdFindProcedure s c with
  | some p =>
    obtain ⟨hp, hcount⟩ := mem_of_find? hfind
    exact ⟨_, _, _, _, p, halloc, rfl, hp, rfl, hcount, .inl hp⟩
  | none =>
    have hnew : ∀ q ∈ s.odProcedureList, q.count ≠ c :=
      fun q hq => find?_eq_none hfind hq
    have hslot' : HasSlot s := hslot.resolve_left fun ⟨p, hp, hcount⟩ => hnew p hp hcount
    have hroom := odMakeRoom_room s.odProcedureList.length h.ids h.bound hslot'
    rcases hr : odMakeRoom s.odProcedureList.length s.odProcedureList with ⟨room, l⟩
    rw [show odMakeRoom s.odProcedureList.length s.od.procs = _ from hr] at hroom
    cases hroom
    dsimp only
    rw [RasSrv.alloc_eq (s := { s with odProcedureList := l }) halloc]
    refine ⟨_, _, _, _, newProcedure s.nextId c, ?_, rfl, mem_concat_self,
      rfl, rfl, .inr ⟨hnew, rfl, rfl⟩⟩
    exact fun r hr => halloc r (mem_of_mem_tail hr)

theorem csRasProcessOnDemandRangingData_holds {result : CsSubeventResult} (h : s.od.WF)
    (halloc : ∀ r ∈ s.allocResults, r = true) (hmtu : 5 < s.rasMtu)
    (hslot : Stored s result.header.procedureCounter ∨ HasSlot s)
    (hold : ∀ p ∈ s.odProcedureList, p.count = result.header.procedureCounter → OdHolds p fs)
    (hnone : ¬ Stored s result.header.procedureCounter → fs = []) (complete : Bool) :
    ∃ ps, Cut (fun _ => s.rasMtu - 5)
        (rasSubeventDataConversion s.rasFilter s.roleInitiator result) ps
      ∧ ∃ p ∈ (csRasProcessOnDemandRangingData s result complete).odProcedureList,
          p.count = result.header.procedureCounter ∧ OdHolds p (fs ++ flagLast ps complete) := by
  obtain ⟨id, as, l, n, p, has, hproc, hp, hid, hcount, hfrom⟩ :=
    csRasOdAllocProcedure_ready h halloc hslot
  have hholds : OdHolds p fs := by
    rcases hfrom with hmem | ⟨hnew, hempty⟩
    · exact hold p hmem hcount
    · rw [hnone fun ⟨q, hq, hqc⟩ => hnew q hq hqc]
      exact hempty
  have hbuf := RasSrv.alloc_eq (s := { s with
    allocResults := as, odProcedureList := l, nextId := n }) has
  have hsteps := (csRasOdAllocProcedure_steps h result.header.procedureCounter).1
  rw [hproc] at hsteps
  have hwf := OdStep.wf_of_steps hsteps h
  have hfind : l.find? (·.id = id) = some p := (find?_eq_some hwf.ids).mpr ⟨hp, hid⟩
  have hod := od_csRasProcessOnDemandRangingData hproc hbuf hfind complete
  have htail : ∀ r ∈ as.tail, r = true := fun r hr => has r (mem_of_mem_tail hr)
  obtain ⟨ps, hcut, hps⟩ := csRasSplitOnDemandSegment_cut (s := { s with
    allocResults := as.tail, odProcedureList := l, nextId := n })
    (rasSubeventDataConversion s.rasFilter s.roleInitiator result) htail hmtu hholds complete
  refine ⟨ps, hcut, _, ?_, ?_, hps⟩
  · show _ ∈ (csRasProcessOnDemandRangingData s result complete).od.procs
    rw [hod]
    exact mem_update.mpr (.inl ⟨p, hp, hid, rfl⟩)
  · exact (csRasSplitOnDemandSegment_grows _ p complete).count.trans hcount

/-! ## Along a run -/

def odReceivedNow (c : Nat) (s : RasSrv) (i : RasInput) : List (List UInt8 × Bool) :=
  match i.event with
  | .subevent result =>
    if result.header.procedureCounter = c then
      [(rasSubeventDataConversion s.rasFilter s.roleInitiator result,
        result.header.procedureDoneStatus = csComplete)]
    else []
  | _ => []

/-- The data received for procedure `c`, with whether each was its last. -/
def odReceived (c : Nat) : RasSrv → List RasInput → List (List UInt8 × Bool)
  | _, [] => []
  | s, i :: is => odReceivedNow c s i ++ odReceived c (rasStep s i) is

theorem odReceived_concat (c : Nat) (s : RasSrv) (is : List RasInput) (i : RasInput) :
    odReceived c s (is ++ [i]) = odReceived c s is ++ odReceivedNow c (after rasStep s is) i := by
  induction is generalizing s with
  | nil => rw [odReceived, nil_append, odReceived, odReceived, append_nil]; rfl
  | cons j is ih =>
    rw [cons_append, odReceived, ih, odReceived, append_assoc]
    rfl

/-- A result for counter `c` arrives in on-demand mode, with the MTU above its minimum, memory and
a slot for its procedure; the event does not remove a stored one. -/
structure OdReceives (c : Nat) (s : RasSrv) (i : RasInput) : Prop where
  ready : i.event.resultCount = some c →
    rasCheckRangingMode s = .onDemand ∧ 5 < s.rasMtu ∧ (∀ r ∈ i.allocs, r = true)
      ∧ (Stored s c ∨ HasSlot s)
  stays : Stored s c → Stored (rasStep s i) c

inductive OdCuts : List (List UInt8 × Bool) → List (List UInt8 × Bool) → Prop where
  | nil : OdCuts [] []
  | snoc {rs fs : List (List UInt8 × Bool)} {cap : Nat → Nat} {d : List UInt8} {b : Bool}
      {ps : List (List UInt8)} (h : OdCuts rs fs) (hcut : Cut cap d ps) :
      OdCuts (rs ++ [(d, b)]) (fs ++ flagLast ps b)

structure OdBuilt (c : Nat) (rs : List (List UInt8 × Bool)) (s : RasSrv) : Prop where
  wf : s.od.WF
  stored : Stored s c ↔ rs ≠ []
  holds : ∀ p ∈ s.odProcedureList, p.count = c → ∃ fs, OdCuts rs fs ∧ OdHolds p fs

theorem rasStep_result {result : CsSubeventResult} (hi : i.event = .subevent result)
    (hmode : rasCheckRangingMode s = .onDemand) :
    rasStep s i = csRasProcessOnDemandRangingData
      { s with allocResults := i.allocs, sendResults := i.sends } result
      (result.header.procedureDoneStatus = csComplete) := by
  have hmode' : rasCheckRangingMode
      { s with allocResults := i.allocs, sendResults := i.sends } = .onDemand := hmode
  unfold rasStep
  rw [hi]
  show csRasSubeventResultCb _ _ = _
  unfold csRasSubeventResultCb
  rw [hmode', if_neg (fun h => nomatch h.2), if_pos rfl]

theorem OdBuilt.result {result : CsSubeventResult} (h : OdBuilt c rs s)
    (hi : i.event = .subevent result) (hc : result.header.procedureCounter = c)
    (hok : OdReceives c s i) :
    OdBuilt c (rs ++ odReceivedNow c s i) (rasStep s i) := by
  obtain ⟨hmode, hmtu, halloc, hslot⟩ := hok.ready (by rw [hi, ← hc]; rfl)
  obtain ⟨fs, hcuts, hfs, hnone⟩ : ∃ fs, OdCuts rs fs
      ∧ (∀ p ∈ s.odProcedureList, p.count = c → OdHolds p fs)
      ∧ (¬ Stored s c → fs = []) := by
    by_cases hst : Stored s c
    · obtain ⟨p, hp, hpc⟩ := hst
      obtain ⟨fs, hcuts, hfs⟩ := h.holds p hp hpc
      refine ⟨fs, hcuts, fun q hq hqc => ?_, fun hst => absurd ⟨p, hp, hpc⟩ hst⟩
      rw [h.wf.eq_of_count hq hp (hqc.trans hpc.symm)]
      exact hfs
    · have hnil : rs = [] := Classical.not_not.mp (mt h.stored.mpr hst)
      exact ⟨[], hnil ▸ .nil, fun q hq hqc => absurd ⟨q, hq, hqc⟩ hst, fun _ => rfl⟩
  subst hc
  obtain ⟨ps, hcut, p, hp, hpc, hholds⟩ := csRasProcessOnDemandRangingData_holds
    (s := { s with allocResults := i.allocs, sendResults := i.sends })
    h.wf halloc hmtu hslot hfs hnone (result.header.procedureDoneStatus = csComplete)
  rw [← rasStep_result hi hmode] at hp
  have hnow : odReceivedNow result.header.procedureCounter s i
      = [(rasSubeventDataConversion s.rasFilter s.roleInitiator result,
          decide (result.header.procedureDoneStatus = csComplete))] := by
    rw [odReceivedNow, hi]
    exact if_pos rfl
  have hwf := rasStep_wf h.wf i
  refine ⟨hwf, iff_of_true ⟨p, hp, hpc⟩ (by simp [hnow]), fun q hq hqc => ?_⟩
  obtain rfl := hwf.eq_of_count hq hp (hqc.trans hpc.symm)
  rw [hnow]
  exact ⟨_, hcuts.snoc hcut, hholds⟩

theorem OdBuilt.other (h : OdBuilt c rs s) (hi : i.event.resultCount ≠ some c)
    (hok : OdReceives c s i) :
    OdBuilt c rs (rasStep s i) := by
  have hmove := rasStep_od h.wf i
  have hback : ∀ p' ∈ (rasStep s i).odProcedureList, p'.count = c →
      ∃ p ∈ s.odProcedureList, p.Same p' :=
    fun p' hp' hc => hmove.same_of_count hi h.wf hp' hc
  refine ⟨rasStep_wf h.wf i, ⟨?_, fun hrs => hok.stays (h.stored.mpr hrs)⟩, ?_⟩
  · rintro ⟨p', hp', hc⟩
    obtain ⟨p, hp, hsame⟩ := hback p' hp' hc
    exact h.stored.mp ⟨p, hp, hsame.count ▸ hc⟩
  · intro p' hp' hc
    obtain ⟨p, hp, hsame⟩ := hback p' hp' hc
    obtain ⟨fs, hcuts, hholds⟩ := h.holds p hp (hsame.count ▸ hc)
    exact ⟨fs, hcuts, hsame.segList.trans hholds.segList,
      hsame.nextSegIndex.trans hholds.nextSegIndex⟩

theorem OdBuilt.step (h : OdBuilt c rs s) (hok : OdReceives c s i) :
    OdBuilt c (rs ++ odReceivedNow c s i) (rasStep s i) := by
  by_cases hi : i.event.resultCount = some c
  · cases he : i.event with
    | subevent result =>
      rw [he] at hi
      exact h.result he (Option.some.inj hi) hok
    | _ =>
      rw [he] at hi
      cases hi
  · have hnow : odReceivedNow c s i = [] := by
      unfold odReceivedNow
      split
      next result he =>
        refine if_neg fun hc => hi ?_
        rw [he, ← hc]
        rfl
      · rfl
    rw [hnow, append_nil]
    exact h.other hi hok

theorem odBuilt_after {is : List RasInput} (hwf : s.od.WF) (hnew : ¬ Stored s c)
    (hrun : Guarded rasStep (OdReceives c) s is) :
    OdBuilt c (odReceived c s is) (after rasStep s is) := by
  apply hrun.history_invariant fun es t => OdBuilt c (odReceived c s es) t
  · exact ⟨hwf, iff_of_false hnew (fun h => h rfl),
      fun p hp hc => absurd ⟨p, hp, hc⟩ hnew⟩
  · intro es i h hok
    rw [odReceived_concat]
    exact h.step hok

/-! ## Complete procedures -/

theorem OdCuts.flatten (h : OdCuts rs fs) : (fs.map (·.1)).flatten = (rs.map (·.1)).flatten := by
  induction h with
  | nil => rfl
  | snoc _ hcut ih => simp [map_fst_flagLast, ih, hcut.flatten]

theorem OdCuts.no_flag (h : OdCuts rs fs) (hrs : ∀ r ∈ rs, r.2 = false) :
    ∀ f ∈ fs, f.2 = false := by
  induction h with
  | nil => exact hrs
  | @snoc rs fs cap d b ps _ hcut ih =>
    obtain ⟨qs, q, rfl⟩ := (eq_nil_or_concat ps).resolve_left hcut.ne_nil
    have hb : b = false := hrs (d, b) (by simp)
    have hfs := ih fun r hr => hrs r (mem_append_left _ hr)
    rw [concat_eq_append, flagLast_concat, hb, forall_mem_append, forall_mem_concat]
    exact ⟨hfs, forall_mem_map.mpr fun _ _ => rfl, rfl⟩

theorem OdCuts.last_flag {d : List UInt8} {b : Bool} (h : OdCuts (rs ++ [(d, b)]) fs)
    (hrs : ∀ r ∈ rs, r.2 = false) :
    ∃ gs q, fs = gs ++ [(q, b)] ∧ ∀ g ∈ gs, g.2 = false := by
  generalize hall : rs ++ [(d, b)] = rs' at h
  cases h with
  | nil => simp at hall
  | @snoc rs₀ gs cap d₀ b₀ ps h hcut =>
    obtain ⟨rfl, hlast⟩ := append_inj' hall rfl
    cases hlast
    obtain ⟨qs, q, rfl⟩ := (eq_nil_or_concat ps).resolve_left hcut.ne_nil
    refine ⟨gs ++ qs.map (·, false), q, ?_, ?_⟩
    · rw [concat_eq_append, flagLast_concat, append_assoc]
    · exact forall_mem_append.mpr ⟨h.no_flag hrs, forall_mem_map.mpr fun _ _ => rfl⟩

theorem map_data_odFrames {gs : List (List UInt8 × Bool)} {q : List UInt8}
    (hgs : ∀ g ∈ gs, g.2 = false) :
    (odFrames (gs ++ [(q, true)])).map (·.data)
      = frameSegments 65536 ((gs ++ [(q, true)]).map (·.1)) := by
  apply ext_getElem?
  intro k
  rw [odFrames, frameSegments, getElem?_map, getElem?_mapIdx, getElem?_mapIdx,
    getElem?_map, Option.map_map, Option.map_map]
  refine map_congr fun f hf => ?_
  have hflag : f.2 = decide (k + 1 = (gs ++ [(q, true)]).length) := by
    rw [length_append, length_singleton]
    rcases lt_trichotomy k gs.length with hk | hk | hk
    · rw [getElem?_append_left hk] at hf
      rw [hgs f (mem_of_getElem? hf), eq_comm, decide_eq_false_iff_not]
      omega
    · rw [getElem?_append_right (by omega), hk, Nat.sub_self] at hf
      cases hf
      rw [eq_comm, decide_eq_true_eq]
      omega
    · rw [getElem?_eq_none (by simp; omega)] at hf
      cases hf
  simp only [Function.comp_apply, length_map, hflag]

/-- **Storage round trip.** If the results for a counter arrive in on-demand mode with the MTU
above its minimum, the last of them and no other completing the procedure, it is stored with
segments that are a segmentation of the converted results in order of arrival. -/
theorem od_segmentation {c : Nat} (is : List RasInput) {ds : List (List UInt8)}
    {d : List UInt8} (hwf : s.od.WF) (hnew : ¬ Stored s c)
    (hrun : Guarded rasStep (OdReceives c) s is)
    (hrecv : odReceived c s is = ds.map (·, false) ++ [(d, true)]) :
    ∃ p, csRasOdFindProcedure (after rasStep s is) c = some p
      ∧ (p.segList.length < 65536 →
          (∀ (k : Nat) (seg : RasSegment), p.segList[k]? = some seg →
            seg.segIdx = k ∧ seg.len = seg.data.length % 65536)
          ∧ RasSegmentation (ds ++ [d]).flatten (p.segList.map (·.data))) := by
  have hbuilt := odBuilt_after hwf hnew hrun
  rw [hrecv] at hbuilt
  obtain ⟨p, hp, hc⟩ := hbuilt.stored.mpr (by simp)
  obtain ⟨fs, hcuts, hholds⟩ := hbuilt.holds p hp hc
  refine ⟨p, (find?_eq_some hbuilt.wf.counts).mpr ⟨hp, hc⟩, fun hlen => ⟨?_, ?_⟩⟩
  · intro k seg hseg
    have hk := (List.getElem?_eq_some_iff.mp hseg).1
    rw [hholds.segList, odFrames, getElem?_mapIdx, map_eq_some_iff] at hseg
    obtain ⟨f, -, rfl⟩ := hseg
    exact ⟨mod_eq_of_lt (hk.trans hlen), rfl⟩
  · have hflat := hcuts.flatten
    obtain ⟨gs, q, rfl, hgs⟩ := hcuts.last_flag (by simp)
    rw [hholds.segList, odFrames, length_mapIdx] at hlen
    rw [hholds.segList, map_data_odFrames hgs]
    have hdata : (ds ++ [d]).flatten = ((gs ++ [(q, true)]).map (·.1)).flatten := by
      rw [hflat]
      simp [Function.comp_def]
    rw [hdata, rasSegmentation_frameSegments_iff (by decide) (by decide), length_map]
    exact hlen.le

def subeventOf (doneStatus : Nat) (stepDataBuf : List UInt8) : CsSubeventResult where
  header := ⟨7, 0, 0, 1, 0, 0, doneStatus, 0, 0, 0, 1⟩
  stepDataBuf := stepDataBuf

def firstSubevent : CsSubeventResult := subeventOf 1 [0, 5, 3, 10, 20, 30]

def secondSubevent : CsSubeventResult := subeventOf 0 [0, 6, 3, 40, 50, 60]

def twoSubevents : List RasInput :=
  [⟨.connect, [], []⟩, ⟨.cccWrite .onDemandData [1, 0], [], []⟩, ⟨.mtuUpdated 13, [], []⟩,
    ⟨.subevent firstSubevent, [], []⟩, ⟨.mtuUpdated 10, [], []⟩,
    ⟨.subevent secondSubevent, [], []⟩]

instance (c : Nat) (s : RasSrv) (i : RasInput) : Decidable (OdReceives c s i) :=
  decidable_of_iff (_ ∧ _) ⟨fun h => ⟨h.1, h.2⟩, fun h => ⟨h.ready, h.stays⟩⟩

theorem twoSubevents_segmentation :
    ∃ p, csRasOdFindProcedure (after rasStep rasSrvEnabled twoSubevents) 7 = some p
      ∧ p.segList.length = 6
      ∧ RasSegmentation
          ([rasSubeventDataConversion rasSrvEnabled.rasFilter true firstSubevent]
            ++ [rasSubeventDataConversion rasSrvEnabled.rasFilter true secondSubevent]).flatten
          (p.segList.map (·.data)) := by
  obtain ⟨p, hp, h⟩ := od_segmentation (s := rasSrvEnabled) (c := 7) twoSubevents
    od_wf_rasSrvEnabled (by decide) (by decide +kernel)
    (show _ = [rasSubeventDataConversion rasSrvEnabled.rasFilter true firstSubevent].map
      (·, false) ++ [(rasSubeventDataConversion rasSrvEnabled.rasFilter true secondSubevent,
        true)] by decide +kernel)
  have hlen : (csRasOdFindProcedure (after rasStep rasSrvEnabled twoSubevents) 7).map
      (·.segList.length) = some 6 := by decide +kernel
  rw [hp] at hlen
  have hlen : p.segList.length = 6 := Option.some.inj hlen
  exact ⟨p, hp, hlen, (h (by omega)).2⟩

end BtFramework
