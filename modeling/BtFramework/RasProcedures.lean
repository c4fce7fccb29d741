import Mathlib.Logic.Relation
import BtFramework.RasFrame

/-!
# The store of on-demand procedures

What the events of the server can do to `RasSrv.od`. Every event is a sequence of the small
steps of `OdStep`, except for a Get, a completion on the on-demand characteristic, and the loss
of the connection.
-/

namespace BtFramework

open Keyed List Nat
open Relation (ReflTransGen)

structure RasOdProcedure.Grows (p p' : RasOdProcedure) : Prop where
  id : p'.id = p.id
  count : p'.count = p.count
  processing : p'.processing = p.processing
  segList : p.segList <+: p'.segList

structure RasOdProcedure.Same (p p' : RasOdProcedure) : Prop where
  id : p'.id = p.id
  count : p'.count = p.count
  segList : p'.segList = p.segList
  nextSegIndex : p'.nextSegIndex = p.nextSegIndex

def newProcedure (id count : Nat) : RasOdProcedure where
  id := id
  processing := false
  count := count
  onDemandTimer := false
  segList := []
  nextSegIndex := 0

inductive OdStep (w : Option Nat) (v : OdStore) : OdStore → Prop where
  | drop {p : RasOdProcedure} (hp : p ∈ v.procs) (hidle : p.processing = false) :
      OdStep w v { v with procs := Keyed.remove (·.id) p.id v.procs }
  | create {c : Nat} (hw : w = some c) (hnew : ∀ p ∈ v.procs, p.count ≠ c)
      (hroom : v.procs.length < rasOdProcedureMax) :
      OdStep w v { v with
        procs := v.procs ++ [newProcedure v.nextId c]
        nextId := v.nextId + 1 }
  | grow {p : RasOdProcedure} {f : RasOdProcedure → RasOdProcedure} (hp : p ∈ v.procs)
      (hgrow : p.Grows (f p)) (hw : w = some p.count ∨ p.Same (f p)) :
      OdStep w v { v with procs := Keyed.update (·.id) p.id f v.procs }
  | tick : OdStep w v { v with nextId := v.nextId + 1 }

/-! ## The real-time side -/

variable {s : RasSrv}

theorem od_splitHead (item : RasRtQueuedData) (rest : List RasRtQueuedData) :
    (splitHead s item rest).od = s.od := by
  show (csRasSplitRealTimeSegment s item).1.od = s.od
  unfold csRasSplitRealTimeSegment
  split
  · rfl
  · exact (rtSplitLoop_spec _ _ rfl rfl).1.od

theorem od_csRasRtTrySendNext : (csRasRtTrySendNext s).od = s.od := by
  unfold csRasRtTrySendNext
  repeat' split
  · rfl
  · rfl
  · exact od_splitHead _ _

theorem od_rasDtRdIndicateCb : (rasDtRdIndicateCb s).od = s.od := by
  unfold rasDtRdIndicateCb
  repeat' split
  · rfl
  · exact od_splitHead _ _
  · exact od_csRasRtTrySendNext

theorem od_rtNotifyCb : (rtNotifyCb s).od = s.od := by
  unfold rtNotifyCb
  repeat' split
  · exact od_rasDtRdIndicateCb
  · rfl
  · exact od_csRasRtTrySendNext
  · rfl
  · rfl

/-! ## Well-formed stores -/

/-- Procedures are told apart by allocation and by counter, and there are at most ten. -/
structure OdStore.WF (v : OdStore) : Prop where
  ids : (v.procs.map (·.id)).Nodup
  counts : (v.procs.map (·.count)).Nodup
  fresh : ∀ p ∈ v.procs, p.id < v.nextId
  bound : v.procs.length ≤ rasOdProcedureMax

variable {v v' : OdStore} {w : Option Nat}

variable {p p' q : RasOdProcedure} {id : Nat} {l : List RasOdProcedure} {i : RasInput}
  {f : RasOdProcedure → RasOdProcedure}

theorem OdStore.WF.eq_of_id (h : v.WF) (hp : p ∈ v.procs) (hq : q ∈ v.procs) (hid : p.id = q.id) :
    p = q :=
  inj_on_of_nodup_map h.ids hp hq hid

theorem OdStore.WF.eq_of_count (h : v.WF) (hp : p ∈ v.procs) (hq : q ∈ v.procs)
    (hcount : p.count = q.count) : p = q :=
  inj_on_of_nodup_map h.counts hp hq hcount

theorem OdStore.WF.update (h : v.WF)
    (hf : ∀ p ∈ v.procs, p.id = id → (f p).id = p.id ∧ (f p).count = p.count)
    (cur : Option OdCursor) (count : Nat) :
    OdStore.WF ⟨Keyed.update (·.id) id f v.procs, cur, count, v.nextId⟩ where
  ids := by
    rw [map_update fun p hp hid => (hf p hp hid).1]
    exact h.ids
  counts := by
    rw [map_update fun p hp hid => (hf p hp hid).2]
    exact h.counts
  fresh := forall_mem_update (fun p hp hid => (hf p hp hid).1 ▸ h.fresh p hp) h.fresh
  bound := by
    rw [length_update]
    exact h.bound

theorem OdStep.wf (hstep : OdStep w v v') (h : v.WF) : v'.WF := by
  cases hstep with
  | drop hp =>
    exact ⟨nodup_remove h.ids, nodup_remove h.counts,
      fun p hp => h.fresh p (mem_remove.mp hp).1,
      Nat.le_trans (List.length_filter_le _ _) h.bound⟩
  | @create c _ hnew hroom =>
    have hid : ∀ p ∈ v.procs, p.id ≠ v.nextId := fun p hp => Nat.ne_of_lt (h.fresh p hp)
    refine ⟨nodup_concat h.ids hid, nodup_concat h.counts hnew, ?_, ?_⟩
    · exact forall_mem_concat.mpr ⟨fun p hp => lt_succ_of_lt (h.fresh p hp), lt_succ_self _⟩
    · rw [length_append]
      exact hroom
  | grow hp hgrow =>
    refine h.update (fun q hq hid => ?_) v.cursor v.count
    rw [h.eq_of_id hq hp hid]
    exact ⟨hgrow.id, hgrow.count⟩
  | tick =>
    exact ⟨h.ids, h.counts, fun p hp => lt_succ_of_lt (h.fresh p hp), h.bound⟩

theorem OdStep.wf_of_steps (hsteps : ReflTransGen (OdStep w) v v') (h : v.WF) : v'.WF := by
  induction hsteps with
  | refl => exact h
  | tail _ hstep ih => exact hstep.wf ih

/-! ## Storing a result -/

theorem csRasOdRemoveOld_spec {l' : List RasOdProcedure} (hn : (l.map (·.id)).Nodup)
    (h : csRasOdRemoveOld l = some l') :
    ∃ p ∈ l, p.processing = false ∧ l' = Keyed.remove (·.id) p.id l := by
  induction l generalizing l' with
  | nil => cases h
  | cons q l ih =>
    rw [map_cons, nodup_cons] at hn
    have hne : ∀ p ∈ l, p.id ≠ q.id := fun p hp hid =>
      hn.1 (hid ▸ mem_map_of_mem hp)
    unfold csRasOdRemoveOld at h
    split at h
    next hq =>
      cases h
      refine ⟨q, mem_cons_self .., by simpa using hq, ?_⟩
      have hall : l.filter (fun p => p.id ≠ q.id) = l :=
        filter_eq_self.mpr fun p hp => by simpa using hne p hp
      simpa [Keyed.remove] using hall.symm
    next hq =>
      obtain ⟨l₁, hl₁, rfl⟩ := Option.map_eq_some_iff.mp h
      obtain ⟨p, hp, hidle, rfl⟩ := ih hn.2 hl₁
      refine ⟨p, mem_cons_of_mem _ hp, hidle, ?_⟩
      simp [Keyed.remove, (hne p hp).symm]

theorem csRasOdRemoveOld_isSome (h : ∃ p ∈ l, p.processing = false) :
    (csRasOdRemoveOld l).isSome = true := by
  induction l with
  | nil => simp at h
  | cons q l ih =>
    unfold csRasOdRemoveOld
    split
    · rfl
    next hq =>
      obtain ⟨p, hp, hidle⟩ := h
      rw [Option.isSome_map]
      rcases mem_cons.mp hp with rfl | hp
      · simp [hidle] at hq
      · exact ih ⟨p, hp, hidle⟩

theorem odMakeRoom_steps (fuel : Nat) (h : v.WF) (hfuel : v.procs.length ≤ fuel) :
    ReflTransGen (OdStep w) v { v with procs := (odMakeRoom fuel v.procs).2 }
      ∧ ((odMakeRoom fuel v.procs).1 = true →
          (odMakeRoom fuel v.procs).2.length < rasOdProcedureMax)
      ∧ ∀ p ∈ (odMakeRoom fuel v.procs).2, p ∈ v.procs := by
  induction fuel generalizing v with
  | zero => exact ⟨.refl, fun _ => Nat.lt_of_le_of_lt hfuel (by decide), fun _ => id⟩
  | succ fuel ih =>
    unfold odMakeRoom
    split
    next hfull =>
      cases hold : csRasOdRemoveOld v.procs with
      | none => exact ⟨.refl, (nomatch ·), fun _ => id⟩
      | some l =>
        obtain ⟨p, hp, hidle, rfl⟩ := csRasOdRemoveOld_spec h.ids hold
        have hstep : OdStep w v _ := .drop hp hidle
        have hshort : (Keyed.remove (·.id) p.id v.procs).length < v.procs.length :=
          length_filter_lt_length_iff_exists.mpr ⟨p, hp, by simp⟩
        obtain ⟨h1, h2, h3⟩ := ih (hstep.wf h) (by dsimp only; omega)
        exact ⟨.head hstep h1, h2, fun q hq => (mem_remove.mp (h3 q hq)).1⟩
    next hroom => exact ⟨.refl, fun _ => Nat.lt_of_not_le hroom, fun _ => id⟩

theorem csRasOdAllocProcedure_steps (h : s.od.WF) (c : Nat) :
    ReflTransGen (OdStep (some c)) s.od (csRasOdAllocProcedure s c).2.od
      ∧ ∀ id, (csRasOdAllocProcedure s c).1 = some id →
          ∃ p ∈ (csRasOdAllocProcedure s c).2.odProcedureList, p.id = id ∧ p.count = c := by
  unfold csRasOdAllocProcedure
  split
  next p hp =>
    obtain ⟨hmem, hcount⟩ := mem_of_find? hp
    refine ⟨.refl, fun id hid => ⟨p, hmem, ?_, hcount⟩⟩
    cases hid
    rfl
  next hnone =>
    obtain ⟨hsteps, hlen, hsub⟩ := odMakeRoom_steps (w := some c) _ h (Nat.le_refl _)
    rcases hr : odMakeRoom s.odProcedureList.length s.odProcedureList with ⟨room, l⟩
    rw [show odMakeRoom s.od.procs.length s.od.procs = _ from hr] at hsteps hlen hsub
    rcases ha : RasSrv.alloc { s with odProcedureList := l } with ⟨ok, s₁⟩
    have hod : s₁.od = { s.od with procs := l } := by
      have := od_alloc (s := { s with odProcedureList := l })
      rwa [ha] at this
    cases room with
    | false => exact ⟨hsteps, fun id hid => by cases hid⟩
    | true =>
      dsimp only
      rw [ha]
      rw [← hod] at hsteps
      cases ok with
      | false => exact ⟨hsteps, fun id hid => by cases hid⟩
      | true =>
        have hl : s₁.od.procs = l := by rw [hod]
        have hcreate : OdStep (some c) s₁.od _ := .create rfl
          (fun p hp => find?_eq_none hnone (hsub p (hl ▸ hp)))
          (by rw [hl]; exact hlen rfl)
        refine ⟨.tail hsteps hcreate, fun id hid => ?_⟩
        cases hid
        exact ⟨newProcedure s₁.nextId c, by simp [newProcedure], rfl, rfl⟩

theorem odAppend_grows (p : RasOdProcedure) (payload : List UInt8) (isLast : Bool) :
    p.Grows (odAppend p payload isLast) :=
  ⟨rfl, rfl, rfl, prefix_append _ _⟩

theorem RasOdProcedure.Grows.refl (p : RasOdProcedure) : p.Grows p := ⟨rfl, rfl, rfl, prefix_refl _⟩

theorem RasOdProcedure.Grows.trans {r : RasOdProcedure} (h : p.Grows q) (h' : q.Grows r) :
    p.Grows r :=
  ⟨h'.id.trans h.id, h'.count.trans h.count, h'.processing.trans h.processing,
    h.segList.trans h'.segList⟩

theorem odSplitLoop_grows (fuel : Nat) (p : RasOdProcedure) (buf : List UInt8)
    (isLast : Bool) : p.Grows (odSplitLoop fuel s p buf isLast).2.2 := by
  induction fuel generalizing s p buf with
  | zero => exact .refl p
  | succ fuel ih =>
    unfold odSplitLoop
    dsimp only
    repeat' split
    · exact .refl p
    · exact (odAppend_grows _ _ _).trans (ih _ _)
    · exact .refl p
    · exact odAppend_grows _ _ _

theorem csRasSplitOnDemandSegment_grows (buf : List UInt8) (p : RasOdProcedure)
    (isLast : Bool) : p.Grows (csRasSplitOnDemandSegment s buf p isLast).2 := by
  have hgrow := odSplitLoop_grows (s := s) (buf.length + 1) p buf isLast
  unfold csRasSplitOnDemandSegment
  dsimp only
  repeat' split
  · exact .refl p
  · exact ⟨hgrow.id, hgrow.count, hgrow.processing, hgrow.segList⟩
  · exact hgrow

theorem od_updateProcedure :
    (updateProcedure s id f).od = { s.od with procs := Keyed.update (·.id) id f s.od.procs } := rfl

theorem od_csRasProcessOnDemandRangingData {result : CsSubeventResult} {s₁ s₂ : RasSrv}
    (hproc : csRasOdAllocProcedure s result.header.procedureCounter = (some id, s₁))
    (hbuf : s₁.alloc = (true, s₂)) (hfind : s₂.odProcedureList.find? (·.id = id) = some p)
    (complete : Bool) :
    (csRasProcessOnDemandRangingData s result complete).od
      = (updateProcedure s₂ id fun _ => (csRasSplitOnDemandSegment s₂
          (rasSubeventDataConversion s₂.rasFilter s₂.roleInitiator result) p complete).2).od := by
  have hsplit := (builds_csRasSplitOnDemandSegment (s := s₂)
    (rasSubeventDataConversion s₂.rasFilter s₂.roleInitiator result) p complete).2
  have hupdate : ∀ (t : RasSrv) (f : RasOdProcedure → RasOdProcedure), t.od = s₂.od →
      (updateProcedure t id f).od = (updateProcedure s₂ id f).od := by
    intro t f ht
    rw [od_updateProcedure, od_updateProcedure, ht]
  unfold csRasProcessOnDemandRangingData
  rw [hproc]
  dsimp only
  rw [hbuf]
  rw [hfind]
  simp only [Bool.not_true, Bool.false_eq_true, if_false]
  split
  · exact (csRasDataReadySend_spec _).2.2.2.1.trans (hupdate _ _ hsplit)
  · exact hupdate _ _ hsplit

theorem csRasProcessOnDemandRangingData_steps (h : s.od.WF) (result : CsSubeventResult)
    (complete : Bool) :
    ReflTransGen (OdStep (some result.header.procedureCounter)) s.od
      (csRasProcessOnDemandRangingData s result complete).od := by
  obtain ⟨hsteps, hfound⟩ := csRasOdAllocProcedure_steps h result.header.procedureCounter
  rcases hproc : csRasOdAllocProcedure s result.header.procedureCounter with ⟨id?, s₁⟩
  rw [hproc] at hsteps hfound
  cases id? with
  | none =>
    unfold csRasProcessOnDemandRangingData
    rw [hproc]
    exact hsteps
  | some id =>
    obtain ⟨p, hp, hid, hcount⟩ := hfound id rfl
    rcases hbuf : s₁.alloc with ⟨ok, s₂⟩
    have hod : s₂.od = s₁.od := by
      have := od_alloc (s := s₁)
      rwa [hbuf] at this
    rw [← hod] at hsteps
    cases ok with
    | false =>
      unfold csRasProcessOnDemandRangingData
      rw [hproc]
      dsimp only
      rw [hbuf]
      exact hsteps
    | true =>
      have hmem : p ∈ s₂.od.procs := by rwa [hod]
      have hfind : s₂.odProcedureList.find? (·.id = id) = some p :=
        (find?_eq_some (OdStep.wf_of_steps hsteps h).ids).mpr ⟨hmem, hid⟩
      rw [od_csRasProcessOnDemandRangingData hproc hbuf hfind, ← hid]
      exact .tail hsteps (.grow (f := fun _ => _) hmem
        (csRasSplitOnDemandSegment_grows _ p complete) (.inl (congrArg some hcount.symm)))

/-! ## Acknowledgements, timeouts and responses -/

theorem rasOnDemandSendCodeRsp_steps (count : Nat) :
    ReflTransGen (OdStep none) s.od (rasOnDemandSendCodeRsp s count).od := by
  have hrelease : ∀ s₁ : RasSrv, s₁.od = s.od → ReflTransGen (OdStep none) s.od
      (rasOnDemandSendCodeRsp.release s₁ (csRasOdFindProcedure s count)).od := by
    intro s₁ hod
    unfold rasOnDemandSendCodeRsp.release
    split
    next p hp =>
      split
      · rw [hod]
      next hidle =>
        have hmem : p ∈ s₁.od.procs := by
          rw [hod]
          exact (mem_of_find? hp).1
        rw [← hod]
        exact .single (.drop hmem (by simpa using hidle))
    · rw [hod]
  unfold rasOnDemandSendCodeRsp
  dsimp only
  split
  next hs => rw [(inert_controlPoint hs).od]
  next hs => exact hrelease _ (inert_controlPoint hs).od
  · exact hrelease s rfl

theorem rasOnDemandDataSendTimeout_steps (id : Nat) :
    ReflTransGen (OdStep none) s.od (rasOnDemandDataSendTimeout s id).od := by
  unfold rasOnDemandDataSendTimeout
  split
  · exact .refl
  next p hp =>
    obtain ⟨hmem, rfl⟩ := mem_of_find? hp
    repeat' split
    · exact .refl
    · exact .single (.grow (f := fun p => { p with onDemandTimer := false }) hmem
        ⟨rfl, rfl, rfl, prefix_refl _⟩ (.inr ⟨rfl, rfl, rfl, rfl⟩))
    next hidle => exact .single (.drop hmem (by simpa using hidle))

theorem csRasProcessRealTimeRangingData_steps (result : CsSubeventResult) :
    ReflTransGen (OdStep w) s.od (csRasProcessRealTimeRangingData s result).od := by
  unfold csRasProcessRealTimeRangingData
  dsimp only
  split
  · rw [od_alloc]
  next hok =>
    have hod : ∀ q : List RasRtQueuedData, { s.alloc.2 with rtQueue := q }.od = s.od :=
      fun _ => od_alloc
    split
    · rw [hod]
    · have hod' := (od_alloc (s := { s.alloc.2 with rtQueue :=
        (rtMakeRoom s.alloc.2.rtQueue.length s.alloc.2.rtQueue).2 })).trans (hod _)
      split
      · rw [hod']
      · rw [od_csRasRtTrySendNext, ← hod']
        exact .single .tick

/-! ## Transfers -/

inductive OdGets (enabled accepted : Bool) (c : Nat) (v : OdStore) : OdStore → Prop where
  | ignored (hnone : enabled = true → ∀ p ∈ v.procs, p.count ≠ c) : OdGets enabled accepted c v v
  | started {p : RasOdProcedure} (hen : enabled = true) (hp : p ∈ v.procs)
      (hcount : p.count = c) (hsegs : p.segList ≠ []) (hacc : accepted = true) :
      OdGets enabled accepted c v { v with
        procs := Keyed.update (·.id) p.id (setProcessing true) v.procs
        cursor := nextNode p 0
        count := c }
  | failed {p : RasOdProcedure} (hen : enabled = true) (hp : p ∈ v.procs)
      (hcount : p.count = c) (hacc : accepted = false ∨ p.segList = []) :
      OdGets enabled accepted c v { v with
        procs := Keyed.update (·.id) p.id (setProcessing false) v.procs }

inductive OdFinishes (accepted : Bool) (v : OdStore) : OdStore → Prop where
  | ignored (hnone : v.cursor = none → ∀ p ∈ v.procs, p.count ≠ v.count)
      (hgone : ∀ cur, v.cursor = some cur →
        ∀ p ∈ v.procs, p.id = cur.procId → p.segList.length ≤ cur.pos) :
      OdFinishes accepted v v
  | completed {p : RasOdProcedure} (hcur : v.cursor = none) (hp : p ∈ v.procs)
      (hcount : p.count = v.count) :
      OdFinishes accepted v { v with
        procs := Keyed.update (·.id) p.id (setProcessing false) v.procs }
  | advanced {cur : OdCursor} {p : RasOdProcedure} (hcur : v.cursor = some cur)
      (hp : p ∈ v.procs) (hid : p.id = cur.procId) (hacc : accepted = true) :
      OdFinishes accepted v { v with cursor := nextNode p cur.pos }
  | stopped {cur : OdCursor} {p q : RasOdProcedure} (hcur : v.cursor = some cur)
      (hp : p ∈ v.procs) (hid : p.id = cur.procId) (hq : q ∈ v.procs)
      (hcount : q.count = v.count) (hacc : accepted = false) :
      OdFinishes accepted v { v with
        procs := Keyed.update (·.id) q.id (setProcessing false) v.procs
        cursor := nextNode p cur.pos }
  | lost {cur : OdCursor} (hcur : v.cursor = some cur)
      (hnone : ∀ q ∈ v.procs, q.count ≠ v.count) (hacc : accepted = false) :
      OdFinishes accepted v { v with cursor := none }

theorem rasOndemandSendRangingData_gets (c : Nat) :
    OdGets s.charNotifyState.onDemandData.enabled (s.sendResults.headD true) c s.od
      (rasOndemandSendRangingData s c).od := by
  unfold rasOndemandSendRangingData
  split
  next hoff => exact .ignored fun hen => by simp [hen] at hoff
  next hon =>
    have hen : s.charNotifyState.onDemandData.enabled = true := by simpa using hon
    split
    next hnone => exact .ignored fun _ p hp => find?_eq_none hnone hp
    next p hp =>
      obtain ⟨hmem, hcount⟩ := mem_of_find? hp
      split
      next hnil => exact .failed hen hmem hcount (.inr hnil)
      next seg _ hcons =>
        obtain ⟨s₁, hsend, hframe⟩ := sendSegment_eq
          (updateProcedure s p.id (setProcessing true)) seg
          s.charNotifyState.onDemandData.notify
        have hres : (updateProcedure s p.id (setProcessing true)).sendResults = s.sendResults := rfl
        have hod := hframe.od
        rw [hres] at hsend
        dsimp only
        rw [show (updateProcedure s p.id (setProcessing true)).charNotifyState
          = s.charNotifyState from rfl, hsend]
        cases hacc : s.sendResults.headD true with
        | true =>
          simp only [Bool.not_true, Bool.false_eq_true, if_false]
          have hgoal : ∀ cur, { s₁ with onDemandCurrNode := cur, procedureCount := c }.od
              = { s₁.od with cursor := cur, count := c } := fun _ => rfl
          rw [hgoal, hod]
          exact .started hen hmem hcount (by simp [hcons]) rfl
        | false =>
          simp only [Bool.not_false, if_true]
          have htwice : Keyed.update (·.id) p.id (setProcessing false)
              (updateProcedure s p.id (setProcessing true)).od.procs
              = Keyed.update (·.id) p.id (setProcessing false) s.od.procs :=
            update_update fun _ _ hid => hid
          rw [od_updateProcedure, hod, htwice]
          exact .failed hen hmem hcount (.inl rfl)

theorem csRasOnDemandFinished_finishes (h : s.od.WF) (isNotify : Bool) :
    OdFinishes (s.sendResults.headD true) s.od (csRasOnDemandFinished isNotify s).od := by
  unfold csRasOnDemandFinished
  split
  next hcur =>
    split
    next hnone =>
      refine .ignored (fun _ p hp => find?_eq_none hnone hp) fun cur hsome => ?_
      cases hcur.symm.trans hsome
    next p hp =>
      obtain ⟨hmem, hcount⟩ := mem_of_find? hp
      rw [od_csRasOnDemandSendCmpRangingDataRsp]
      exact .completed hcur hmem hcount
  next cur hcur =>
    split
    next hgone =>
      refine .ignored (fun hnone => by cases hcur.symm.trans hnone) ?_
      intro cur' hcur' p hp hid
      cases hcur.symm.trans hcur'
      have hfind : s.odProcedureList.find? (·.id = cur.procId) = some p :=
        (find?_eq_some h.ids).mpr ⟨hp, hid⟩
      rw [hfind] at hgone
      simpa using hgone
    next owner seg hnode =>
      obtain ⟨p, hp, hseg⟩ := Option.bind_eq_some_iff.mp hnode
      obtain ⟨seg', hseg', heq⟩ := Option.map_eq_some_iff.mp hseg
      cases heq
      obtain ⟨hmem, hid⟩ := mem_of_find? hp
      obtain ⟨s₁, hsend, hframe⟩ := sendSegment_eq
        { s with onDemandCurrNode := nextNode owner cur.pos } seg isNotify
      have hod := hframe.od
      dsimp only at hsend ⊢
      rw [hsend]
      cases hacc : s.sendResults.headD true with
      | true =>
        simp only [if_true]
        rw [hod]
        exact .advanced hcur hmem hid rfl
      | false =>
        simp only [Bool.false_eq_true, if_false]
        split
        next hnone =>
          have hgoal : { s₁ with onDemandCurrNode := none }.od
              = { s₁.od with cursor := none } := rfl
          have hnone' : ∀ q ∈ s₁.od.procs, q.count ≠ s₁.od.count :=
            fun q hq => find?_eq_none hnone hq
          rw [hod] at hnone'
          rw [hgoal, hod]
          exact .lost hcur hnone' rfl
        next q hq =>
          have hq' : q ∈ s₁.od.procs ∧ q.count = s₁.od.count := mem_of_find? hq
          rw [hod] at hq'
          rw [od_updateProcedure, hod]
          exact .stopped hcur hmem hid hq'.1 hq'.2 rfl

/-! ## Every event -/

def RasEvent.getCount : RasEvent → Option Nat
  | .controlPointWrite [0x00, lo, hi] => some (lo.toNat + 256 * hi.toNat)
  | _ => none

def RasEvent.resultCount : RasEvent → Option Nat
  | .subevent result => some result.header.procedureCounter
  | _ => none

def RasInput.accepted (i : RasInput) : Bool := i.sends.headD true

structure OdQuiet (s : RasSrv) (i : RasInput) : Prop where
  get : i.event.getCount = none
  completion : i.event = .notifyCb true .onDemand → s.charNotifyState.onDemandData.enabled = false
  disconnect : i.event = .disconnect → s.connected = false

inductive OdMoves (s : RasSrv) (i : RasInput) : OdStore → Prop where
  | keeps {v' : OdStore} (hquiet : OdQuiet s i)
      (hsteps : ReflTransGen (OdStep i.event.resultCount) s.od v') : OdMoves s i v'
  | gets {v' : OdStore} {c : Nat} (hi : i.event.getCount = some c)
      (h : OdGets s.charNotifyState.onDemandData.enabled i.accepted c s.od v') :
      OdMoves s i v'
  | finishes {v' : OdStore} (hi : i.event = .notifyCb true .onDemand)
      (hen : s.charNotifyState.onDemandData.enabled = true)
      (h : OdFinishes i.accepted s.od v') : OdMoves s i v'
  | clears (hi : i.event = .disconnect) (hconn : s.connected = true) :
      OdMoves s i { s.od with procs := [] }

theorem OdMoves.of_eq (hquiet : OdQuiet s i) (h : v' = s.od) : OdMoves s i v' := by
  subst h
  exact .keeps hquiet .refl

theorem od_rasConnCb : (rasConnCb s).od = s.od := by
  unfold rasConnCb
  dsimp only
  repeat' split
  · rfl
  · exact od_alloc
  · exact od_alloc

theorem od_csRasGattsCccCfgCb (event : RasCccCfgChangeEvt) (value : List UInt8) :
    (csRasGattsCccCfgCb s event value).od = s.od := by
  unfold csRasGattsCccCfgCb rangeRttDtCccCfgChanged rangeOnDemDtCccCfgChanged
  dsimp only
  repeat' split
  all_goals rfl

theorem csRasSubeventResultCb_steps (h : s.od.WF) (result : CsSubeventResult) :
    ReflTransGen (OdStep (some result.header.procedureCounter)) s.od
      (csRasSubeventResultCb s result).od := by
  unfold csRasSubeventResultCb
  repeat' split
  · exact csRasProcessRealTimeRangingData_steps result
  · exact csRasProcessOnDemandRangingData_steps h result _
  · exact .refl

theorem onRasCtrPtWriteCb_moves {allocs sends : List Bool} (hsends : s.sendResults = sends)
    (buf : List UInt8) :
    OdMoves s ⟨.controlPointWrite buf, allocs, sends⟩ (onRasCtrPtWriteCb s buf).od := by
  unfold onRasCtrPtWriteCb
  split
  · refine .gets rfl ?_
    rw [← hsends]
    exact rasOndemandSendRangingData_gets _
  · exact .keeps ⟨rfl, nofun, nofun⟩ (rasOnDemandSendCodeRsp_steps _)
  · exact .of_eq ⟨rfl, nofun, nofun⟩ (inert_rasOnDemandRetrieveSendLostData _ _ _).od
  · exact .of_eq ⟨rfl, nofun, nofun⟩ rfl
  next hget _ _ _ =>
    have hnone : (RasEvent.controlPointWrite buf).getCount = none := by
      unfold RasEvent.getCount
      split
      next he =>
        cases he
        exact (hget _ _ rfl).elim
      · rfl
    exact .of_eq ⟨hnone, nofun, nofun⟩ rfl

theorem rasNotifyCb_moves (h : s.od.WF) {allocs sends : List Bool}
    (hsends : s.sendResults = sends) (statusOk : Bool) (attr : RasAttr) :
    OdMoves s ⟨.notifyCb statusOk attr, allocs, sends⟩ (rasNotifyCb s statusOk attr).od := by
  unfold rasNotifyCb
  cases statusOk with
  | false => exact .of_eq ⟨rfl, nofun, nofun⟩ rfl
  | true =>
    simp only [Bool.not_true, Bool.false_eq_true, if_false]
    cases attr with
    | realTime => exact .of_eq ⟨rfl, nofun, nofun⟩ od_rtNotifyCb
    | onDemand =>
      have hfin := fun isNotify => csRasOnDemandFinished_finishes h isNotify
      rw [hsends] at hfin
      have hen : s.charNotifyState.onDemandData.enabled
          = (s.charNotifyState.onDemandData.notify
            || s.charNotifyState.onDemandData.indicate) := rfl
      dsimp only
      repeat' split
      next hn => exact .finishes rfl (by simp [hen, hn]) (hfin true)
      next hi => exact .finishes rfl (by simp [hen, hi]) (hfin false)
      next hn hi => exact .of_eq ⟨rfl, fun _ => by simp [hen, hn, hi], nofun⟩ rfl
    | controlPoint =>
      dsimp only
      split
      · refine .of_eq ⟨rfl, nofun, nofun⟩ ?_
        rcases rasRangOnDemandSendReady_spec (s := { s with onDemandState := .idle })
          with hinert | ⟨-, -, -, hod, -⟩
        · exact hinert.od
        · exact hod
      · exact .of_eq ⟨rfl, nofun, nofun⟩ rfl
    | dataReady => exact .of_eq ⟨rfl, nofun, nofun⟩ rfl

theorem rasHandle_od (h : s.od.WF) (hsends : s.sendResults = i.sends) :
    OdMoves s i (rasHandle s i.event).od := by
  obtain ⟨e, allocs, sends⟩ := i
  cases e with
  | connect => exact .of_eq ⟨rfl, nofun, nofun⟩ od_rasConnCb
  | disconnect =>
    show OdMoves _ _ (rasDisconnCb s).od
    unfold rasDisconnCb
    split
    next hconn => exact .of_eq ⟨rfl, nofun, fun _ => by simpa using hconn⟩ rfl
    next hconn => exact .clears rfl (by simpa using hconn)
  | subevent result => exact .keeps ⟨rfl, nofun, nofun⟩ (csRasSubeventResultCb_steps h result)
  | cccWrite event value => exact .of_eq ⟨rfl, nofun, nofun⟩ (od_csRasGattsCccCfgCb event value)
  | controlPointWrite buf => exact onRasCtrPtWriteCb_moves hsends buf
  | mtuUpdated mtu => exact .of_eq ⟨rfl, nofun, nofun⟩ rfl
  | notifyCb statusOk attr => exact rasNotifyCb_moves h hsends statusOk attr
  | timeout id => exact .keeps ⟨rfl, nofun, nofun⟩ (rasOnDemandDataSendTimeout_steps id)

theorem rasStep_od (h : s.od.WF) (i : RasInput) : OdMoves s i (rasStep s i).od := by
  have hmove := rasHandle_od (s := { s with allocResults := i.allocs, sendResults := i.sends })
    h (i := i) rfl
  rw [rasStep]
  generalize (rasHandle _ _).od = v' at hmove ⊢
  cases hmove with
  | keeps hquiet hsteps =>
    exact .keeps ⟨hquiet.get, hquiet.completion, hquiet.disconnect⟩ hsteps
  | gets hi h => exact .gets hi h
  | finishes hi hen h => exact .finishes hi hen h
  | clears hi hconn => exact .clears hi hconn

/-! ## What every event keeps -/

theorem OdStore.WF.setProcessing (h : v.WF) (id : Nat) (b : Bool) (cur : Option OdCursor)
    (count : Nat) :
    OdStore.WF ⟨Keyed.update (·.id) id (setProcessing b) v.procs, cur, count, v.nextId⟩ :=
  h.update (f := BtFramework.setProcessing b) (fun _ _ _ => ⟨rfl, rfl⟩) cur count

theorem od_wf_rasSrvEnabled : rasSrvEnabled.od.WF :=
  ⟨nodup_nil, nodup_nil, fun _ hp => (nomatch hp), zero_le _⟩

theorem OdMoves.wf (hmove : OdMoves s i v') (h : s.od.WF) : v'.WF := by
  cases hmove with
  | keeps _ hsteps => exact OdStep.wf_of_steps hsteps h
  | gets _ hget =>
    cases hget with
    | ignored => exact h
    | started | failed => exact h.setProcessing _ _ _ _
  | finishes _ _ hfin =>
    cases hfin with
    | ignored => exact h
    | completed | stopped => exact h.setProcessing _ _ _ _
    | advanced | lost => exact ⟨h.ids, h.counts, h.fresh, h.bound⟩
  | clears =>
    exact ⟨nodup_nil, nodup_nil, fun _ hp => (nomatch hp), zero_le _⟩

theorem rasStep_wf (h : s.od.WF) (i : RasInput) : (rasStep s i).od.WF := (rasStep_od h i).wf h

theorem RasOdProcedure.Same.refl (p : RasOdProcedure) : p.Same p := ⟨rfl, rfl, rfl, rfl⟩

theorem RasOdProcedure.Same.trans {r : RasOdProcedure} (h : p.Same q) (h' : q.Same r) : p.Same r :=
  ⟨h'.id.trans h.id, h'.count.trans h.count, h'.segList.trans h.segList,
    h'.nextSegIndex.trans h.nextSegIndex⟩

theorem same_of_mem_setProcessing {b : Bool}
    (hp' : p' ∈ Keyed.update (·.id) id (setProcessing b) l) :
    ∃ p ∈ l, p.Same p' := by
  rcases mem_update.mp hp' with ⟨p, hp, -, rfl⟩ | ⟨hp, -⟩
  · exact ⟨p, hp, rfl, rfl, rfl, rfl⟩
  · exact ⟨p', hp, .refl p'⟩

theorem OdStep.same_of_count {c : Nat} (hw : w ≠ some c) (hstep : OdStep w v v') (h : v.WF)
    (hp' : p' ∈ v'.procs) (hc : p'.count = c) :
    ∃ p ∈ v.procs, p.Same p' := by
  cases hstep with
  | drop => exact ⟨p', (mem_remove.mp hp').1, .refl p'⟩
  | create hc' =>
    rcases mem_append.mp hp' with hp' | hp'
    · exact ⟨p', hp', .refl p'⟩
    · rw [mem_singleton.mp hp'] at hc
      exact absurd (hc'.trans (congrArg some hc)) hw
  | grow hp hgrow hsame =>
    rcases mem_update.mp hp' with ⟨q, hq, hid, rfl⟩ | ⟨hp', -⟩
    · obtain rfl := h.eq_of_id hq hp hid
      rcases hsame with hsame | hsame
      · rw [hgrow.count] at hc
        exact absurd (hsame.trans (congrArg some hc)) hw
      · exact ⟨q, hq, hsame⟩
    · exact ⟨p', hp', .refl p'⟩
  | tick => exact ⟨p', hp', .refl p'⟩

theorem OdMoves.same_of_count {c : Nat} (hi : i.event.resultCount ≠ some c)
    (hmove : OdMoves s i v') (h : s.od.WF) (hp' : p' ∈ v'.procs) (hc : p'.count = c) :
    ∃ p ∈ s.odProcedureList, p.Same p' := by
  cases hmove with
  | keeps _ hsteps =>
    induction hsteps generalizing p' with
    | refl => exact ⟨p', hp', .refl p'⟩
    | tail hsteps hstep ih =>
      obtain ⟨q, hq, hsame⟩ := hstep.same_of_count hi (OdStep.wf_of_steps hsteps h) hp' hc
      obtain ⟨p, hp, hsame'⟩ := ih hq (hsame.count ▸ hc)
      exact ⟨p, hp, hsame'.trans hsame⟩
  | gets _ hget =>
    cases hget with
    | ignored => exact ⟨p', hp', .refl p'⟩
    | started | failed => exact same_of_mem_setProcessing hp'
  | finishes _ _ hfin =>
    cases hfin with
    | ignored | advanced | lost => exact ⟨p', hp', .refl p'⟩
    | completed | stopped => exact same_of_mem_setProcessing hp'
  | clears => cases hp'

end BtFramework
