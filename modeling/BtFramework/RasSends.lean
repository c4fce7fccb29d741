import BtFramework.Eviction
import BtFramework.RasFrame

/-!
# Whose data the Ranging Service sends

Off the real-time path every handler but the one for CCC writes is quiet with
`none`: what it sends belongs to no queue item. On it the queue is edited and
then its head sends (`headSends_rasHandle`).
-/

namespace BtFramework

open Eviction List RasSrv

variable {o : Option Nat} {s : RasSrv}

theorem inert_csRasSplitRealTimeSegment (item : RasRtQueuedData) :
    Inert (some item.id) s (csRasSplitRealTimeSegment s item).1
      ∧ (csRasSplitRealTimeSegment s item).2.id = item.id := by
  unfold csRasSplitRealTimeSegment
  split
  · exact ⟨.refl s, rfl⟩
  · obtain ⟨hinert, hid, -⟩ := rtSplitLoop_spec (s := s) item.remaining item rfl rfl
    exact ⟨hinert, hid⟩

variable (item : RasRtQueuedData) (rest : List RasRtQueuedData)

theorem sends_splitHead : Sends (some item.id) s (splitHead s item rest) :=
  (inert_csRasSplitRealTimeSegment item).1.toSends.trans (.of_eq rfl rfl (Nat.le_refl _) rfl)

/-! ## On-demand data -/

theorem still_updateProcedure (id : Nat) (f : RasOdProcedure → RasOdProcedure) :
    Still o s (updateProcedure s id f) := (builds_updateProcedure id f).still

variable (result : CsSubeventResult)

theorem quiet_csRasProcessOnDemandRangingData (complete : Bool) :
    Quiet none s (csRasProcessOnDemandRangingData s result complete) := by
  unfold csRasProcessOnDemandRangingData
  have hproc := builds_csRasOdAllocProcedure (s := s) result.header.procedureCounter
  split
  next s₁ hs =>
    rw [hs] at hproc
    exact hproc.still.toQuiet
  next id s₁ hs =>
    rw [hs] at hproc
    have halloc := hproc.trans builds_alloc
    have hbuilt := fun data p f => (((halloc.trans
      (builds_csRasSplitOnDemandSegment data p complete).1).trans
      (builds_updateProcedure id f)).still (o := none)).toQuiet
    dsimp only
    repeat' split
    · exact halloc.still.toQuiet
    · exact halloc.still.toQuiet
    · exact ((hbuilt _ _ _).trans (csRasDataReadySend_spec _).2.1).onDemandState _
    · exact hbuilt _ _ _

/-! ## Transfers -/

theorem still_rasOnDemandSendCodeRsp (count : Nat) :
    Still none s (rasOnDemandSendCodeRsp s count) := by
  have hrelease : ∀ (t : RasSrv) p, Still none t (rasOnDemandSendCodeRsp.release t p) := by
    intro t p
    unfold rasOnDemandSendCodeRsp.release
    repeat' split
    · exact .refl t
    · exact .of_front rfl (Nat.le_refl _)
    · exact .refl t
  unfold rasOnDemandSendCodeRsp
  dsimp only
  split
  next hs => exact (inert_controlPoint hs).toStill
  next hs => exact (inert_controlPoint hs).toStill.trans (hrelease _ _)
  · exact hrelease _ _

theorem still_rasOndemandSendRangingData (count : Nat) :
    Still none s (rasOndemandSendRangingData s count) := by
  unfold rasOndemandSendRangingData
  split
  · exact .refl s
  · split
    · exact .refl s
    next p _ =>
      split
      · exact still_updateProcedure _ _
      next seg _ _ =>
        have hsend := (still_updateProcedure (s := s) p.id (setProcessing true)).trans
          (inert_sendSegment seg s.charNotifyState.onDemandData.notify).toStill
        dsimp only
        split
        · exact hsend.trans (still_updateProcedure _ _)
        · exact hsend.trans (.of_front rfl (Nat.le_refl _))

theorem csRasOnDemandFinished_spec (isNotify : Bool) :
    ∃ t, Still none s t ∧ (csRasOnDemandFinished isNotify s = t
      ∨ csRasOnDemandFinished isNotify s = { t with onDemandState := .complete }) := by
  unfold csRasOnDemandFinished
  split
  · split
    · exact ⟨_, .refl s, .inl rfl⟩
    next p _ =>
      obtain ⟨t, hinert, ht⟩ := csRasOnDemandSendCmpRangingDataRsp_spec
        (s := updateProcedure s p.id (setProcessing false)) s.procedureCount
      exact ⟨t, (still_updateProcedure _ _).trans hinert.toStill, ht⟩
  next cur _ =>
    split
    · exact ⟨{ s with fault := true }, .of_front rfl (Nat.le_refl _), .inl rfl⟩
    next owner seg _ =>
      have hmove : Still none s { s with onDemandCurrNode := nextNode owner cur.pos } :=
        .of_front rfl (Nat.le_refl _)
      have hsend := hmove.trans (inert_sendSegment seg isNotify).toStill
      dsimp only
      refine ⟨_, ?_, .inl rfl⟩
      repeat' split
      · exact hsend
      · exact hsend.trans (.of_front rfl (Nat.le_refl _))
      · exact hsend.trans (still_updateProcedure _ _)

/-! ## Events -/

theorem quiet_rasConnCb : Quiet o s (rasConnCb s) := by
  have halloc := (inert_alloc (o := o) (s := s)).toQuiet
  unfold rasConnCb
  dsimp only
  repeat' split
  · exact .refl s
  · exact halloc
  · exact halloc.trans ⟨.of_eq rfl rfl (Nat.le_refl _) rfl, rfl⟩

theorem still_onRasCtrPtWriteCb (buf : List UInt8) : Still none s (onRasCtrPtWriteCb s buf) := by
  unfold onRasCtrPtWriteCb
  split
  · exact still_rasOndemandSendRangingData _
  · exact still_rasOnDemandSendCodeRsp _
  · exact (inert_rasOnDemandRetrieveSendLostData _ _ _).toStill
  · exact .of_front rfl (Nat.le_refl _)
  · exact .refl s

theorem still_rasOnDemandDataSendTimeout (id : Nat) :
    Still o s (rasOnDemandDataSendTimeout s id) := by
  unfold rasOnDemandDataSendTimeout
  repeat' split
  · exact .refl s
  · exact .refl s
  · exact still_updateProcedure _ _
  · exact .of_front rfl (Nat.le_refl _)

theorem quiet_rasNotifyCb {statusOk : Bool} {attr : RasAttr}
    (hnot : RasEvent.notifyCb statusOk attr ≠ .notifyCb true .realTime) :
    Quiet none s (rasNotifyCb s statusOk attr) := by
  have hfinished : ∀ isNotify, Quiet none s (csRasOnDemandFinished isNotify s) := by
    intro isNotify
    obtain ⟨t, hstill, ht | ht⟩ := csRasOnDemandFinished_spec (s := s) isNotify
    · exact ht ▸ hstill.toQuiet
    · exact ht ▸ hstill.toQuiet.onDemandState _
  unfold rasNotifyCb
  cases statusOk with
  | false => exact .refl s
  | true =>
    simp only [Bool.not_true, Bool.false_eq_true, if_false]
    cases attr with
    | realTime => exact absurd rfl hnot
    | onDemand =>
      dsimp only
      repeat' split
      · exact hfinished true
      · exact hfinished false
      · exact .refl s
    | controlPoint =>
      dsimp only
      split
      · refine ((Quiet.refl s).onDemandState .idle).trans ?_
        rcases rasRangOnDemandSendReady_spec (s := { s with onDemandState := .idle })
          with hinert | ⟨-, -, hquiet, -⟩
        · exact hinert.toQuiet
        · exact hquiet
      · exact .refl s
    | dataReady => exact .refl s

theorem quiet_rasHandle {e : RasEvent} (hccc : ∀ c value, e ≠ .cccWrite c value)
    (hsub : ∀ r, e = .subevent r → ¬ (r.header.subeventDoneStatus = csComplete
      ∧ rasCheckRangingMode s = .realTime))
    (hdis : e ≠ .disconnect) (hnot : e ≠ .notifyCb true .realTime) :
    Quiet none s (rasHandle s e) := by
  cases e with
  | connect => exact quiet_rasConnCb
  | disconnect => exact absurd rfl hdis
  | subevent result =>
    show Quiet none s (csRasSubeventResultCb s result)
    unfold csRasSubeventResultCb
    rw [if_neg (hsub result rfl)]
    split
    · exact quiet_csRasProcessOnDemandRangingData _ _
    · exact .refl s
  | cccWrite c value => exact absurd rfl (hccc c value)
  | controlPointWrite buf => exact (still_onRasCtrPtWriteCb buf).toQuiet
  | mtuUpdated mtu => exact ⟨.of_eq rfl rfl (Nat.le_refl _) rfl, rfl⟩
  | notifyCb statusOk attr => exact quiet_rasNotifyCb hnot
  | timeout id => exact (still_rasOnDemandDataSendTimeout id).toQuiet

/-! ## The real-time queue

On the real-time path the queue is edited first, and then its head sends. -/

def RasSrv.rtIds (s : RasSrv) : List Nat := s.rtQueue.map (·.id)

structure RtEdit (s t : RasSrv) : Prop where
  sends : Sends none s t
  ids : ∃ old, old.Sublist s.rtIds ∧ (t.rtIds = old
    ∨ t.rtIds = old ++ [s.nextId] ∧ s.nextId < t.nextId ∧ old.length < rasRtQueueMax)

def HeadSends (s s' : RasSrv) : Prop :=
  ∃ t, RtEdit s t ∧ Sends t.rtIds.head? t s' ∧ s'.rtIds = t.rtIds

theorem Sends.headSends {s' : RasSrv} (h : Sends none s s')
    (hids : s'.rtIds.Sublist s.rtIds) : HeadSends s s' :=
  ⟨s', ⟨h, s'.rtIds, hids, .inl rfl⟩, .refl s', rfl⟩

theorem rtIds_splitHead : (splitHead s item rest).rtIds = item.id :: rest.map (·.id) := by
  show (csRasSplitRealTimeSegment s item).2.id :: _ = _
  rw [(inert_csRasSplitRealTimeSegment item).2]

theorem headSends_splitHead {item item' : RasRtQueuedData} {rest : List RasRtQueuedData}
    (hq : s.rtQueue = item :: rest) (hid : item'.id = item.id) :
    Sends s.rtIds.head? s (splitHead s item' rest) ∧ (splitHead s item' rest).rtIds = s.rtIds := by
  have hids : s.rtIds = item'.id :: rest.map (·.id) := by
    rw [rtIds, hq, map_cons, hid]
  rw [rtIds_splitHead, hids]
  exact ⟨sends_splitHead item' rest, rfl⟩

theorem headSends_csRasRtTrySendNext :
    Sends s.rtIds.head? s (csRasRtTrySendNext s) ∧ (csRasRtTrySendNext s).rtIds = s.rtIds := by
  unfold csRasRtTrySendNext
  split
  · exact ⟨.refl s, rfl⟩
  next item rest hq =>
    split
    · exact ⟨.refl s, rfl⟩
    · exact headSends_splitHead hq rfl

theorem headSends_next {item : RasRtQueuedData} {rest : List RasRtQueuedData}
    (hq : s.rtQueue = item :: rest) :
    HeadSends s (csRasRtTrySendNext { s with rtQueue := rest }) := by
  refine ⟨{ s with rtQueue := rest }, ⟨?_, rest.map (·.id), ?_, .inl rfl⟩,
    headSends_csRasRtTrySendNext⟩
  · exact .of_eq rfl rfl (Nat.le_refl _) rfl
  · rw [rtIds, hq]
    exact sublist_cons_self ..

theorem headSends_refl : HeadSends s s := (Sends.refl s).headSends (List.Sublist.refl _)

theorem headSends_rasDtRdIndicateCb : HeadSends s (rasDtRdIndicateCb s) := by
  unfold rasDtRdIndicateCb
  split
  · exact headSends_refl
  next item rest hq =>
    split
    · exact ⟨s, ⟨.refl s, s.rtIds, List.Sublist.refl _, .inl rfl⟩, headSends_splitHead hq rfl⟩
    · exact headSends_next hq

theorem headSends_rtNotifyCb : HeadSends s (rtNotifyCb s) := by
  unfold rtNotifyCb
  repeat' split
  · exact headSends_rasDtRdIndicateCb
  · exact headSends_refl
  next hq _ => exact headSends_next hq
  · exact headSends_refl
  · exact headSends_refl

theorem csRasRtQueueRemoveOld_eq (q : List RasRtQueuedData) :
    csRasRtQueueRemoveOld q = removeOld (·.processing) q := by
  induction q with
  | nil => rfl
  | cons item q ih => rw [csRasRtQueueRemoveOld, removeOld, ih]

theorem rtMakeRoom_eq (fuel : Nat) (q : List RasRtQueuedData) :
    rtMakeRoom fuel q = makeRoom (·.processing) rasRtQueueMax fuel q := by
  induction fuel generalizing q with
  | zero => rfl
  | succ fuel ih =>
    rw [rtMakeRoom, makeRoom, csRasRtQueueRemoveOld_eq]
    cases removeOld (·.processing) q with
    | none => rfl
    | some q₁ =>
      dsimp only
      rw [ih]

inductive RtJoins (s t : RasSrv) : Prop where
  | none (h : t.rtIds = s.rtIds)
  | room (h : t.rtIds = (rtMakeRoom s.rtQueue.length s.rtQueue).2.map (·.id))
  | item (hroom : (rtMakeRoom s.rtQueue.length s.rtQueue).1 = true)
      (hnext : s.nextId < t.nextId)
      (h : t.rtIds = (rtMakeRoom s.rtQueue.length s.rtQueue).2.map (·.id) ++ [s.nextId])

theorem csRasProcessRealTimeRangingData_spec :
    ∃ t, Sends none s t ∧ RtJoins s t
      ∧ Sends t.rtIds.head? t (csRasProcessRealTimeRangingData s result)
      ∧ (csRasProcessRealTimeRangingData s result).rtIds = t.rtIds := by
  unfold csRasProcessRealTimeRangingData
  rw [alloc_eq_headD]
  dsimp only
  split
  · refine ⟨_, ?_, .none ?_, .refl _, rfl⟩
    · exact .of_eq rfl rfl (Nat.le_refl _) rfl
    · rfl
  · split
    · refine ⟨_, ?_, .room ?_, .refl _, rfl⟩
      · exact .of_eq rfl rfl (Nat.le_refl _) rfl
      · rfl
    next hroom =>
      rw [alloc_eq_headD]
      split
      · refine ⟨_, ?_, .room ?_, .refl _, rfl⟩
        · exact .of_eq rfl rfl (Nat.le_refl _) rfl
        · rfl
      · refine ⟨_, ?_, .item ?_ ?_ ?_, headSends_csRasRtTrySendNext⟩
        · exact .of_eq rfl rfl (Nat.le_succ _) rfl
        · simpa using hroom
        · exact Nat.lt_succ_self _
        · exact map_append ..

theorem headSends_csRasProcessRealTimeRangingData :
    HeadSends s (csRasProcessRealTimeRangingData s result) := by
  obtain ⟨t, hsends, hjoins, hhead⟩ := csRasProcessRealTimeRangingData_spec (s := s) result
  have hroom : ((rtMakeRoom s.rtQueue.length s.rtQueue).2.map (·.id)).Sublist s.rtIds := by
    rw [rtMakeRoom_eq]
    exact (makeRoom_sublist _ _).map _
  refine ⟨t, ⟨hsends, ?_⟩, hhead⟩
  cases hjoins with
  | none h => exact ⟨_, List.Sublist.refl _, .inl h⟩
  | room h => exact ⟨_, hroom, .inl h⟩
  | item hok hnext h =>
    refine ⟨_, hroom, .inr ⟨h, hnext, ?_⟩⟩
    rw [rtMakeRoom_eq] at hok ⊢
    rw [length_map]
    exact length_makeRoom_lt (by decide) (Nat.le_refl _) hok

theorem headSends_rasDisconnCb : HeadSends s (rasDisconnCb s) := by
  unfold rasDisconnCb
  split
  · exact headSends_refl
  · refine Sends.headSends ?_ (nil_sublist _)
    exact .of_eq rfl rfl (Nat.le_refl _) rfl

theorem Quiet.headSends {s' : RasSrv} (h : Quiet none s s') : HeadSends s s' := by
  refine h.toSends.headSends ?_
  rw [rtIds, h.queue]
  exact List.Sublist.refl _

theorem headSends_rasHandle {e : RasEvent} (hccc : ∀ c value, e ≠ .cccWrite c value) :
    HeadSends s (rasHandle s e) := by
  by_cases hsub : ∃ r, e = .subevent r ∧ r.header.subeventDoneStatus = csComplete
      ∧ rasCheckRangingMode s = .realTime
  · obtain ⟨r, rfl, hrt⟩ := hsub
    have hstep : rasHandle s (.subevent r) = csRasProcessRealTimeRangingData s r := if_pos hrt
    rw [hstep]
    exact headSends_csRasProcessRealTimeRangingData r
  · by_cases hnot : e = .notifyCb true .realTime
    · rw [hnot]
      exact headSends_rtNotifyCb
    · by_cases hdis : e = .disconnect
      · rw [hdis]
        exact headSends_rasDisconnCb
      · exact (quiet_rasHandle hccc (fun r he hr => hsub ⟨r, he, hr⟩) hdis hnot).headSends

theorem HeadSends.bits {s' : RasSrv} (h : HeadSends s s') :
    s'.charNotifyState = s.charNotifyState ∧ s'.rtDtCccCfg = s.rtDtCccCfg := by
  obtain ⟨t, hedit, hhead, -⟩ := h
  exact ⟨hhead.bits.trans hedit.sends.bits, hhead.cfg.trans hedit.sends.cfg⟩

end BtFramework
