import BtFramework.RasServer

/-!
# What most of the Ranging Service's code leaves alone

A send of real-time data carries the number of the queue item it belongs to, every other send
carries none; `Sends o` says that everything a piece of code sends belongs to `o`, and each
further relation adds what else it leaves alone: `Quiet` the queue, `Still` the announcements,
`Inert` the on-demand store.
-/

namespace BtFramework

open List RasSrv

structure OdStore where
  procs : List RasOdProcedure
  cursor : Option OdCursor
  count : Nat
  nextId : Nat

/-- The on-demand store of the server. -/
def RasSrv.od (s : RasSrv) : OdStore where
  procs := s.odProcedureList
  cursor := s.onDemandCurrNode
  count := s.procedureCount
  nextId := s.nextId

def RasSend.Of (o : Option Nat) (r : RasSend) : Prop :=
  r.owner = o ∧ (r.attr = .realTime ↔ o.isSome = true)

structure Sends (o : Option Nat) (s s' : RasSrv) : Prop where
  bits : s'.charNotifyState = s.charNotifyState
  cfg : s'.rtDtCccCfg = s.rtDtCccCfg
  nextId : s.nextId ≤ s'.nextId
  sent : ∃ new, s'.sent = s.sent ++ new ∧ ∀ r ∈ new, r.Of o

structure Quiet (o : Option Nat) (s s' : RasSrv) : Prop extends Sends o s s' where
  queue : s'.rtQueue = s.rtQueue

def RasSrv.readies (s : RasSrv) : List (List UInt8) :=
  (s.sent.filter (·.attr = .dataReady)).map (·.value)

structure Still (o : Option Nat) (s s' : RasSrv) : Prop extends Quiet o s s' where
  state : s'.onDemandState = s.onDemandState
  readies : s'.readies = s.readies

structure Inert (o : Option Nat) (s s' : RasSrv) : Prop extends Still o s s' where
  od : s'.od = s.od

variable {o : Option Nat} {s s' s'' : RasSrv} {value : List UInt8}

/-! ## Composition -/

theorem Sends.of_eq (hbits : s'.charNotifyState = s.charNotifyState)
    (hcfg : s'.rtDtCccCfg = s.rtDtCccCfg) (hnext : s.nextId ≤ s'.nextId)
    (hsent : s'.sent = s.sent) : Sends o s s' :=
  ⟨hbits, hcfg, hnext, [], by rw [hsent, append_nil], nofun⟩

theorem Sends.refl (s : RasSrv) : Sends o s s := .of_eq rfl rfl (Nat.le_refl _) rfl

theorem Sends.trans (h : Sends o s s') (h' : Sends o s' s'') : Sends o s s'' := by
  obtain ⟨new, hsent, hnew⟩ := h.sent
  obtain ⟨new', hsent', hnew'⟩ := h'.sent
  refine ⟨h'.bits.trans h.bits, h'.cfg.trans h.cfg, Nat.le_trans h.nextId h'.nextId,
    new ++ new', by rw [hsent', hsent, append_assoc], ?_⟩
  exact forall_mem_append.mpr ⟨hnew, hnew'⟩

theorem Quiet.refl (s : RasSrv) : Quiet o s s := ⟨.refl s, rfl⟩

theorem Quiet.trans (h : Quiet o s s') (h' : Quiet o s' s'') : Quiet o s s'' :=
  ⟨h.toSends.trans h'.toSends, h'.queue.trans h.queue⟩

theorem Quiet.onDemandState (h : Quiet o s s') (state : OnDemandState) :
    Quiet o s { s' with onDemandState := state } :=
  h.trans ⟨.of_eq rfl rfl (Nat.le_refl _) rfl, rfl⟩

def RasSrv.front (s : RasSrv) :
    RasCharNotifyState × Nat × List RasSend × List RasRtQueuedData × OnDemandState :=
  (s.charNotifyState, s.rtDtCccCfg, s.sent, s.rtQueue, s.onDemandState)

theorem Still.of_front (h : s'.front = s.front) (hnext : s.nextId ≤ s'.nextId) : Still o s s' := by
  simp only [front, Prod.mk.injEq] at h
  obtain ⟨hbits, hcfg, hsent, hqueue, hstate⟩ := h
  exact ⟨⟨.of_eq hbits hcfg hnext hsent, hqueue⟩, hstate,
    by rw [RasSrv.readies, RasSrv.readies, hsent]⟩

theorem Still.refl (s : RasSrv) : Still o s s := ⟨.refl s, rfl, rfl⟩

theorem Still.trans (h : Still o s s') (h' : Still o s' s'') : Still o s s'' :=
  ⟨h.toQuiet.trans h'.toQuiet, h'.state.trans h.state, h'.readies.trans h.readies⟩

theorem Inert.of_front (hod : s'.od = s.od) (h : s'.front = s.front) : Inert o s s' :=
  ⟨.of_front h (Nat.le_of_eq (congrArg OdStore.nextId hod).symm), hod⟩

theorem Inert.refl (s : RasSrv) : Inert o s s := ⟨.refl s, rfl⟩

theorem Inert.trans (h : Inert o s s') (h' : Inert o s' s'') : Inert o s s'' :=
  ⟨h.toStill.trans h'.toStill, h'.od.trans h.od⟩

theorem Inert.indicating (h : Inert o s s') (b : Bool) :
    Inert o s { s' with rasDtRdIndicating := b } :=
  h.trans (.of_front rfl rfl)

/-! ## Memory and sends -/

def Builds (s s' : RasSrv) : Prop :=
  ∃ as l n, s.nextId ≤ n ∧ s' = { s with allocResults := as, odProcedureList := l, nextId := n }

theorem Builds.refl (s : RasSrv) : Builds s s := ⟨_, _, _, Nat.le_refl _, rfl⟩

theorem Builds.trans (h : Builds s s') (h' : Builds s' s'') : Builds s s'' := by
  obtain ⟨as, l, n, hn, rfl⟩ := h
  obtain ⟨as', l', n', hn', rfl⟩ := h'
  exact ⟨as', l', n', Nat.le_trans hn hn', rfl⟩

theorem Builds.still (h : Builds s s') : Still o s s' := by
  obtain ⟨as, l, n, hn, rfl⟩ := h
  exact .of_front rfl hn

theorem builds_alloc : Builds s s.alloc.2 := by
  rw [alloc_eq_headD]
  exact ⟨_, _, _, Nat.le_refl _, rfl⟩

theorem od_alloc : s.alloc.2.od = s.od := by
  rw [alloc_eq_headD]
  rfl

theorem inert_alloc : Inert o s s.alloc.2 := ⟨builds_alloc.still, od_alloc⟩

theorem readies_concat {x : RasSend} (h : s'.sent = s.sent ++ [x]) :
    s'.readies = s.readies ++ (if x.attr = .dataReady then [x.value] else []) := by
  unfold RasSrv.readies
  rw [h, filter_append, map_append]
  by_cases hx : x.attr = .dataReady
  · rw [if_pos hx, filter_cons_of_pos (by simpa using hx)]
    rfl
  · rw [if_neg hx, filter_cons_of_neg (by simpa using hx)]
    rfl

theorem gattsDataSendNotify_spec (attr : RasAttr) (isNotify : Bool) (value : List UInt8)
    (hattr : attr = .realTime ↔ o.isSome = true) :
    (s.gattsDataSendNotify attr isNotify value o).1 = s.sendResults.headD true
      ∧ Quiet o s (s.gattsDataSendNotify attr isNotify value o).2
      ∧ (s.gattsDataSendNotify attr isNotify value o).2.onDemandState = s.onDemandState
      ∧ (s.gattsDataSendNotify attr isNotify value o).2.od = s.od
      ∧ (s.gattsDataSendNotify attr isNotify value o).2.readies
        = s.readies ++ (if attr = .dataReady ∧ s.sendResults.headD true = true then
            [value.take (value.length % 65536)] else []) := by
  have hone : ∀ r ∈ [RasSend.mk attr isNotify (value.take (value.length % 65536)) o], r.Of o := by
    intro r hr
    rw [mem_singleton.mp hr]
    exact ⟨rfl, hattr⟩
  refine ⟨fst_gattsDataSendNotify, ?_⟩
  unfold gattsDataSendNotify
  split
  next hr =>
    refine ⟨⟨⟨rfl, rfl, Nat.le_refl _, _, rfl, hone⟩, rfl⟩, rfl, rfl, ?_⟩
    exact (readies_concat rfl).trans (by simp [hr])
  next hr =>
    refine ⟨⟨⟨rfl, rfl, Nat.le_refl _, _, rfl, hone⟩, rfl⟩, rfl, rfl, ?_⟩
    exact (readies_concat rfl).trans (by simp [hr])
  next hr =>
    refine ⟨⟨.of_eq rfl rfl (Nat.le_refl _) rfl, rfl⟩, rfl, rfl, ?_⟩
    simp [hr, RasSrv.readies]

theorem inert_gattsDataSendNotify {attr : RasAttr} {isNotify : Bool}
    (hattr : attr = .realTime ↔ o.isSome = true) (hready : attr ≠ .dataReady) :
    Inert o s (s.gattsDataSendNotify attr isNotify value o).2 := by
  obtain ⟨-, hquiet, hstate, hod, hreadies⟩ :=
    gattsDataSendNotify_spec (s := s) attr isNotify value hattr
  rw [if_neg (fun h => hready h.1), append_nil] at hreadies
  exact ⟨⟨hquiet, hstate, hreadies⟩, hod⟩

theorem inert_sendConfigured {ccc : RasCcc} {attr : RasAttr} {r : Bool × RasSrv}
    (h : s.sendConfigured ccc attr value = some r) (hattr : attr ≠ .realTime)
    (hready : attr ≠ .dataReady) : Inert none s r.2 := by
  have hother : attr = .realTime ↔ (none : Option Nat).isSome = true :=
    iff_of_false hattr Bool.false_ne_true
  unfold sendConfigured at h
  repeat' split at h
  · cases h
    exact inert_gattsDataSendNotify hother hready
  · cases h
    exact inert_gattsDataSendNotify hother hready
  · cases h

theorem inert_controlPoint {ccc : RasCcc} {r : Bool × RasSrv}
    (h : s.sendConfigured ccc .controlPoint value = some r) : Inert none s r.2 :=
  inert_sendConfigured h nofun nofun

theorem inert_sendSegment (seg : RasSegment) (isNotify : Bool) :
    Inert none s (sendSegment s seg isNotify).2 :=
  inert_gattsDataSendNotify (iff_of_false nofun Bool.false_ne_true) nofun

theorem sendSegment_eq (s : RasSrv) (seg : RasSegment) (isNotify : Bool) :
    ∃ s', sendSegment s seg isNotify = (s.sendResults.headD true, s') ∧ Inert none s s' :=
  ⟨_, Prod.ext fst_gattsDataSendNotify rfl, inert_sendSegment seg isNotify⟩

theorem inert_rtSend {id : Nat} {isNotify : Bool} :
    Inert (some id) s (s.gattsDataSendNotify .realTime isNotify value (some id)).2 :=
  inert_gattsDataSendNotify (iff_of_true rfl rfl) nofun

/-! ## Splitting -/

theorem builds_odSplitLoop (fuel : Nat) (p : RasOdProcedure) (buf : List UInt8)
    (isLast : Bool) : Builds s (odSplitLoop fuel s p buf isLast).2.1
      ∧ (odSplitLoop fuel s p buf isLast).2.1.od = s.od := by
  induction fuel generalizing s p buf with
  | zero => exact ⟨.refl s, rfl⟩
  | succ fuel ih =>
    unfold odSplitLoop
    dsimp only
    repeat' split
    · exact ⟨builds_alloc, od_alloc⟩
    · exact ⟨builds_alloc.trans (ih _ _).1, (ih _ _).2.trans od_alloc⟩
    · exact ⟨builds_alloc, od_alloc⟩
    · exact ⟨builds_alloc, od_alloc⟩

theorem builds_csRasSplitOnDemandSegment (buf : List UInt8) (p : RasOdProcedure)
    (isLast : Bool) : Builds s (csRasSplitOnDemandSegment s buf p isLast).1
      ∧ (csRasSplitOnDemandSegment s buf p isLast).1.od = s.od := by
  obtain ⟨hloop, hod⟩ := builds_odSplitLoop (s := s) (buf.length + 1) p buf isLast
  unfold csRasSplitOnDemandSegment
  dsimp only
  repeat' split
  · exact ⟨.refl s, rfl⟩
  · exact ⟨hloop.trans builds_alloc, od_alloc.trans hod⟩
  · exact ⟨hloop, hod⟩

theorem builds_updateProcedure (id : Nat) (f : RasOdProcedure → RasOdProcedure) :
    Builds s (updateProcedure s id f) := ⟨_, _, _, Nat.le_refl _, rfl⟩

theorem builds_csRasOdAllocProcedure (c : Nat) : Builds s (csRasOdAllocProcedure s c).2 := by
  unfold csRasOdAllocProcedure
  split
  · exact .refl s
  · have hroom : ∀ list, Builds s { s with odProcedureList := list } :=
      fun _ => ⟨_, _, _, Nat.le_refl _, rfl⟩
    have halloc := fun list => (hroom list).trans builds_alloc
    dsimp only
    repeat' split
    · exact hroom _
    · exact halloc _
    · exact (halloc _).trans ⟨_, _, _, Nat.le_succ _, rfl⟩

theorem rtSplitLoop_spec (fuel : Nat) (item : RasRtQueuedData) {id : Nat} {b : Bool}
    (hid : item.id = id) (hb : item.processing = b) :
    Inert (some id) s (rtSplitLoop fuel s item).1
      ∧ (rtSplitLoop fuel s item).2.id = id ∧ (rtSplitLoop fuel s item).2.processing = b := by
  induction fuel generalizing s item with
  | zero => exact ⟨.refl s, hid, hb⟩
  | succ fuel ih =>
    have halloc := inert_alloc (o := some id) (s := s)
    have hpay : ∀ n, Inert (some id) s (rtPayload s.alloc.2 item n).1 :=
      fun _ => halloc.trans (.of_front rfl rfl)
    have hlast := fun n => (hpay n).indicating false
    unfold rtSplitLoop
    dsimp only
    rw [hid, hb]
    repeat' split
    · exact ⟨.refl s, hid, hb⟩
    · exact ⟨halloc, rfl, rfl⟩
    · exact ⟨((hpay _).trans inert_rtSend).trans (ih _ rfl rfl).1, (ih _ rfl rfl).2⟩
    · exact ⟨(hpay _).trans inert_rtSend, rfl, rfl⟩
    · exact ⟨((hpay _).trans inert_rtSend).indicating true, rfl, rfl⟩
    · exact ⟨(hpay _).trans inert_rtSend, rfl, rfl⟩
    · exact ⟨hpay _, rfl, rfl⟩
    · exact ⟨halloc, hid, hb⟩
    · exact ⟨(hlast _).trans inert_rtSend, rfl, rfl⟩
    · exact ⟨((hlast _).trans inert_rtSend).indicating true, rfl, rfl⟩
    · exact ⟨(hlast _).trans inert_rtSend, rfl, rfl⟩
    · exact ⟨hlast _, rfl, rfl⟩

/-! ## Responses and retransmissions -/

def RasSrv.readyAccepted (s : RasSrv) : Bool :=
  s.charNotifyState.dataReady.enabled && s.sendResults.headD true

def counterBytes (count : Nat) : List UInt8 := [UInt8.ofNat count, UInt8.ofNat (count / 256)]

theorem csRasDataReadySend_spec (count : Nat) :
    (csRasDataReadySend s count).1 = s.readyAccepted
      ∧ Quiet none s (csRasDataReadySend s count).2
      ∧ (csRasDataReadySend s count).2.onDemandState = s.onDemandState
      ∧ (csRasDataReadySend s count).2.od = s.od
      ∧ (csRasDataReadySend s count).2.readies
        = s.readies ++ (if s.readyAccepted then [counterBytes count] else []) := by
  have hsend := fun isNotify => gattsDataSendNotify_spec (s := s) (o := none) .dataReady
    isNotify (counterBytes count) (iff_of_false nofun Bool.false_ne_true)
  simp only [true_and] at hsend
  unfold csRasDataReadySend sendConfigured readyAccepted RasCcc.enabled
  cases s.charNotifyState.dataReady.notify with
  | true => exact hsend true
  | false =>
    cases s.charNotifyState.dataReady.indicate with
    | true => exact hsend false
    | false => exact ⟨rfl, .refl s, rfl, rfl, (append_nil _).symm⟩

theorem csRasOnDemandSendCmpRangingDataRsp_spec (count : Nat) :
    ∃ t, Inert none s t ∧ (csRasOnDemandSendCmpRangingDataRsp s count = t
      ∨ csRasOnDemandSendCmpRangingDataRsp s count = { t with onDemandState := .complete }) := by
  unfold csRasOnDemandSendCmpRangingDataRsp
  dsimp only
  split
  next hs => exact ⟨_, inert_controlPoint hs, .inr rfl⟩
  next hs => exact ⟨_, inert_controlPoint hs, .inl rfl⟩
  · exact ⟨_, .refl s, .inl rfl⟩

theorem od_csRasOnDemandSendCmpRangingDataRsp (count : Nat) :
    (csRasOnDemandSendCmpRangingDataRsp s count).od = s.od := by
  obtain ⟨t, hinert, ht | ht⟩ := csRasOnDemandSendCmpRangingDataRsp_spec (s := s) count
  · rw [ht, hinert.od]
  · rw [ht, ← hinert.od]
    rfl

theorem inert_sendLostSegments (first last : Nat) (segs : List RasSegment) :
    Inert none s (sendLostSegments first last s segs).2 := by
  induction segs generalizing s with
  | nil => exact .refl s
  | cons seg segs ih =>
    have hsend := inert_sendSegment (s := s) seg s.charNotifyState.controlPoint.notify
    unfold sendLostSegments
    dsimp only
    repeat' split
    next hs =>
      rw [hs] at hsend
      exact hsend.trans ih
    next hs =>
      rw [hs] at hsend
      exact hsend
    · exact ih
    · exact .refl s
    · exact ih

theorem inert_rasOnDemandRetrieveSendLostData (count first last : Nat) :
    Inert none s (rasOnDemandRetrieveSendLostData s count first last) := by
  unfold rasOnDemandRetrieveSendLostData
  split
  · exact .refl s
  next p _ =>
    have hlost := inert_sendLostSegments (s := s) first last p.segList
    split
    next s₁ hs =>
      rw [hs] at hlost
      unfold rasOnDemandSendLostRangingDataCmpRsp
      dsimp only
      split
      next hr => exact hlost.trans (inert_controlPoint hr)
      · exact hlost
    next s₁ hs =>
      rw [hs] at hlost
      exact hlost

def minCount (l : List RasOdProcedure) : Nat :=
  l.foldl (fun m p => if p.count < m then p.count else m) 0xFFFF

theorem rasRangOnDemandSendReady_spec :
    Inert none s (rasRangOnDemandSendReady s)
      ∨ minCount s.odProcedureList < 0xFFFF ∧ s.readyAccepted = true
        ∧ Quiet none s (rasRangOnDemandSendReady s)
        ∧ (rasRangOnDemandSendReady s).od = s.od
        ∧ (rasRangOnDemandSendReady s).onDemandState = .busy
        ∧ (rasRangOnDemandSendReady s).readies
          = s.readies ++ [counterBytes (minCount s.odProcedureList)] := by
  have hspec := csRasDataReadySend_spec (s := s) (minCount s.odProcedureList)
  rw [rasRangOnDemandSendReady, ← minCount]
  revert hspec
  rcases csRasDataReadySend s (minCount s.odProcedureList) with ⟨_ | _, s'⟩ <;>
    rintro ⟨hacc, hquiet, hstate, hod, hreadies⟩ <;> rw [← hacc] at hreadies ⊢ <;> split
  · exact .inl ⟨⟨hquiet, hstate, hreadies.trans (append_nil _)⟩, hod⟩
  · exact .inl (.refl s)
  next hmin => exact .inr ⟨hmin, rfl, hquiet.onDemandState _, hod, rfl, hreadies⟩
  · exact .inl (.refl s)

end BtFramework
