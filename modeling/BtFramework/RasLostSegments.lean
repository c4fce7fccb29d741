import BtFramework.RasFrame
import BtFramework.Runs

/-!
# Retrieving lost segments

The command sends the segments of the range, in the mode the *control point* is configured for,
and one control point value. That starts with `CS_RAS_CTL_OP_RSP_CODE`, so the response the
client waits for is never sent. When the transfer before it has ended, each completion of a
retransmitted segment is answered like the end of a transfer.
-/

namespace BtFramework

open RasSrv Runs

def csRasCtlOpRspCmpLostRangDataSeg : UInt8 := 0x01

def csRasCtlOpRspCode : UInt8 := 0x02

/-! ## Accepted sends -/

def RasSrv.sending (s : RasSrv) (xs : List RasSend) : RasSrv :=
  { s with sendResults := s.sendResults.drop xs.length, sent := s.sent ++ xs }

variable {s : RasSrv}

@[simp] theorem RasSrv.sending_charNotifyState (xs : List RasSend) :
    (s.sending xs).charNotifyState = s.charNotifyState := rfl

theorem RasSrv.sending_nil : s.sending [] = s := by
  simp [sending]

theorem RasSrv.sending_sending (xs ys : List RasSend) :
    (s.sending xs).sending ys = s.sending (xs ++ ys) := by
  simp [sending]

theorem RasSrv.sending_sendResults (h : ∀ r ∈ s.sendResults, r = true) (xs : List RasSend) :
    ∀ r ∈ (s.sending xs).sendResults, r = true :=
  fun r hr => h r (List.mem_of_mem_drop hr)

theorem RasSrv.gattsDataSendNotify_eq (h : ∀ r ∈ s.sendResults, r = true) {attr : RasAttr}
    {isNotify : Bool} {value : List UInt8} {owner : Option Nat} :
    s.gattsDataSendNotify attr isNotify value owner
      = (true, s.sending
          [{ attr, isNotify, value := value.take (value.length % 65536), owner }]) := by
  unfold gattsDataSendNotify
  split
  next hs => simp [sending, hs]
  next hs => simp [sending, hs]
  next hs => exact absurd (h false (by rw [hs]; exact List.mem_cons_self ..)) (by decide)

def controlPointSend (isNotify : Bool) (value : List UInt8) : RasSend :=
  { attr := .controlPoint, isNotify, value, owner := none }

def segmentSend (isNotify : Bool) (seg : RasSegment) : RasSend :=
  { attr := .onDemand, isNotify
    value := (seg.data.take seg.len).take ((seg.data.take seg.len).length % 65536)
    owner := none }

def controlPointSends (ccc : RasCcc) (value : List UInt8) : List RasSend :=
  if ccc.enabled then [controlPointSend ccc.notify value] else []

theorem sendConfigured_controlPoint (h : ∀ r ∈ s.sendResults, r = true) (ccc : RasCcc)
    {value : List UInt8} (hlen : value.length < 65536) :
    s.sendConfigured ccc .controlPoint value
      = if ccc.enabled then some (true, s.sending (controlPointSends ccc value)) else none := by
  have hvalue : value.take (value.length % 65536) = value := by
    rw [Nat.mod_eq_of_lt hlen, List.take_length]
  unfold sendConfigured controlPointSends RasCcc.enabled controlPointSend
  rw [gattsDataSendNotify_eq h, gattsDataSendNotify_eq h, hvalue]
  cases ccc.notify <;> cases ccc.indicate <;> rfl

/-! ## What the command sends -/

def retransmitted (first last : Nat) (segs : List RasSegment) : List RasSegment :=
  (segs.takeWhile (·.segIdx ≤ last)).filter (first ≤ ·.segIdx)

def segmentSends (ccc : RasCcc) (segs : List RasSegment) : List RasSend :=
  if ccc.enabled then segs.map (segmentSend ccc.notify) else []

theorem sendLostSegments_eq (h : ∀ r ∈ s.sendResults, r = true) (first last : Nat)
    (segs : List RasSegment) :
    sendLostSegments first last s segs
      = (true, s.sending
          (segmentSends s.charNotifyState.controlPoint (retransmitted first last segs))) := by
  induction segs generalizing s with
  | nil => simp [sendLostSegments, retransmitted, segmentSends, sending_nil]
  | cons seg segs ih =>
    unfold sendLostSegments
    by_cases hlast : seg.segIdx ≤ last
    · by_cases hfirst : first ≤ seg.segIdx
      · have hcons : retransmitted first last (seg :: segs)
            = seg :: retransmitted first last segs := by
          simp [retransmitted, hlast, hfirst]
        rw [if_pos ⟨hfirst, hlast⟩, hcons]
        by_cases hen : s.charNotifyState.controlPoint.enabled = true
        · rw [if_pos hen, sendSegment, gattsDataSendNotify_eq h]
          dsimp only
          rw [ih (sending_sendResults h _), sending_sending, sending_charNotifyState]
          simp [segmentSends, segmentSend, hen]
        · rw [if_neg hen, ih h]
          simp [segmentSends, hen]
      · have hskip : retransmitted first last (seg :: segs) = retransmitted first last segs := by
          simp [retransmitted, hlast, hfirst]
        rw [if_neg (fun hand => hfirst hand.1), if_neg (Nat.not_lt.mpr hlast), ih h, hskip]
    · have hstop : retransmitted first last (seg :: segs) = [] := by
        simp [retransmitted, hlast]
      rw [if_neg (fun hand => hlast hand.2), if_pos (Nat.lt_of_not_le hlast), hstop]
      simp [segmentSends, sending_nil]

theorem counter_bytes (lo hi : UInt8) :
    UInt8.ofNat (lo.toNat + 256 * hi.toNat) = lo
      ∧ UInt8.ofNat ((lo.toNat + 256 * hi.toNat) / 256) = hi := by
  have hlo := lo.toNat_lt
  have hhi := hi.toNat_lt
  constructor
  · apply UInt8.toNat_inj.mp
    rw [UInt8.toNat_ofNat']
    omega
  · apply UInt8.toNat_inj.mp
    rw [UInt8.toNat_ofNat']
    omega

variable {p : RasOdProcedure} {hi lo : UInt8}

theorem onRasCtrPtWriteCb_retrieve (h : ∀ r ∈ s.sendResults, r = true) (first last : UInt8)
    (hp : csRasOdFindProcedure s (lo.toNat + 256 * hi.toNat) = some p) :
    onRasCtrPtWriteCb s [0x02, lo, hi, first, last]
      = s.sending (segmentSends s.charNotifyState.controlPoint
            (retransmitted first.toNat last.toNat p.segList)
          ++ controlPointSends s.charNotifyState.controlPoint
            [csRasCtlOpRspCode, lo, hi, first, last]) := by
  obtain ⟨hlo, hhi⟩ := counter_bytes lo hi
  change rasOnDemandRetrieveSendLostData s (lo.toNat + 256 * hi.toNat) first.toNat last.toNat = _
  unfold rasOnDemandRetrieveSendLostData
  rw [hp]
  dsimp only
  rw [sendLostSegments_eq h]
  unfold rasOnDemandSendLostRangingDataCmpRsp
  rw [hlo, hhi, UInt8.ofNat_toNat, UInt8.ofNat_toNat]
  dsimp only
  rw [sendConfigured_controlPoint (sending_sendResults h _) _ (by simp),
    sending_charNotifyState, ← sending_sending]
  unfold csRasCtlOpRspCode controlPointSends
  by_cases hen : s.charNotifyState.controlPoint.enabled = true
  · rw [if_pos hen]
  · rw [if_neg hen, if_neg hen, sending_nil]

/-! ## What the client waits for -/

def RasOdProcedure.lost (p : RasOdProcedure) (first last : UInt8) : List RasSegment :=
  p.segList.filter fun seg => first.toNat ≤ seg.segIdx ∧ seg.segIdx ≤ last.toNat

def RasSend.IsCmpRangingDataRsp (x : RasSend) : Prop :=
  x.attr = .controlPoint ∧ x.value.head? = some 0x00

def segmentCompleted : RasInput := ⟨.notifyCb true .onDemand, [], []⟩

/-- The segments of the range are sent in the mode of the on-demand characteristic, then a control
point value with opcode `op`, and the completions of the segments send no response. -/
structure RetrievesLost (op : UInt8) (s : RasSrv) (p : RasOdProcedure)
    (lo hi first last : UInt8) : Prop where
  sent : ∃ isNotify, (onRasCtrPtWriteCb s [0x02, lo, hi, first, last]).sent
    = s.sent ++ ((p.lost first last).map (segmentSend s.charNotifyState.onDemandData.notify)
        ++ [controlPointSend isNotify [op, lo, hi, first, last]])
  completions : ∀ k ≤ (p.lost first last).length,
    ∀ x ∈ (after rasStep (onRasCtrPtWriteCb s [0x02, lo, hi, first, last])
        (List.replicate k segmentCompleted)).sent.drop
          (onRasCtrPtWriteCb s [0x02, lo, hi, first, last]).sent.length,
      ¬ x.IsCmpRangingDataRsp

theorem RetrievesLost.op_eq {op : UInt8} {first last : UInt8}
    (h : RetrievesLost op s p lo hi first last) (hsend : ∀ r ∈ s.sendResults, r = true)
    (hp : csRasOdFindProcedure s (lo.toNat + 256 * hi.toNat) = some p) :
    op = csRasCtlOpRspCode := by
  obtain ⟨isNotify, hsent⟩ := h.sent
  rw [onRasCtrPtWriteCb_retrieve hsend first last hp] at hsent
  have hnew := List.append_cancel_left hsent
  unfold segmentSends controlPointSends at hnew
  by_cases hen : s.charNotifyState.controlPoint.enabled = true
  · rw [if_pos hen, if_pos hen] at hnew
    have hlast := (List.append_inj' hnew rfl).2
    simp only [controlPointSend, List.cons.injEq, RasSend.mk.injEq] at hlast
    exact hlast.1.2.2.1.1.symm
  · rw [if_neg hen, if_neg hen] at hnew
    exact absurd hnew.symm (by simp)

/-- **Lost segments.** Whatever procedure is stored and whatever range is asked
for, the Complete Lost Ranging Data Segment Response is not what the command
ends with. -/
theorem not_retrievesLost (s : RasSrv) (p : RasOdProcedure) (lo hi first last : UInt8)
    (hp : csRasOdFindProcedure s (lo.toNat + 256 * hi.toNat) = some p)
    (hsend : ∀ r ∈ s.sendResults, r = true) :
    ¬ RetrievesLost csRasCtlOpRspCmpLostRangDataSeg s p lo hi first last :=
  fun h => absurd (h.op_eq hsend hp) (by decide)

/-! ## A run -/

def fetchedProcedure (controlPoint : UInt8) : RasSrv :=
  after rasStep rasSrvEnabled
    [⟨.connect, [], []⟩, ⟨.cccWrite .onDemandData [1, 0], [], []⟩,
      ⟨.cccWrite .ctrPt [controlPoint, 0], [], []⟩, ⟨.cccWrite .dataReady [1, 0], [], []⟩,
      ⟨.mtuUpdated 13, [], []⟩,
      ⟨.subevent ⟨⟨7, 0, 0, 1, 0, 0, 0, 0, 0, 0, 1⟩, [0, 5, 3, 10, 20, 30]⟩, [], []⟩,
      ⟨.controlPointWrite [0, 7, 0], [], []⟩, segmentCompleted, segmentCompleted]

/-- Also with both characteristics notified. -/
theorem fetchedProcedure_notified_not_retrieved :
    ∃ p, csRasOdFindProcedure (fetchedProcedure 1) 7 = some p
      ∧ ¬ RetrievesLost csRasCtlOpRspCmpLostRangDataSeg (fetchedProcedure 1) p 7 0 0 1 := by
  have hsome : (csRasOdFindProcedure (fetchedProcedure 1) 7).isSome = true := by
    decide +kernel
  obtain ⟨p, hp⟩ := Option.isSome_iff_exists.mp hsome
  have hsends : (fetchedProcedure 1).sendResults = [] := by decide +kernel
  exact ⟨p, hp, not_retrievesLost _ p 7 0 0 1 hp (by rw [hsends]; nofun)⟩

/-- The second segment is indicated although data is notified, the response has the wrong opcode,
and the completion sends a Complete Ranging Data Response. -/
theorem fetchedProcedure_indicated_not_retrieved :
    ((csRasOdFindProcedure (fetchedProcedure 2) 7).map
        fun p => p.segList.map fun seg => (seg.segIdx, segLast seg.data))
      = some [(0, false), (1, true)]
    ∧ (∀ p, csRasOdFindProcedure (fetchedProcedure 2) 7 = some p →
        ¬ RetrievesLost csRasCtlOpRspCmpLostRangDataSeg (fetchedProcedure 2) p 7 0 1 1)
    ∧ ((after rasStep (fetchedProcedure 2) [⟨.controlPointWrite [2, 7, 0, 1, 1], [], []⟩,
          segmentCompleted]).sent.drop (fetchedProcedure 2).sent.length).map
        (fun x => (x.attr, x.isNotify, x.value.take 5))
      = [(.onDemand, false, [6, 0, 0, 0, 1]), (.controlPoint, false, [2, 7, 0, 1, 1]),
          (.controlPoint, false, [0, 7, 0])] := by
  refine ⟨by decide +kernel, fun p hp h => ?_, by decide +kernel⟩
  have hsends : (fetchedProcedure 2).sendResults = [] := by decide +kernel
  exact absurd (h.op_eq (by rw [hsends]; nofun) hp) (by decide)

end BtFramework
