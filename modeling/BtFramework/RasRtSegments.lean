import BtFramework.Chunks
import BtFramework.RasRealTime

/-!
# Real-time segments

In notify mode the first call sends everything, in indication mode each call sends one segment.
The payloads are the greedy cut of the item's data (`Chunks.Cut`), framed with an index kept in
a `uint8_t`: a segment gets the First bit when that counter reads zero.
-/

namespace BtFramework

open Chunks List Nat

/-! ## One successful call -/

/-- The client takes notifications, or indications, and every call succeeds. -/
structure RtMode (isNotify : Bool) (s : RasSrv) : Prop where
  cfg : s.rtDtCccCfg = if isNotify then csRasGattNotify else csRasGattIndication
  bits : s.charNotifyState.rttData = ⟨isNotify, !isNotify⟩
  succeed : s.AllSucceed

def rtAdvance (item : RasRtQueuedData) (size : Nat) : RasRtQueuedData :=
  { item with
    segOffset := item.segOffset + size
    remaining := item.remaining - size
    segIdx := (item.segIdx + 1) % 256 }

def rtFinish (item : RasRtQueuedData) : RasRtQueuedData :=
  { item with segIdx := 0, remaining := 0, segOffset := 0 }

def rtAccepted (s : RasSrv) (isNotify : Bool) (item : RasRtQueuedData)
    (seg : List UInt8) : RasSrv :=
  { s with
    allocResults := s.allocResults.tail
    sendResults := s.sendResults.tail
    sent := s.sent ++ [⟨.realTime, isNotify, seg, some item.id⟩] }

variable {s : RasSrv} {item : RasRtQueuedData} {isNotify : Bool}

theorem RasSrv.AllSucceed.send_eq (h : s.AllSucceed) {attr : RasAttr}
    {value : List UInt8} {owner : Option Nat} (hlen : value.length < 65536) :
    s.gattsDataSendNotify attr isNotify value owner
      = (true, { s with
          sendResults := s.sendResults.tail
          sent := s.sent ++ [⟨attr, isNotify, value, owner⟩] }) := by
  unfold RasSrv.gattsDataSendNotify
  rw [mod_eq_of_lt hlen, take_length]
  split
  next hr => rw [hr, tail_nil, ← hr]
  next rest hr => rw [hr, tail_cons]
  next rest hr =>
    have := h.2 false (by rw [hr]; exact mem_cons_self ..)
    cases this

theorem RtMode.accepted (h : RtMode isNotify s) (item : RasRtQueuedData) (b : Bool)
    (seg : List UInt8) :
    RtMode isNotify { rtAccepted s isNotify item seg with rasDtRdIndicating := b } where
  cfg := h.cfg
  bits := h.bits
  succeed := ⟨fun r hr => h.succeed.1 r (mem_of_mem_tail hr),
    fun r hr => h.succeed.2 r (mem_of_mem_tail hr)⟩

theorem RtMode.branch {α : Type} (h : RtMode isNotify s) (x y z : α) :
    (if s.rtDtCccCfg = csRasGattNotify then x
      else if s.rtDtCccCfg = csRasGattIndication then y else z) = if isNotify then x else y := by
  rw [h.cfg]
  cases isNotify <;> rfl

theorem RtMode.send (h : RtMode isNotify s) {b : Bool} {seg : List UInt8}
    (hlen : seg.length < 65536) :
    RasSrv.gattsDataSendNotify
        { s with allocResults := s.allocResults.tail, rasDtRdIndicating := b } .realTime isNotify
        seg (some item.id)
      = (true, { rtAccepted s isNotify item seg with rasDtRdIndicating := b }) := by
  have hsucc : RasSrv.AllSucceed
      { s with allocResults := s.allocResults.tail, rasDtRdIndicating := b } :=
    ⟨fun r hr => h.succeed.1 r (mem_of_mem_tail hr), h.succeed.2⟩
  exact hsucc.send_eq hlen

theorem rtPayload_eq {size : Nat} (h : item.segOffset + size ≤ item.data.length) :
    rtPayload s item size = (s, (item.data.drop item.segOffset).take size) := by
  rw [rtPayload, decide_eq_false (Nat.not_lt.mpr h), Bool.or_false]

theorem rtSplitLoop_more (h : RtMode isNotify s) (hmtu : s.rasMtu < 65536)
    (hmore : s.rasMtu - 5 < item.remaining)
    (hin : item.segOffset + item.remaining = item.data.length) (fuel : Nat) :
    let seg := rasSegHeader item.segIdx false :: (item.data.drop item.segOffset).take (s.rasMtu - 5)
    rtSplitLoop (fuel + 1) s item =
      if isNotify then
        rtSplitLoop fuel (rtAccepted s isNotify item seg) (rtAdvance item (s.rasMtu - 5))
      else ({ rtAccepted s isNotify item seg with rasDtRdIndicating := true },
        rtAdvance item (s.rasMtu - 5)) := by
  intro seg
  have hcap : s.rasMtu - rasSegHeaderSize - 1 = s.rasMtu - 5 := by
    unfold rasSegHeaderSize
    omega
  have hlen : seg.length < 65536 := by
    simp only [seg, length_cons, length_take]
    omega
  have hsize : item.segOffset + (s.rasMtu - 5) ≤ item.data.length := by omega
  rw [rtSplitLoop, if_neg (by omega), if_pos (by omega), hcap, RasSrv.alloc_eq h.succeed.1]
  simp only [Bool.not_true, Bool.false_eq_true, if_false, rtPayload_eq hsize, h.branch]
  cases isNotify <;> rw [h.send hlen] <;> rfl

theorem rtSplitLoop_last (h : RtMode isNotify s) (hmtu : s.rasMtu < 65536)
    (hpos : 0 < item.remaining) (hlast : item.remaining ≤ s.rasMtu - 5)
    (hin : item.segOffset + item.remaining = item.data.length) (fuel : Nat) :
    let seg := rasSegHeader item.segIdx true :: item.data.drop item.segOffset
    rtSplitLoop (fuel + 1) s item =
      ({ rtAccepted s isNotify item seg with rasDtRdIndicating := !isNotify }, rtFinish item) := by
  intro seg
  have htake : (item.data.drop item.segOffset).take item.remaining
      = item.data.drop item.segOffset := by
    apply take_of_length_le
    rw [length_drop]
    omega
  have hlen : seg.length < 65536 := by
    simp only [seg, length_cons, length_drop]
    omega
  rw [rtSplitLoop, if_neg (by omega), if_neg (by unfold rasSegHeaderSize; omega),
    RasSrv.alloc_eq h.succeed.1]
  simp only [Bool.not_true, Bool.false_eq_true, if_false, rtPayload_eq (Nat.le_of_eq hin), htake,
    h.branch]
  cases isNotify <;> rw [h.send hlen] <;> rfl

/-! ## The segments of an item -/

def rtFrames (idx : Nat) : List (List UInt8) → List (List UInt8)
  | [] => []
  | [p] => [rasSegHeader idx true :: p]
  | p :: q :: ps =>
    (rasSegHeader idx false :: p) :: rtFrames ((idx + 1) % 256) (q :: ps)

theorem rtFrames_cons {idx : Nat} {p : List UInt8} {ps : List (List UInt8)}
    (hps : ps ≠ []) :
    rtFrames idx (p :: ps) = (rasSegHeader idx false :: p) :: rtFrames ((idx + 1) % 256) ps := by
  cases ps with
  | nil => exact absurd rfl hps
  | cons q ps => rfl

theorem rtFrames_eq_mapIdx (j : Nat) (ps : List (List UInt8)) :
    rtFrames (j % 256) ps
      = ps.mapIdx fun k p => rasSegHeader ((j + k) % 256) (k + 1 = ps.length) :: p := by
  induction ps generalizing j with
  | nil => rfl
  | cons p ps ih =>
    cases ps with
    | nil => simp [rtFrames]
    | cons q ps =>
      rw [rtFrames, mod_add_mod, ih (j + 1), mapIdx_cons]
      simp [add_assoc, add_comm 1, eq_comm (a := 0)]

theorem rtFrames_zero (ps : List (List UInt8)) : rtFrames 0 ps = frameSegments 256 ps := by
  have h := rtFrames_eq_mapIdx 0 ps
  simpa [frameSegments] using h

def rtSends (isNotify : Bool) (id : Nat) (segs : List (List UInt8)) : List RasSend :=
  segs.map fun seg => ⟨.realTime, isNotify, seg, some id⟩

theorem rtSplitLoop_notify {fuel : Nat} (h : RtMode true s) (hmin : 5 < s.rasMtu)
    (hmtu : s.rasMtu < 65536) (hpos : 0 < item.remaining) (hfuel : item.remaining ≤ fuel)
    (hin : item.segOffset + item.remaining = item.data.length) :
    ∃ ps s', Cut (fun _ => s.rasMtu - 5) (item.data.drop item.segOffset) ps
      ∧ rtSplitLoop fuel s item = (s', rtFinish item) ∧ RtMode true s'
      ∧ s'.sent = s.sent ++ rtSends true item.id (rtFrames item.segIdx ps) := by
  induction fuel generalizing s item with
  | zero => omega
  | succ fuel ih =>
    have hdrop : (item.data.drop item.segOffset).length = item.remaining := by
      rw [length_drop]
      omega
    by_cases hmore : s.rasMtu - 5 < item.remaining
    · have hround := rtSplitLoop_more h hmtu hmore hin fuel
      obtain ⟨ps, s', hcut, hloop, hmode, hsent⟩ := @ih _ (rtAdvance item (s.rasMtu - 5))
        (h.accepted item s.rasDtRdIndicating (rasSegHeader item.segIdx false
          :: (item.data.drop item.segOffset).take (s.rasMtu - 5))) hmin hmtu
        (by simp only [rtAdvance]; omega) (by simp only [rtAdvance]; omega)
        (by simp only [rtAdvance]; omega)
      refine ⟨_ :: ps, s', .more (hdrop ▸ hmore) ?_, hround.trans hloop, hmode, ?_⟩
      · rw [drop_drop]
        exact hcut
      · rw [hsent, rtFrames_cons hcut.ne_nil]
        simp [rtAccepted, rtSends, rtAdvance]
    · refine ⟨_, _, .last (hdrop ▸ Nat.le_of_not_lt hmore),
        rtSplitLoop_last h hmtu hpos (by omega) hin fuel, h.accepted _ _ _, ?_⟩
      simp [rtAccepted, rtSends, rtFrames]

theorem splitHead_eq {rest : List RasRtQueuedData} {s' : RasSrv}
    {item' : RasRtQueuedData} (hmin : 5 < s.rasMtu)
    (h : rtSplitLoop item.remaining s item = (s', item')) :
    splitHead s item rest = { s' with rtQueue := item' :: rest } := by
  rw [splitHead, csRasSplitRealTimeSegment, if_neg (by unfold rasSegHeaderSize; omega), h]

structure RtDone (isNotify : Bool) (s : RasSrv) : Prop where
  mode : RtMode isNotify s
  queue : s.rtQueue = [] ∨ ∃ item, s.rtQueue = [item] ∧ item.remaining = 0

/-! ## Completions -/

def rtTransfer (mtus : Nat → Nat) : Nat → RasSrv → RasSrv
  | 0, s => s
  | n + 1, s => rtTransfer (shift mtus) n (rtNotifyCb (csRasMtuUpdatedCb s (mtus 0)))

/-- The head is sent, the MTU being `mtus k` for segment `k`. -/
def rtSendItem (mtus : Nat → Nat) (n : Nat) (s : RasSrv) : RasSrv :=
  rtTransfer (shift mtus) n (csRasRtTrySendNext (csRasMtuUpdatedCb s (mtus 0)))

theorem RtMode.mtuUpdated (h : RtMode isNotify s) (mtu : Nat) :
    RtMode isNotify (csRasMtuUpdatedCb s mtu) :=
  ⟨h.cfg, h.bits, h.succeed⟩

variable (mtus : Nat → Nat) (n : Nat)

theorem rtTransfer_done (h : RtDone isNotify s) : (rtTransfer mtus n s).sent = s.sent := by
  induction n generalizing mtus s with
  | zero => rfl
  | succ n ih =>
    have hcb : RtDone isNotify (rtNotifyCb (csRasMtuUpdatedCb s (mtus 0)))
        ∧ (rtNotifyCb (csRasMtuUpdatedCb s (mtus 0))).sent = s.sent := by
      have hmode := h.mode.mtuUpdated (mtus 0)
      rcases h.queue with hq | ⟨item, hq, hrem⟩
      · have hq' : (csRasMtuUpdatedCb s (mtus 0)).rtQueue = [] := hq
        have hself : rtNotifyCb (csRasMtuUpdatedCb s (mtus 0)) = csRasMtuUpdatedCb s (mtus 0) := by
          simp only [rtNotifyCb, rasDtRdIndicateCb, hq']
          split <;> [rfl; split <;> rfl]
        rw [hself]
        exact ⟨⟨hmode, .inl hq⟩, rfl⟩
      · have hq' : (csRasMtuUpdatedCb s (mtus 0)).rtQueue = [item] := hq
        have hgone : rtNotifyCb (csRasMtuUpdatedCb s (mtus 0))
            = { csRasMtuUpdatedCb s (mtus 0) with rtQueue := [] } := by
          rw [rtNotifyCb, rasDtRdIndicateCb, hq', hmode.bits]
          cases isNotify <;> simp [hrem, csRasRtTrySendNext]
        rw [hgone]
        exact ⟨⟨⟨hmode.cfg, hmode.bits, hmode.succeed⟩, .inl rfl⟩, rfl⟩
    rw [rtTransfer, ih (shift mtus) hcb.1, hcb.2]

def segMtu (isNotify : Bool) (mtus : Nat → Nat) (k : Nat) : Nat :=
  if isNotify then mtus 0 else mtus k

theorem rtNotifyCb_of_pos (h : RtMode false s) (hq : s.rtQueue = [item])
    (hpos : 0 < item.remaining) : rtNotifyCb s = splitHead s item [] := by
  simp [rtNotifyCb, rasDtRdIndicateCb, hq, h.bits, hpos]

/-- The segments of the item at the head, from the call that sends the next of them on. -/
theorem rtTransfer_splitHead {mtus : Nat → Nat} {n : Nat}
    (hmtus : ∀ k, 5 < mtus k ∧ mtus k < 65536) (h : RtMode isNotify s)
    (hpos : 0 < item.remaining) (hin : item.segOffset + item.remaining = item.data.length)
    (hn : item.remaining ≤ n + 1) :
    ∃ ps, Cut (fun k => segMtu isNotify mtus k - 5) (item.data.drop item.segOffset) ps
      ∧ (rtTransfer (shift mtus) n (splitHead (csRasMtuUpdatedCb s (mtus 0)) item [])).sent
        = s.sent ++ rtSends isNotify item.id (rtFrames item.segIdx ps) := by
  cases isNotify with
  | true =>
    obtain ⟨ps, s', hcut, hloop, hend, hsent⟩ :=
      rtSplitLoop_notify (h.mtuUpdated _) (hmtus 0).1 (hmtus 0).2 hpos (le_refl _) hin
    have hdone : RtDone true { s' with rtQueue := [rtFinish item] } :=
      ⟨⟨hend.cfg, hend.bits, hend.succeed⟩, .inr ⟨_, rfl, rfl⟩⟩
    rw [splitHead_eq (hmtus 0).1 hloop, rtTransfer_done _ _ hdone]
    exact ⟨ps, hcut, hsent⟩
  | false =>
    induction n using Nat.strong_induction_on generalizing s item mtus with | _ n ih
    have hmin := (hmtus 0).1
    have hmode := h.mtuUpdated (mtus 0)
    have hdrop : (item.data.drop item.segOffset).length = item.remaining := by
      rw [length_drop]
      omega
    obtain ⟨fuel, hfuel⟩ := Nat.exists_eq_add_of_lt hpos
    rw [Nat.zero_add] at hfuel
    by_cases hmore : mtus 0 - 5 < item.remaining
    · have hround := rtSplitLoop_more hmode (hmtus 0).2 hmore hin fuel
      have hadv := hmode.accepted item true (rasSegHeader item.segIdx false
        :: (item.data.drop item.segOffset).take (mtus 0 - 5))
      simp only [Bool.false_eq_true, if_false, ← hfuel] at hround
      rw [splitHead_eq hmin hround]
      cases n with
      | zero => omega
      | succ n =>
        have hpos' : 0 < (rtAdvance item (mtus 0 - 5)).remaining := by
          simp only [rtAdvance]
          omega
        have hmode' : RtMode false { rtAccepted (csRasMtuUpdatedCb s (mtus 0)) false item
            (rasSegHeader item.segIdx false :: (item.data.drop item.segOffset).take (mtus 0 - 5))
            with rasDtRdIndicating := true, rtQueue := [rtAdvance item (mtus 0 - 5)] } :=
          ⟨hadv.cfg, hadv.bits, hadv.succeed⟩
        obtain ⟨ps, hcut, hsent⟩ := ih n (Nat.lt_succ_self n) (fun k => hmtus (k + 1)) hpos'
          (by simp only [rtAdvance]; omega) (by simp only [rtAdvance]; omega) hmode'
        refine ⟨_ :: ps, .more (hdrop ▸ hmore) ?_, ?_⟩
        · rw [drop_drop]
          exact hcut
        · rw [← rtNotifyCb_of_pos (hmode'.mtuUpdated _) rfl hpos'] at hsent
          refine hsent.trans ?_
          rw [rtFrames_cons hcut.ne_nil]
          exact append_assoc _ _ _
    · have hround := rtSplitLoop_last hmode (hmtus 0).2 hpos (Nat.le_of_not_lt hmore) hin fuel
      have hadv := hmode.accepted item true
        (rasSegHeader item.segIdx true :: item.data.drop item.segOffset)
      have hdone : RtDone false { rtAccepted (csRasMtuUpdatedCb s (mtus 0)) false item
          (rasSegHeader item.segIdx true :: item.data.drop item.segOffset) with
          rasDtRdIndicating := true, rtQueue := [rtFinish item] } :=
        ⟨⟨hadv.cfg, hadv.bits, hadv.succeed⟩, .inr ⟨_, rfl, rfl⟩⟩
      rw [← hfuel] at hround
      rw [splitHead_eq hmin hround]
      refine ⟨_, .last (hdrop ▸ Nat.le_of_not_lt hmore), ?_⟩
      exact (rtTransfer_done _ _ hdone).trans rfl

/-! ## The whole item -/

/-- Nothing of the item was sent. -/
structure RtFresh (item : RasRtQueuedData) : Prop where
  processing : item.processing = false
  segOffset : item.segOffset = 0
  remaining : item.remaining = item.data.length
  segIdx : item.segIdx = 0

/-- What was sent in between. -/
def sentSince (s s' : RasSrv) : List (List UInt8) :=
  (s'.sent.drop s.sent.length).map (·.value)

theorem csRasRtTrySendNext_fresh (mtu : Nat) (hq : s.rtQueue = [item])
    (hfresh : RtFresh item) :
    csRasRtTrySendNext (csRasMtuUpdatedCb s mtu)
      = splitHead (csRasMtuUpdatedCb s mtu) { item with processing := true } [] := by
  have hq' : (csRasMtuUpdatedCb s mtu).rtQueue = [item] := hq
  simp [csRasRtTrySendNext, hq', hfresh.processing]

theorem sentSince_rtSendItem_nil (h : RtMode isNotify s) (hq : s.rtQueue = [item])
    (hfresh : RtFresh item) (hmtu : 5 < mtus 0) (hnil : item.data = []) :
    sentSince s (rtSendItem mtus n s) = [] := by
  have hmode := h.mtuUpdated (mtus 0)
  have hsplit : splitHead (csRasMtuUpdatedCb s (mtus 0)) { item with processing := true } []
      = { csRasMtuUpdatedCb s (mtus 0) with
          rtQueue := [{ item with processing := true }] } := by
    apply splitHead_eq hmtu
    simp only [hfresh.remaining, hnil]
    rfl
  have hdone : RtDone isNotify { csRasMtuUpdatedCb s (mtus 0) with
      rtQueue := [{ item with processing := true }] } :=
    ⟨⟨hmode.cfg, hmode.bits, hmode.succeed⟩, .inr ⟨_, rfl, by simp [hfresh.remaining, hnil]⟩⟩
  rw [rtSendItem, csRasRtTrySendNext_fresh _ hq hfresh, hsplit, sentSince,
    rtTransfer_done _ _ hdone]
  simp [csRasMtuUpdatedCb]

theorem sentSince_rtSendItem (h : RtMode isNotify s) (hq : s.rtQueue = [item])
    (hfresh : RtFresh item) (hmtus : ∀ k, 5 < mtus k ∧ mtus k < 65536) (hn : item.data.length ≤ n) :
    (item.data = [] ∧ sentSince s (rtSendItem mtus n s) = [])
      ∨ ∃ ps, Cut (fun k => segMtu isNotify mtus k - 5) item.data ps
          ∧ sentSince s (rtSendItem mtus n s) = frameSegments 256 ps := by
  by_cases hnil : item.data = []
  · exact .inl ⟨hnil, sentSince_rtSendItem_nil mtus n h hq hfresh (hmtus 0).1 hnil⟩
  right
  have hstart := csRasRtTrySendNext_fresh (mtus 0) hq hfresh
  have hlen : item.data.length = item.remaining := hfresh.remaining.symm
  have hin : ({ item with processing := true } : RasRtQueuedData).segOffset
      + ({ item with processing := true } : RasRtQueuedData).remaining
        = ({ item with processing := true } : RasRtQueuedData).data.length := by
    simp [hfresh.segOffset, hfresh.remaining]
  have hpos : 0 < ({ item with processing := true } : RasRtQueuedData).remaining := by
    simpa [← hlen] using length_pos_iff.mpr hnil
  have hdata : item.data.drop item.segOffset = item.data := by
    rw [hfresh.segOffset, drop_zero]
  obtain ⟨ps, hcut, hsent⟩ := rtTransfer_splitHead (n := n) hmtus h hpos hin (by simp; omega)
  refine ⟨ps, hdata ▸ hcut, ?_⟩
  rw [sentSince, rtSendItem, hstart, hsent, drop_left, rtSends, map_map, hfresh.segIdx,
    rtFrames_zero]
  exact map_id _

/-- **Real-time segmentation.** Of a fresh item sent alone, every call succeeding, in either mode
and under any MTU values above the minimum, the segments are a segmentation of its data with
lengths within the MTU exactly when 256 segments are enough. -/
theorem rt_segmentation_iff (isNotify : Bool) (s : RasSrv) (h : RtMode isNotify s)
    (item : RasRtQueuedData) (hq : s.rtQueue = [item]) (hfresh : RtFresh item)
    (mtus : Nat → Nat) (hmtus : ∀ k, 5 < mtus k ∧ mtus k < 65536)
    (n : Nat) (hn : item.data.length ≤ n) :
    (RasSegmentation item.data (sentSince s (rtSendItem mtus n s))
        ∧ ∀ k seg, (sentSince s (rtSendItem mtus n s))[k]? = some seg →
          seg.length ≤ segMtu isNotify mtus k - 4)
      ↔ item.data.length ≤ ∑ k ∈ Finset.range 256, (segMtu isNotify mtus k - 5) := by
  rcases sentSince_rtSendItem mtus n h hq hfresh hmtus hn with
    ⟨hnil, hsent⟩ | ⟨ps, hcut, hsent⟩
  · rw [hsent, hnil]
    refine iff_of_true ⟨⟨rfl, ?_, ?_, ?_⟩, ?_⟩ (zero_le _)
    all_goals
      intro k seg hseg
      simp at hseg
  · rw [hsent, ← hcut.length_le_iff (by decide)]
    have hiff := rasSegmentation_frameSegments_iff (by decide : 64 ∣ 256) (by decide) ps
    rw [hcut.flatten] at hiff
    rw [← hiff, and_iff_left_iff_imp]
    intro _ k seg hseg
    obtain ⟨p, hp, -, rfl⟩ := getElem?_frameSegments hseg
    have hp := hcut.length_le hp
    have hmtu : 5 < segMtu isNotify mtus k := by
      unfold segMtu
      split
      · exact (hmtus 0).1
      · exact (hmtus k).1
    rw [length_cons]
    omega

def rtSample (isNotify : Bool) (len : Nat) : RasSrv :=
  { rasSrvEnabled with
    rtDtCccCfg := if isNotify then csRasGattNotify else csRasGattIndication
    charNotifyState := { rasSrvEnabled.charNotifyState with
      rttData := ⟨isNotify, !isNotify⟩ }
    rtQueue := [⟨0, false, len, 0, len, 0, List.replicate len 0⟩] }

/-- Forty bytes by indications, the MTU raised from 20 to 23 after the first. -/
theorem rt_segmentation_forty_bytes :
    RasSegmentation (List.replicate 40 0) (sentSince (rtSample false 40)
        (rtSendItem (fun k => if k = 0 then 20 else 23) 40 (rtSample false 40)))
      ∧ ∀ k seg, (sentSince (rtSample false 40) (rtSendItem
          (fun k => if k = 0 then 20 else 23) 40 (rtSample false 40)))[k]? = some seg →
        seg.length ≤ segMtu false (fun k => if k = 0 then 20 else 23) k - 4 :=
  (rt_segmentation_iff false (rtSample false 40) ⟨rfl, rfl, by decide, by decide⟩ _ rfl
    ⟨rfl, rfl, rfl, rfl⟩ _ (by intro k; split <;> decide) 40
    (by decide)).mpr (by decide +kernel)

/-- With the default MTU of 20 bytes, an item of 3841 bytes needs 257 segments,
and the last of them claims to be the first one. -/
theorem rt_segment_256_first :
    let segs := sentSince (rtSample true 3841) (rtSendItem (fun _ => 20) 3841 (rtSample true 3841))
    (∃ seg, segs[256]? = some seg ∧ segFirst seg = true)
      ∧ ¬RasSegmentation (List.replicate 3841 0) segs := by
  intro segs
  obtain ⟨seg, hseg, hfirst⟩ : ∃ seg, segs[256]? = some seg ∧ segFirst seg = true := by
    have hmode : RtMode true (rtSample true 3841) := ⟨rfl, rfl, by decide, by decide⟩
    rcases sentSince_rtSendItem (fun _ => 20) 3841 hmode rfl
      ⟨rfl, rfl, length_replicate.symm, rfl⟩ (fun _ => by decide)
      (le_of_eq length_replicate) with ⟨hnil, -⟩ | ⟨ps, hcut, hsent⟩
    · exact absurd hnil (by simp)
    · have hlong : ¬ps.length ≤ 256 := by
        have hsum : ∑ k ∈ Finset.range 256, (segMtu true (fun _ => 20) k - 5) = 3840 :=
          (Finset.sum_const 15).trans (by rw [Finset.card_range]; rfl)
        rw [hcut.length_le_iff (by decide), hsum, length_replicate]
        decide
      have hseg : segs[256]?
          = some (rasSegHeader (256 % 256) (256 + 1 = ps.length) :: ps[256]) := by
        show (sentSince _ _)[256]? = _
        rw [hsent, frameSegments, getElem?_mapIdx, getElem?_eq_getElem (Nat.lt_of_not_le hlong)]
        rfl
      exact ⟨_, hseg, (rasSegHeader_spec _ _ _).1.mpr rfl⟩
  exact ⟨⟨seg, hseg, hfirst⟩,
    fun h => absurd ((h.first 256 seg hseg).mp hfirst) (by decide)⟩

end BtFramework
