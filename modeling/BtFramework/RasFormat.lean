/-!
# Ranging data: subevent results and their RAS stream

The data side of `cs_ras.c`. A subevent result of the controller becomes a packed header of
twelve bytes, written bit by bit, followed by the step data with the fields the client filtered
out removed.
-/

namespace BtFramework

open List Nat

def csRasSubProcudureHead : Nat := 12

def rasSegHeaderSize : Nat := 4

/-! ## Segment headers -/

def rasSegHeader (idx : Nat) (isLast : Bool) : UInt8 :=
  (if idx = 0 then 0x01 else UInt8.ofNat (idx <<< 2))
    ||| (if isLast then (0x01 : UInt8) <<< 1 else 0)

/-! ## Subevent results -/

structure CsSubeventHeader where
  procedureCounter : Nat
  configId : Nat
  referencePowerLevel : Nat
  numAntennaPaths : Nat
  startAclConnEventCounter : Nat
  frequencyCompensation : Nat
  procedureDoneStatus : Nat
  subeventDoneStatus : Nat
  procedureAbortReason : Nat
  subeventAbortReason : Nat
  numStepsReported : Nat
deriving DecidableEq

/-- A subevent result of the controller. -/
structure CsSubeventResult where
  header : CsSubeventHeader
  stepDataBuf : List UInt8
deriving DecidableEq

def csComplete : Nat := 0

/-! ## The packed header -/

def rasWriteBit (buf : List UInt8) (bitOffset : Nat) (bit : Bool) : List UInt8 :=
  let mask : UInt8 := 1 <<< UInt8.ofNat (bitOffset % 8)
  buf.modify (bitOffset / 8) fun byte =>
    if bit then byte ||| mask else byte &&& ~~~mask

def rasWriteBits (buf : List UInt8) (bitOffset value bitCount : Nat) : List UInt8 × Nat :=
  (List.range bitCount).foldl
    (fun acc i => (rasWriteBit acc.1 acc.2 (value.testBit i), acc.2 + 1))
    (buf, bitOffset)

def antennaPathsMask (numAntennaPaths : Nat) : Nat :=
  if 1 ≤ numAntennaPaths ∧ numAntennaPaths ≤ 4 then
    (1 <<< numAntennaPaths) - 1
  else 0

def rasHeaderFields (h : CsSubeventHeader) : List (Nat × Nat) :=
  [(h.procedureCounter, 12), (h.configId, 4), (h.referencePowerLevel, 8),
    (antennaPathsMask h.numAntennaPaths, 8), (h.startAclConnEventCounter, 16),
    (h.frequencyCompensation, 16), (h.procedureDoneStatus, 4),
    (h.subeventDoneStatus, 4), (h.procedureAbortReason, 4),
    (h.subeventAbortReason, 4), (h.referencePowerLevel, 8),
    (h.numStepsReported, 8)]

/-! ## Step data -/

/-- Where the copy of a step stands: the bytes of the step not looked at yet
and the output. `COPY_FIELD_IF_ENABLED` empties the former when a field is
truncated. -/
structure StepCopy where
  rest : List UInt8
  out : List UInt8

def copyFieldIfEnabled (filter : Nat) (size bit : Nat) (c : StepCopy) : StepCopy :=
  if size ≤ c.rest.length then
    { rest := c.rest.drop size
      out := if filter.testBit bit then c.out ++ c.rest.take size else c.out }
  else { c with rest := [] }

def copyFields (filter : Nat) (fields : List (Nat × Nat)) (c : StepCopy) : StepCopy :=
  fields.foldl (fun c f => copyFieldIfEnabled filter f.1 f.2 c) c

def copyTones (filter pctBit qualityBit : Nat) : Nat → StepCopy → StepCopy
  | 0, c => c
  | fuel + 1, c =>
    if c.rest.length = 0 then c
    else
      copyTones filter pctBit qualityBit fuel (copyFields filter [(3, pctBit), (1, qualityBit)] c)

def copyStep (filter : Nat) (roleInitiator : Bool) (stepMode : Nat)
    (stepData : List UInt8) (out : List UInt8) : List UInt8 :=
  let c : StepCopy := { rest := stepData, out := out }
  match stepMode with
  | 0 =>
    if roleInitiator then
      (copyFields filter [(1, 2), (1, 3), (1, 4), (2, 5)] c).out
    else (copyFields filter [(1, 2), (1, 3), (1, 4)] c).out
  | 1 =>
    (copyFields filter [(1, 2), (1, 3), (1, 4), (2, 5), (1, 6), (4, 7), (4, 8)] c).out
  | 2 =>
    (copyTones filter 3 4 stepData.length (copyFields filter [(1, 2)] c)).out
  | 3 =>
    (copyTones filter 10 11 stepData.length (copyFields filter
      [(1, 2), (1, 3), (1, 4), (2, 5), (1, 6), (4, 7), (4, 8), (1, 9)] c)).out
  | _ => out ++ stepData

/-- The loop of `transform_step_data_to_ras_format_filtered` over the steps.
Every round uses up at least three bytes, so the length of the data bounds the
rounds. -/
def transformSteps (rasFilter : List Nat) (roleInitiator : Bool) :
    Nat → List UInt8 → List UInt8 → List UInt8
  | 0, _, out => out
  | fuel + 1, data, out =>
    match data with
    | stepMode :: _ :: stepDataLength :: rest =>
      if rest.length < stepDataLength.toNat then out
      else
        transformSteps rasFilter roleInitiator fuel
          (rest.drop stepDataLength.toNat)
          (copyStep (rasFilter.getD stepMode.toNat 0) roleInitiator
            stepMode.toNat (rest.take stepDataLength.toNat) (out ++ [stepMode]))
    | _ => out

def transformStepDataToRasFormatFiltered (rasFilter : List Nat)
    (roleInitiator : Bool) (data : List UInt8) : List UInt8 :=
  transformSteps rasFilter roleInitiator data.length data []

def rasSubeventDataConversion (rasFilter : List Nat) (roleInitiator : Bool)
    (result : CsSubeventResult) : List UInt8 :=
  let header := (rasHeaderFields result.header).foldl
    (fun acc f => rasWriteBits acc.1 acc.2 f.1 f.2)
    (List.replicate csRasSubProcudureHead 0, 0)
  header.1 ++ transformStepDataToRasFormatFiltered rasFilter roleInitiator result.stepDataBuf

/-! ## Lengths -/

@[simp] theorem length_rasWriteBit (buf : List UInt8) (bitOffset : Nat) (bit : Bool) :
    (rasWriteBit buf bitOffset bit).length = buf.length := by
  simp [rasWriteBit]

@[simp] theorem length_rasWriteBits (buf : List UInt8)
    (bitOffset value bitCount : Nat) :
    (rasWriteBits buf bitOffset value bitCount).1.length = buf.length := by
  unfold rasWriteBits
  generalize List.range bitCount = is
  induction is generalizing buf bitOffset with
  | nil => rfl
  | cons i is ih => rw [foldl_cons, ih, length_rasWriteBit]

theorem le_length_rasSubeventDataConversion (rasFilter : List Nat)
    (roleInitiator : Bool) (result : CsSubeventResult) :
    csRasSubProcudureHead ≤ (rasSubeventDataConversion rasFilter roleInitiator result).length := by
  have hfold : ∀ (fields : List (Nat × Nat)) (buf : List UInt8) (off : Nat),
      (fields.foldl (fun acc f => rasWriteBits acc.1 acc.2 f.1 f.2) (buf, off)).1.length
        = buf.length := by
    intro fields
    induction fields with
    | nil => intro buf off; rfl
    | cons f fields ih =>
      intro buf off
      exact (ih _ _).trans (length_rasWriteBits ..)
  unfold rasSubeventDataConversion
  rw [length_append, hfold, length_replicate]
  exact le_add_right _ _

/-! ## Reading segments back -/

def segFirst (seg : List UInt8) : Bool := (seg.headD 0 &&& 0x01) != 0

def segLast (seg : List UInt8) : Bool := (seg.headD 0 &&& 0x02) != 0

def segIndex (seg : List UInt8) : Nat := (seg.headD 0 >>> 2).toNat

def segPayload (seg : List UInt8) : List UInt8 := seg.tail

/-- The payloads put together are the data, the first segment and no other has the First bit, the
last and no other the Last bit, and the indices count modulo 64. -/
structure RasSegmentation (data : List UInt8) (segs : List (List UInt8)) : Prop where
  payload : (segs.map segPayload).flatten = data
  first : ∀ k seg, segs[k]? = some seg → (segFirst seg = true ↔ k = 0)
  last : ∀ k seg, segs[k]? = some seg → (segLast seg = true ↔ k + 1 = segs.length)
  index : ∀ k seg, segs[k]? = some seg → segIndex seg = k % 64

def frameSegments (w : Nat) (ps : List (List UInt8)) : List (List UInt8) :=
  ps.mapIdx fun k p => rasSegHeader (k % w) (k + 1 = ps.length) :: p

theorem ofNat_shiftLeft_two (idx : Nat) :
    UInt8.ofNat (idx <<< 2) = UInt8.ofNat ((idx % 64) <<< 2) := by
  apply UInt8.toNat_inj.mp
  simp only [UInt8.toNat_ofNat', shiftLeft_eq]
  omega

theorem rasSegHeader_spec (idx : Nat) (isLast : Bool) (p : List UInt8) :
    (segFirst (rasSegHeader idx isLast :: p) = true ↔ idx = 0)
      ∧ (segLast (rasSegHeader idx isLast :: p) = true ↔ isLast = true)
      ∧ segIndex (rasSegHeader idx isLast :: p) = idx % 64 := by
  have hzero : ∀ l : Bool, ((0x01 : UInt8) ||| (if l then (0x01 : UInt8) <<< 1 else 0))
      &&& 0x01 ≠ 0 ∧ (((0x01 : UInt8) ||| (if l then (0x01 : UInt8) <<< 1 else 0))
      &&& 0x02 ≠ 0 ↔ l = true)
      ∧ (((0x01 : UInt8) ||| (if l then (0x01 : UInt8) <<< 1 else 0)) >>> 2).toNat = 0 := by
    decide
  have hsucc : ∀ j < 64, ∀ l : Bool,
      (UInt8.ofNat (j <<< 2) ||| (if l then (0x01 : UInt8) <<< 1 else 0)) &&& 0x01 = 0
        ∧ ((UInt8.ofNat (j <<< 2) ||| (if l then (0x01 : UInt8) <<< 1 else 0))
          &&& 0x02 ≠ 0 ↔ l = true)
        ∧ ((UInt8.ofNat (j <<< 2) ||| (if l then (0x01 : UInt8) <<< 1 else 0)) >>> 2).toNat
          = j := by
    decide
  simp only [segFirst, segLast, segIndex, headD_cons, bne_iff_ne]
  unfold rasSegHeader
  by_cases h : idx = 0
  · subst h
    obtain ⟨h1, h2, h3⟩ := hzero isLast
    exact ⟨iff_of_true h1 rfl, h2, h3⟩
  · obtain ⟨h1, h2, h3⟩ := hsucc (idx % 64) (mod_lt _ (by decide)) isLast
    rw [if_neg h, ofNat_shiftLeft_two]
    exact ⟨iff_of_false (fun hne => hne h1) h, h2, h3⟩

theorem getElem?_frameSegments {w k : Nat} {ps : List (List UInt8)} {seg : List UInt8}
    (h : (frameSegments w ps)[k]? = some seg) :
    ∃ p, ps[k]? = some p ∧ k < ps.length ∧ seg = rasSegHeader (k % w) (k + 1 = ps.length) :: p := by
  rw [frameSegments, getElem?_mapIdx, Option.map_eq_some_iff] at h
  obtain ⟨p, hp, rfl⟩ := h
  obtain ⟨hk, -⟩ := List.getElem?_eq_some_iff.mp hp
  exact ⟨p, hp, hk, rfl⟩

@[simp] theorem length_frameSegments (w : Nat) (ps : List (List UInt8)) :
    (frameSegments w ps).length = ps.length := by
  simp [frameSegments]

/-- **Framing.** Framed pieces are a segmentation of their data exactly when
the index counter does not wrap within them. -/
theorem rasSegmentation_frameSegments_iff {w : Nat} (hw : 64 ∣ w) (hpos : 0 < w)
    (ps : List (List UInt8)) :
    RasSegmentation ps.flatten (frameSegments w ps) ↔ ps.length ≤ w := by
  constructor
  · intro h
    refine Nat.le_of_not_lt fun hlong => ?_
    -- segment `w` has index zero again, hence the First bit
    have hp : ps[w]? = some ps[w] := getElem?_eq_getElem hlong
    have hseg : (frameSegments w ps)[w]?
        = some (rasSegHeader (w % w) (w + 1 = ps.length) :: ps[w]) := by
      rw [frameSegments, getElem?_mapIdx, hp]
      rfl
    have hfirst := (h.first w _ hseg).mp ((rasSegHeader_spec _ _ _).1.mpr (mod_self w))
    omega
  · intro hshort
    refine ⟨?_, ?_, ?_, ?_⟩
    · have hmap : (frameSegments w ps).map segPayload = ps := by
        apply ext_getElem?
        intro k
        rw [getElem?_map, frameSegments, getElem?_mapIdx, Option.map_map]
        exact Option.map_id'
      rw [hmap]
    · intro k seg hseg
      obtain ⟨p, -, hk, rfl⟩ := getElem?_frameSegments hseg
      rw [(rasSegHeader_spec _ _ p).1, mod_eq_of_lt (by omega)]
    · intro k seg hseg
      obtain ⟨p, -, hk, rfl⟩ := getElem?_frameSegments hseg
      rw [(rasSegHeader_spec _ _ p).2.1, length_frameSegments, decide_eq_true_eq]
    · intro k seg hseg
      obtain ⟨p, -, hk, rfl⟩ := getElem?_frameSegments hseg
      rw [(rasSegHeader_spec _ _ p).2.2]
      exact mod_mod_of_dvd k hw

end BtFramework
