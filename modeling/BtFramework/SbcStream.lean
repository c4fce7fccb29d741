import Mathlib.Data.Rat.Floor

/-!
# SBC packets of the A2DP source

Every 20 ms the source works out from the bytes it has been fed how many SBC frames are due
(`getNumFrameIteration`) and sends them in one or more media packets, each with one byte in
front (`sendFrames`). Two quantities compete for the number of frames in a packet: what the MTU
has room for, kept in eight bits, and what one tick of audio amounts to, which is not compared
with the MTU at all.
-/

namespace BtFramework.SbcStream

inductive SamplingFreq where
  | sf16000 | sf32000 | sf44100 | sf48000

inductive ChannelMode where
  | mono | dual | stereo | jointStereo
  deriving DecidableEq

/-- The fields of `sbc_param_t` that the stream reads, as
`a2dp_codec_parse_sbc_param` leaves them: the channel count is always
`SBC_MAX_NUM_OF_CHANNELS`. -/
structure SbcParam where
  samplingFreq : SamplingFreq
  channelMode : ChannelMode
  numOfSubBands : ℕ
  numOfBlocks : ℕ
  bitPool : ℕ
  subBands_mem : numOfSubBands ∈ [4, 8]
  blocks_mem : numOfBlocks ∈ [4, 8, 12, 16]
  bitPool_lt : bitPool < 256

def numOfChannels : ℕ := 2

namespace SbcParam

variable (p : SbcParam)

/-- `a2dp_sbc_frame_length`; mono is not supported and has no frames. -/
def frameLength : ℕ :=
  if p.channelMode = .mono then 0
  else 4 + 4 * p.numOfSubBands * numOfChannels / 8
    + (p.numOfBlocks * p.bitPool * (1 + (p.channelMode = .dual : Bool).toNat)
      + (p.channelMode = .jointStereo : Bool).toNat * p.numOfSubBands + 7) / 8

/-- `a2dp_sbc_sample_frequency`. -/
def sampleFrequency : ℕ :=
  match p.samplingFreq with
  | .sf16000 => 16000
  | .sf32000 => 32000
  | .sf44100 => 44100
  | .sf48000 => 48000

def pcmBytesPerFrame : ℕ := p.numOfSubBands * p.numOfBlocks * numOfChannels * 16 / 8

/-- What `a2dp_source_sbc_stream_reset` puts in the feeding state. -/
def bytesPerTick : ℕ := p.sampleFrequency * 16 / 8 * numOfChannels * 20 / 1000

/-- The frames of 20 ms of audio. -/
def framesPerTick : ℕ := p.bytesPerTick / p.pcmBytesPerFrame

/-- `calculate_max_frames_per_packet` without the conversion to `uint8_t`. -/
def roomFor (mtu : ℕ) : ℕ := (mtu - 1) / p.frameLength

/-- `projected_nof`, for a feeding counter of `fed` bytes. -/
def projectedNof (fed : ℚ) : ℕ := min ⌊fed / p.pcmBytesPerFrame⌋₊ 14

end SbcParam

/-- `calculate_max_frames_per_packet`: the assertion on the frame length, the default
MTU, and the conversion of the result. -/
def calculateMaxFramesPerPacket (p : SbcParam) (mtu : ℕ) : Option ℕ :=
  if p.frameLength = 0 then none
  else some (p.roomFor (if mtu = 0 then 663 else mtu) % 256)

structure Iteration where
  numOfIterations : ℕ
  numOfFrames : ℕ
  counter : ℚ

/-- `a2dp_sbc_get_num_frame_iteration` once the counter stands at `fed`. -/
def getNumFrameIteration (p : SbcParam) (mtu : ℕ) (fed : ℚ) : Option Iteration := do
  let projected := ⌊fed / p.pcmBytesPerFrame⌋₊
  let counter :=
    if 14 < projected ∧ 3 < (projected - 14) / p.framesPerTick
    then (14 * p.pcmBytesPerFrame : ℚ) else fed
  let take noi nof (counter : ℚ) : Iteration :=
    ⟨noi, nof, counter - noi * nof * p.pcmBytesPerFrame⟩
  let nof ← calculateMaxFramesPerPacket p mtu
  if nof < p.projectedNof fed then
    let noi := p.projectedNof fed / p.framesPerTick
    if 1 < noi then
      if 3 < noi then
        take 3 p.framesPerTick (3 * p.framesPerTick * p.pcmBytesPerFrame)
      else take noi p.framesPerTick counter
    else take noi nof counter
  else take 1 (p.projectedNof fed) counter

/-- A media packet handed to `send_callback`. -/
structure Packet where
  length : ℕ
  frames : ℕ
  deriving DecidableEq

/-- The read loop of `a2dp_sbc_send_frames`: how many of the frames are read.  Each call
of `read_callback` yields a whole frame, or nothing when the pool has less than that:
`read k` says which for the `k`-th call. -/
def readLoop (read : ℕ → Bool) : ℕ → ℕ → ℕ
  | _, 0 => 0
  | k, frames + 1 => if read k then readLoop read (k + 1) frames + 1 else 0

/-- `a2dp_sbc_send_frames`: the packet, if one is sent. -/
def sendFrames (p : SbcParam) (read : ℕ → Bool) (frames : ℕ) : Option Packet :=
  let readFrames := readLoop read 0 frames
  let bytesRead := readFrames * p.frameLength
  if 0 < bytesRead then some ⟨bytesRead + 1, readFrames⟩ else none

/-- What one tick does: the number of frames each `a2dp_sbc_send_frames` is asked for,
the packets, and the counter it leaves. -/
structure Tick where
  asked : List ℕ
  packets : List Packet
  counter : ℚ

/-- `a2dp_source_sbc_send_frames`; `read i` answers the reads of the `i`-th packet.
Frames that could not be read are due again. -/
def tick (p : SbcParam) (mtu : ℕ) (fed : ℚ) (read : ℕ → ℕ → Bool) : Option Tick :=
  (getNumFrameIteration p mtu fed).map fun it =>
    if it.numOfFrames = 0 then ⟨[], [], it.counter⟩
    else
      let rounds := List.range it.numOfIterations
      let left := rounds.map fun i => it.numOfFrames - readLoop (read i) 0 it.numOfFrames
      ⟨rounds.map fun _ => it.numOfFrames,
        rounds.filterMap fun i => sendFrames p (read i) it.numOfFrames,
        it.counter + p.pcmBytesPerFrame * left.sum⟩

/-- A tick with `fed` bytes in the counter did as it should. -/
structure Sized (p : SbcParam) (mtu : ℕ) (fed : ℚ) (t : Tick) : Prop where
  fits : ∀ k ∈ t.packets, k.length = k.frames * p.frameLength + 1 ∧ k.length ≤ mtu
  frames : ∀ k ∈ t.packets, k.frames ≤ 15
  attempted : p.pcmBytesPerFrame ≤ fed → ∃ n ∈ t.asked, 0 < n

section

variable {p : SbcParam} {mtu : ℕ} {fed : ℚ}

theorem pcmBytesPerFrame_pos (p : SbcParam) : 0 < p.pcmBytesPerFrame := by
  have hs := p.subBands_mem
  have hb := p.blocks_mem
  simp only [List.mem_cons, List.not_mem_nil, or_false] at hs hb
  rcases hs with hs | hs <;> rcases hb with hb | hb | hb | hb <;>
    simp [SbcParam.pcmBytesPerFrame, numOfChannels, hs, hb]

theorem framesPerTick_pos (p : SbcParam) : 0 < p.framesPerTick := by
  refine Nat.div_pos ?_ (pcmBytesPerFrame_pos p)
  have hs := p.subBands_mem
  have hb := p.blocks_mem
  simp only [List.mem_cons, List.not_mem_nil, or_false] at hs hb
  have hle : p.numOfSubBands * p.numOfBlocks ≤ 8 * 16 := Nat.mul_le_mul (by omega) (by omega)
  have hfreq : 16000 ≤ p.sampleFrequency := by
    unfold SbcParam.sampleFrequency
    split <;> decide
  simp only [SbcParam.pcmBytesPerFrame, SbcParam.bytesPerTick, numOfChannels]
  omega

theorem frameLength_eq_zero_iff : p.frameLength = 0 ↔ p.channelMode = .mono := by
  unfold SbcParam.frameLength
  split <;> simp_all

theorem one_le_projectedNof_iff (p : SbcParam) (fed : ℚ) :
    1 ≤ p.projectedNof fed ↔ p.pcmBytesPerFrame ≤ fed := by
  have hpos : (0 : ℚ) < p.pcmBytesPerFrame := by exact_mod_cast pcmBytesPerFrame_pos p
  rw [SbcParam.projectedNof, Nat.le_min, Nat.one_le_floor_iff, one_le_div hpos]
  exact and_iff_left (by decide)

theorem readLoop_le (read : ℕ → Bool) (k n : ℕ) : readLoop read k n ≤ n := by
  induction n generalizing k with
  | zero => simp [readLoop]
  | succ n ih =>
    have := ih (k + 1)
    unfold readLoop
    split <;> omega

theorem readLoop_full (k n : ℕ) : readLoop (fun _ => true) k n = n := by
  induction n generalizing k with
  | zero => rfl
  | succ n ih => simp [readLoop, ih]

/-- A packet of `n` frames fits exactly when the MTU has room for them. -/
theorem fits_iff_le_roomFor {n : ℕ} (hlen : 0 < p.frameLength) (hmtu : 0 < mtu) :
    n * p.frameLength + 1 ≤ mtu ↔ n ≤ p.roomFor mtu := by
  rw [SbcParam.roomFor, Nat.le_div_iff_mul_le hlen]
  omega

/-- Where the tick sends `noi` times `nof` frames, all is well for every outcome of the
reads exactly when a full packet fits and something due is attempted. -/
theorem forall_sized_iff {noi nof : ℕ} {counter : ℚ} (hlen : 0 < p.frameLength)
    (hmtu : 0 < mtu) (hnof : nof ≤ 15)
    (hit : getNumFrameIteration p mtu fed = some ⟨noi, nof, counter⟩) :
    (∀ read, ∃ t, tick p mtu fed read = some t ∧ Sized p mtu fed t) ↔
      (0 < noi → nof ≤ p.roomFor mtu) ∧ (p.pcmBytesPerFrame ≤ fed → 0 < noi ∧ 0 < nof) := by
  rw [← fits_iff_le_roomFor hlen hmtu]
  simp only [tick, hit, Option.map_some, Option.some.injEq, exists_eq_left']
  rcases Nat.eq_zero_or_pos nof with rfl | hpos
  · constructor
    · intro h
      exact ⟨fun _ => by omega, fun hdue => by simpa using (h fun _ _ => true).attempted hdue⟩
    · rintro ⟨-, hdue⟩ read
      exact ⟨nofun, nofun, fun h => absurd (hdue h).2 (by decide)⟩
  · simp only [if_neg hpos.ne']
    constructor
    · intro h
      have hfull := h fun _ _ => true
      refine ⟨fun hnoi => ?_, fun hdue => ⟨?_, hpos⟩⟩
      · refine (hfull.fits ⟨nof * p.frameLength + 1, nof⟩ ?_).2
        refine List.mem_filterMap.mpr ⟨0, List.mem_range.mpr hnoi, ?_⟩
        simp only [sendFrames, readLoop_full]
        exact if_pos (Nat.mul_pos hpos hlen)
      · obtain ⟨n, hn, -⟩ := hfull.attempted hdue
        obtain ⟨i, hi, -⟩ := List.mem_map.mp hn
        exact Nat.zero_lt_of_lt (List.mem_range.mp hi)
    · rintro ⟨hroom, hdue⟩ read
      have hsent : ∀ k ∈ (List.range noi).filterMap (fun i => sendFrames p (read i) nof),
          0 < noi ∧ k.length = k.frames * p.frameLength + 1 ∧ k.frames ≤ nof := by
        intro k hk
        obtain ⟨i, hi, hk⟩ := List.mem_filterMap.mp hk
        simp only [sendFrames, Option.ite_none_right_eq_some, Option.some.injEq] at hk
        obtain ⟨-, rfl⟩ := hk
        exact ⟨Nat.zero_lt_of_lt (List.mem_range.mp hi), rfl, readLoop_le _ _ _⟩
      refine ⟨fun k hk => ?_, fun k hk => (hsent k hk).2.2.trans hnof, fun h => ?_⟩
      · obtain ⟨hnoi, heq, hle⟩ := hsent k hk
        refine ⟨heq, heq.le.trans (le_trans ?_ (hroom hnoi))⟩
        exact Nat.succ_le_succ (Nat.mul_le_mul_right _ hle)
      · exact ⟨nof, List.mem_map.mpr ⟨0, List.mem_range.mpr (hdue h).1, rfl⟩, hpos⟩

end

/-- Over every outcome of the reads, the packets of a tick fit, have at most fifteen frames
and something is attempted when something is due, exactly when the channel mode has frames
and one of three holds: all the frames due fit in one packet; they are two ticks' worth or
more and a tick's worth fits; or they are at least a tick's worth but less than two, and
the eight-bit count of what fits is not zero. -/
theorem packets_sized_iff (p : SbcParam) (mtu : ℕ) (fed : ℚ) (hfit : p.frameLength + 1 ≤ mtu) :
    (∀ read, ∃ t, tick p mtu fed read = some t ∧ Sized p mtu fed t) ↔
      p.channelMode ≠ .mono ∧
        (p.projectedNof fed ≤ p.roomFor mtu % 256
          ∨ 2 * p.framesPerTick ≤ p.projectedNof fed ∧ p.framesPerTick ≤ p.roomFor mtu
          ∨ p.framesPerTick ≤ p.projectedNof fed ∧ p.projectedNof fed < 2 * p.framesPerTick
            ∧ 0 < p.roomFor mtu % 256) := by
  have hF := framesPerTick_pos p
  have hP : p.projectedNof fed ≤ 14 := Nat.min_le_right _ _
  by_cases hmono : p.channelMode = .mono
  · -- the assertion on the frame length fails
    have hnone : ∀ read, tick p mtu fed read = none := by
      simp [tick, getNumFrameIteration, calculateMaxFramesPerPacket,
        frameLength_eq_zero_iff.mpr hmono]
    simp [hnone, hmono]
  have hlen : 0 < p.frameLength := Nat.pos_of_ne_zero (mt frameLength_eq_zero_iff.mp hmono)
  have hm : calculateMaxFramesPerPacket p mtu = some (p.roomFor mtu % 256) := by
    simp [calculateMaxFramesPerPacket, hlen.ne', show mtu ≠ 0 by omega]
  have hone : 1 ≤ p.projectedNof fed / p.framesPerTick ↔ _ := Nat.le_div_iff_mul_le hF
  have htwo : 2 ≤ p.projectedNof fed / p.framesPerTick ↔ _ := Nat.le_div_iff_mul_le hF
  have hit := getNumFrameIteration.eq_def p mtu fed
  simp only [hm, Option.bind_eq_bind, Option.bind_some] at hit
  -- the ways to split the frames due over packets
  split_ifs at hit
  all_goals
    rw [forall_sized_iff hlen (by omega) (by omega) hit, ← one_le_projectedNof_iff]
    simp only [ne_eq, hmono, not_false_eq_true, true_and]
    omega

def jointStereo53 : SbcParam where
  samplingFreq := .sf44100
  channelMode := .jointStereo
  numOfSubBands := 8
  numOfBlocks := 16
  bitPool := 53
  subBands_mem := by decide
  blocks_mem := by decide
  bitPool_lt := by decide

/-- Five frames of 119 bytes fit in an MTU of 672, and with five due all is well. -/
theorem jointStereo53_five_due :
    jointStereo53.frameLength + 1 ≤ 672 ∧
      ∀ read, ∃ t, tick jointStereo53 672 2560 read = some t ∧ Sized jointStereo53 672 2560 t :=
  ⟨by decide,
    (packets_sized_iff jointStereo53 672 2560 (by decide)).mpr
      ⟨by decide, Or.inl (by decide +kernel)⟩⟩

/-- With twelve due two packets of six frames are sent, 715 bytes each. -/
theorem jointStereo53_twelve_due :
    jointStereo53.frameLength + 1 ≤ 672 ∧
      (tick jointStereo53 672 6144 fun _ _ => true).map Tick.packets = some [⟨715, 6⟩, ⟨715, 6⟩] ∧
      ¬ ∀ read, ∃ t, tick jointStereo53 672 6144 read = some t
        ∧ Sized jointStereo53 672 6144 t := by
  have hsent : (tick jointStereo53 672 6144 fun _ _ => true).map Tick.packets
      = some [⟨715, 6⟩, ⟨715, 6⟩] := by decide +kernel
  refine ⟨by decide, hsent, fun h => ?_⟩
  obtain ⟨t, ht, hsized⟩ := h fun _ _ => true
  rw [ht, Option.map_some, Option.some.injEq] at hsent
  exact absurd (hsized.fits ⟨715, 6⟩ (hsent ▸ List.mem_cons_self)).2 (by decide)

end BtFramework.SbcStream
