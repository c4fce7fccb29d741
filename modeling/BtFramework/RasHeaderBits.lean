import BtFramework.RasFormat
import Mathlib.Algebra.Order.Ring.Nat

/-!
# The packed header, bit by bit

Writing one bit changes that bit and no other, so a field holds the low bits of its value, and
the fields behind it leave it alone.
-/

namespace BtFramework

open List Nat

/-- Bit `i` of the buffer, from the lowest of its first byte. -/
def bitAt (buf : List UInt8) (i : Nat) : Bool :=
  (buf.getD (i / 8) 0).toBitVec.getLsbD (i % 8)

/-! ## One bit -/

theorem getLsbD_mask : ∀ k < 8, ∀ j < 8,
    ((1 : UInt8) <<< UInt8.ofNat k).toBitVec.getLsbD j = decide (j = k) := by
  decide

theorem getLsbD_writeBit (byte : UInt8) {k j : Nat} (hk : k < 8) (hj : j < 8) (b : Bool) :
    (if b then byte ||| (1 <<< UInt8.ofNat k) else byte &&& ~~~(1 <<< UInt8.ofNat k)
      ).toBitVec.getLsbD j
      = if j = k then b else byte.toBitVec.getLsbD j := by
  have hmask := getLsbD_mask k hk j hj
  cases b with
  | true =>
    rw [if_pos rfl, UInt8.toBitVec_or, BitVec.getLsbD_or, hmask]
    by_cases h : j = k <;> simp [h]
  | false =>
    rw [if_neg Bool.false_ne_true, UInt8.toBitVec_and, BitVec.getLsbD_and,
      UInt8.toBitVec_not, BitVec.getLsbD_not, hmask]
    by_cases h : j = k <;> simp [h, hj]

variable {buf : List UInt8}

theorem bitAt_rasWriteBit {off : Nat} (h : off < 8 * buf.length) (b : Bool) (i : Nat) :
    bitAt (rasWriteBit buf off b) i = if i = off then b else bitAt buf i := by
  have hoff : off / 8 < buf.length := by omega
  unfold bitAt rasWriteBit
  rw [getD_eq_getElem?_getD]
  by_cases hbyte : off / 8 = i / 8
  · rw [← hbyte, getElem?_modify_eq, getElem?_eq_getElem hoff, Option.map_eq_map,
      Option.map_some, Option.getD_some, getLsbD_writeBit _ (mod_lt _ (by decide))
        (mod_lt _ (by decide)), getD_eq_getElem?_getD, getElem?_eq_getElem hoff,
      Option.getD_some]
    have hiff : i % 8 = off % 8 ↔ i = off := by omega
    simp only [hiff]
  · have hne : i ≠ off := fun heq => hbyte (by rw [heq])
    rw [getElem?_modify_ne _ _ hbyte, if_neg hne, getD_eq_getElem?_getD]

/-! ## One field -/

theorem rasWriteBits_succ (buf : List UInt8) (off value n : Nat) :
    rasWriteBits buf off value (n + 1)
      = (rasWriteBit (rasWriteBits buf off value n).1 (rasWriteBits buf off value n).2
          (value.testBit n), (rasWriteBits buf off value n).2 + 1) := by
  rw [rasWriteBits, range_succ, foldl_append]
  rfl

@[simp] theorem rasWriteBits_snd (buf : List UInt8) (off value n : Nat) :
    (rasWriteBits buf off value n).2 = off + n := by
  induction n with
  | zero => rfl
  | succ n ih => rw [rasWriteBits_succ, ih]; rfl

theorem bitAt_rasWriteBits {off n : Nat} (value : Nat) (h : off + n ≤ 8 * buf.length) (i : Nat) :
    bitAt (rasWriteBits buf off value n).1 i
      = if off ≤ i ∧ i < off + n then value.testBit (i - off) else bitAt buf i := by
  induction n with
  | zero =>
    have hout : ¬ (off ≤ i ∧ i < off + 0) := by omega
    rw [if_neg hout]
    rfl
  | succ n ih =>
    rw [rasWriteBits_succ, rasWriteBits_snd,
      bitAt_rasWriteBit (by rw [length_rasWriteBits]; omega), ih (by omega)]
    by_cases hi : i = off + n
    · rw [if_pos hi, if_pos (by omega), hi, Nat.add_sub_cancel_left]
    · have hiff : (off ≤ i ∧ i < off + n) ↔ (off ≤ i ∧ i < off + (n + 1)) := by omega
      rw [if_neg hi]
      simp only [hiff]

/-! ## Several fields -/

def rasWriteFields (acc : List UInt8 × Nat) (fields : List (Nat × Nat)) : List UInt8 × Nat :=
  fields.foldl (fun acc f => rasWriteBits acc.1 acc.2 f.1 f.2) acc

/-- The bits the fields take. -/
def widths (fields : List (Nat × Nat)) : Nat := (fields.map Prod.snd).sum

variable {acc : List UInt8 × Nat} {fields : List (Nat × Nat)}

theorem rasWriteFields_frame (h : acc.2 + widths fields ≤ 8 * acc.1.length) :
    (rasWriteFields acc fields).2 = acc.2 + widths fields
      ∧ (rasWriteFields acc fields).1.length = acc.1.length
      ∧ ∀ i, i < acc.2 ∨ acc.2 + widths fields ≤ i →
        bitAt (rasWriteFields acc fields).1 i = bitAt acc.1 i := by
  induction fields generalizing acc with
  | nil => exact ⟨rfl, rfl, fun _ _ => rfl⟩
  | cons f fields ih =>
    rw [widths, map_cons, sum_cons] at h ⊢
    obtain ⟨hsnd, hlen, hbits⟩ := @ih (rasWriteBits acc.1 acc.2 f.1 f.2)
      (by rw [rasWriteBits_snd, length_rasWriteBits, widths]; omega)
    rw [rasWriteBits_snd, widths] at hsnd hbits
    refine ⟨hsnd.trans (Nat.add_assoc ..), hlen.trans (length_rasWriteBits ..), fun i hi => ?_⟩
    refine (hbits i (by omega)).trans ?_
    rw [bitAt_rasWriteBits _ (by omega), if_neg (by omega)]

/-- The bits from an offset on, the least significant first. -/
def readBits (buf : List UInt8) (off : Nat) : Nat → Nat
  | 0 => 0
  | w + 1 => readBits buf off w + 2 ^ w * (bitAt buf (off + w)).toNat

theorem readBits_eq {off value w : Nat} (h : ∀ i < w, bitAt buf (off + i) = value.testBit i) :
    readBits buf off w = value % 2 ^ w := by
  induction w with
  | zero => exact (Nat.mod_one _).symm
  | succ w ih =>
    rw [readBits, ih fun i hi => h i (lt_succ_of_lt hi), h w (lt_succ_self w), mod_pow_succ,
      toNat_testBit]

theorem widths_append (pre : List (Nat × Nat)) (value w : Nat) (post : List (Nat × Nat)) :
    widths (pre ++ (value, w) :: post) = widths pre + (w + widths post) := by
  rw [widths, map_append, map_cons, sum_append_nat, sum_cons]
  rfl

theorem readBits_rasWriteFields {pre post : List (Nat × Nat)} {value w : Nat}
    (h : acc.2 + widths (pre ++ (value, w) :: post) ≤ 8 * acc.1.length) :
    readBits (rasWriteFields acc (pre ++ (value, w) :: post)).1 (acc.2 + widths pre) w
      = value % 2 ^ w := by
  rw [widths_append] at h
  obtain ⟨hoff, hlen, -⟩ := @rasWriteFields_frame acc pre (by omega)
  have hsplit : rasWriteFields acc (pre ++ (value, w) :: post) = rasWriteFields
      (rasWriteBits (rasWriteFields acc pre).1 (rasWriteFields acc pre).2 value w) post := by
    rw [rasWriteFields, foldl_append]
    rfl
  rw [hsplit, ← hoff]
  refine readBits_eq fun i hi => ?_
  rw [(rasWriteFields_frame ?_).2.2 _ (.inl ?_), bitAt_rasWriteBits _ (by omega), if_pos (by omega),
    Nat.add_sub_cancel_left]
  · rw [rasWriteBits_snd, length_rasWriteBits]
    omega
  · rw [rasWriteBits_snd]
    omega

theorem readBits_append {xs : List UInt8} (ys : List UInt8) {off w : Nat}
    (h : off + w ≤ 8 * xs.length) : readBits (xs ++ ys) off w = readBits xs off w := by
  induction w with
  | zero => rfl
  | succ w ih =>
    have hi : (off + w) / 8 < xs.length := by omega
    rw [readBits, readBits, ih (by omega), bitAt, bitAt, getD_eq_getElem?_getD,
      getElem?_append_left hi, ← getD_eq_getElem?_getD]

/-- **Packed fields.** Written one after another into zeroed bytes, every field reads back modulo
its width and all other bits stay zero; so do the fields of a subevent header at their offsets. -/
theorem packed_fields_read_back (fields : List (Nat × Nat)) (spare : Nat) (rasFilter : List Nat)
    (roleInitiator : Bool) (result : CsSubeventResult) :
    let size := (widths fields + 7) / 8 + spare
    (∀ pre value w post, fields = pre ++ (value, w) :: post →
        readBits (rasWriteFields (List.replicate size 0, 0) fields).1 (widths pre) w
          = value % 2 ^ w)
      ∧ (∀ i ≥ widths fields,
        bitAt (rasWriteFields (List.replicate size 0, 0) fields).1 i = false)
      ∧ ∀ field ∈ [(result.header.procedureCounter, 0, 12), (result.header.configId, 12, 4),
          (result.header.referencePowerLevel, 16, 8),
          (antennaPathsMask result.header.numAntennaPaths, 24, 8),
          (result.header.startAclConnEventCounter, 32, 16),
          (result.header.frequencyCompensation, 48, 16),
          (result.header.procedureDoneStatus, 64, 4), (result.header.subeventDoneStatus, 68, 4),
          (result.header.procedureAbortReason, 72, 4), (result.header.subeventAbortReason, 76, 4),
          (result.header.referencePowerLevel, 80, 8), (result.header.numStepsReported, 88, 8)],
        readBits (rasSubeventDataConversion rasFilter roleInitiator result) field.2.1 field.2.2
          = field.1 % 2 ^ field.2.2 := by
  intro size
  have hroom : widths fields ≤ 8 * size := by omega
  have hfits {n : Nat} {fs : List (Nat × Nat)} (h : widths fs ≤ 8 * n) :
      0 + widths fs ≤ 8 * (List.replicate n (0 : UInt8)).length := by
    rw [length_replicate]
    omega
  have hread {n : Nat} {pre post : List (Nat × Nat)} {value w : Nat}
      (h : widths (pre ++ (value, w) :: post) ≤ 8 * n) :
      readBits (rasWriteFields (List.replicate n 0, 0) (pre ++ (value, w) :: post)).1 (widths pre) w
        = value % 2 ^ w := by
    rw [← Nat.zero_add (widths pre)]
    exact readBits_rasWriteFields (hfits h)
  have hheader (k : Nat) {value w : Nat}
      (hk : (rasHeaderFields result.header)[k]? = some (value, w)) :
      readBits (rasSubeventDataConversion rasFilter roleInitiator result)
        (widths ((rasHeaderFields result.header).take k)) w = value % 2 ^ w := by
    obtain ⟨hlt, hget⟩ := List.getElem?_eq_some_iff.mp hk
    have hfields := take_append_drop k (rasHeaderFields result.header)
    rw [drop_eq_getElem_cons hlt, hget] at hfields
    have hwidth := congrArg widths hfields
    rw [show widths (rasHeaderFields result.header) = 8 * 12 from rfl] at hwidth
    have hvalue := hread (Nat.le_of_eq hwidth)
    have hlen := (@rasWriteFields_frame (_, 0) _ (hfits (Nat.le_of_eq hwidth))).2.1
    rw [hfields] at hvalue hlen
    show readBits ((rasWriteFields (List.replicate 12 0, 0) _).1 ++ _) _ _ = _
    rw [readBits_append _ ?_, hvalue]
    rw [hlen, length_replicate]
    rw [widths_append] at hwidth
    omega
  refine ⟨?_, fun i hi => ?_, ?_⟩
  · rintro pre value w post rfl
    exact hread hroom
  · rw [(rasWriteFields_frame (hfits hroom)).2.2 i (.inr (by omega)), bitAt, getD_eq_getElem?_getD,
      getElem?_replicate]
    split <;> exact BitVec.getLsbD_zero
  · simp only [forall_mem_cons]
    exact ⟨hheader 0 rfl, hheader 1 rfl, hheader 2 rfl, hheader 3 rfl, hheader 4 rfl, hheader 5 rfl,
      hheader 6 rfl, hheader 7 rfl, hheader 8 rfl, hheader 9 rfl, hheader 10 rfl, hheader 11 rfl,
      forall_mem_nil _⟩

end BtFramework
