import BtFramework.RasServer

/-!
# What the filter lets through

Here a step is described without the walk over its bytes: `stepFields` lists the fields of each
mode with their places, and what is kept are the fields that lie within the step and have their
bit in the filter word of the mode.

There are no bits of antenna paths in the code: a tone is kept or dropped with all others,
whichever paths the client asks for.
-/

namespace BtFramework

open List Nat

/-! ## Fields -/

structure StepField where
  offset : Nat
  size : Nat
  bit : Nat

namespace StepField

def bytes (data : List UInt8) (f : StepField) : List UInt8 := (data.drop f.offset).take f.size

def Passes (filter : Nat) (data : List UInt8) (f : StepField) : Prop :=
  f.offset + f.size ≤ data.length ∧ filter.testBit f.bit = true
deriving Decidable

def kept (filter : Nat) (data : List UInt8) (fields : List StepField) : List UInt8 :=
  (fields.filter fun f => f.Passes filter data).flatMap (bytes data)

variable {filter : Nat} {data : List UInt8}

theorem kept_append (fields fields' : List StepField) :
    kept filter data (fields ++ fields') = kept filter data fields ++ kept filter data fields' := by
  rw [kept, filter_append, flatMap_append, kept, kept]

theorem kept_eq_nil {fields : List StepField}
    (h : ∀ f ∈ fields, data.length < f.offset + f.size) : kept filter data fields = [] := by
  have hnone : (fields.filter fun f => f.Passes filter data) = [] := by
    refine filter_eq_nil_iff.mpr fun f hf hp => ?_
    exact absurd (of_decide_eq_true hp).1 (Nat.not_le_of_lt (h f hf))
  rw [kept, hnone, flatMap_nil]

end StepField

open StepField (kept)

def toneFields (pctBit qualityBit : Nat) (offset : Nat) : Nat → List StepField
  | 0 => []
  | tones + 1 => ⟨offset, 3, pctBit⟩ :: ⟨offset + 3, 1, qualityBit⟩
      :: toneFields pctBit qualityBit (offset + 4) tones

def stepFields (roleInitiator : Bool) (mode : Fin 4) (length : Nat) : List StepField :=
  match mode with
  | 0 => [⟨0, 1, 2⟩, ⟨1, 1, 3⟩, ⟨2, 1, 4⟩] ++ if roleInitiator then [⟨3, 2, 5⟩] else []
  | 1 => [⟨0, 1, 2⟩, ⟨1, 1, 3⟩, ⟨2, 1, 4⟩, ⟨3, 2, 5⟩, ⟨5, 1, 6⟩, ⟨6, 4, 7⟩, ⟨10, 4, 8⟩]
  | 2 => [⟨0, 1, 2⟩] ++ toneFields 3 4 1 length
  | 3 => [⟨0, 1, 2⟩, ⟨1, 1, 3⟩, ⟨2, 1, 4⟩, ⟨3, 2, 5⟩, ⟨5, 1, 6⟩, ⟨6, 4, 7⟩, ⟨10, 4, 8⟩,
      ⟨14, 1, 9⟩] ++ toneFields 10 11 15 length

/-! ## Lengths -/

section Lengths

variable {filter : Nat} {data : List UInt8} {fields : List StepField} {offset : Nat}

def Ascending : Nat → List StepField → Prop
  | _, [] => True
  | offset, f :: fields => offset ≤ f.offset ∧ Ascending (f.offset + f.size) fields

theorem Ascending.length_kept_le (h : Ascending offset fields) (hoffset : offset ≤ data.length) :
    offset + (kept filter data fields).length ≤ data.length := by
  induction fields generalizing offset with
  | nil => exact hoffset
  | cons f fields ih =>
    have hle := h.1
    by_cases hp : f.Passes filter data
    · have hrest := ih h.2 hp.1
      rw [kept, filter_cons_of_pos (by simpa using hp), flatMap_cons, length_append, ← kept,
        StepField.bytes, length_take, length_drop]
      omega
    · have hrest : Ascending offset fields := by
        cases fields with
        | nil => trivial
        | cons g fields => exact ⟨by have := h.2.1; omega, h.2.2⟩
      rw [kept, filter_cons_of_neg (by simpa using hp), ← kept]
      exact ih hrest hoffset

theorem ascending_toneFields {pctBit qualityBit tones : Nat} :
    Ascending offset (toneFields pctBit qualityBit offset tones) := by
  induction tones generalizing offset with
  | zero => trivial
  | succ tones ih => exact ⟨Nat.le_refl _, Nat.le_refl _, ih⟩

theorem ascending_stepFields (roleInitiator : Bool) (mode : Fin 4) (length : Nat) :
    Ascending 0 (stepFields roleInitiator mode length) := by
  match mode with
  | 0 => cases roleInitiator <;> simp [stepFields, Ascending]
  | 1 => simp [stepFields, Ascending]
  | 2 | 3 => simp [stepFields, Ascending, ascending_toneFields]

end Lengths

/-! ## Copying -/

section Copy

variable {filter : Nat} {data out : List UInt8}

def fieldsFrom (offset : Nat) : List (Nat × Nat) → List StepField
  | [] => []
  | (size, bit) :: rest => ⟨offset, size, bit⟩ :: fieldsFrom (offset + size) rest

def fieldsEnd (offset : Nat) : List (Nat × Nat) → Nat
  | [] => offset
  | (size, _) :: rest => fieldsEnd (offset + size) rest

theorem copyFieldIfEnabled_drop {size : Nat} (hsize : 0 < size) (bit offset : Nat) :
    copyFieldIfEnabled filter size bit ⟨data.drop offset, out⟩
      = ⟨data.drop (offset + size), out ++ kept filter data [⟨offset, size, bit⟩]⟩ := by
  rw [copyFieldIfEnabled]
  dsimp only
  rw [length_drop]
  by_cases hfits : offset + size ≤ data.length
  · rw [if_pos (by omega), drop_drop]
    by_cases hbit : filter.testBit bit = true
    · simp [hfits, hbit, kept, StepField.Passes, StepField.bytes]
    · simp [hbit, kept, StepField.Passes]
  · have hnone : kept filter data [⟨offset, size, bit⟩] = [] :=
      StepField.kept_eq_nil (by simpa using hfits)
    rw [if_neg (by omega), hnone, append_nil, drop_of_length_le (by omega)]

variable {fields : List (Nat × Nat)}

theorem copyFields_drop (hsize : ∀ f ∈ fields, 0 < f.1) (offset : Nat) :
    copyFields filter fields ⟨data.drop offset, out⟩
      = ⟨data.drop (fieldsEnd offset fields),
          out ++ kept filter data (fieldsFrom offset fields)⟩ := by
  induction fields generalizing offset out with
  | nil => simp [copyFields, fieldsFrom, fieldsEnd, kept]
  | cons f fields ih =>
    rw [copyFields, foldl_cons,
      copyFieldIfEnabled_drop (hsize _ (mem_cons_self ..)), ← copyFields,
      ih fun f hf => hsize f (mem_cons_of_mem _ hf)]
    rw [append_assoc, ← StepField.kept_append]
    rfl

theorem toneFields_behind {pctBit qualityBit offset tones : Nat} :
    ∀ f ∈ toneFields pctBit qualityBit offset tones, offset < f.offset + f.size := by
  induction tones generalizing offset with
  | zero => exact fun _ h => nomatch h
  | succ tones ih =>
    intro f hf
    rcases mem_cons.mp hf with rfl | hf
    · exact Nat.lt_add_of_pos_right (Nat.zero_lt_succ 2)
    rcases mem_cons.mp hf with rfl | hf
    · exact lt_succ_of_le (Nat.le_add_right offset 3)
    · have hlt := ih f hf
      omega

theorem copyTones_drop {pctBit qualityBit fuel offset : Nat}
    (hfuel : data.length ≤ offset + fuel) :
    copyTones filter pctBit qualityBit fuel ⟨data.drop offset, out⟩
      = ⟨[], out ++ kept filter data (toneFields pctBit qualityBit offset fuel)⟩ := by
  induction fuel generalizing offset out with
  | zero =>
    have hend : data.length ≤ offset := hfuel
    rw [copyTones, drop_of_length_le hend]
    simp [toneFields, kept]
  | succ fuel ih =>
    have hsizes : ∀ f ∈ [(3, pctBit), (1, qualityBit)], 0 < f.1 := by
      simp
    rw [copyTones]
    split
    next hend =>
      have hend : data.length ≤ offset := by
        rw [length_drop] at hend
        omega
      have hnone : kept filter data (toneFields pctBit qualityBit offset (fuel + 1)) = [] :=
        StepField.kept_eq_nil fun f hf => Nat.lt_of_le_of_lt hend (toneFields_behind f hf)
      rw [hnone, append_nil, drop_of_length_le hend]
    · rw [copyFields_drop hsizes, ih (by dsimp only [fieldsEnd]; omega), append_assoc,
        ← StepField.kept_append]
      rfl

theorem copyFields_start (hsize : ∀ f ∈ fields, 0 < f.1) :
    copyFields filter fields ⟨data, out⟩
      = ⟨data.drop (fieldsEnd 0 fields), out ++ kept filter data (fieldsFrom 0 fields)⟩ :=
  copyFields_drop hsize 0

theorem copyTones_start (hsize : ∀ f ∈ fields, 0 < f.1) (pctBit qualityBit : Nat) :
    (copyTones filter pctBit qualityBit data.length (copyFields filter fields ⟨data, out⟩)).out
      = out ++ kept filter data (fieldsFrom 0 fields
          ++ toneFields pctBit qualityBit (fieldsEnd 0 fields) data.length) := by
  rw [copyFields_start hsize, copyTones_drop (le_add_left _ _), StepField.kept_append, append_assoc]

theorem copyStep_eq (filter : Nat) (roleInitiator : Bool) (mode : Fin 4) (data out : List UInt8) :
    copyStep filter roleInitiator mode data out
      = out ++ kept filter data (stepFields roleInitiator mode data.length) := by
  match mode with
  | 0 =>
    cases roleInitiator with
    | false | true => exact congrArg StepCopy.out (copyFields_start (by decide))
  | 1 => exact congrArg StepCopy.out (copyFields_start (by decide))
  | 2 => exact copyTones_start (by decide) 3 4
  | 3 => exact copyTones_start (by decide) 10 11

end Copy

/-! ## Steps -/

/-- A step as the controller reports it. -/
structure CsStep where
  mode : Fin 4
  channel : UInt8
  data : List UInt8
  short : data.length < 256

def CsStep.bytes (s : CsStep) : List UInt8 :=
  UInt8.ofNat s.mode :: s.channel :: UInt8.ofNat s.data.length :: s.data

/-- The mode, and the fields kept. -/
def CsStep.filtered (rasFilter : List Nat) (roleInitiator : Bool) (s : CsStep) : List UInt8 :=
  UInt8.ofNat s.mode
    :: kept (rasFilter.getD s.mode 0) s.data (stepFields roleInitiator s.mode s.data.length)

theorem length_filtered_le (rasFilter : List Nat) (roleInitiator : Bool) (steps : List CsStep) :
    (steps.flatMap (CsStep.filtered rasFilter roleInitiator)).length
      ≤ (steps.flatMap CsStep.bytes).length := by
  induction steps with
  | nil => exact Nat.le_refl 0
  | cons s steps ih =>
    have hkept : 0 + (kept (rasFilter.getD s.mode 0) s.data _).length ≤ _ :=
      (ascending_stepFields roleInitiator s.mode s.data.length).length_kept_le (Nat.zero_le _)
    simp only [flatMap_cons, length_append, CsStep.filtered, CsStep.bytes, length_cons]
    omega

def IncompleteStep : List UInt8 → Prop
  | _ :: _ :: length :: data => data.length < length.toNat
  | _ => True

instance (data : List UInt8) : Decidable (IncompleteStep data) := by
  unfold IncompleteStep
  split <;> infer_instance

/-- Steps, and behind them what is not a whole one. -/
structure StepBuffer where
  steps : List CsStep
  tail : List UInt8
  incomplete : IncompleteStep tail

def StepBuffer.bytes (b : StepBuffer) : List UInt8 := b.steps.flatMap CsStep.bytes ++ b.tail

variable {rasFilter : List Nat}

theorem transformSteps_cons {roleInitiator : Bool} {fuel : Nat} (s : CsStep)
    (rest out : List UInt8) :
    transformSteps rasFilter roleInitiator (fuel + 1) (s.bytes ++ rest) out
      = transformSteps rasFilter roleInitiator fuel rest
          (out ++ s.filtered rasFilter roleInitiator) := by
  have hlength : (UInt8.ofNat s.data.length).toNat = s.data.length :=
    UInt8.toNat_ofNat_of_lt' s.short
  have hmode : (UInt8.ofNat s.mode).toNat = s.mode :=
    UInt8.toNat_ofNat_of_lt' (Nat.lt_trans s.mode.isLt (by decide))
  have hfits : ¬(s.data ++ rest).length < s.data.length := by
    rw [length_append]
    omega
  rw [CsStep.bytes, cons_append, cons_append, cons_append, transformSteps, hlength,
    if_neg hfits, hmode, drop_left, take_left, copyStep_eq, append_assoc]
  rfl

theorem length_flatMap_bytes (steps : List CsStep) :
    steps.length ≤ (steps.flatMap CsStep.bytes).length := by
  induction steps with
  | nil => exact Nat.le_refl 0
  | cons s steps ih =>
    rw [flatMap_cons, length_append, length_cons, CsStep.bytes, length_cons]
    omega

theorem transformSteps_steps {roleInitiator : Bool} {tail : List UInt8}
    (htail : IncompleteStep tail) (steps : List CsStep) {fuel : Nat} {out : List UInt8}
    (hfuel : steps.length ≤ fuel) :
    transformSteps rasFilter roleInitiator fuel (steps.flatMap CsStep.bytes ++ tail) out
      = out ++ steps.flatMap (CsStep.filtered rasFilter roleInitiator) := by
  induction steps generalizing fuel out with
  | nil =>
    rw [flatMap_nil, flatMap_nil, append_nil, nil_append]
    cases fuel with
    | zero => rfl
    | succ fuel =>
      unfold transformSteps
      split
      · exact if_pos htail
      · rfl
  | cons s steps ih =>
    obtain ⟨fuel, rfl⟩ := Nat.exists_eq_succ_of_ne_zero
      (Nat.ne_of_gt (Nat.lt_of_lt_of_le (Nat.zero_lt_succ _) hfuel))
    rw [flatMap_cons, append_assoc, transformSteps_cons,
      ih (le_of_succ_le_succ hfuel), append_assoc, flatMap_cons]

theorem transformSteps_bytes (rasFilter : List Nat) (roleInitiator : Bool) (b : StepBuffer)
    (extra : Nat) :
    transformSteps rasFilter roleInitiator (b.bytes.length + extra) b.bytes []
      = b.steps.flatMap (CsStep.filtered rasFilter roleInitiator) := by
  have hlength := length_flatMap_bytes b.steps
  have hfuel : b.steps.length ≤ b.bytes.length + extra := by
    rw [StepBuffer.bytes, length_append]
    omega
  exact transformSteps_steps b.incomplete b.steps hfuel

theorem copyTones_rest (filter pctBit qualityBit extra : Nat) (c : StepCopy) :
    (copyTones filter pctBit qualityBit (c.rest.length + extra) c).rest = [] := by
  have hcopy : copyTones filter pctBit qualityBit (c.rest.length + extra) ⟨c.rest.drop 0, c.out⟩
      = _ := copyTones_drop (by omega)
  exact congrArg StepCopy.rest hcopy

/-- **The filter.** Both loops end, however many rounds they are allowed, and what is left is the
mode and the kept fields of every complete step, never longer than the buffer. -/
theorem transform_eq_filteredSteps (rasFilter : List Nat) (roleInitiator : Bool) (b : StepBuffer) :
    (∀ (filter pctBit qualityBit extra : Nat) (c : StepCopy),
        (copyTones filter pctBit qualityBit (c.rest.length + extra) c).rest = [])
      ∧ (∀ extra, transformSteps rasFilter roleInitiator (b.bytes.length + extra) b.bytes []
        = b.steps.flatMap (CsStep.filtered rasFilter roleInitiator))
      ∧ transformStepDataToRasFormatFiltered rasFilter roleInitiator b.bytes
        = b.steps.flatMap (CsStep.filtered rasFilter roleInitiator)
      ∧ (transformStepDataToRasFormatFiltered rasFilter roleInitiator b.bytes).length
        ≤ b.bytes.length := by
  have hsteps := transformSteps_bytes rasFilter roleInitiator b
  refine ⟨copyTones_rest, hsteps, hsteps 0, ?_⟩
  rw [transformStepDataToRasFormatFiltered, ← Nat.add_zero b.bytes.length, hsteps, Nat.add_zero,
    StepBuffer.bytes, length_append]
  exact Nat.le_trans (length_filtered_le ..) (Nat.le_add_right _ _)

/-! ## Antenna paths -/

/-- The modes with tones. -/
inductive ToneMode where
  | mode2 | mode3

namespace ToneMode

def mode : ToneMode → Fin 4
  | mode2 => 2
  | mode3 => 3

def offset : ToneMode → Nat
  | mode2 => 1
  | mode3 => 15

def pctBit : ToneMode → Nat
  | mode2 => 3
  | mode3 => 10

def qualityBit : ToneMode → Nat
  | mode2 => 4
  | mode3 => 11

def antennaPathBit : ToneMode → Nat
  | mode2 => 5
  | mode3 => 12

def headFields : ToneMode → List StepField
  | mode2 => [⟨0, 1, 2⟩]
  | mode3 => [⟨0, 1, 2⟩, ⟨1, 1, 3⟩, ⟨2, 1, 4⟩, ⟨3, 2, 5⟩, ⟨5, 1, 6⟩, ⟨6, 4, 7⟩, ⟨10, 4, 8⟩,
    ⟨14, 1, 9⟩]

variable (t : ToneMode)

def tone (filter : Nat) (data : List UInt8) (i : Nat) : List UInt8 :=
  kept filter data [⟨t.offset + 4 * i, 3, t.pctBit⟩, ⟨t.offset + 4 * i + 3, 1, t.qualityBit⟩]

/-- What the step should be, with the bits of the paths honoured. -/
def pathFiltered (filter : Nat) (data : List UInt8) (paths : Nat) (extension : Bool) : List UInt8 :=
  UInt8.ofNat t.mode :: kept filter data t.headFields
    ++ (List.range (paths + 1)).flatMap fun i =>
        if if i < paths then filter.testBit (t.antennaPathBit + i) else extension then
          t.tone filter data i
        else []

variable {t} {filter : Nat} {data : List UInt8}

theorem toneFields_add {pct quality : Nat} (offset m n : Nat) :
    toneFields pct quality offset (m + n)
      = toneFields pct quality offset m ++ toneFields pct quality (offset + 4 * m) n := by
  induction m generalizing offset with
  | zero =>
    rw [Nat.zero_add]
    rfl
  | succ m ih =>
    have hoffset : offset + 4 + 4 * m = offset + 4 * (m + 1) := by omega
    rw [Nat.add_right_comm, toneFields, ih, hoffset]
    rfl

theorem kept_toneFields (n : Nat) :
    kept filter data (toneFields t.pctBit t.qualityBit t.offset n)
      = (List.range n).flatMap (t.tone filter data) := by
  induction n with
  | zero => rfl
  | succ n ih =>
    rw [toneFields_add, StepField.kept_append, ih, range_succ, flatMap_append, flatMap_singleton]
    rfl

theorem filtered_eq {s : CsStep} {paths : Nat} (hmode : s.mode = t.mode)
    (htones : s.data.length = t.offset + 4 * (paths + 1)) (rasFilter : List Nat)
    (roleInitiator : Bool) :
    s.filtered rasFilter roleInitiator
      = UInt8.ofNat t.mode :: kept (rasFilter.getD t.mode 0) s.data t.headFields
        ++ (List.range (paths + 1)).flatMap (t.tone (rasFilter.getD t.mode 0) s.data) := by
  obtain ⟨rest, hrest⟩ : ∃ rest, s.data.length = paths + 1 + rest :=
    Nat.exists_eq_add_of_le (by omega)
  have hbehind : kept (rasFilter.getD t.mode 0) s.data
      (toneFields t.pctBit t.qualityBit (t.offset + 4 * (paths + 1)) rest) = [] :=
    StepField.kept_eq_nil fun f hf => htones ▸ toneFields_behind f hf
  have hfields (length : Nat) : stepFields roleInitiator t.mode length
      = t.headFields ++ toneFields t.pctBit t.qualityBit t.offset length := by
    cases t with
    | mode2 | mode3 => rfl
  rw [CsStep.filtered, hmode, hfields, StepField.kept_append, hrest, toneFields_add,
    StepField.kept_append, hbehind, append_nil, kept_toneFields]
  rfl

def toneLength (t : ToneMode) (filter : Nat) : Nat :=
  (if filter.testBit t.pctBit then 3 else 0) + if filter.testBit t.qualityBit then 1 else 0

theorem length_tone {i : Nat} (h : t.offset + 4 * (i + 1) ≤ data.length) :
    (t.tone filter data i).length = t.toneLength filter := by
  have hfield : ∀ f : StepField, f.offset + f.size ≤ data.length →
      (kept filter data [f]).length = if filter.testBit f.bit then f.size else 0 := by
    intro f hfits
    by_cases hbit : filter.testBit f.bit = true
    · simp [kept, StepField.Passes, StepField.bytes, hfits, hbit]
      omega
    · simp [kept, StepField.Passes, hbit]
  have hsplit : kept filter data ([⟨t.offset + 4 * i, 3, t.pctBit⟩]
      ++ [⟨t.offset + 4 * i + 3, 1, t.qualityBit⟩]) = _ := StepField.kept_append _ _
  rw [tone, toneLength]
  refine (congrArg List.length hsplit).trans ?_
  rw [length_append, hfield _ (by dsimp only; omega), hfield _ (by dsimp only; omega)]

theorem length_flatMap_ite {l n : Nat} {f : Nat → List UInt8} {p : Nat → Bool}
    (hf : ∀ i < n, (f i).length = l) :
    ((List.range n).flatMap fun i => if p i then f i else []).length
      = l * ((List.range n).filter p).length := by
  induction n with
  | zero => rfl
  | succ n ih =>
    rw [range_succ, flatMap_append, flatMap_singleton, length_append,
      ih fun i hi => hf i (lt_succ_of_lt hi), filter_append, length_append,
      Nat.mul_add]
    cases hp : p n with
    | false => simp [hp]
    | true => simp [hp, hf n (lt_succ_self n)]

theorem toneLength_eq_zero :
    t.toneLength filter = 0
      ↔ filter.testBit t.pctBit = false ∧ filter.testBit t.qualityBit = false := by
  rw [toneLength]
  cases filter.testBit t.pctBit <;> cases filter.testBit t.qualityBit <;> decide

theorem flatMap_tone_eq_iff {n : Nat} {p : Nat → Bool} (hdata : t.offset + 4 * n ≤ data.length) :
    (List.range n).flatMap (t.tone filter data)
        = ((List.range n).flatMap fun i => if p i then t.tone filter data i else [])
      ↔ t.toneLength filter = 0 ∨ ∀ i < n, p i = true := by
  have hlength : ∀ i < n, (t.tone filter data i).length = t.toneLength filter := fun i hi =>
    length_tone (by omega)
  constructor
  · intro heq
    have hall : ((List.range n).flatMap (t.tone filter data)).length
        = t.toneLength filter * ((List.range n).filter fun _ => true).length := by
      rw [← length_flatMap_ite hlength]
      rfl
    rw [heq, length_flatMap_ite hlength, filter_true] at hall
    rcases Nat.eq_zero_or_pos (t.toneLength filter) with hzero | hpos
    · exact .inl hzero
    · have hcount := Nat.eq_of_mul_eq_mul_left hpos hall
      exact .inr fun i hi =>
        length_filter_eq_length_iff.mp hcount i (mem_range.mpr hi)
  · intro h
    refine congrArg List.flatten (map_congr_left fun i hi => ?_)
    have hi := mem_range.mp hi
    rcases h with hzero | hall
    · have hnil : t.tone filter data i = [] :=
        eq_nil_of_length_eq_zero ((hlength i hi).trans hzero)
      rw [hnil, ite_self]
    · rw [if_pos (hall i hi)]

theorem tones_eq_iff {paths : Nat} (hdata : t.offset + 4 * (paths + 1) ≤ data.length) :
    (∃ extension : Bool, (List.range (paths + 1)).flatMap (t.tone filter data)
        = (List.range (paths + 1)).flatMap fun i =>
            if if i < paths then filter.testBit (t.antennaPathBit + i) else extension then
              t.tone filter data i
            else [])
      ↔ (filter.testBit t.pctBit = false ∧ filter.testBit t.qualityBit = false)
        ∨ ∀ k < paths, filter.testBit (t.antennaPathBit + k) = true := by
  rw [← toneLength_eq_zero]
  constructor
  · rintro ⟨extension, heq⟩
    refine ((flatMap_tone_eq_iff hdata).mp heq).imp id fun hall k hk => ?_
    have hbit := hall k (lt_succ_of_lt hk)
    rwa [if_pos hk] at hbit
  · intro h
    refine ⟨true, (flatMap_tone_eq_iff hdata).mpr (h.imp id fun hbits i _ => ?_)⟩
    split
    next hi => exact hbits i hi
    · rfl

theorem getD_onRasCtrPtWriteCb {s : RasSrv} (hfilters : s.rasFilter.length = 4) {lo hi : UInt8}
    (hmode : (lo.toNat + 256 * hi.toNat) % 4 = t.mode) (x y : UInt8) :
    (onRasCtrPtWriteCb s [0x04, lo, hi, x, y]).rasFilter.getD t.mode 0
      = lo.toNat + 256 * hi.toNat := by
  have hwrite : onRasCtrPtWriteCb s [0x04, lo, hi, x, y]
      = rasSetFilter s (lo.toNat + 256 * hi.toNat) := rfl
  rw [hwrite, rasSetFilter, hmode]
  have hlt : (t.mode : Nat) < s.rasFilter.length := by
    rw [hfilters]
    exact t.mode.isLt
  simp [getD_eq_getElem?_getD, hlt]

/-- **Antenna paths.** A step comes out as a client expects exactly if it has set the bits of all
paths, or wants neither field of the tones. -/
theorem antennaPaths_honoured_iff {s : RasSrv} (hfilters : s.rasFilter.length = 4) {lo hi : UInt8}
    (hmode : (lo.toNat + 256 * hi.toNat) % 4 = t.mode) (x y : UInt8) (roleInitiator : Bool)
    {step : CsStep} (hstep : step.mode = t.mode) {paths : Nat}
    (htones : step.data.length = t.offset + 4 * (paths + 1)) :
    (∃ extension, transformStepDataToRasFormatFiltered
          (onRasCtrPtWriteCb s [0x04, lo, hi, x, y]).rasFilter roleInitiator step.bytes
        = t.pathFiltered (lo.toNat + 256 * hi.toNat) step.data paths extension)
      ↔ ((lo.toNat + 256 * hi.toNat).testBit t.pctBit = false
          ∧ (lo.toNat + 256 * hi.toNat).testBit t.qualityBit = false)
        ∨ ∀ k < paths, (lo.toNat + 256 * hi.toNat).testBit (t.antennaPathBit + k) = true := by
  have hword := getD_onRasCtrPtWriteCb hfilters hmode x y
  have hout := transformSteps_bytes (onRasCtrPtWriteCb s [0x04, lo, hi, x, y]).rasFilter
    roleInitiator ⟨[step], [], trivial⟩ 0
  rw [StepBuffer.bytes, flatMap_singleton, flatMap_singleton, append_nil,
    filtered_eq hstep htones, hword] at hout
  generalize lo.toNat + 256 * hi.toNat = word at hout ⊢
  rw [transformStepDataToRasFormatFiltered, ← Nat.add_zero step.bytes.length, hout]
  simp only [pathFiltered, append_right_inj]
  exact tones_eq_iff (Nat.le_of_eq htones.symm)

def twoToneStep : CsStep where
  mode := 2
  channel := 7
  data := [0, 1, 2, 3, 4, 5, 6, 7, 8]
  short := by decide

theorem allPaths_honoured :
    ∃ extension, transformStepDataToRasFormatFiltered
        (onRasCtrPtWriteCb rasSrvEnabled [0x04, 0x2A, 0, 0, 0]).rasFilter true twoToneStep.bytes
      = mode2.pathFiltered 0x2A twoToneStep.data 1 extension :=
  (antennaPaths_honoured_iff (t := mode2) rfl rfl 0 0 true rfl rfl).mpr (.inr (by decide))

/-- The client asks for the PCT of no path, and gets that of both tones. -/
theorem unsetPath_not_dropped :
    transformStepDataToRasFormatFiltered
        (onRasCtrPtWriteCb rasSrvEnabled [0x04, 0x0A, 0, 0, 0]).rasFilter true twoToneStep.bytes
      = [2, 1, 2, 3, 5, 6, 7]
    ∧ ∀ extension, mode2.pathFiltered 0x0A twoToneStep.data 1 extension
      = if extension then [2, 5, 6, 7] else [2] := by
  decide

end ToneMode

end BtFramework
