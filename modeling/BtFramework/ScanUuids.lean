import BtFramework.ScanManager

/-!
# The UUIDs of an advertising report

Three types of AD structures name 16-bit UUIDs: the two list types any number of them, service
data the one it belongs to. `scan_record_parse` has room for a single UUID: of each structure it
takes the first one, and the last structure that has any decides.
-/

namespace BtFramework

open List

/-- An AD structure. -/
structure AdField where
  type : UInt8
  data : List UInt8
  fits : data.length + 1 < 256

def AdField.bytes (f : AdField) : List UInt8 :=
  UInt8.ofNat (f.data.length + 1) :: f.type :: f.data

def advPayload (fields : List AdField) : List UInt8 := fields.flatMap AdField.bytes

def uuid16s : List UInt8 → List UInt16
  | low :: high :: rest => (low.toUInt16 + high.toUInt16 * 256) :: uuid16s rest
  | _ => []

def AdField.uuids (f : AdField) : List UInt16 :=
  if f.type = 0x02 ∨ f.type = 0x03 then uuid16s f.data
  else if f.type = 0x16 then (uuid16s f.data).take 1
  else []

/-- The UUID a filter sees. -/
def lastFieldUuid (fields : List AdField) : UInt16 :=
  ((fields.filterMap (·.uuids.head?)).getLast?).getD 0

/-- The report names a UUID of the filter. -/
def HasWantedUuid (fields : List AdField) (filter : ScanFilter) : Prop :=
  ∃ f ∈ fields, ∃ u ∈ f.uuids, u ≠ 0 ∧ u ∈ filter.uuids

/-! ## Parsing -/

theorem head?_uuid16s (data : List UInt8) :
    (uuid16s data).head? = if 2 ≤ data.length then some (recordParseUuid16 data) else none := by
  rcases data with _ | ⟨low, _ | ⟨high, rest⟩⟩
  · rfl
  · rfl
  · rfl

theorem AdField.head?_uuids (f : AdField) :
    f.uuids.head? = if (f.type = 0x02 ∨ f.type = 0x03 ∨ f.type = 0x16) ∧ 2 ≤ f.data.length then
      some (recordParseUuid16 f.data) else none := by
  have hfirst : ((uuid16s f.data).take 1).head? = (uuid16s f.data).head? := by
    cases uuid16s f.data <;> rfl
  unfold AdField.uuids
  split
  next h =>
    have hany : f.type = 0x02 ∨ f.type = 0x03 ∨ f.type = 0x16 := h.imp_right .inl
    simp only [hany, true_and, head?_uuid16s]
  next hlist =>
    split
    next h => simp only [h, or_true, true_and, hfirst, head?_uuid16s]
    next hdata =>
      rw [if_neg fun h => h.1.elim (hlist <| .inl ·) (·.elim (hlist <| .inr ·) hdata)]
      rfl

theorem scanRecordFields_bytes (fuel : Nat) (uuid : UInt16) (f : AdField) (rest : List UInt8) :
    scanRecordFields (fuel + 1) uuid (f.bytes ++ rest)
      = scanRecordFields fuel (f.uuids.head?.getD uuid) rest := by
  have hlen : (UInt8.ofNat (f.data.length + 1)).toNat = f.data.length + 1 := by
    rw [UInt8.toNat_ofNat', Nat.mod_eq_of_lt f.fits]
  have hpos : UInt8.ofNat (f.data.length + 1) ≠ 0 := by
    intro h
    rw [h] at hlen
    exact absurd hlen (Nat.succ_ne_zero _).symm
  have hroom : ¬(f.data ++ rest).length + 1 < f.data.length + 1 := by
    rw [length_append]
    omega
  show scanRecordFields (fuel + 1) uuid (_ :: f.type :: (f.data ++ rest)) = _
  rw [scanRecordFields, if_neg hpos, hlen, if_neg hroom, Nat.add_sub_cancel, take_left,
    drop_left, f.head?_uuids]
  split
  · rfl
  · rfl

/-- **Parsing.** The record has the first UUID of the last structure with any. -/
theorem scanRecordFields_payload (fields : List AdField) {fuel : Nat} (uuid : UInt16)
    (hfuel : (advPayload fields).length ≤ fuel) :
    scanRecordFields fuel uuid (advPayload fields)
      = ((fields.filterMap (·.uuids.head?)).getLast?).getD uuid := by
  induction fields generalizing fuel uuid with
  | nil => cases fuel <;> rfl
  | cons f fields ih =>
    have hcons : advPayload (f :: fields) = f.bytes ++ advPayload fields := flatMap_cons
    rw [hcons, length_append, AdField.bytes, length_cons] at hfuel
    obtain ⟨fuel, rfl⟩ := Nat.exists_eq_add_of_lt (Nat.lt_of_lt_of_le (Nat.succ_pos _)
      (Nat.le_trans (Nat.le_add_right _ _) hfuel))
    rw [hcons, scanRecordFields_bytes, ih _ (by omega), filterMap_cons]
    cases f.uuids.head? with
    | none => rfl
    | some u =>
      cases fields.filterMap (·.uuids.head?) with
      | nil => rfl
      | cons v vs => rw [getLast?_cons_cons, getLast?_cons]; rfl

theorem scanRecordParse_payload (fields : List AdField) :
    scanRecordParse (advPayload fields) = lastFieldUuid fields :=
  scanRecordFields_payload fields 0 (Nat.le_refl _)

/-! ## Matching -/

theorem scannerMatchFilter_iff (uuid : UInt16) (filter : ScanFilter) :
    scannerMatchFilter uuid filter = true ↔ uuid ≠ 0 ∧ uuid ∈ filter.uuids := by
  simp only [scannerMatchFilter, matchUuid, Bool.and_eq_true, any_eq_true,
    decide_eq_true_eq]
  constructor
  · rintro ⟨hne, u, hu, -, rfl⟩
    exact ⟨hne, hu⟩
  · exact fun ⟨hne, hmem⟩ => ⟨hne, uuid, hmem, hne, rfl⟩

theorem exists_lastFieldUuid {fields : List AdField} (h : lastFieldUuid fields ≠ 0) :
    ∃ f ∈ fields, lastFieldUuid fields ∈ f.uuids := by
  unfold lastFieldUuid at h ⊢
  cases hlast : (fields.filterMap (·.uuids.head?)).getLast? with
  | none =>
    rw [hlast] at h
    exact absurd rfl h
  | some u =>
    obtain ⟨f, hf, hhead⟩ := mem_filterMap.mp (mem_of_getLast? hlast)
    exact ⟨f, hf, mem_of_head? hhead⟩

/-- **Filters.** The report passes exactly if it has a wanted UUID, precisely when a wanted UUID
comes with one that stands first in the last structure with UUIDs. -/
theorem uuid_filter_complete_iff (fields : List AdField) (filter : ScanFilter) :
    (scannerMatchFilter (scanRecordParse (advPayload fields)) filter = true
        ↔ HasWantedUuid fields filter)
      ↔ (HasWantedUuid fields filter →
          lastFieldUuid fields ≠ 0 ∧ lastFieldUuid fields ∈ filter.uuids) := by
  rw [scanRecordParse_payload, scannerMatchFilter_iff]
  refine ⟨Iff.mpr, fun h => ⟨fun ⟨hne, hmem⟩ => ?_, h⟩⟩
  obtain ⟨f, hf, hu⟩ := exists_lastFieldUuid hne
  exact ⟨f, hf, _, hu, hne, hmem⟩

def heartRateAndBattery : AdField := ⟨0x03, [0x0D, 0x18, 0x0F, 0x18], by decide⟩

/-- A scanner for Battery does not get the report, though it lists Battery. -/
theorem battery_listed_not_matched :
    let filter := { ScanFilter.none with uuids := [0x180F, 0], active := true }
    HasWantedUuid [heartRateAndBattery] filter
      ∧ scannerMatchFilter (scanRecordParse (advPayload [heartRateAndBattery])) filter = false := by
  exact ⟨⟨_, mem_singleton.mpr rfl, 0x180F, by decide, by decide, by decide⟩, by decide⟩

end BtFramework
