import BtFramework.AdvManager
import BtFramework.BtUuid
import BtFramework.CStruct

/-!
# Building advertising data

`advertiser_data.c` builds the buffer that `parse_bt_adv_data` takes apart. Raw data is added
without counting the type, service data with the length of the UUID alone, the case of a 32-bit
UUID runs on into that of a 128-bit one, and a long name is cut.
-/

namespace BtFramework

open CStruct List

structure AdvData where
  len : UInt8
  type : UInt8
  data : List UInt8

namespace AdvData

def copied (d : AdvData) : List UInt8 := (d.len :: d.type :: d.data).take (d.len.toNat + 1)

def setName (name : List UInt8) : AdvData :=
  let nameLen := UInt8.ofNat name.length
  if nameLen > 29 then ⟨30, 0x08, name.take 29 ++ replicate (nameLen.toNat - 28) 0⟩
  else ⟨nameLen + 1, 0x09, name.take nameLen.toNat ++ [0]⟩

def setFlags (flags : UInt8) : AdvData := ⟨2, 0x01, [flags]⟩

def setAppearance (appearance : UInt16) : AdvData := ⟨3, 0x19, bytesOf 2 appearance.toNat⟩

def addData (type : UInt8) (data : List UInt8) : AdvData := ⟨UInt8.ofNat data.length, type, data⟩

def addManufactureData (manufactureId : UInt16) (data : List UInt8) : AdvData :=
  ⟨UInt8.ofNat (data.length + 2 + 1), 0xff, bytesOf 2 manufactureId.toNat ++ data⟩

def val128 (pad : BitVec 96) : Uuid → List UInt8
  | .uuid16 val => bytesOf 2 val.toNat
  | .uuid32 val => bytesOf 4 val.toNat ++ bytesOf 12 pad.toNat
  | .uuid128 val => bytesOf 16 val.toNat

def addServiceUuid (pad : BitVec 96) (uuid : Uuid) : AdvData :=
  match uuid with
  | .uuid16 _ => ⟨2 + 1, 0x03, val128 pad uuid⟩
  -- the case of 32 bits has no `break`
  | .uuid32 _ | .uuid128 _ => ⟨16 + 1, 0x07, val128 pad uuid⟩

def addServiceData (pad : BitVec 96) (uuid : Uuid) (data : List UInt8) : AdvData :=
  match uuid with
  | .uuid16 _ => ⟨2 + 1, 0x16, val128 pad uuid ++ data⟩
  | .uuid32 _ | .uuid128 _ => ⟨16 + 1, 0x21, val128 pad uuid ++ data⟩

end AdvData

/-- The add operations. `pad` is what a UUID of the source holds beyond its type. -/
inductive AdvOp where
  | setName (name : List UInt8)
  | setFlags (flags : UInt8)
  | setAppearance (appearance : UInt16)
  | addData (type : UInt8) (data : List UInt8)
  | addManufactureData (manufactureId : UInt16) (data : List UInt8)
  | addServiceUuid (pad : BitVec 96) (uuid : Uuid)
  | addServiceData (pad : BitVec 96) (uuid : Uuid) (data : List UInt8)

namespace AdvOp

def added : AdvOp → AdvData
  | .setName name => .setName name
  | .setFlags flags => .setFlags flags
  | .setAppearance appearance => .setAppearance appearance
  | .addData type data => .addData type data
  | .addManufactureData manufactureId data => .addManufactureData manufactureId data
  | .addServiceUuid pad uuid => .addServiceUuid pad uuid
  | .addServiceData pad uuid data => .addServiceData pad uuid data

/-- The buffer, `some none` where `NULL` is returned. There is no result where the 16-bit sum of
the lengths wraps: the copy leaves the buffer. -/
def build (ops : List AdvOp) : Option (Option (List UInt8)) :=
  if ops.isEmpty then some none
  else if (ops.map (·.added.len.toNat + 1)).sum < 65536 then
    some (some (ops.flatMap (·.added.copied)))
  else none

/-! ## What the operations mean -/

def uuidBytes : Uuid → List UInt8
  | .uuid16 val => bytesOf 2 val.toNat
  | .uuid32 val => bytesOf 4 val.toNat
  | .uuid128 val => bytesOf 16 val.toNat

/-- The AD type and the complete payload of an operation. -/
def segment : AdvOp → AdvSegment
  | .setName name => ⟨0x09, name⟩
  | .setFlags flags => ⟨0x01, [flags]⟩
  | .setAppearance appearance => ⟨0x19, bytesOf 2 appearance.toNat⟩
  | .addData type data => ⟨type, data⟩
  | .addManufactureData manufactureId data => ⟨0xff, bytesOf 2 manufactureId.toNat ++ data⟩
  | .addServiceUuid _ uuid =>
    ⟨match uuid with | .uuid16 _ => 0x03 | .uuid32 _ => 0x05 | .uuid128 _ => 0x07, uuidBytes uuid⟩
  | .addServiceData _ uuid data =>
    ⟨match uuid with | .uuid16 _ => 0x16 | .uuid32 _ => 0x20 | .uuid128 _ => 0x21,
      uuidBytes uuid ++ data⟩

/-- The payload is not empty and its structure fits in one length byte. -/
def Fits : AdvOp → Prop
  | .setName data | .addData _ data => data ≠ [] ∧ data.length + 1 < 256
  | .addManufactureData _ data => data ≠ [] ∧ data.length + 3 < 256
  | .addServiceData _ uuid data => data ≠ [] ∧ (uuidBytes uuid).length + data.length + 1 < 256
  | .setFlags _ | .setAppearance _ | .addServiceUuid _ _ => True

/-- The operations that the builder gets right. -/
def Sound : AdvOp → Prop
  | .setName name => name.length ≤ 29
  | .addData _ _ | .addServiceData _ _ _ | .addServiceUuid _ (.uuid32 _) => False
  | _ => True

/-! ## The round trip -/

variable {room : Nat} {rest : List UInt8}

theorem parseItems_structure {len type : UInt8} {data : List UInt8}
    (hlen : len.toNat = data.length + 1) (hne : data ≠ []) :
    parseItems (room + 1) (len :: type :: (data ++ rest))
      = (parseItems room rest).map (⟨type, data⟩ :: ·) := by
  have hpos := length_pos_iff.mpr hne
  have hzero : len ≠ 0 := fun h => by simp [h] at hlen
  rw [parseItems, if_neg hzero, if_neg (by omega), if_neg (by simp; omega), hlen]
  simp

theorem parseItems_copied {d : AdvData} (data slack : List UInt8)
    (hlen : d.len.toNat = data.length + 1) (hdata : d.data = data ++ slack) (hne : data ≠ [])
    (seg : AdvSegment) (segs : List AdvSegment) :
    parseItems (room + 1) (d.copied ++ rest) = some (seg :: segs)
      ↔ ⟨d.type, data⟩ = seg ∧ parseItems room rest = some segs := by
  have hcopied : d.copied = d.len :: d.type :: data := by simp [AdvData.copied, hlen, hdata]
  rw [hcopied, cons_append, cons_append, parseItems_structure hlen hne, Option.map_eq_some_iff]
  simp [and_comm]

theorem setName_eq {name : List UInt8} (h : name.length < 255) :
    AdvData.setName name =
      if 29 < name.length then ⟨30, 0x08, name.take 29 ++ replicate (name.length - 28) 0⟩
      else ⟨UInt8.ofNat (name.length + 1), 0x09, name ++ [0]⟩ := by
  have hofNat : (UInt8.ofNat name.length).toNat = name.length := by
    rw [UInt8.toNat_ofNat', Nat.mod_eq_of_lt (by omega)]
  have hlt : UInt8.ofNat name.length > 29 ↔ 29 < name.length := by
    rw [gt_iff_lt, UInt8.lt_iff_toNat_lt, hofNat]
    rfl
  simp only [AdvData.setName, hlt, hofNat, take_length, UInt8.ofNat_add]
  rfl

theorem added_of_sound {op : AdvOp} (h : op.Fits) (hs : op.Sound) :
    ∃ slack, op.added.len.toNat = op.segment.data.length + 1 ∧ op.added.type = op.segment.type
      ∧ op.added.data = op.segment.data ++ slack ∧ op.segment.data ≠ [] := by
  cases op with
  | setName name =>
    have hshort : name.length ≤ 29 := hs
    rw [added, setName_eq (by omega), if_neg (not_lt.mpr hshort)]
    refine ⟨[0], ?_, rfl, rfl, h.1⟩
    rw [UInt8.toNat_ofNat']
    exact Nat.mod_eq_of_lt (by omega)
  | setFlags flags => exact ⟨[], rfl, rfl, rfl, by simp [segment]⟩
  | setAppearance appearance => exact ⟨[], rfl, rfl, rfl, by simp [segment, bytesOf]⟩
  | addManufactureData manufactureId data =>
    obtain ⟨hne, hlen⟩ := h
    refine ⟨[], ?_, rfl, (append_nil _).symm, by simp [segment, hne]⟩
    simp [added, AdvData.addManufactureData, segment]
    omega
  | addServiceUuid pad uuid =>
    cases uuid with
    | uuid32 val => exact hs.elim
    | uuid16 val | uuid128 val =>
      exact ⟨[], rfl, rfl, (append_nil _).symm, by simp [segment, uuidBytes, bytesOf]⟩
  | addData type data => exact hs.elim
  | addServiceData pad uuid data => exact hs.elim

theorem not_parse_setName {name : List UInt8} (h : (setName name).Fits) (hlong : 29 < name.length)
    (segs : List AdvSegment) :
    parseItems (room + 1) ((AdvData.setName name).copied ++ rest)
      ≠ some ((setName name).segment :: segs) := by
  obtain ⟨hne, hlen⟩ := h
  rw [setName_eq (by omega), if_pos hlong, ne_eq,
    parseItems_copied _ _ (by simp; omega) rfl (by simp [hne])]
  simp [segment]

theorem not_parse_addData {type : UInt8} {data : List UInt8} (h : (addData type data).Fits)
    (segs : List AdvSegment) :
    parseItems (room + 1) ((AdvData.addData type data).copied ++ rest)
      ≠ some (⟨type, data⟩ :: segs) := by
  obtain ⟨hne, hlen⟩ := h
  have hofNat : (UInt8.ofNat data.length).toNat = data.length := by
    rw [UInt8.toNat_ofNat', Nat.mod_eq_of_lt (by omega)]
  obtain ⟨front, last, rfl⟩ := eq_nil_or_concat' data |>.resolve_left hne
  cases front with
  | nil => simp [AdvData.addData, AdvData.copied, parseItems]
  | cons a front =>
    -- the last byte of the data is left out
    rw [ne_eq, parseItems_copied (a :: front) [last] (hofNat.trans (by simp)) rfl (by simp)]
    simp

theorem not_parse_of_not_sound {op : AdvOp} (h : op.Fits) (hs : ¬op.Sound)
    (segs : List AdvSegment) :
    parseItems (room + 1) (op.added.copied ++ rest) ≠ some (op.segment :: segs) := by
  cases op with
  | setName name => exact not_parse_setName h (not_le.mp hs) segs
  | addData type data => exact not_parse_addData h segs
  | addServiceUuid pad uuid =>
    cases uuid with
    | uuid32 val =>
      rw [added, ne_eq, parseItems_copied (AdvData.val128 pad (.uuid32 val)) [] rfl
        (append_nil _).symm (by simp [AdvData.val128, bytesOf])]
      simp [segment, AdvData.addServiceUuid]
    | uuid16 val | uuid128 val => exact absurd trivial hs
  | addServiceData pad uuid data =>
    have hne : data ≠ [] := h.1
    rw [added, ne_eq, parseItems_copied (AdvData.val128 pad uuid) data (by cases uuid <;> rfl)
      (by cases uuid <;> rfl) (by cases uuid <;> simp [AdvData.val128, bytesOf])]
    cases uuid <;> simp [segment, AdvData.addServiceData, AdvData.val128, uuidBytes, hne]
  | setFlags flags => exact absurd trivial hs
  | setAppearance appearance => exact absurd trivial hs
  | addManufactureData manufactureId data => exact absurd trivial hs

theorem parse_op {op : AdvOp} (h : op.Fits) (segs : List AdvSegment) :
    parseItems (room + 1) (op.added.copied ++ rest) = some (op.segment :: segs)
      ↔ op.Sound ∧ parseItems room rest = some segs := by
  by_cases hs : op.Sound
  · obtain ⟨slack, hlen, htype, hdata, hne⟩ := added_of_sound h hs
    rw [parseItems_copied op.segment.data slack hlen hdata hne, htype]
    exact ⟨fun hp => ⟨hs, hp.2⟩, fun hp => ⟨rfl, hp.2⟩⟩
  · exact iff_of_false (not_parse_of_not_sound h hs segs) fun hp => hs hp.1

theorem parse_ops {ops : List AdvOp} (hfits : ∀ op ∈ ops, op.Fits) (hroom : ops.length ≤ room) :
    parseItems room (ops.flatMap (·.added.copied)) = some (ops.map segment)
      ↔ ∀ op ∈ ops, op.Sound := by
  induction ops generalizing room with
  | nil => cases room <;> simp [parseItems]
  | cons op ops ih =>
    obtain ⟨hop, hops⟩ := forall_mem_cons.mp hfits
    obtain ⟨room, rfl⟩ := Nat.exists_eq_add_of_le' (Nat.lt_of_lt_of_le (Nat.succ_pos _) hroom)
    rw [flatMap_cons, map_cons, parse_op hop, ih hops (by simpa using hroom), forall_mem_cons]

theorem size_of_sound {ops : List AdvOp} (hfits : ∀ op ∈ ops, op.Fits)
    (hs : ∀ op ∈ ops, op.Sound) :
    ops.map (·.added.len.toNat + 1) = ops.map (·.segment.data.length + 2) :=
  map_congr_left fun op hop => by
    obtain ⟨_, hlen, -⟩ := added_of_sound (hfits op hop) (hs op hop)
    omega

/-- **Advertising data.** What is added, within the segment limit, is parsed as one segment per
operation if and only if the operations are those the builder gets right and all structures
together have less than 65536 bytes. -/
theorem adv_data_round_trip_iff {ops : List AdvOp} {outMax : Nat} (hfits : ∀ op ∈ ops, op.Fits)
    (hlimit : ops.length ≤ outMax) (hmax : outMax ≠ 0) :
    (∃ raw, build ops = some raw ∧ parseBtAdvData (raw.getD []) outMax = some (ops.map segment))
      ↔ (ops.map (·.segment.data.length + 2)).sum < 65536 ∧ ∀ op ∈ ops, op.Sound := by
  have hparse : ∀ raw, parseBtAdvData raw outMax = parseItems outMax raw := fun _ => if_neg hmax
  by_cases hs : ∀ op ∈ ops, op.Sound
  · simp only [hparse, build, size_of_sound hfits hs]
    cases ops with
    | nil => simp [parseItems]
    | cons op ops =>
      rw [isEmpty_cons, if_neg Bool.false_ne_true]
      split
      next hsum => exact iff_of_true ⟨_, rfl, (parse_ops hfits hlimit).mpr hs⟩ ⟨hsum, hs⟩
      next hsum => exact iff_of_false (by simp) fun h => hsum h.1
  · refine iff_of_false ?_ fun h => hs h.2
    rintro ⟨raw, hbuild, hraw⟩
    rw [build] at hbuild
    split at hbuild
    next hnil => exact hs fun op hop => by rw [isEmpty_iff.mp hnil] at hop; cases hop
    · obtain ⟨-, hsome⟩ := Option.ite_none_right_eq_some.mp hbuild
      rw [← Option.some.inj hsome, hparse] at hraw
      exact hs ((parse_ops hfits hlimit).mp hraw)

/-- Flags, a name and a 16-bit service UUID. -/
theorem name_and_uuid_round_trip :
    ∃ raw, build [.setFlags 6, .setName [66, 84], .addServiceUuid 0 (.uuid16 0x180F)] = some raw
      ∧ parseBtAdvData (raw.getD []) 5 = some [⟨1, [6]⟩, ⟨9, [66, 84]⟩, ⟨3, [0x0F, 0x18]⟩] :=
  (adv_data_round_trip_iff (by simp [Fits]) (by decide) (by decide)).mpr
    ⟨by decide, by simp [Sound]⟩

/-- Service data arrives without the data. -/
theorem service_data_lost :
    (build [.addServiceData 0 (.uuid16 0x180F) [100]]).bind (fun raw =>
          parseBtAdvData (raw.getD []) 5)
        = some [⟨0x16, [0x0F, 0x18]⟩]
      ∧ (addServiceData 0 (.uuid16 0x180F) [100]).segment = ⟨0x16, [0x0F, 0x18, 100]⟩ := by
  decide

end AdvOp

/-! ## What the parser accepts -/

/-- A length byte of at least two and as many bytes as it says. -/
def IsStructure (item : List UInt8) : Prop :=
  ∃ len rest, item = len :: rest ∧ 2 ≤ len.toNat ∧ rest.length = len.toNat

/-- The items are the structures of the text, and the tail is where they end: nothing, or a zero
byte and anything. -/
structure Splits (raw : List UInt8) (items : List (List UInt8)) (tail : List UInt8) : Prop where
  text : raw = items.flatten ++ tail
  structures : ∀ item ∈ items, IsStructure item
  ended : tail = [] ∨ tail.head? = some 0

/-- Length, type and payload. -/
def AdvSegment.encode (s : AdvSegment) : List UInt8 :=
  UInt8.ofNat (s.data.length + 1) :: s.type :: s.data

theorem splits_of_parseItems {room : Nat} {raw : List UInt8} {segs : List AdvSegment}
    (h : parseItems room raw = some segs) :
    ∃ tail, Splits raw (segs.map AdvSegment.encode) tail ∧ segs.length ≤ room := by
  fun_induction parseItems room raw generalizing segs with
  | case1 room =>
    cases h
    exact ⟨[], ⟨rfl, by simp, .inl rfl⟩, Nat.zero_le _⟩
  | case2 room rest =>
    cases h
    exact ⟨0 :: rest, ⟨rfl, by simp, .inr rfl⟩, Nat.zero_le _⟩
  | case3 | case4 | case5 => cases h
  | case6 len rest hzero htwo hfits room ih =>
    obtain ⟨segs', hsegs, rfl⟩ := Option.map_eq_some_iff.mp h
    obtain ⟨tail, hsplits, hroom⟩ := ih hsegs
    have hcut : len :: rest.take len.toNat
        = AdvSegment.encode ⟨rest.headD 0, (rest.take len.toNat).tail⟩ := by
      obtain ⟨type, rest, rfl⟩ := exists_cons_of_length_pos (l := rest) (by omega)
      obtain ⟨n, hn⟩ := Nat.exists_eq_add_of_le' (Nat.not_lt.mp htwo)
      have hlength : (rest.take (n + 1)).length + 1 = len.toNat := by simp at hfits ⊢; omega
      simp only [hn, take_succ_cons, tail_cons, headD_cons, AdvSegment.encode, hlength]
      simp [← hn]
    refine ⟨tail, ⟨?_, ?_, hsplits.ended⟩, Nat.succ_le_succ hroom⟩
    · rw [map_cons, flatten_cons, ← hcut, append_assoc, ← hsplits.text, cons_append,
        take_append_drop]
    · refine forall_mem_cons.mpr ⟨⟨len, _, hcut.symm, Nat.not_lt.mp htwo, ?_⟩, hsplits.structures⟩
      simpa using hfits

theorem parseItems_of_splits {room : Nat} {raw tail : List UInt8} {items : List (List UInt8)}
    (h : Splits raw items tail) (hroom : items.length ≤ room) :
    ∃ segs, parseItems room raw = some segs ∧ segs.map AdvSegment.encode = items := by
  induction items generalizing room raw with
  | nil =>
    refine ⟨[], ?_, rfl⟩
    rw [h.text]
    obtain rfl | hzero := h.ended
    · simp [parseItems]
    · obtain ⟨more, rfl⟩ := head?_eq_some_iff.mp hzero
      cases room <;> simp [parseItems]
  | cons item items ih =>
    obtain ⟨⟨len, rest, rfl, htwo, hlen⟩, hitems⟩ := forall_mem_cons.mp h.structures
    obtain ⟨type, data, rfl⟩ := exists_cons_of_length_pos (l := rest) (by omega)
    obtain ⟨room, rfl⟩ := Nat.exists_eq_add_of_le' (Nat.lt_of_lt_of_le (Nat.succ_pos _) hroom)
    obtain ⟨segs, hsegs, rfl⟩ := ih ⟨rfl, hitems, h.ended⟩ (Nat.le_of_succ_le_succ hroom)
    refine ⟨⟨type, data⟩ :: segs, ?_, ?_⟩
    · have hne : data ≠ [] := ne_nil_of_length_pos (by simp at hlen; omega)
      rw [h.text, flatten_cons, append_assoc, cons_append, cons_append,
        AdvOp.parseItems_structure hlen.symm hne, hsegs]
      rfl
    · simp [AdvSegment.encode, ← length_cons (a := type), hlen]

/-- **Advertising data, parsed.** Whatever the bytes and the segment limit, the parser succeeds
exactly on at most that many structures up to the end or a zero byte, and its segments are those
structures. -/
theorem parse_accepts_structures (raw : List UInt8) (limit : Nat) :
    (∀ segs, parseBtAdvData raw (limit + 1) = some segs →
      ∃ tail, Splits raw (segs.map AdvSegment.encode) tail ∧ segs.length ≤ limit + 1)
    ∧ ∀ items tail, Splits raw items tail → items.length ≤ limit + 1 →
      ∃ segs, parseBtAdvData raw (limit + 1) = some segs ∧ segs.map AdvSegment.encode = items :=
  ⟨fun _ h => splits_of_parseItems h, fun _ _ h hroom => parseItems_of_splits h hroom⟩

end BtFramework
