import BtFramework.Runs
import BtFramework.StorageRecords

/-!
# The version of a stored database

The guess compares the length of the list of bonded devices with the sizes that the versions
give to its number of records, or the length of the adapter information where there is no such
list. A list without records is taken for the oldest version, and the layouts of the newer
versions are not tried.
-/

namespace BtFramework.Storage

open Nat Option

open CStruct

/-! ## The database -/

inductive UnqliteItem where
  | adapterInfo | btBond | bleBond | whitelist
  deriving DecidableEq

def UnqliteItem.decl (cfg : BuildConfig) (v : StorageVersion) : UnqliteItem → Decl Field
  | .adapterInfo => adapterDecl cfg v
  | .btBond => btDecl cfg v
  | .bleBond | .whitelist => leDecl cfg v

structure KeyHeader where
  items : UInt16
  keyLength : UInt16
  keyValue : List UInt8

abbrev UnqliteDb := UnqliteItem → Option KeyHeader

def newHeader (d : Decl Field) (data : Option (List UInt8)) (items : Nat) : KeyHeader where
  items := UInt16.ofNat items
  keyLength := UInt16.ofNat (items * d.sizeof)
  keyValue := match data with
    | some bytes => if items ≠ 0 then bytes.take (items * d.sizeof) else zeros (items * d.sizeof)
    | none => zeros (items * d.sizeof)

def btStorageSaveItemUnqlite (cfg : BuildConfig) (db : UnqliteDb) (data : Option (List UInt8))
    (items : Nat) (v : StorageVersion) (item : UnqliteItem) (alloc set : Bool) :
    UnqliteDb × Bool :=
  if !alloc then (db, false)
  else if !set then (db, false)
  else (Function.update db item (some (newHeader (item.decl cfg v) data items)), true)

def KeyHeader.HasSize (h : KeyHeader) (d : Decl Field) : Prop :=
  h.keyLength.toNat = d.sizeof * h.items.toNat
deriving Decidable

def btStorageUpdateGetVersionByDb (cfg : BuildConfig) (db : UnqliteDb) : Option StorageVersion :=
  match db .btBond with
  | some header =>
    if header.HasSize (btDecl cfg .v4_0_0) then some .v4_0_0
    else if header.HasSize (btDecl cfg .v5_0_0) then some .v5_0_0
    else if header.HasSize (btDecl cfg .v5_0_1) then some .v5_0_1
    else none
  | none =>
    match db .adapterInfo with
    | none => none
    | some header =>
      if header.HasSize (adapterDecl cfg .v4_0_0) then some .v4_0_0
      else if header.HasSize (adapterDecl cfg .v5_0_1) then some .v5_0_1
      else none

/-! ## Databases that a version has written -/

/-- A list saved, and which calls succeed. -/
structure Save where
  data : Option (List UInt8)
  items : Nat
  item : UnqliteItem
  alloc : Bool
  set : Bool

def saveStep (cfg : BuildConfig) (v : StorageVersion) (db : UnqliteDb) (e : Save) : UnqliteDb :=
  (btStorageSaveItemUnqlite cfg db e.data e.items v e.item e.alloc e.set).1

def writtenDb (cfg : BuildConfig) (v : StorageVersion) (es : List Save) : UnqliteDb :=
  Runs.after (saveStep cfg v) (fun _ => none) es

def countStep (counts : UnqliteItem → Option Nat) (e : Save) : UnqliteItem → Option Nat :=
  if e.alloc && e.set then Function.update counts e.item (some e.items) else counts

def savedCounts (es : List Save) : UnqliteItem → Option Nat :=
  Runs.after countStep (fun _ => none) es

def HeadersOf (cfg : BuildConfig) (v : StorageVersion) (db : UnqliteDb)
    (counts : UnqliteItem → Option Nat) : Prop :=
  ∀ item, (db item).map (fun h => (h.items.toNat, h.keyLength.toNat))
    = (counts item).map fun n => (n % 65536, n * (item.decl cfg v).sizeof % 65536)

variable {cfg : BuildConfig} {v w : StorageVersion} {db : UnqliteDb}
  {counts : UnqliteItem → Option Nat}

theorem HeadersOf.step (h : HeadersOf cfg v db counts) (e : Save) :
    HeadersOf cfg v (saveStep cfg v db e) (countStep counts e) := by
  intro item
  rw [saveStep, btStorageSaveItemUnqlite, countStep]
  cases e.alloc <;> cases e.set
  case true.true =>
    simp only [Bool.not_true, Bool.false_eq_true, if_false, Bool.and_self, if_true,
      Function.update_apply]
    split_ifs with hitem
    · rw [hitem]
      rfl
    · exact h item
  all_goals exact h item

theorem headersOf_written (cfg : BuildConfig) (v : StorageVersion) (es : List Save) :
    HeadersOf cfg v (writtenDb cfg v es) (savedCounts es) := by
  suffices hrun : ∀ db counts, HeadersOf cfg v db counts →
      HeadersOf cfg v (Runs.after (saveStep cfg v) db es) (Runs.after countStep counts es) from
    hrun _ _ fun _ => rfl
  induction es with
  | nil => exact fun _ _ h => h
  | cons e es ih => exact fun db counts h => ih _ _ (h.step e)

theorem HeadersOf.header (h : HeadersOf cfg v db counts) {item : UnqliteItem} {n : Nat}
    (hn : counts item = some n) :
    ∃ header, db item = some header ∧ header.items.toNat = n % 65536
      ∧ header.keyLength.toNat = n * (item.decl cfg v).sizeof % 65536 := by
  obtain ⟨header, hheader, heq⟩ := map_eq_some_iff.mp (hn ▸ h item)
  exact ⟨header, hheader, Prod.mk.inj heq⟩

/-! ## Sizes -/

theorem sizeof_bt_400_lt (cfg : BuildConfig) :
    (btDecl cfg .v4_0_0).sizeof < (btDecl cfg .v5_0_0).sizeof := by
  cases henum : cfg.shortEnums <;>
    simp [btDecl, Decl.sizeof, endFrom, alignUp, enumeration, henum, byteArray, uint8, uint32]

theorem sizeof_adapter_400 (cfg : BuildConfig) : (adapterDecl cfg .v4_0_0).sizeof = 80 := by
  simp [adapterDecl, adapterMembers, Decl.sizeof, endFrom, alignUp, byteArray, uint32]

theorem sizeof_adapter_501 (cfg : BuildConfig) : (adapterDecl cfg .v5_0_1).sizeof = 84 := by
  simp [adapterDecl, adapterMembers, Decl.sizeof, endFrom, alignUp, byteArray, uint32]

def LengthFits (size n : Nat) : Prop := n % 65536 * size < 65536

theorem KeyHeader.HasSize.other_iff {header : KeyHeader} {d d' : Decl Field}
    (h : header.HasSize d) (hne : d'.sizeof ≠ d.sizeof) :
    header.HasSize d' ↔ header.items.toNat = 0 := by
  rw [HasSize, (h : _ = _)]
  constructor
  · intro heq
    by_contra hpos
    exact hne (eq_of_mul_eq_mul_right (pos_of_ne_zero hpos) heq).symm
  · intro hzero
    rw [hzero, mul_zero, mul_zero]

/-! ## Layouts -/

structure SameLayout (d d' : Decl Field) : Prop where
  size : d.sizeof = d'.sizeof
  names : ∀ x, x ≠ .pad → (x ∈ d.names ↔ x ∈ d'.names)
  place : ∀ x, x ≠ .pad → x ∈ d.names → d.offset x = d'.offset x ∧ d.width x = d'.width x

theorem SameLayout.refl (d : Decl Field) : SameLayout d d :=
  ⟨rfl, fun _ _ => Iff.rfl, fun _ _ _ => ⟨rfl, rfl⟩⟩

def Guessable (w : StorageVersion) : Prop := w = .v4_0_0 ∨ w = .v5_0_0 ∨ w = .v5_0_1

theorem classOfDevice_linkKey_order (cfg : BuildConfig) :
    (btDecl cfg .v5_0_1).offset .classOfDevice < (btDecl cfg .v5_0_1).offset .linkKey
      ∧ (btDecl cfg .v5_0_2).offset .linkKey < (btDecl cfg .v5_0_2).offset .classOfDevice := by
  simp only [btDecl, Decl.offset, offsetFrom, byteArray, uint8, uint32, name_enumeration,
    reduceCtorEq, if_false, if_true]
  exact ⟨Nat.lt_of_lt_of_le (Nat.lt_add_of_pos_right (by decide)) (le_alignUp _ _),
    Nat.lt_of_lt_of_le (Nat.lt_add_of_pos_right (by decide)) (le_alignUp _ _)⟩

theorem uuids_mem_bt_iff (cfg : BuildConfig) (v : StorageVersion) :
    .uuids ∈ (btDecl cfg v).names ↔ v ≠ .v4_0_0 ∧ v ≠ .v5_0_0 := by
  cases v <;> simp [btDecl, Decl.names, byteArray, uint8, uint32]

theorem SameLayout.nameSize_bt (h : SameLayout (btDecl cfg w) (btDecl cfg v)) :
    nameSize cfg w = nameSize cfg v := by
  rw [← (width_btDecl cfg w).2.2.1, ← (width_btDecl cfg v).2.2.1]
  exact (h.place .name (by decide) (names_btDecl cfg w (.name, .str) (by decide))).2

theorem not_sameLayout_bt_501 (cfg : BuildConfig) :
    ¬SameLayout (btDecl cfg .v5_0_1) (btDecl cfg .v5_0_2) := by
  intro h
  have hclass := (h.place .classOfDevice (by decide)
    (names_btDecl cfg .v5_0_1 (.classOfDevice, .int) (by decide))).1
  have hlink := (h.place .linkKey (by decide)
    (names_btDecl cfg .v5_0_1 (.linkKey, .bytes) (by decide))).1
  obtain ⟨hbefore, hafter⟩ := classOfDevice_linkKey_order cfg
  omega

theorem SameLayout.version_of_bt (h : SameLayout (btDecl cfg w) (btDecl cfg v))
    (hw : Guessable w) : w = v := by
  have huuids := h.names .uuids (by decide)
  have hname := h.nameSize_bt
  rw [uuids_mem_bt_iff, uuids_mem_bt_iff] at huuids
  rcases hw with rfl | rfl | rfl
  · cases v with
    | v4_0_0 => rfl
    | v5_0_0 | v5_0_1 => simp [nameSize] at hname
    | v5_0_2 | v5_0_3 => simp at huuids
  · cases v with
    | v4_0_0 => simp [nameSize] at hname
    | v5_0_0 => rfl
    | v5_0_1 | v5_0_2 | v5_0_3 => simp at huuids
  · cases v with
    | v4_0_0 | v5_0_0 => simp at huuids
    | v5_0_1 => rfl
    | v5_0_2 | v5_0_3 => exact absurd h (not_sameLayout_bt_501 cfg)

theorem irk_mem_adapter_iff (cfg : BuildConfig) (v : StorageVersion) :
    .irk ∈ (adapterDecl cfg v).names ↔ v = .v5_0_3 := by
  cases v <;> simp [adapterDecl, adapterMembers, Decl.names, byteArray, uint32]

theorem SameLayout.nameSize_adapter (h : SameLayout (adapterDecl cfg w) (adapterDecl cfg v)) :
    nameSize cfg w = nameSize cfg v := by
  rw [← (width_adapterDecl cfg w).1, ← (width_adapterDecl cfg v).1]
  exact (h.place .name (by decide) (names_adapterDecl cfg w (.name, .str) (by decide))).2

theorem SameLayout.version_of_adapter_400
    (h : SameLayout (adapterDecl cfg .v4_0_0) (adapterDecl cfg v)) : v = .v4_0_0 := by
  have hirk := h.names .irk (by decide)
  have hname := h.nameSize_adapter
  have hsize := h.size
  rw [irk_mem_adapter_iff, irk_mem_adapter_iff] at hirk
  cases v with
  | v4_0_0 => rfl
  | v5_0_0 | v5_0_1 => simp [nameSize] at hname
  | v5_0_2 =>
    -- a name of 64 bytes is followed by the padding, which needs four more
    simp only [nameSize] at hname
    simp [adapterDecl, adapterMembers, Decl.sizeof, endFrom, alignUp, byteArray, uint32,
      ← hname] at hsize
  | v5_0_3 => simp at hirk

theorem sameLayout_adapter_501_iff (cfg : BuildConfig) (v : StorageVersion) :
    SameLayout (adapterDecl cfg .v5_0_1) (adapterDecl cfg v)
      ↔ v = .v5_0_0 ∨ v = .v5_0_1 ∨ v = .v5_0_2 ∧ cfg.remNameMaxLen = 64 := by
  constructor
  · intro h
    have hirk := h.names .irk (by decide)
    have hname := h.nameSize_adapter
    rw [irk_mem_adapter_iff, irk_mem_adapter_iff] at hirk
    cases v with
    | v4_0_0 => simp [nameSize] at hname
    | v5_0_0 => exact Or.inl rfl
    | v5_0_1 => exact Or.inr (Or.inl rfl)
    | v5_0_2 => exact Or.inr (Or.inr ⟨rfl, (Nat.succ.inj hname).symm⟩)
    | v5_0_3 => simp at hirk
  · rintro (rfl | rfl | ⟨rfl, hlen⟩)
    · exact SameLayout.refl _
    · exact SameLayout.refl _
    · refine ⟨?_, fun x hx => ?_, fun x hx hmem => ?_⟩
      · simp [adapterDecl, adapterMembers, Decl.sizeof, endFrom, alignUp, byteArray, uint32, hlen]
      · cases x <;> simp [adapterDecl, adapterMembers, Decl.names, byteArray, uint32] at hx ⊢
      · cases x <;> simp [adapterDecl, adapterMembers, Decl.names, byteArray, uint32] at hmem <;>
          simp [adapterDecl, adapterMembers, Decl.offset, Decl.width, offsetFrom, widthIn, alignUp,
            byteArray, uint32, hlen]

theorem not_sameLayout_le_501 (cfg : BuildConfig) :
    ¬SameLayout (leDecl cfg .v5_0_1) (leDecl cfg .v5_0_2) := by
  intro h
  have hkey := (h.place .smpKey (by decide)
    (names_leDecl cfg .v5_0_1 (.smpKey, .bytes) (by decide))).1
  cases henum : cfg.shortEnums <;>
    simp [leDecl, Decl.offset, offsetFrom, alignUp, enumeration, henum, byteArray, uint8, uint32]
      at hkey

/-! ## The guess -/

section

variable {header : KeyHeader}

theorem guessable_of_guess (h : btStorageUpdateGetVersionByDb cfg db = some w) : Guessable w := by
  rw [btStorageUpdateGetVersionByDb] at h
  repeat' split at h
  all_goals cases h <;> simp [Guessable]

/-- The length of the bonded list tells the version. -/
def TellsVersion (cfg : BuildConfig) (bonded : Option Nat) : StorageVersion → Prop
  | .v4_0_0 => ∀ n, bonded = some n → LengthFits (btDecl cfg .v4_0_0).sizeof n
  | .v5_0_0 => ∃ n, bonded = some n ∧ n % 65536 ≠ 0 ∧ LengthFits (btDecl cfg .v5_0_0).sizeof n
  | .v5_0_1 => ∀ n, bonded = some n → n % 65536 ≠ 0
      ∧ LengthFits (btDecl cfg .v5_0_1).sizeof n
      ∧ (btDecl cfg .v5_0_0).sizeof ≠ (btDecl cfg .v5_0_1).sizeof
  | .v5_0_2 | .v5_0_3 => False

theorem guess_of_absent (h : HeadersOf cfg v db counts) (hone : counts .adapterInfo = some 1)
    (hnone : counts .btBond = none) :
    btStorageUpdateGetVersionByDb cfg db
      = if (adapterDecl cfg v).sizeof % 65536 = 80 then some .v4_0_0
        else if (adapterDecl cfg v).sizeof % 65536 = 84 then some .v5_0_1 else none := by
  obtain ⟨header, hheader, hitems, hlength⟩ := h.header hone
  have habsent : db .btBond = none := map_eq_none_iff.mp (hnone ▸ h .btBond)
  rw [btStorageUpdateGetVersionByDb, habsent]
  simp only [hheader, KeyHeader.HasSize, hitems, hlength, sizeof_adapter_400, sizeof_adapter_501,
    UnqliteItem.decl, one_mul, one_mod, mul_one]

theorem guess_of_size_84 (h : HeadersOf cfg v db counts) (hone : counts .adapterInfo = some 1)
    (hnone : counts .btBond = none) (hsize : (adapterDecl cfg v).sizeof = 84) :
    btStorageUpdateGetVersionByDb cfg db = some .v5_0_1 := by
  rw [guess_of_absent h hone hnone, hsize]
  rfl

theorem guess_of_bonded_iff (cfg : BuildConfig) (hdb : db .btBond = some header) :
    (btStorageUpdateGetVersionByDb cfg db = some .v4_0_0 ↔ header.HasSize (btDecl cfg .v4_0_0))
      ∧ (btStorageUpdateGetVersionByDb cfg db = some .v5_0_0
        ↔ header.HasSize (btDecl cfg .v5_0_0) ∧ ¬header.HasSize (btDecl cfg .v4_0_0))
      ∧ (btStorageUpdateGetVersionByDb cfg db = some .v5_0_1
        ↔ header.HasSize (btDecl cfg .v5_0_1) ∧ ¬header.HasSize (btDecl cfg .v4_0_0)
          ∧ ¬header.HasSize (btDecl cfg .v5_0_0)) := by
  rw [btStorageUpdateGetVersionByDb, hdb]
  by_cases h400 : header.HasSize (btDecl cfg .v4_0_0)
  · simp [h400]
  · by_cases h500 : header.HasSize (btDecl cfg .v5_0_0) <;> simp [h400, h500]

theorem guess_bonded_iff (h : HeadersOf cfg v db counts) (hv : Guessable v) {n : Nat}
    (hn : counts .btBond = some n) :
    btStorageUpdateGetVersionByDb cfg db = some v ↔ TellsVersion cfg (some n) v := by
  obtain ⟨header, hheader, hitems, hlength⟩ := h.header hn
  have hown : header.HasSize (btDecl cfg v) ↔ LengthFits (btDecl cfg v).sizeof n := by
    rw [KeyHeader.HasSize, hitems, hlength, LengthFits, ← mod_mul_mod,
      mul_comm (btDecl cfg v).sizeof]
    exact mod_eq_iff_lt (by decide)
  have hlt := sizeof_bt_400_lt cfg
  have hle := sizeof_bt_500_le cfg
  obtain ⟨hguess400, hguess500, hguess501⟩ := guess_of_bonded_iff cfg hheader
  rcases hv with rfl | rfl | rfl
  · rw [hguess400, hown]
    constructor
    · rintro hfits m ⟨⟩
      exact hfits
    · exact fun htells => htells n rfl
  · rw [hguess500]
    constructor
    · rintro ⟨hsize, hnot⟩
      rw [hsize.other_iff (Nat.ne_of_lt hlt), hitems] at hnot
      exact ⟨n, rfl, hnot, hown.mp hsize⟩
    · rintro ⟨m, ⟨⟩, hpos, hfits⟩
      have hsize := hown.mpr hfits
      rw [hsize.other_iff (Nat.ne_of_lt hlt), hitems]
      exact ⟨hsize, hpos⟩
  · rw [hguess501]
    have hne : (btDecl cfg .v4_0_0).sizeof ≠ (btDecl cfg .v5_0_1).sizeof :=
      Nat.ne_of_lt (Nat.lt_of_lt_of_le hlt hle)
    constructor
    · rintro ⟨hsize, hnot, hnot'⟩ m ⟨⟩
      rw [hsize.other_iff hne, hitems] at hnot
      refine ⟨hnot, hown.mp hsize, fun hsame => hnot' ?_⟩
      rw [KeyHeader.HasSize, hsame]
      exact hsize
    · intro htells
      obtain ⟨hpos, hfits, hdiffer⟩ := htells n rfl
      have hsize := hown.mpr hfits
      rw [hsize.other_iff hne, hsize.other_iff hdiffer, hitems]
      exact ⟨hsize, hpos, hpos⟩

theorem guess_eq_iff (h : HeadersOf cfg v db counts) (hone : counts .adapterInfo = some 1) :
    btStorageUpdateGetVersionByDb cfg db = some v ↔ TellsVersion cfg (counts .btBond) v := by
  by_cases hv : Guessable v
  · cases hbond : counts .btBond with
    | some n => exact guess_bonded_iff h hv hbond
    | none =>
      rcases hv with rfl | rfl | rfl
      · exact iff_of_true (by rw [guess_of_absent h hone hbond, sizeof_adapter_400]; rfl) nofun
      · rw [guess_of_size_84 h hone hbond (sizeof_adapter_501 cfg)]
        exact iff_of_false (by decide) nofun
      · exact iff_of_true (guess_of_size_84 h hone hbond (sizeof_adapter_501 cfg)) nofun
  · refine iff_of_false (fun hguess => hv (guessable_of_guess hguess)) ?_
    cases v <;> simp [Guessable, TellsVersion] at hv ⊢

/-! ## Right guesses -/

/-- The guess has the layouts of the version that wrote. -/
def GuessedRight (cfg : BuildConfig) (v : StorageVersion) (db : UnqliteDb) : Prop :=
  ∃ w, btStorageUpdateGetVersionByDb cfg db = some w
    ∧ ∀ item : UnqliteItem, SameLayout (item.decl cfg w) (item.decl cfg v)

/-- Every list that has records is read in its layout. -/
def RecordsReadRight (cfg : BuildConfig) (v : StorageVersion) (db : UnqliteDb)
    (counts : UnqliteItem → Option Nat) : Prop :=
  ∃ w, btStorageUpdateGetVersionByDb cfg db = some w
    ∧ ∀ (item : UnqliteItem) (n : Nat), counts item = some n → 0 < n →
        SameLayout (item.decl cfg w) (item.decl cfg v)

/-- There is no bonded list, and the layout of the adapter information decides. -/
def AdapterDecides (cfg : BuildConfig) (v : StorageVersion) (counts : UnqliteItem → Option Nat) :
    Prop :=
  counts .btBond = none ∧ (v = .v5_0_0 ∨ v = .v5_0_2 ∧ cfg.remNameMaxLen = 64
    ∧ ∀ n, counts .bleBond = some n ∨ counts .whitelist = some n → n = 0)

section

variable (h : HeadersOf cfg v db counts)
include h

theorem guessedRight_iff (hone : counts .adapterInfo = some 1) :
    GuessedRight cfg v db ↔ TellsVersion cfg (counts .btBond) v := by
  rw [← guess_eq_iff h hone]
  constructor
  · rintro ⟨w, hguess, hsame⟩
    rw [← SameLayout.version_of_bt (hsame .btBond) (guessable_of_guess hguess)]
    exact hguess
  · exact fun hguess => ⟨v, hguess, fun item => SameLayout.refl _⟩

theorem guess_of_empty (hempty : counts .btBond = some 0) :
    btStorageUpdateGetVersionByDb cfg db = some .v4_0_0 := by
  obtain ⟨header, hheader, hitems, hlength⟩ := h.header hempty
  refine (guess_of_bonded_iff cfg hheader).1.mpr ?_
  rw [KeyHeader.HasSize, hitems, hlength, zero_mul]
  rfl

theorem RecordsReadRight.tells_or (hone : counts .adapterInfo = some 1)
    (hread : RecordsReadRight cfg v db counts) :
    TellsVersion cfg (counts .btBond) v ∨ AdapterDecides cfg v counts := by
  obtain ⟨w, hguess, hsame⟩ := hread
  have hadapter : SameLayout (adapterDecl cfg w) (adapterDecl cfg v) :=
    hsame .adapterInfo 1 hone one_pos
  rw [← guess_eq_iff h hone]
  by_cases hw : w = v
  · exact Or.inl (hw ▸ hguess)
  -- with the layouts of another version no bonded device is there
  have h400 : w ≠ .v4_0_0 := by
    rintro rfl
    exact hw hadapter.version_of_adapter_400.symm
  have habsent : counts .btBond = none := by
    cases hbond : counts .btBond with
    | none => rfl
    | some n =>
      rcases Nat.eq_zero_or_pos n with rfl | hpos
      · rw [guess_of_empty h hbond] at hguess
        exact absurd (Option.some.inj hguess).symm h400
      · exact absurd (SameLayout.version_of_bt (hsame .btBond n hbond hpos)
          (guessable_of_guess hguess)) hw
  obtain rfl : w = .v5_0_1 := by
    rw [guess_of_absent h hone habsent] at hguess
    split at hguess
    · exact absurd (Option.some.inj hguess).symm h400
    · split at hguess
      · exact (Option.some.inj hguess).symm
      · exact absurd hguess.symm (some_ne_none w)
  refine Or.inr ⟨habsent, ?_⟩
  rcases (sameLayout_adapter_501_iff cfg v).mp hadapter with rfl | rfl | ⟨rfl, hlen⟩
  · exact Or.inl rfl
  · exact absurd rfl hw
  · refine Or.inr ⟨rfl, hlen, fun n hn => Nat.eq_zero_of_not_pos fun hpos => ?_⟩
    rcases hn with hn | hn
    · exact not_sameLayout_le_501 cfg (hsame .bleBond n hn hpos)
    · exact not_sameLayout_le_501 cfg (hsame .whitelist n hn hpos)

theorem AdapterDecides.recordsReadRight (hone : counts .adapterInfo = some 1)
    (hdecides : AdapterDecides cfg v counts) :
    RecordsReadRight cfg v db counts := by
  obtain ⟨habsent, hv⟩ := hdecides
  have hadapter : SameLayout (adapterDecl cfg .v5_0_1) (adapterDecl cfg v) := by
    rw [sameLayout_adapter_501_iff]
    rcases hv with hv | ⟨hv, hlen, -⟩
    · exact Or.inl hv
    · exact Or.inr (Or.inr ⟨hv, hlen⟩)
  have hle : ∀ n, counts .bleBond = some n ∨ counts .whitelist = some n → 0 < n →
      SameLayout (leDecl cfg .v5_0_1) (leDecl cfg v) := by
    intro n hn hpos
    rcases hv with rfl | ⟨-, -, hnone⟩
    · exact SameLayout.refl _
    · exact absurd (hnone n hn) (ne_of_gt hpos)
  refine ⟨.v5_0_1, guess_of_size_84 h hone habsent (hadapter.size ▸ sizeof_adapter_501 cfg),
    fun item n hn hpos => ?_⟩
  cases item with
  | adapterInfo => exact hadapter
  | btBond =>
    rw [habsent] at hn
    exact absurd hn.symm (some_ne_none n)
  | bleBond => exact hle n (Or.inl hn) hpos
  | whitelist => exact hle n (Or.inr hn) hpos

end

/-- For every database that the saves of one version have written, with adapter information: when
the guessed version has the same layouts, and when the records are read in the layout they were
written in. -/
theorem guess_right_iff (cfg : BuildConfig) (v : StorageVersion) (es : List Save)
    (hone : savedCounts es .adapterInfo = some 1) :
    (GuessedRight cfg v (writtenDb cfg v es) ↔ TellsVersion cfg (savedCounts es .btBond) v)
      ∧ (RecordsReadRight cfg v (writtenDb cfg v es) (savedCounts es)
        ↔ TellsVersion cfg (savedCounts es .btBond) v ∨ AdapterDecides cfg v (savedCounts es)) := by
  have h := headersOf_written cfg v es
  refine ⟨guessedRight_iff h hone, RecordsReadRight.tells_or h hone, ?_⟩
  rintro (htells | hdecides)
  · exact ⟨v, (guess_eq_iff h hone).mpr htells, fun item _ _ _ => SameLayout.refl _⟩
  · exact hdecides.recordsReadRight h hone

end

def savesOf501 (bonded : Nat) : List Save :=
  [⟨some (List.replicate 84 1), 1, .adapterInfo, true, true⟩,
    ⟨some (List.replicate (bonded * 252) 1), bonded, .btBond, true, true⟩]

theorem two_bonds_guessed_right :
    savedCounts (savesOf501 2) .adapterInfo = some 1
      ∧ GuessedRight defaultConfig .v5_0_1 (writtenDb defaultConfig .v5_0_1 (savesOf501 2)) := by
  refine ⟨rfl, (guess_right_iff defaultConfig .v5_0_1 (savesOf501 2) rfl).1.mpr ?_⟩
  rintro n ⟨⟩
  rw [LengthFits]
  decide

/-- Without bonded devices 4.0.0 is guessed, where the name of the adapter is shorter. -/
theorem empty_bonds_guessed_wrong :
    savedCounts (savesOf501 0) .adapterInfo = some 1
      ∧ btStorageUpdateGetVersionByDb defaultConfig
          (writtenDb defaultConfig .v5_0_1 (savesOf501 0)) = some .v4_0_0
      ∧ ¬GuessedRight defaultConfig .v5_0_1 (writtenDb defaultConfig .v5_0_1 (savesOf501 0))
      ∧ ¬RecordsReadRight defaultConfig .v5_0_1
          (writtenDb defaultConfig .v5_0_1 (savesOf501 0)) (savedCounts (savesOf501 0)) := by
  have h := headersOf_written defaultConfig .v5_0_1 (savesOf501 0)
  have hguess := guess_of_empty h rfl
  have hread : ¬RecordsReadRight defaultConfig .v5_0_1
      (writtenDb defaultConfig .v5_0_1 (savesOf501 0)) (savedCounts (savesOf501 0)) := by
    rintro ⟨w, hw, hsame⟩
    cases hw
    have hadapter : SameLayout (adapterDecl defaultConfig .v4_0_0)
        (adapterDecl defaultConfig .v5_0_1) := hsame .adapterInfo 1 rfl one_pos
    exact absurd hadapter.version_of_adapter_400 (by decide)
  refine ⟨rfl, hguess, fun ⟨w, hw, hsame⟩ => hread ⟨w, hw, fun item _ _ _ => hsame item⟩, hread⟩

end BtFramework.Storage
