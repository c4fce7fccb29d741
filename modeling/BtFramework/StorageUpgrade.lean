import BtFramework.StorageRecords

/-!
# An upgrade keeps the bonds

A list that is copied as a whole is kept only as far as its length in 16 bits reaches
(`copyList_eq_self`, `LostLast`).
-/

namespace BtFramework.Storage

open List

open CStruct FlatBuffer

variable {cfg : BuildConfig} {v v' : StorageVersion} {d d' : Decl Field}

/-! ## Lists -/

variable {β γ : Type} {old : StorageValue}

def listOf (d : Decl Field) (view : List UInt8 → β) (l : StorageValue) : List β :=
  (List.range l.items.toNat).map fun i => view (recordAtIndex d l i)

structure ListOk (d : Decl Field) (P : List UInt8 → Prop) (l : StorageValue) : Prop where
  block : l.value.length = l.items.toNat * d.sizeof
  length : l.valueLength = UInt16.ofNat (l.items.toNat * d.sizeof)
  records : ∀ i < l.items.toNat, P (recordAtIndex d l i)

theorem items_propertiesMalloc (d : Decl Field) (items : UInt16) (value : List UInt8) :
    (propertiesMalloc d items value).items = items := by
  unfold propertiesMalloc
  split
  next h => exact h.symm
  · rfl

theorem propertiesMalloc_eq {items : UInt16} {value : List UInt8}
    (h : value.length = items.toNat * d.sizeof) :
    propertiesMalloc d items value
      = { items, valueLength := UInt16.ofNat (items.toNat * d.sizeof), value } := by
  unfold propertiesMalloc
  split
  next hzero =>
    subst hzero
    rw [eq_nil_of_length_eq_zero (h.trans (Nat.zero_mul _))]
    show _ = StorageValue.mk 0 (UInt16.ofNat (0 * _)) []
    rw [Nat.zero_mul]
    rfl
  · rfl

variable {i n : Nat} {f : List UInt8 → List UInt8} {P : List UInt8 → Prop}
  {view : List UInt8 → β} {g : β → β} {l : StorageValue} {sel : StorageInfo → StorageValue}
  {view' : List UInt8 → β} {Q : List UInt8 → Prop}

structure ListStep (d d' : Decl Field) (Q : List UInt8 → Prop) (view view' : List UInt8 → β)
    (g : β → β) (l l' : StorageValue) : Prop where
  ok : ListOk d' Q l'
  items : l'.items = l.items
  content : listOf d' view' l' = (listOf d view l).map g

theorem ListStep.ofRecords {l' : StorageValue} (hitems : l'.items = l.items)
    (hblock : l'.value.length = l.items.toNat * d'.sizeof)
    (hlength : l'.valueLength = UInt16.ofNat (l.items.toNat * d'.sizeof))
    (hrec : ∀ i < l.items.toNat, Q (recordAtIndex d' l' i)
      ∧ view' (recordAtIndex d' l' i) = g (view (recordAtIndex d l i))) :
    ListStep d d' Q view view' g l l' := by
  rw [← hitems] at hblock hlength
  refine ⟨⟨hblock, hlength, fun i hi => (hrec i (hitems ▸ hi)).1⟩, hitems, ?_⟩
  rw [listOf, listOf, hitems, map_map]
  exact map_congr_left fun i hi => (hrec i (mem_range.mp hi)).2

theorem listStep_convertList (hold : ListOk d P old) (hlen : ∀ r, Q r → r.length = d'.sizeof)
    (hf : RecordStep P Q view view' g f) :
    ListStep d d' Q view view' g old (convertList d d' f old) := by
  let pieces := (List.range old.items.toNat).map fun i => f (recordAtIndex d old i)
  have hsize : ∀ piece ∈ pieces, piece.length = d'.sizeof := forall_mem_map.mpr fun i hi =>
    hlen _ (hf _ (hold.records i (mem_range.mp hi))).1
  have hblock : pieces.flatten.length = old.items.toNat * d'.sizeof := by
    rw [length_flatten, map_congr_left hsize, map_const', sum_replicate_nat, length_map,
      length_range]
  have hlist : convertList d d' f old
      = ⟨old.items, UInt16.ofNat (old.items.toNat * d'.sizeof), pieces.flatten⟩ := by
    exact propertiesMalloc_eq hblock
  rw [hlist]
  refine .ofRecords rfl hblock rfl fun i hi => ?_
  have hrec : read pieces.flatten (i * d'.sizeof) d'.sizeof = f (recordAtIndex d old i) := by
    refine read_flatten hsize ?_
    rw [getElem?_map, getElem?_range hi]
    rfl
  rw [recordAtIndex, hrec]
  exact hf _ (hold.records i hi)

theorem listStep_self (hold : ListOk d P old) (hsize : d'.sizeof = d.sizeof)
    (hf : RecordStep P Q view view' g id) : ListStep d d' Q view view' g old old := by
  refine .ofRecords rfl (by rw [hsize, hold.block]) (by rw [hsize, hold.length]) fun i hi => ?_
  rw [show recordAtIndex d' old i = recordAtIndex d old i by rw [recordAtIndex, hsize]; rfl]
  exact hf _ (hold.records i hi)

theorem toNat_ofNat_of_lt (h : n < 65536) : (UInt16.ofNat n).toNat = n := by
  exact Nat.mod_eq_of_lt h

theorem copyList_eq_self (hold : ListOk d P old) (hfit : old.items.toNat * d.sizeof < 65536) :
    copyList d old = old := by
  obtain ⟨items, valueLength, value⟩ := old
  obtain ⟨hblock, hlength, -⟩ := hold
  dsimp only at hblock hlength hfit
  subst hlength
  rw [copyList]
  rw [toNat_ofNat_of_lt hfit, Nat.sub_self, take_of_length_le (Nat.le_of_eq hblock), zeros,
    replicate_zero, append_nil, propertiesMalloc_eq hblock]

theorem convertFirst_eq (f : List UInt8 → List UInt8) (hone : old.items = 1) :
    convertFirst d d' f old = convertList d d' f old := by
  rw [convertFirst, convertList, hone]
  simp [zeros]

/-! ## What is stored -/

structure WrittenIn (cfg : BuildConfig) (v : StorageVersion) (s : StorageInfo) : Prop where
  one : s.adapter.items = 1
  adapter : ListOk (adapterDecl cfg v) (AdapterOk cfg v) s.adapter
  btbond : ListOk (btDecl cfg v) (BtOk cfg v) s.btbond
  blebond : ListOk (leDecl cfg v) (LeOk cfg v) s.blebond
  whitelist : ListOk (leDecl cfg v) (LeOk cfg v) s.whitelist

structure StoredBonds where
  adapter : List AdapterInfo
  btbond : List BtBond
  blebond : List LeBond
  whitelist : List LeBond

def storedBonds (cfg : BuildConfig) (v : StorageVersion) (s : StorageInfo) : StoredBonds :=
  { adapter := listOf (adapterDecl cfg v) (adapterInfo cfg v) s.adapter
    btbond := listOf (btDecl cfg v) (btBond cfg v) s.btbond
    blebond := listOf (leDecl cfg v) (leBond cfg v) s.blebond
    whitelist := listOf (leDecl cfg v) (leBond cfg v) s.whitelist }

def StoredBonds.cutNames (n : Nat) (b : StoredBonds) : StoredBonds :=
  { b with
    adapter := b.adapter.map (AdapterInfo.cutNames n)
    btbond := b.btbond.map (BtBond.cutNames n) }

structure Counts where
  btbond : UInt16
  blebond : UInt16
  whitelist : UInt16

def StorageInfo.counts (s : StorageInfo) : Counts :=
  { btbond := s.btbond.items, blebond := s.blebond.items, whitelist := s.whitelist.items }

variable {s s' : StorageInfo}

/-- One function of a version: what it makes is written in the next version and
means the same, but for names that are longer than the next version allows. -/
structure KeepsStep (cfg : BuildConfig) (v v' : StorageVersion) (s s' : StorageInfo) :
    Prop where
  adapter : ListStep (adapterDecl cfg v) (adapterDecl cfg v') (AdapterOk cfg v')
    (adapterInfo cfg v) (adapterInfo cfg v') (AdapterInfo.cutNames (nameSize cfg v' - 1))
    s.adapter s'.adapter
  btbond : ListStep (btDecl cfg v) (btDecl cfg v') (BtOk cfg v') (btBond cfg v) (btBond cfg v')
    (BtBond.cutNames (nameSize cfg v' - 1)) s.btbond s'.btbond
  blebond : ListStep (leDecl cfg v) (leDecl cfg v') (LeOk cfg v') (leBond cfg v) (leBond cfg v')
    id s.blebond s'.blebond
  whitelist : ListStep (leDecl cfg v) (leDecl cfg v') (LeOk cfg v') (leBond cfg v)
    (leBond cfg v') id s.whitelist s'.whitelist

theorem KeepsStep.writtenIn (h : KeepsStep cfg v v' s s') (hw : WrittenIn cfg v s) :
    WrittenIn cfg v' s' :=
  ⟨h.adapter.items.trans hw.one, h.adapter.ok, h.btbond.ok, h.blebond.ok, h.whitelist.ok⟩

theorem KeepsStep.counts (h : KeepsStep cfg v v' s s') : s'.counts = s.counts := by
  rw [StorageInfo.counts, h.btbond.items, h.blebond.items, h.whitelist.items]
  rfl

theorem KeepsStep.storedBonds (h : KeepsStep cfg v v' s s') :
    storedBonds cfg v' s' = (storedBonds cfg v s).cutNames (nameSize cfg v' - 1) := by
  simp only [Storage.storedBonds, StoredBonds.cutNames]
  rw [h.adapter.content, h.btbond.content, h.blebond.content, h.whitelist.content, map_id, map_id]

theorem WrittenIn.adapter_ne_zero (h : WrittenIn cfg v s) : s.adapter.items ≠ 0 := by
  rw [h.one]
  decide

def LeListsFit (cfg : BuildConfig) (v : StorageVersion) (c : Counts) : Prop :=
  c.blebond.toNat * (leDecl cfg v).sizeof < 65536
    ∧ c.whitelist.toNat * (leDecl cfg v).sizeof < 65536

theorem listStep_copyLe (hold : ListOk (leDecl cfg v) (LeOk cfg v) l)
    (hfit : l.items.toNat * (leDecl cfg v).sizeof < 65536) (v' : StorageVersion)
    (hdecl : leDecl cfg v' = leDecl cfg v) :
    ListStep (leDecl cfg v) (leDecl cfg v') (LeOk cfg v') (leBond cfg v) (leBond cfg v') id l
      (copyList (leDecl cfg v') l) := by
  have hcopy : copyList (leDecl cfg v') l = l := by
    rw [hdecl]
    exact copyList_eq_self hold hfit
  rw [hcopy]
  refine listStep_self hold (by rw [hdecl]) fun r hr => ⟨⟨?_, ?_⟩, ?_⟩
  · rw [hdecl]
    exact hr.length
  · rw [hdecl]
    exact hr.enums
  · rw [leBond, leBond, hdecl]
    rfl

theorem keepsStep_400_500 (h : WrittenIn cfg .v4_0_0 s) (hfit : LeListsFit cfg .v4_0_0 s.counts) :
    ∃ s', btStorageUpdateV400ToV500 cfg s = some s' ∧ KeepsStep cfg .v4_0_0 .v5_0_0 s s' := by
  refine ⟨_, if_neg h.adapter_ne_zero, ?_, ?_, ?_, ?_⟩
  · rw [convertFirst_eq _ h.one]
    exact listStep_convertList h.adapter (fun _ hr => hr.length) adapterInfo_convert
  · exact listStep_convertList h.btbond (fun _ hr => hr.length) btBond_400_500
  · exact listStep_copyLe h.blebond hfit.1 .v5_0_0 rfl
  · exact listStep_copyLe h.whitelist hfit.2 .v5_0_0 rfl

theorem keepsStep_500_501 (h : WrittenIn cfg .v5_0_0 s) (hfit : LeListsFit cfg .v5_0_0 s.counts) :
    ∃ s', btStorageUpdateV500ToV501 cfg s = some s' ∧ KeepsStep cfg .v5_0_0 .v5_0_1 s s' := by
  refine ⟨_, if_neg h.adapter_ne_zero, ?_, ?_, ?_, ?_⟩
  · rw [convertFirst_eq _ h.one]
    exact listStep_convertList h.adapter (fun _ hr => hr.length)
      (adapterInfo_copyRecord ⟨⟨[], rfl⟩⟩ (Nat.le_refl _))
  · exact listStep_convertList h.btbond (fun _ hr => hr.length) btBond_500_501
  · exact listStep_copyLe h.blebond hfit.1 .v5_0_1 rfl
  · exact listStep_copyLe h.whitelist hfit.2 .v5_0_1 rfl

theorem keepsStep_501_502 (h : WrittenIn cfg .v5_0_1 s) :
    ∃ s', btStorageUpdateV501ToV502 cfg s = some s' ∧ KeepsStep cfg .v5_0_1 .v5_0_2 s s' := by
  refine ⟨_, if_neg h.adapter_ne_zero, ?_, ?_, ?_, ?_⟩
  · rw [convertFirst_eq _ h.one]
    exact listStep_convertList h.adapter (fun _ hr => hr.length) adapterInfo_convert
  · exact listStep_convertList h.btbond (fun _ hr => hr.length) btBond_501_502
  · exact listStep_convertList h.blebond (fun _ hr => hr.length) leBond_convert
  · exact listStep_convertList h.whitelist (fun _ hr => hr.length) leBond_convert

theorem keepsStep_502_503 (h : WrittenIn cfg .v5_0_2 s)
    (hfit : s.btbond.items.toNat * (btDecl cfg .v5_0_2).sizeof < 65536) :
    ∃ s', btStorageUpdateV502ToV503 cfg s = some s' ∧ KeepsStep cfg .v5_0_2 .v5_0_3 s s' := by
  refine ⟨_, if_neg h.adapter_ne_zero, ?_, ?_, ?_, ?_⟩
  · rw [convertFirst_eq _ h.one]
    exact listStep_convertList h.adapter (fun _ hr => hr.length)
      (adapterInfo_copyRecord ⟨⟨[byteArray .irk 16], rfl⟩⟩ (sizeof_adapter_502_le cfg))
  · have hbt : copyList (btDecl cfg .v5_0_3) s.btbond = s.btbond :=
      copyList_eq_self h.btbond hfit
    rw [hbt]
    refine listStep_self h.btbond rfl fun r hr => ?_
    rw [hr.cutNames_eq_self .v5_0_3 (Nat.le_refl _)]
    exact ⟨⟨hr.length, hr.name, hr.aliasName, hr.enums⟩, rfl⟩
  · exact listStep_convertList h.blebond (fun _ hr => hr.length) leBond_502_503
  · exact listStep_convertList h.whitelist (fun _ hr => hr.length) leBond_502_503

/-! ## The whole upgrade -/

theorem StoredBonds.cutNames_cutNames (b : StoredBonds) (n m : Nat) :
    (b.cutNames m).cutNames n = b.cutNames (min n m) := by
  have hadapter : AdapterInfo.cutNames n ∘ AdapterInfo.cutNames m
      = AdapterInfo.cutNames (min n m) := by
    funext a
    simp only [AdapterInfo.cutNames, Function.comp, take_take]
  have hbt : BtBond.cutNames n ∘ BtBond.cutNames m = BtBond.cutNames (min n m) := by
    funext a
    simp only [BtBond.cutNames, Function.comp, take_take]
  simp only [StoredBonds.cutNames, map_map, hadapter, hbt]

theorem map_listOf_eq_self (hold : ListOk d P old) (hg : ∀ r, P r → g (view r) = view r) :
    (listOf d view old).map g = listOf d view old := by
  rw [listOf, map_map]
  exact map_congr_left fun i hi => hg _ (hold.records i (mem_range.mp hi))

theorem WrittenIn.cutNames_eq_self (h : WrittenIn cfg v s) (v' : StorageVersion)
    (hle : nameSize cfg v ≤ nameSize cfg v') :
    (storedBonds cfg v s).cutNames (nameSize cfg v' - 1) = storedBonds cfg v s := by
  rw [StoredBonds.cutNames, Storage.storedBonds]
  rw [map_listOf_eq_self h.adapter fun r hr => hr.cutNames_eq_self v' hle,
    map_listOf_eq_self h.btbond fun r hr => hr.cutNames_eq_self v' hle]

/-- The lengths the upgrade depends on: every upgrade copies the list of bonded
devices as a whole, and those from the first two versions the lists of LE devices. -/
def LengthsFit (cfg : BuildConfig) (v : StorageVersion) (c : Counts) : Prop :=
  c.btbond.toNat * (btDecl cfg .v5_0_2).sizeof < 65536
    ∧ (v = .v4_0_0 ∨ v = .v5_0_0 → LeListsFit cfg v c)

def Upgraded (cfg : BuildConfig) (v : StorageVersion) (s : StorageInfo) : Prop :=
  ∃ s', (versionMap cfg v).foldlM (fun s f => f s) s = some s'
    ∧ storedBonds cfg .v5_0_3 s' = (storedBonds cfg v s).cutNames cfg.remNameMaxLen

structure Reaches502 (cfg : BuildConfig) (v : StorageVersion) (s s₁ : StorageInfo) : Prop where
  written : WrittenIn cfg .v5_0_2 s₁
  counts : s₁.counts = s.counts
  content : (storedBonds cfg .v5_0_2 s₁).cutNames cfg.remNameMaxLen
    = (storedBonds cfg v s).cutNames cfg.remNameMaxLen
  rest : (versionMap cfg v).foldlM (fun s f => f s) s = btStorageUpdateV502ToV503 cfg s₁

theorem reaches502_self (h : WrittenIn cfg .v5_0_2 s) : Reaches502 cfg .v5_0_2 s s := by
  refine ⟨h, rfl, rfl, ?_⟩
  rw [versionMap, foldlM_cons]
  cases btStorageUpdateV502ToV503 cfg s <;> rfl

theorem Reaches502.before {s₁ : StorageInfo} {f : StorageInfo → Option StorageInfo}
    (h : Reaches502 cfg v' s' s₁) (hkeep : KeepsStep cfg v v' s s') (hf : f s = some s')
    (hmap : versionMap cfg v = f :: versionMap cfg v')
    (hcut : (storedBonds cfg v' s').cutNames cfg.remNameMaxLen
      = (storedBonds cfg v s).cutNames cfg.remNameMaxLen) : Reaches502 cfg v s s₁ := by
  refine ⟨h.written, h.counts.trans hkeep.counts, h.content.trans hcut, ?_⟩
  rw [hmap, foldlM_cons, hf]
  exact h.rest

theorem exists_reaches502_501 (h : WrittenIn cfg .v5_0_1 s) :
    ∃ s₁, Reaches502 cfg .v5_0_1 s s₁ := by
  obtain ⟨s', hs', hkeep⟩ := keepsStep_501_502 h
  refine ⟨s', (reaches502_self (hkeep.writtenIn h)).before hkeep hs' rfl ?_⟩
  rw [hkeep.storedBonds, StoredBonds.cutNames_cutNames]
  exact congrArg (StoredBonds.cutNames · _) (Nat.min_self _)

theorem exists_reaches502_500 (h : WrittenIn cfg .v5_0_0 s)
    (hfit : LeListsFit cfg .v5_0_0 s.counts) : ∃ s₁, Reaches502 cfg .v5_0_0 s s₁ := by
  obtain ⟨s', hs', hkeep⟩ := keepsStep_500_501 h hfit
  obtain ⟨s₁, hreach⟩ := exists_reaches502_501 (hkeep.writtenIn h)
  refine ⟨s₁, hreach.before hkeep hs' rfl ?_⟩
  rw [hkeep.storedBonds, h.cutNames_eq_self .v5_0_1 (Nat.le_refl _)]

theorem exists_reaches502_400 (h : WrittenIn cfg .v4_0_0 s)
    (hfit : LeListsFit cfg .v4_0_0 s.counts) : ∃ s₁, Reaches502 cfg .v4_0_0 s s₁ := by
  obtain ⟨s', hs', hkeep⟩ := keepsStep_400_500 h hfit
  have hfit' : LeListsFit cfg .v5_0_0 s'.counts := by
    rw [hkeep.counts]
    exact hfit
  obtain ⟨s₁, hreach⟩ := exists_reaches502_500 (hkeep.writtenIn h) hfit'
  refine ⟨s₁, hreach.before hkeep hs' rfl ?_⟩
  rw [hkeep.storedBonds, h.cutNames_eq_self .v5_0_0 nameSize_400_le]

theorem exists_reaches502 (hv : v ≠ .v5_0_3) (h : WrittenIn cfg v s)
    (hfit : v = .v4_0_0 ∨ v = .v5_0_0 → LeListsFit cfg v s.counts) :
    ∃ s₁, Reaches502 cfg v s s₁ := by
  cases v with
  | v4_0_0 => exact exists_reaches502_400 h (hfit (Or.inl rfl))
  | v5_0_0 => exact exists_reaches502_500 h (hfit (Or.inr rfl))
  | v5_0_1 => exact exists_reaches502_501 h
  | v5_0_2 => exact ⟨s, reaches502_self h⟩
  | v5_0_3 => exact absurd rfl hv

theorem upgraded (hv : v ≠ .v5_0_3) (h : WrittenIn cfg v s) (hfit : LengthsFit cfg v s.counts) :
    Upgraded cfg v s := by
  obtain ⟨s₁, hreach⟩ := exists_reaches502 hv h hfit.2
  have hbt : s₁.btbond.items.toNat * (btDecl cfg .v5_0_2).sizeof < 65536 := by
    have hitems : s₁.btbond.items = s.btbond.items := congrArg Counts.btbond hreach.counts
    rw [hitems]
    exact hfit.1
  obtain ⟨s', hs', hkeep⟩ := keepsStep_502_503 hreach.written hbt
  exact ⟨s', hreach.rest.trans hs', hkeep.storedBonds.trans hreach.content⟩

/-! ## Lists that are too long -/

def addrsOf (d : Decl Field) (l : StorageValue) : List (List UInt8) := listOf d (get d .addr) l

structure LostLast (d : Decl Field) (l : StorageValue) : Prop where
  ok : ListOk d (fun r => r.length = d.sizeof) l
  last : (addrsOf d l).getLast? = some (zeros 6)

theorem getLast?_addrsOf (hpos : 0 < l.items.toNat) :
    (addrsOf d l).getLast? = some (get d .addr (recordAtIndex d l (l.items.toNat - 1))) := by
  rw [addrsOf, listOf, getLast?_eq_getElem?, length_map, length_range,
    getElem?_map, getElem?_range (by omega)]
  rfl

theorem length_recordAtIndex (hblock : l.value.length = l.items.toNat * d.sizeof)
    (hi : i < l.items.toNat) :
    (recordAtIndex d l i).length = d.sizeof := by
  refine length_read ?_
  have := Nat.mul_le_mul_right d.sizeof hi
  rw [Nat.succ_mul] at this
  rw [hblock]
  exact this

theorem read_zeros_of_le {xs : List UInt8} {k off m : Nat} (hoff : xs.length ≤ off)
    (hm : off + m ≤ xs.length + k) : read (xs ++ zeros k) off m = zeros m := by
  rw [FlatBuffer.read, drop_append, drop_of_length_le hoff, nil_append, zeros,
    drop_replicate, take_replicate, Nat.min_eq_left (by omega)]
  rfl

theorem get_zeros {x : Field} (hx : x ∈ d.names) :
    get d x (zeros d.sizeof) = zeros (d.width x) := by
  have hle := Decl.offset_add_width_le hx
  rw [CStruct.get, FlatBuffer.read, zeros, drop_replicate, take_replicate,
    Nat.min_eq_left (by omega)]
  rfl

theorem pos_of_long {n : UInt16} {size : Nat} (h : 65536 ≤ n.toNat * size) : 0 < n.toNat := by
  by_contra hzero
  rw [Nat.eq_zero_of_not_pos hzero, Nat.zero_mul] at h
  omega

theorem lostLast_copyList (haddr : .addr ∈ d.names) (hwidth : d.width .addr = 6)
    (hsize : d.sizeof < 65536) (hold : ListOk d (fun r => r.length = d.sizeof) old)
    (hlong : 65536 ≤ old.items.toNat * d.sizeof) : LostLast d (copyList d old) := by
  have hblock := hold.block
  have hlen : old.valueLength.toNat = old.items.toNat * d.sizeof % 65536 := by
    rw [hold.length]
    exact UInt16.toNat_ofNat'
  have hpos := pos_of_long hlong
  have hlast : (old.items.toNat - 1) * d.sizeof + d.sizeof = old.items.toNat * d.sizeof := by
    rw [← Nat.succ_mul]
    congr 1
    omega
  have htake : (old.value.take old.valueLength.toNat).length = old.valueLength.toNat := by
    rw [length_take, hblock, hlen]
    omega
  have hblock' : (old.value.take old.valueLength.toNat
      ++ zeros (old.items.toNat * d.sizeof - old.valueLength.toNat)).length
        = old.items.toNat * d.sizeof := by
    rw [length_append, htake, zeros, length_replicate]
    omega
  rw [copyList, propertiesMalloc_eq hblock']
  refine ⟨⟨hblock', rfl, fun i hi => length_recordAtIndex hblock' hi⟩, ?_⟩
  rw [getLast?_addrsOf (by exact hpos), recordAtIndex]
  dsimp only
  rw [read_zeros_of_le (by omega) (by omega), get_zeros haddr, hwidth]

theorem LostLast.convertList (h : LostLast d old)
    (hf : ∀ r, r.length = d.sizeof → (f r).length = d'.sizeof
      ∧ get d' .addr (f r) = get d .addr r) :
    LostLast d' (convertList d d' f old) := by
  have hstep : ListStep d d' (fun r => r.length = d'.sizeof) (get d .addr) (get d' .addr) id old
      (Storage.convertList d d' f old) :=
    listStep_convertList h.ok (fun _ hr => hr) hf
  refine ⟨hstep.ok, ?_⟩
  rw [addrsOf, hstep.content, map_id]
  exact h.last

theorem sizeof_le_lt (cfg : BuildConfig) (v : StorageVersion) : (leDecl cfg v).sizeof < 65536 := by
  cases v <;> cases henum : cfg.shortEnums <;>
    simp [leDecl, Decl.sizeof, endFrom, alignUp, enumeration, henum, byteArray, uint8, uint32]

theorem lostLast_copyLe
    (hold : ListOk (leDecl cfg v) (fun r => r.length = (leDecl cfg v).sizeof) old)
    (hlong : 65536 ≤ old.items.toNat * (leDecl cfg v).sizeof) :
    LostLast (leDecl cfg v) (copyList (leDecl cfg v) old) :=
  lostLast_copyList (names_leDecl cfg v (.addr, .bytes) (by decide)) (width_leDecl cfg v).1
    (sizeof_le_lt cfg v) hold hlong

inductive LeList : (StorageInfo → StorageValue) → Prop where
  | blebond : LeList StorageInfo.blebond
  | whitelist : LeList StorageInfo.whitelist

section

variable (hsel : LeList sel)
include hsel

theorem lostLast_501_503 (hlost : LostLast (leDecl cfg .v5_0_1) (sel s))
    (h : (versionMap cfg .v5_0_1).foldlM (fun s f => f s) s = some s') :
    LostLast (leDecl cfg .v5_0_3) (sel s') := by
  obtain ⟨s₁, hs₁, h⟩ := Option.bind_eq_some_iff.mp h
  obtain ⟨s₂, hs₂, h⟩ := Option.bind_eq_some_iff.mp h
  have h502 : LostLast (leDecl cfg .v5_0_2) (convertList _ _ (convert _ _ leSteps) (sel s)) :=
    hlost.convertList fun r hr => ⟨length_convert,
      keeps_convert (s := (.addr, .bytes)) (convertible_le _ _) hr (by decide) nofun⟩
  have h503 : LostLast (leDecl cfg .v5_0_3) (convertList _ _ (copyRecord _ _) _) :=
    h502.convertList fun r hr => ⟨length_copyRecord (sizeof_le_502_le cfg) hr,
      get_copyRecord ⟨⟨[byteArray .localCsrk 16], rfl⟩⟩
        (names_leDecl cfg _ (.addr, .bytes) (by decide)) hr⟩
  cases h
  cases (Option.ite_none_left_eq_some.mp hs₁).2
  cases (Option.ite_none_left_eq_some.mp hs₂).2
  cases hsel <;> exact h503

theorem lostLast_500_503
    (hold : ListOk (leDecl cfg .v5_0_0) (fun r => r.length = (leDecl cfg .v5_0_0).sizeof) (sel s))
    (hlong : 65536 ≤ (sel s).items.toNat * (leDecl cfg .v5_0_0).sizeof)
    (h : (versionMap cfg .v5_0_0).foldlM (fun s f => f s) s = some s') :
    LostLast (leDecl cfg .v5_0_3) (sel s') := by
  obtain ⟨s₁, hs₁, h⟩ := Option.bind_eq_some_iff.mp h
  refine lostLast_501_503 hsel ?_ h
  have hlost := lostLast_copyLe hold hlong
  cases (Option.ite_none_left_eq_some.mp hs₁).2
  cases hsel <;> exact hlost

theorem lostLast_400_503
    (hold : ListOk (leDecl cfg .v4_0_0) (fun r => r.length = (leDecl cfg .v4_0_0).sizeof) (sel s))
    (hlong : 65536 ≤ (sel s).items.toNat * (leDecl cfg .v4_0_0).sizeof)
    (h : (versionMap cfg .v4_0_0).foldlM (fun s f => f s) s = some s') :
    LostLast (leDecl cfg .v5_0_3) (sel s') := by
  obtain ⟨s₁, hs₁, h⟩ := Option.bind_eq_some_iff.mp h
  have hlost := lostLast_copyLe hold hlong
  have hitems : (copyList (leDecl cfg .v4_0_0) (sel s)).items = (sel s).items :=
    items_propertiesMalloc _ _ _
  rw [← hitems] at hlong
  refine lostLast_500_503 hsel ?_ ?_ h <;> cases (Option.ite_none_left_eq_some.mp hs₁).2 <;>
    cases hsel
  exacts [hlost.ok, hlost.ok, hlong, hlong]

end

/-! ## Lists of a given length -/

def sampleRecord (d : Decl Field) : List UInt8 :=
  put d .addr (List.replicate 6 1) (zeros d.sizeof)

def sampleList (d : Decl Field) (n : UInt16) : StorageValue :=
  { items := n
    valueLength := UInt16.ofNat (n.toNat * d.sizeof)
    value := (List.replicate n.toNat (sampleRecord d)).flatten }

def sampleInfo (cfg : BuildConfig) (v : StorageVersion) (c : Counts) : StorageInfo :=
  { adapter := { items := 1, valueLength := UInt16.ofNat (1 * (adapterDecl cfg v).sizeof),
                 value := zeros (adapterDecl cfg v).sizeof }
    btbond := sampleList (btDecl cfg v) c.btbond
    blebond := sampleList (leDecl cfg v) c.blebond
    whitelist := sampleList (leDecl cfg v) c.whitelist
    gattHash := { items := 0, valueLength := 0, value := [] } }

theorem length_sampleRecord : (sampleRecord d).length = d.sizeof := by
  rw [sampleRecord, length_put, zeros, length_replicate]

theorem fits_sampleRecord (haddr : .addr ∈ d.names) (hwidth : d.width .addr = 6) :
    Fits d .addr (List.replicate 6 1) (zeros d.sizeof) :=
  ⟨haddr, Nat.le_of_eq hwidth.symm, by rw [zeros, length_replicate]⟩

theorem get_sampleRecord (haddr : .addr ∈ d.names) (hwidth : d.width .addr = 6) {x : Field}
    (hx : x ∈ d.names) (hne : x ≠ .addr) : get d x (sampleRecord d) = zeros (d.width x) := by
  rw [sampleRecord, get_put_of_ne (fits_sampleRecord haddr hwidth) hne hx, get_zeros hx]

theorem addr_sampleRecord (haddr : .addr ∈ d.names) (hwidth : d.width .addr = 6) :
    get d .addr (sampleRecord d) = List.replicate 6 1 := by
  rw [sampleRecord, get_put_self (fits_sampleRecord haddr hwidth), get_zeros haddr, hwidth]
  rfl

theorem recordAtIndex_sampleList {n : UInt16} (hi : i < n.toNat) :
    recordAtIndex d (sampleList d n) i = sampleRecord d := by
  refine read_flatten ?_ ?_
  · intro ys hys
    rw [eq_of_mem_replicate hys]
    exact length_sampleRecord
  · rw [getElem?_replicate, if_pos hi]

theorem listOk_sampleList (hP : P (sampleRecord d)) (n : UInt16) :
    ListOk d P (sampleList d n) where
  block := by
    rw [sampleList, length_flatten, map_replicate, sum_replicate_nat, length_sampleRecord]
  length := rfl
  records i hi := by
    rw [recordAtIndex_sampleList (by exact hi)]
    exact hP

theorem zero_mem_zeros (hn : 0 < n) : 0 ∈ zeros n := mem_replicate.mpr ⟨hn.ne', rfl⟩

theorem writtenIn_sampleInfo (cfg : BuildConfig) (v : StorageVersion) (c : Counts) :
    WrittenIn cfg v (sampleInfo cfg v c) := by
  have hbt := names_btDecl cfg v
  have hle := names_leDecl cfg v
  obtain ⟨hbaddr, -, hname, halias, -⟩ := width_btDecl cfg v
  have hpos := nameSize_pos cfg v
  refine ⟨rfl, ⟨?_, rfl, ?_⟩, listOk_sampleList ?_ _, listOk_sampleList ?_ _,
    listOk_sampleList ?_ _⟩
  · exact (length_replicate).trans (Nat.one_mul _).symm
  · intro i hi
    obtain rfl : i = 0 := Nat.lt_one_iff.mp hi
    have hzero : recordAtIndex (adapterDecl cfg v) (sampleInfo cfg v c).adapter 0
        = zeros (adapterDecl cfg v).sizeof := by
      rw [recordAtIndex, Nat.zero_mul]
      exact take_of_length_le (Nat.le_of_eq length_replicate)
    rw [hzero]
    refine ⟨length_replicate, ?_⟩
    rw [get_zeros (names_adapterDecl cfg v (.name, .str) (by decide)), (width_adapterDecl cfg v).1]
    exact zero_mem_zeros hpos
  · have haddr := hbt (.addr, .bytes) (by decide)
    refine ⟨length_sampleRecord, ?_, ?_, ?_⟩
    · rw [get_sampleRecord haddr hbaddr (hbt (.name, .str) (by decide)) (by decide), hname]
      exact zero_mem_zeros hpos
    · rw [get_sampleRecord haddr hbaddr (hbt (.aliasName, .str) (by decide)) (by decide), halias]
      exact zero_mem_zeros hpos
    · intro x hx
      have hmem : (x, Copy.int) ∈ btSteps ∧ x ≠ .addr := by
        revert x
        decide
      rw [get_sampleRecord haddr hbaddr (hbt _ hmem.1) hmem.2, zeros, natOf_replicate_zero]
      decide
  all_goals
    refine ⟨length_sampleRecord, ?_⟩
    intro x hx
    have hmem : (x, Copy.int) ∈ leSteps ∧ x ≠ .addr := by
      revert x
      decide
    rw [get_sampleRecord (hle (.addr, .bytes) (by decide)) (width_leDecl cfg v).1
      (hle _ hmem.1) hmem.2, zeros, natOf_replicate_zero]
    decide

theorem getLast?_addrsOf_sampleList (haddr : .addr ∈ d.names) (hwidth : d.width .addr = 6)
    {n : UInt16} (hn : 0 < n.toNat) :
    (addrsOf d (sampleList d n)).getLast? = some (List.replicate 6 1) := by
  have hlast : n.toNat - 1 < n.toNat := by omega
  have hget := getLast?_addrsOf (d := d) (l := sampleList d n) hn
  rw [hget]
  exact congrArg some ((congrArg _ (recordAtIndex_sampleList hlast)).trans
    (addr_sampleRecord haddr hwidth))

/-- The upgrade keeps all that lists of these lengths can hold, but for names that are too long. -/
def KeepsBonds (cfg : BuildConfig) (v : StorageVersion) (c : Counts) : Prop :=
  ∀ s, WrittenIn cfg v s → s.counts = c →
    ∃ s', btStorageUpdateHandler cfg s v = some s'
      ∧ storedBonds cfg .v5_0_3 s' = (storedBonds cfg v s).cutNames cfg.remNameMaxLen

theorem addrs_of_storedBonds (h : storedBonds cfg v' s' = (storedBonds cfg v s).cutNames n) :
    addrsOf (btDecl cfg v') s'.btbond = addrsOf (btDecl cfg v) s.btbond
      ∧ ∀ sel, LeList sel → addrsOf (leDecl cfg v') (sel s') = addrsOf (leDecl cfg v) (sel s) := by
  refine ⟨?_, ?_⟩
  · have haddr := congrArg (·.btbond.map BtBond.addr) h
    simp only [storedBonds, StoredBonds.cutNames, listOf, map_map] at haddr
    exact haddr
  · rintro sel (_ | _)
    · have haddr := congrArg (·.blebond.map LeBond.addr) h
      simp only [storedBonds, StoredBonds.cutNames, listOf, map_map] at haddr
      exact haddr
    · have haddr := congrArg (·.whitelist.map LeBond.addr) h
      simp only [storedBonds, StoredBonds.cutNames, listOf, map_map] at haddr
      exact haddr

theorem zeros_ne_ones : some (zeros 6) ≠ some (List.replicate 6 (1 : UInt8)) := by decide

theorem lostLast_of_long (hsel : LeList sel) (hv : v = .v4_0_0 ∨ v = .v5_0_0)
    (h : WrittenIn cfg v s) (hlong : 65536 ≤ (sel s).items.toNat * (leDecl cfg v).sizeof)
    (hs' : (versionMap cfg v).foldlM (fun s f => f s) s = some s') :
    LostLast (leDecl cfg .v5_0_3) (sel s') := by
  have hold : ListOk (leDecl cfg v) (fun r => r.length = (leDecl cfg v).sizeof) (sel s) := by
    cases hsel
    · exact ⟨h.blebond.block, h.blebond.length, fun i hi => (h.blebond.records i hi).length⟩
    · exact ⟨h.whitelist.block, h.whitelist.length, fun i hi => (h.whitelist.records i hi).length⟩
  rcases hv with rfl | rfl
  · exact lostLast_400_503 hsel hold hlong hs'
  · exact lostLast_500_503 hsel hold hlong hs'

theorem exists_lostLast_bt (hv : v ≠ .v5_0_3) (hsize : (btDecl cfg .v5_0_2).sizeof < 65536)
    (h : WrittenIn cfg v s) (hfit : v = .v4_0_0 ∨ v = .v5_0_0 → LeListsFit cfg v s.counts)
    (hlong : 65536 ≤ s.btbond.items.toNat * (btDecl cfg .v5_0_2).sizeof) :
    ∃ s', (versionMap cfg v).foldlM (fun s f => f s) s = some s'
      ∧ LostLast (btDecl cfg .v5_0_3) s'.btbond := by
  obtain ⟨s₁, hw, hcounts, -, hfold⟩ := exists_reaches502 hv h hfit
  rw [btStorageUpdateV502ToV503, if_neg hw.adapter_ne_zero] at hfold
  have hitems : s₁.btbond.items = s.btbond.items := congrArg Counts.btbond hcounts
  refine ⟨_, hfold, ?_⟩
  refine lostLast_copyList (names_btDecl cfg _ (.addr, .bytes) (by decide))
    (width_btDecl cfg _).1 hsize
    ⟨hw.btbond.block, hw.btbond.length, fun i hi => (hw.btbond.records i hi).length⟩ ?_
  rw [hitems]
  exact hlong

theorem sampleInfo_not_kept (hv : v ≠ .v5_0_3) (hsize : (btDecl cfg .v5_0_2).sizeof < 65536)
    {c : Counts} (hfit : v = .v4_0_0 ∨ v = .v5_0_0 → LeListsFit cfg v c)
    (hlong : 65536 ≤ c.btbond.toNat * (btDecl cfg .v5_0_2).sizeof) (n : Nat) :
    ∃ s', btStorageUpdateHandler cfg (sampleInfo cfg v c) v = some s'
      ∧ storedBonds cfg .v5_0_3 s' ≠ (storedBonds cfg v (sampleInfo cfg v c)).cutNames n := by
  obtain ⟨s', hs', hlost⟩ :=
    exists_lostLast_bt hv hsize (writtenIn_sampleInfo cfg v c) hfit hlong
  refine ⟨s', by rw [btStorageUpdateHandler, if_neg hv, hs'], fun hbonds => ?_⟩
  have hlast := hlost.last
  rw [(addrs_of_storedBonds hbonds).1] at hlast
  have hsample := getLast?_addrsOf_sampleList (names_btDecl cfg v (.addr, .bytes) (by decide))
    (width_btDecl cfg v).1 (pos_of_long hlong)
  exact zeros_ne_ones (hlast.symm.trans hsample)

theorem lengthsFit_of_keepsBonds (hv : v ≠ .v5_0_3)
    (hsize : (btDecl cfg .v5_0_2).sizeof < 65536) {c : Counts} (h : KeepsBonds cfg v c) :
    LengthsFit cfg v c := by
  have hw := writtenIn_sampleInfo cfg v c
  obtain ⟨s', hs', hbonds⟩ := h _ hw rfl
  have hle := (addrs_of_storedBonds hbonds).2
  have hfold := hs'
  rw [btStorageUpdateHandler, if_neg hv] at hfold
  have hfits : ∀ sel, LeList sel → (∃ n, sel (sampleInfo cfg v c) = sampleList (leDecl cfg v) n) →
      v = .v4_0_0 ∨ v = .v5_0_0 →
      (sel (sampleInfo cfg v c)).items.toNat * (leDecl cfg v).sizeof < 65536 := by
    intro sel hsel hsample hold
    by_contra hlong
    have hlong := Nat.le_of_not_lt hlong
    have hlast := (lostLast_of_long hsel hold hw hlong hfold).last
    obtain ⟨n, hn⟩ := hsample
    rw [hle sel hsel] at hlast
    rw [hn] at hlast hlong
    rw [getLast?_addrsOf_sampleList (names_leDecl cfg v (.addr, .bytes) (by decide))
      (width_leDecl cfg v).1 (by exact pos_of_long hlong)] at hlast
    exact zeros_ne_ones hlast.symm
  have hlefit : v = .v4_0_0 ∨ v = .v5_0_0 → LeListsFit cfg v c :=
    fun hold => ⟨hfits _ .blebond ⟨_, rfl⟩ hold, hfits _ .whitelist ⟨_, rfl⟩ hold⟩
  refine ⟨?_, hlefit⟩
  by_contra hlong
  obtain ⟨s₁, hs₁, hne⟩ := sampleInfo_not_kept hv hsize hlefit (Nat.le_of_not_lt hlong)
    cfg.remNameMaxLen
  rw [hs'] at hs₁
  cases hs₁
  exact hne hbonds

/-- An upgrade keeps lists of the given lengths, in number, order and meaning and with names cut
to the new capacity, exactly when the lengths fit in 16 bits. -/
theorem upgrade_keeps_iff_fit (hv : v ≠ .v5_0_3)
    (hsize : (btDecl cfg .v5_0_2).sizeof < 65536) (c : Counts) :
    KeepsBonds cfg v c ↔ LengthsFit cfg v c := by
  refine ⟨lengthsFit_of_keepsBonds hv hsize, ?_⟩
  rintro hfit s hw rfl
  rw [btStorageUpdateHandler, if_neg hv]
  exact upgraded hv hw hfit

theorem upgrade_of_two_bonds_kept :
    KeepsBonds defaultConfig .v4_0_0 { btbond := 2, blebond := 3, whitelist := 1 } :=
  (upgrade_keeps_iff_fit (by decide) (by decide) _).mpr ⟨by decide, fun _ => ⟨by decide, by decide⟩⟩

/-- 274 bonded devices stored by version 4.0.0 are not all kept. -/
theorem upgrade_of_274_bonds_not_kept :
    WrittenIn defaultConfig .v4_0_0
        (sampleInfo defaultConfig .v4_0_0 { btbond := 274, blebond := 0, whitelist := 0 })
      ∧ ∃ s', btStorageUpdateHandler defaultConfig
          (sampleInfo defaultConfig .v4_0_0 { btbond := 274, blebond := 0, whitelist := 0 })
          .v4_0_0 = some s'
        ∧ storedBonds defaultConfig .v5_0_3 s'
          ≠ (storedBonds defaultConfig .v4_0_0 (sampleInfo defaultConfig .v4_0_0
              { btbond := 274, blebond := 0, whitelist := 0 })).cutNames 64 :=
  ⟨writtenIn_sampleInfo _ _ _,
    sampleInfo_not_kept (by decide) (by decide) (fun _ => ⟨by decide, by decide⟩) (by decide) 64⟩

end BtFramework.Storage
