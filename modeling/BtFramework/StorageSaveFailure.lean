import BtFramework.Keyed
import BtFramework.StorageRoundTrip

/-!
# Failing saves

When a write or an allocation fails, the records written so far are deleted as well; without
memory the deletions do nothing and report nothing. A set is seen as the map from addresses to
the rest of the records (`Contents`): a failing save acts on this map, and what loading gives
depends on it alone.
-/

namespace BtFramework.Storage

open Keyed List

/-! ## The save functions with failures -/

/-- Which calls succeed: the allocation of the save's own `prop_name`, those in the two calls of
`bt_storage_delete`, that of the loop over the records, and the writes by their position. -/
structure Outcomes where
  propName : Bool
  firstDelete : Bool
  loopName : Bool
  setKey : Nat → Bool
  secondDelete : Bool

inductive SaveError where
  | nomem
  | setKey

def tryDelete (alloc : Bool) (api : PropertyApi) (heap : Nat → UInt8) (db : Kvdb)
    (key : PropName) : Option Kvdb :=
  if alloc then btStorageDelete api heap db key (countItems api db key) else some db

def setKeys (api : PropertyApi) (key : PropName) (ok : Nat → Bool) :
    Nat → Kvdb → List DeviceRecord → Kvdb × Option SaveError
  | _, db, [] => (db, none)
  | i, db, r :: rs =>
    if ok i then
      setKeys api key ok (i + 1) (propertySetBinary db (genPropKey api key r.addr) r.tail) rs
    else (db, some .setKey)

def trySaveRemoteDevice (api : PropertyApi) (o : Outcomes) (db : Kvdb) (key : PropName) :
    Option (List DeviceRecord) → Kvdb × Option SaveError
  | none => (db, none)
  | some rs => if !o.loopName then (db, some .nomem) else setKeys api key o.setKey 0 db rs

/-- A save in which calls may fail. -/
def trySaveStore (st : Store) (api : PropertyApi) (heap heap' : Nat → UInt8) (o : Outcomes)
    (db : Kvdb) (remote : Option (List DeviceRecord)) : Option (Kvdb × Option SaveError) :=
  if !o.propName then some (db, some .nomem)
  else
    (tryDelete o.firstDelete api heap db st.key).bind fun db =>
      match trySaveRemoteDevice api o db st.key (remote.map saved) with
      | (db, none) => some (db, none)
      | (db, some e) =>
        (tryDelete o.secondDelete api heap' db st.key).map fun db => (db, some e)

def writtenFrom (ok : Nat → Bool) : Nat → List DeviceRecord → List DeviceRecord
  | _, [] => []
  | i, r :: rs => if ok i then r :: writtenFrom ok (i + 1) rs else []

theorem writtenFrom_sublist (ok : Nat → Bool) (i : Nat) (rs : List DeviceRecord) :
    (writtenFrom ok i rs).Sublist rs := by
  induction rs generalizing i with
  | nil => exact List.Sublist.refl _
  | cons r rs ih =>
    rw [writtenFrom]
    split
    · exact (ih (i + 1)).cons_cons r
    · exact nil_sublist _

theorem fst_setKeys (api : PropertyApi) (key : PropName) (ok : Nat → Bool) (i : Nat) (db : Kvdb)
    (rs : List DeviceRecord) :
    (setKeys api key ok i db rs).1
      = btStorageSaveRemoteDevice api db key (writtenFrom ok i rs) := by
  induction rs generalizing i db with
  | nil => rfl
  | cons r rs ih =>
    rw [setKeys, writtenFrom]
    split
    · exact ih (i + 1) _
    · rfl

theorem setKeys_of_ok (api : PropertyApi) (key : PropName) (ok : Nat → Bool)
    (hok : ∀ i, ok i = true) (i : Nat) (db : Kvdb) (rs : List DeviceRecord) :
    setKeys api key ok i db rs = (btStorageSaveRemoteDevice api db key rs, none) := by
  induction rs generalizing i db with
  | nil => rfl
  | cons r rs ih =>
    rw [setKeys, if_pos (hok i), ih]
    rfl

theorem trySaveStore_of_ok (st : Store) (api : PropertyApi) (heap heap' : Nat → UInt8)
    {o : Outcomes} (hname : o.propName = true) (hdelete : o.firstDelete = true)
    (hloop : o.loopName = true) (hset : ∀ i, o.setKey i = true) (db : Kvdb)
    (rs : List DeviceRecord) :
    trySaveStore st api heap heap' o db (some rs)
      = (saveStore st api heap db rs).map fun db => (db, none) := by
  rw [trySaveStore, saveStore, hname, tryDelete, hdelete, if_neg (by decide), if_pos rfl]
  cases btStorageDelete api heap db st.key (countItems api db st.key) with
  | none => rfl
  | some db =>
    simp only [Option.bind_some, Option.map_some, trySaveRemoteDevice, hloop,
      setKeys_of_ok api st.key o.setKey hset]
    rfl

/-! ## The set as a map -/

abbrev Contents := AddrBytes → Option (List UInt8)

def Contents.put (m : Contents) (rs : List DeviceRecord) : Contents :=
  rs.foldl (fun m r => Function.update m r.addr (some r.tail)) m

def recordMap (rs : List DeviceRecord) : Contents := fun addr =>
  (rs.find? fun r => r.addr = addr).map DeviceRecord.tail

theorem recordMap_eq_some_iff {rs : List DeviceRecord}
    (hnodup : (rs.map DeviceRecord.addr).Nodup) (r : DeviceRecord) :
    recordMap rs r.addr = some r.tail ↔ r ∈ rs := by
  rw [recordMap, Option.map_eq_some_iff]
  constructor
  · rintro ⟨s, hs, htail⟩
    obtain ⟨hmem, haddr⟩ := (find?_eq_some hnodup).mp hs
    have heq : s = r := by
      cases s
      cases r
      exact congrArg₂ DeviceRecord.mk haddr htail
    exact heq ▸ hmem
  · exact fun hr => ⟨r, (find?_eq_some hnodup).mpr ⟨hr, rfl⟩, rfl⟩

theorem recordMap_eq_none {rs : List DeviceRecord} {addr : AddrBytes}
    (h : ∀ r ∈ rs, r.addr ≠ addr) : recordMap rs addr = none := by
  rw [recordMap, find?_eq_none.mpr fun r hr => by simpa using h r hr]
  rfl

variable {api : PropertyApi} {cfg : BuildConfig} {heap heap' : Nat → UInt8} {db₀ db db' : Kvdb}
  {st : Store} {lay : Layout} {m : Contents} {old rs : List DeviceRecord}

structure HoldsIn (api : PropertyApi) (lay : Layout) (st : Store) (db₀ : Kvdb) (m : Contents)
    (db : Kvdb) : Prop where
  contents : ∀ addr : AddrBytes, addr.length = 6 →
    propertyGetBinary db (genPropKey api st.key addr) = m addr
  generated : ∀ name ∈ namesOf api db st.key,
    ∃ addr : AddrBytes, addr.length = 6 ∧ name = genPropKey api st.key addr
  others : ∀ name, st.key.isPrefixOf name = false →
    propertyGetBinary db name = propertyGetBinary db₀ name
  sized : ∀ addr t, m addr = some t → addr.length = 6 ∧ t.length = lay.size - lay.tail

def storedRecords (api : PropertyApi) (st : Store) (db : Kvdb) : List DeviceRecord :=
  (namesOf api db st.key).map (recordAt db st.key)

section

variable (h : HoldsIn api lay st db₀ m db)
include h

theorem HoldsIn.mem_storedRecords_iff (r : DeviceRecord) :
    r ∈ storedRecords api st db ↔ m r.addr = some r.tail := by
  constructor
  · intro hr
    obtain ⟨name, hname, rfl⟩ := mem_map.mp hr
    obtain ⟨addr, hlen, rfl⟩ := h.generated name hname
    have haddr : (recordAt db st.key (genPropKey api st.key addr)).addr = addr :=
      parsePropKey_genPropKey hlen
    rw [haddr, ← h.contents addr hlen]
    exact propertyGetBinary_of_mem hname
  · intro hr
    have hlen := (h.sized r.addr r.tail hr).1
    have hget := (h.contents r.addr hlen).trans hr
    have hname : genPropKey api st.key r.addr ∈ namesOf api db st.key :=
      mem_namesOf.mpr ⟨isPrefixOf_genPropKey hlen, r.tail, hget⟩
    refine mem_map.mpr ⟨genPropKey api st.key r.addr, hname, ?_⟩
    rw [recordAt, parsePropKey_genPropKey hlen, storedTail, hget]
    rfl

theorem HoldsIn.of :
    ∀ r ∈ storedRecords api st db, r.Of lay := by
  intro r hr
  obtain ⟨haddr, htail⟩ := h.sized r.addr r.tail ((h.mem_storedRecords_iff r).mp hr)
  exact ⟨haddr, htail⟩

theorem HoldsIn.savedNames_eq :
    savedNames api st (storedRecords api st db) = namesOf api db st.key := by
  rw [savedNames, storedRecords, map_map]
  refine (map_congr_left fun name hname => ?_).trans (map_id _)
  obtain ⟨addr, hlen, rfl⟩ := h.generated name hname
  exact congrArg (genPropKey api st.key) (parsePropKey_genPropKey hlen)

theorem HoldsIn.nodup_addr :
    ((storedRecords api st db).map DeviceRecord.addr).Nodup := by
  refine Nodup.of_map (genPropKey api st.key) ?_
  rw [map_map]
  exact (congrArg Nodup h.savedNames_eq).mpr nodup_namesOf

theorem HoldsIn.savedIn :
    SavedIn api st db₀ (storedRecords api st db) db where
  names := by rw [h.savedNames_eq]
  tails r hr := by
    have hr := (h.mem_storedRecords_iff r).mp hr
    exact (h.contents r.addr (h.sized r.addr r.tail hr).1).trans hr
  others := h.others

theorem HoldsIn.storesOk (hok : StoresOk api db₀)
    (hcount : (namesOf api db st.key).length < 65536) : StoresOk api db :=
  h.savedIn.storesOk hok h.of (by rwa [storedRecords, length_map])

end

theorem SavedIn.holdsIn (h : SavedIn api st db₀ rs db) (hof : ∀ r ∈ rs, r.Of lay)
    (hnodup : (rs.map DeviceRecord.addr).Nodup) :
    HoldsIn api lay st db₀ (recordMap rs) db := by
  have hnames : ∀ name ∈ namesOf api db st.key, ∃ r ∈ rs, name = genPropKey api st.key r.addr := by
    intro name hname
    obtain ⟨r, hr, heq⟩ := mem_map.mp (h.names.mem_iff.mp hname)
    exact ⟨r, hr, heq.symm⟩
  refine ⟨fun addr hlen => ?_, fun name hname => ?_, h.others, fun addr t ht => ?_⟩
  · by_cases hmem : ∃ r ∈ rs, r.addr = addr
    · obtain ⟨r, hr, rfl⟩ := hmem
      rw [h.tails r hr, (recordMap_eq_some_iff hnodup r).mpr hr]
    · rw [recordMap_eq_none fun r hr heq => hmem ⟨r, hr, heq⟩]
      refine Option.eq_none_iff_forall_ne_some.mpr fun t ht => hmem ?_
      obtain ⟨r, hr, heq⟩ :=
        hnames _ (mem_namesOf.mpr ⟨isPrefixOf_genPropKey hlen, t, ht⟩)
      exact ⟨r, hr, (genPropKey_inj hlen (hof r hr).addr heq).symm⟩
  · obtain ⟨r, hr, heq⟩ := hnames name hname
    exact ⟨r.addr, (hof r hr).addr, heq⟩
  · have hr := (recordMap_eq_some_iff hnodup ⟨addr, t⟩).mp ht
    exact ⟨(hof _ hr).addr, (hof _ hr).tail⟩

/-! ## The operations on the map -/

section

variable (h : HoldsIn api lay st db₀ m db)
include h

theorem HoldsIn.set {r : DeviceRecord} (hr : r.Of lay) :
    HoldsIn api lay st db₀ (Function.update m r.addr (some r.tail))
      (propertySetBinary db (genPropKey api st.key r.addr) r.tail) := by
  have hprefixed : st.key.isPrefixOf (genPropKey api st.key r.addr) = true :=
    isPrefixOf_genPropKey hr.addr
  have hget : ∀ name, name ≠ genPropKey api st.key r.addr →
      propertyGetBinary (propertySetBinary db (genPropKey api st.key r.addr) r.tail) name
        = propertyGetBinary db name := fun name hne => AList.lookup_insert_ne hne
  refine ⟨fun addr hlen => ?_, fun name hname => ?_, fun name hname => ?_, fun addr t ht => ?_⟩
  · by_cases heq : addr = r.addr
    · rw [heq, Function.update_self]
      exact AList.lookup_insert db
    · rw [Function.update_of_ne heq, hget _ fun hname => heq (genPropKey_inj hlen hr.addr hname)]
      exact h.contents addr hlen
  · by_cases heq : name = genPropKey api st.key r.addr
    · exact ⟨r.addr, hr.addr, heq⟩
    · obtain ⟨hpre, v, hv⟩ := mem_namesOf.mp hname
      rw [hget name heq] at hv
      exact h.generated name (mem_namesOf.mpr ⟨hpre, v, hv⟩)
  · rw [hget name fun heq => by rw [heq, hprefixed] at hname; cases hname]
    exact h.others name hname
  · by_cases heq : addr = r.addr
    · rw [heq, Function.update_self] at ht
      rw [heq, ← Option.some.inj ht]
      exact ⟨hr.addr, hr.tail⟩
    · rw [Function.update_of_ne heq] at ht
      exact h.sized addr t ht

theorem HoldsIn.put (hof : ∀ r ∈ rs, r.Of lay) :
    HoldsIn api lay st db₀ (m.put rs) (btStorageSaveRemoteDevice api db st.key rs) := by
  induction rs generalizing m db with
  | nil => exact h
  | cons r rs ih =>
    exact ih (h.set (hof r mem_cons_self)) fun s hs => hof s (mem_cons_of_mem r hs)

theorem HoldsIn.delete (hok : StoresOk api db₀)
    (hdelete : btStorageDelete api heap db st.key (countItems api db st.key) = some db') :
    HoldsIn api lay st db₀ (fun _ => none) db' := by
  obtain ⟨p, hlist, -⟩ := Option.map_eq_some_iff.mp hdelete
  obtain ⟨cleared, hcleared, hget⟩ :=
    exists_btStorageDelete (h.storesOk hok (length_namesOf_lt hlist)) st heap
  obtain rfl : cleared = db' := Option.some.inj (hcleared.symm.trans hdelete)
  refine ⟨fun addr hlen => ?_, fun name hname => ?_, fun name hname => ?_, fun addr t ht => ?_⟩
  · rw [hget, if_pos (isPrefixOf_genPropKey hlen)]
  · obtain ⟨hpre, v, hv⟩ := mem_namesOf.mp hname
    rw [hget, if_pos hpre] at hv
    exact absurd hv.symm (Option.some_ne_none v)
  · rw [hget, if_neg (by rw [hname]; decide)]
    exact h.others name hname
  · exact absurd ht.symm (Option.some_ne_none t)

theorem HoldsIn.tryDelete (hok : StoresOk api db₀) {alloc : Bool}
    (hdelete : tryDelete alloc api heap db st.key = some db') :
    HoldsIn api lay st db₀ (if alloc then fun _ => none else m) db' := by
  rw [Storage.tryDelete] at hdelete
  split at hdelete
  next halloc =>
    rw [if_pos halloc]
    exact h.delete hok hdelete
  next halloc =>
    rw [if_neg halloc]
    cases hdelete
    exact h

end

def Outcomes.written (o : Outcomes) (rs : List DeviceRecord) : List DeviceRecord :=
  if o.loopName then writtenFrom o.setKey 0 (saved rs) else []

variable (o : Outcomes)

theorem Outcomes.written_sublist (rs : List DeviceRecord) : (o.written rs).Sublist (saved rs) := by
  rw [written]
  split
  · exact writtenFrom_sublist o.setKey 0 (saved rs)
  · exact nil_sublist _

theorem fst_trySaveRemoteDevice (db : Kvdb) (rs : List DeviceRecord) :
    (trySaveRemoteDevice api o db st.key (some (saved rs))).1
      = btStorageSaveRemoteDevice api db st.key (o.written rs) := by
  rw [trySaveRemoteDevice, Outcomes.written]
  cases o.loopName with
  | false => rfl
  | true => exact fst_setKeys api st.key o.setKey 0 db (saved rs)

def Outcomes.leaves (o : Outcomes) (m : Contents) (rs : List DeviceRecord) : Contents :=
  if !o.propName then m
  else if o.secondDelete then fun _ => none
  else Contents.put (if o.firstDelete then fun _ => none else m) (o.written rs)

theorem HoldsIn.failed (h : HoldsIn api lay st db₀ m db) (hok : StoresOk api db₀) {o : Outcomes}
    {remote : Option (List DeviceRecord)} {e : SaveError} (hof : ∀ r ∈ remote.getD [], r.Of lay)
    (hsave : trySaveStore st api heap heap' o db remote = some (db', some e)) :
    HoldsIn api lay st db₀ (o.leaves m (remote.getD [])) db' := by
  rw [trySaveStore] at hsave
  rw [Outcomes.leaves]
  split at hsave
  next hname =>
    rw [if_pos hname]
    cases hsave
    exact h
  next hname =>
    rw [if_neg hname]
    obtain ⟨db₁, hfirst, hsave⟩ := Option.bind_eq_some_iff.mp hsave
    have h₁ := h.tryDelete hok hfirst
    cases remote with
    | none => cases hsave
    | some rs =>
      have h₂ := h₁.put fun r hr => hof r
        (mem_of_mem_take ((o.written_sublist rs).subset hr))
      rw [← fst_trySaveRemoteDevice] at h₂
      split at hsave
      · cases hsave
      next db₂ e' hremote =>
        obtain ⟨db₃, hsecond, heq⟩ := Option.map_eq_some_iff.mp hsave
        rw [Option.map_some] at hremote
        rw [hremote] at h₂
        cases heq
        exact h₂.tryDelete hok hsecond

/-! ## Loading -/

/-- The set loads as `rs`, in any order. -/
def LoadsBack (cfg : BuildConfig) (api : PropertyApi) (st : Store) (db : Kvdb)
    (rs : List DeviceRecord) : Prop :=
  ∀ heap, ∃ out, st.load cfg api heap db = some out ∧ out.Perm rs

theorem HoldsIn.storedRecords_perm_iff (h : HoldsIn api lay st db₀ m db)
    (hnodup : (rs.map DeviceRecord.addr).Nodup) :
    (storedRecords api st db).Perm rs ↔ m = recordMap rs := by
  rw [perm_ext_iff_of_nodup h.nodup_addr.of_map hnodup.of_map]
  constructor
  · intro hmem
    funext addr
    refine Option.ext fun t => ?_
    have hr := hmem ⟨addr, t⟩
    rw [h.mem_storedRecords_iff, ← recordMap_eq_some_iff hnodup] at hr
    exact hr
  · rintro rfl r
    rw [h.mem_storedRecords_iff, recordMap_eq_some_iff hnodup]

theorem Loadable.of_perm (h : Loadable cfg st rs) (hperm : rs.Perm old) : Loadable cfg st old := by
  refine ⟨hperm.length_eq ▸ h.1, fun hst => ?_⟩
  rcases h.2 hst with rfl | ⟨hone, henum⟩
  · exact Or.inl (nil_perm.mp hperm)
  · exact Or.inr ⟨hperm.length_eq ▸ hone, henum⟩

theorem length_namesOf_lt_of_load {out : List DeviceRecord}
    (h : loadStore st cfg api heap db = some out) (hne : out ≠ []) :
    (namesOf api db st.key).length < 65536 := by
  rw [loadStore] at h
  split at h
  · exact absurd (Option.some.inj h).symm hne
  · obtain ⟨value, hvalue, -⟩ := Option.map_eq_some_iff.mp h
    obtain ⟨p, hlist, -⟩ := Option.bind_eq_some_iff.mp hvalue
    exact length_namesOf_lt hlist

theorem HoldsIn.loadsBack_iff (h : HoldsIn api (st.layout cfg) st db₀ m db)
    (hok : StoresOk api db₀) (hnodup : (rs.map DeviceRecord.addr).Nodup)
    (hcount : rs = [] → (namesOf api db st.key).length < 65536) :
    LoadsBack cfg api st db rs ↔ Loadable cfg st rs ∧ m = recordMap rs := by
  rw [LoadsBack, Store.load_eq, ← h.storedRecords_perm_iff hnodup]
  constructor
  · intro hload
    obtain ⟨out, hout, hperm⟩ := hload fun _ => 0
    have hlt : (namesOf api db st.key).length < 65536 := by
      by_cases hrs : rs = []
      · exact hcount hrs
      · exact length_namesOf_lt_of_load hout fun hnil => hrs (nil_perm.mp (hnil ▸ hperm))
    have hok' := h.storesOk hok hlt
    have hloadable : Loadable cfg st (storedRecords api st db) :=
      ⟨by rwa [storedRecords, length_map], h.savedIn.loadable hok' h.of hload⟩
    obtain ⟨out', hout', hperm'⟩ := h.savedIn.exists_load hok' h.of hloadable
    obtain rfl : out = out' := Option.some.inj (hout.symm.trans hout')
    have hsame := hperm'.symm.trans hperm
    exact ⟨hloadable.of_perm hsame, hsame⟩
  · rintro ⟨hloadable, hsame⟩ heap
    have hlt : (namesOf api db st.key).length < 65536 := by
      have hlength := hsame.length_eq
      rw [storedRecords, length_map] at hlength
      exact hlength ▸ hloadable.1
    obtain ⟨out, hout, hperm⟩ :=
      h.savedIn.exists_load (h.storesOk hok hlt) h.of (hloadable.of_perm hsame.symm)
    exact ⟨out, hout, hperm.trans hsame⟩

/-! ## Failing saves and the old list -/

theorem put_eq_some {ws : List DeviceRecord} {addr : AddrBytes} {t : List UInt8}
    (h : m.put ws addr = some t) : m addr = some t ∨ addr ∈ ws.map DeviceRecord.addr := by
  induction ws generalizing m with
  | nil => exact Or.inl h
  | cons w ws ih =>
    rcases ih h with hm | hmem
    · by_cases heq : addr = w.addr
      · exact Or.inr (heq ▸ mem_cons_self)
      · refine Or.inl ?_
        rwa [← Function.update_of_ne heq (some w.tail) m]
    · exact Or.inr (mem_cons_of_mem _ hmem)

theorem HoldsIn.length_namesOf_le {ws : List DeviceRecord}
    (h : HoldsIn api lay st db₀ (Contents.put (fun _ => none) ws) db) :
    (namesOf api db st.key).length ≤ ws.length := by
  have hsub : (storedRecords api st db).map DeviceRecord.addr ⊆ ws.map DeviceRecord.addr := by
    intro addr haddr
    obtain ⟨r, hr, rfl⟩ := mem_map.mp haddr
    rcases put_eq_some ((h.mem_storedRecords_iff r).mp hr) with hnone | hmem
    · exact absurd hnone.symm (Option.some_ne_none r.tail)
    · exact hmem
  have hle := (subperm_of_subset h.nodup_addr hsub).length_le
  rwa [length_map, length_map, storedRecords, length_map] at hle

theorem recordMap_nil : recordMap [] = fun _ => none := rfl

theorem recordMap_eq_none_iff : (recordMap rs = fun _ => none) ↔ rs = [] := by
  refine ⟨fun h => eq_nil_iff_forall_not_mem.mpr fun r hr => ?_, fun h => h ▸ recordMap_nil⟩
  have hnone := congrFun h r.addr
  rw [recordMap, Option.map_eq_none_iff] at hnone
  exact find?_eq_none hnone hr rfl

theorem Outcomes.leaves_none (rs : List DeviceRecord) :
    ∃ ws : List DeviceRecord, ws.length < 65536
      ∧ o.leaves (fun _ => none) rs = Contents.put (fun _ => none) ws := by
  rw [leaves]
  split
  · exact ⟨[], by decide, rfl⟩
  · split
    · exact ⟨[], by decide, rfl⟩
    · refine ⟨o.written rs, ?_, by rw [ite_self]⟩
      exact Nat.lt_of_le_of_lt ((o.written_sublist rs).length_le.trans (length_take_le _ _))
        (Nat.mod_lt _ (by decide))

/-- Nothing was deleted, or what is left after the failure is the old set. -/
def Outcomes.Keeps (o : Outcomes) (old rs : List DeviceRecord) : Prop :=
  o.propName = false ∨ o.secondDelete = true ∧ old = []
    ∨ o.secondDelete = false
      ∧ Contents.put (if o.firstDelete then fun _ => none else recordMap old) (o.written rs)
        = recordMap old

theorem Outcomes.leaves_eq_iff (old rs : List DeviceRecord) :
    o.leaves (recordMap old) rs = recordMap old ↔ o.Keeps old rs := by
  rw [leaves, Keeps]
  cases o.propName with
  | false => exact iff_of_true rfl (Or.inl rfl)
  | true =>
    cases o.secondDelete with
    | false => simp
    | true =>
      change (fun _ => none) = recordMap old ↔ _
      rw [eq_comm, recordMap_eq_none_iff]
      simp

theorem holdsIn_of_save (hok : StoresOk api db₀) (hof : ∀ r ∈ rs, r.Of lay)
    (hnodup : (rs.map DeviceRecord.addr).Nodup) (hlen : rs.length < 65536)
    (hsave : st.save api heap db₀ rs = some db) :
    HoldsIn api lay st db₀ (recordMap rs) db := by
  obtain ⟨stored, hstored, hsaved⟩ := exists_saveStore st hok heap hof hnodup
  rw [Store.save_eq] at hsave
  obtain rfl : stored = db := Option.some.inj (hstored.symm.trans hsave)
  rw [saved_eq_self hlen] at hsaved
  exact hsaved.holdsIn hof hnodup

/-- For every old list and every new one, and every way a save can fail: the old list loads
afterwards exactly if it can be loaded at all and the failure keeps it. -/
theorem failed_save_keeps_iff (cfg : BuildConfig) (st : Store) (hok : StoresOk api db₀)
    (hold : ∀ r ∈ old, r.Of (st.layout cfg)) (hnodup : (old.map DeviceRecord.addr).Nodup)
    (hlen : old.length < 65536) {heap₀ : Nat → UInt8}
    (hprev : st.save api heap₀ db₀ old = some db) {o : Outcomes}
    {remote : Option (List DeviceRecord)} (hnew : ∀ r ∈ remote.getD [], r.Of (st.layout cfg))
    {e : SaveError} (hfail : trySaveStore st api heap heap' o db remote = some (db', some e)) :
    LoadsBack cfg api st db' old ↔ Loadable cfg st old ∧ o.Keeps old (remote.getD []) := by
  have hleft := (holdsIn_of_save hok hold hnodup hlen hprev).failed hok hnew hfail
  rw [hleft.loadsBack_iff hok hnodup, o.leaves_eq_iff]
  -- an empty old list is not confused with a set of 65536 names, which no save can write
  rintro rfl
  obtain ⟨ws, hws, heq⟩ := o.leaves_none (remote.getD [])
  rw [recordMap_nil, heq] at hleft
  exact Nat.lt_of_le_of_lt hleft.length_namesOf_le hws

def noMemory : Outcomes := ⟨false, true, true, fun _ => true, true⟩

def noWrites : Outcomes := ⟨true, true, true, fun _ => false, true⟩

theorem sampleRecords_whitelist :
    ∀ r ∈ sampleRecords 98, r.Of (Store.bleWhitelist.layout defaultConfig) :=
  sampleRecords_of rfl

theorem whitelist_kept_without_memory :
    ∃ db, Store.bleWhitelist.save sampleApi (fun _ => 0) ∅ (sampleRecords 98) = some db
      ∧ trySaveStore .bleWhitelist sampleApi (fun _ => 0) (fun _ => 0) noMemory db none
        = some (db, some .nomem)
      ∧ LoadsBack defaultConfig sampleApi .bleWhitelist db (sampleRecords 98) := by
  obtain ⟨db, hsave, -⟩ := exists_saveStore .bleWhitelist
    (by exact storesOk_empty : StoresOk sampleApi ∅) (fun _ => 0) sampleRecords_whitelist
    (by decide)
  rw [← Store.save_eq] at hsave
  have hfail : trySaveStore .bleWhitelist sampleApi (fun _ => 0) (fun _ => 0) noMemory db none
      = some (db, some .nomem) := rfl
  have hnone : ∀ r ∈ (none : Option (List DeviceRecord)).getD [],
      r.Of (Store.bleWhitelist.layout defaultConfig) := nofun
  exact ⟨db, hsave, hfail, (failed_save_keeps_iff defaultConfig .bleWhitelist storesOk_empty
    sampleRecords_whitelist (by decide) (by decide) hsave hnone hfail).mpr
      ⟨⟨by decide, by decide⟩, Or.inl rfl⟩⟩

/-- The first write of a new whitelist fails, and the old one is gone. -/
theorem whitelist_lost_by_failed_write :
    ∃ db db', Store.bleWhitelist.save sampleApi (fun _ => 0) ∅ (sampleRecords 98) = some db
      ∧ trySaveStore .bleWhitelist sampleApi (fun _ => 0) (fun _ => 0) noWrites db
          (some (sampleRecords 98)) = some (db', some .setKey)
      ∧ LoadsBack defaultConfig sampleApi .bleWhitelist db (sampleRecords 98)
      ∧ ¬LoadsBack defaultConfig sampleApi .bleWhitelist db' (sampleRecords 98) := by
  have hok : StoresOk sampleApi ∅ := storesOk_empty
  obtain ⟨db, hsave, hsaved⟩ :=
    exists_saveStore .bleWhitelist hok (fun _ => 0) sampleRecords_whitelist (by decide)
  have h := hsaved.holdsIn sampleRecords_whitelist (by decide)
  have hne : sampleRecords 98 = [] → False := by decide
  have hback : LoadsBack defaultConfig sampleApi .bleWhitelist db (sampleRecords 98) :=
    (h.loadsBack_iff hok (by decide) fun hnil => (hne hnil).elim).mpr
      ⟨⟨by decide, by decide⟩, rfl⟩
  obtain ⟨out, hout, hperm⟩ := hback fun _ => 0
  have hcount : (namesOf sampleApi db Store.bleWhitelist.key).length < 65536 :=
    length_namesOf_lt_of_load hout fun hnil => hne (nil_perm.mp (hnil ▸ hperm))
  obtain ⟨db₁, hfirst, -⟩ := exists_btStorageDelete (h.storesOk hok hcount) .bleWhitelist fun _ => 0
  have h₁ : HoldsIn sampleApi _ .bleWhitelist ∅ (Contents.put (fun _ => none) []) db₁ :=
    h.delete hok hfirst
  have hcount₁ := Nat.lt_of_le_of_lt h₁.length_namesOf_le (by decide : 0 < 65536)
  obtain ⟨db', hsecond, -⟩ := exists_btStorageDelete (h₁.storesOk hok hcount₁) .bleWhitelist
    fun _ => 0
  have hfail : trySaveStore .bleWhitelist sampleApi (fun _ => 0) (fun _ => 0) noWrites db
      (some (sampleRecords 98)) = some (db', some .setKey) := by
    obtain ⟨r, rest, hrs⟩ := exists_cons_of_ne_nil (by decide : saved (sampleRecords 98) ≠ [])
    simp [trySaveStore, noWrites, tryDelete, hfirst, trySaveRemoteDevice, hrs, setKeys, hsecond]
  have hnew : ∀ r ∈ (some (sampleRecords 98)).getD [],
      r.Of (Store.bleWhitelist.layout defaultConfig) := sampleRecords_whitelist
  have hleft := h.failed hok hnew hfail
  refine ⟨db, db', hsave, hfail, hback, fun hload => hne ?_⟩
  have hsame := (hleft.loadsBack_iff hok (by decide) fun hnil => (hne hnil).elim).mp hload
  exact recordMap_eq_none_iff.mp hsame.2.symm

end BtFramework.Storage
