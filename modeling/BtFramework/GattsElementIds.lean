import BtFramework.GattsProfile
import BtFramework.Runs

/-!
# Element ids are unambiguous

A request is given to the service whose id is the upper byte of the element id, and there to the
first table whose first and last element ids enclose it. That is unambiguous exactly as long as
every step is `Clear`.
-/

namespace BtFramework.GattsProfile

open Keyed List Nat Service State

/-! ## Group ids -/

theorem gattElementGroupId_eq {id : Nat} (hid : id < 65536) :
    gattElementGroupId id = 256 * (id / 256) := by
  apply eq_of_testBit_eq
  intro i
  have hmask : gattElementGroupMask.testBit i = (decide (i ≥ 8) && decide (i - 8 < 8)) := by
    rw [← testBit_two_pow_sub_one 8 (i - 8)]
    exact testBit_two_pow_mul (i := 8) (a := 255)
  have hhigh : (256 * (id / 256)).testBit i
      = (decide (i ≥ 8) && (id / 256).testBit (i - 8)) := testBit_two_pow_mul (i := 8)
  have hdiv : (id / 256).testBit (i - 8) = id.testBit (8 + (i - 8)) := by
    rw [← testBit_shiftRight, shiftRight_eq_div_pow]
  rw [gattElementGroupId, testBit_land, hmask, hhigh, hdiv]
  by_cases hi : 8 ≤ i
  · rw [Nat.add_sub_cancel' hi]
    by_cases h16 : i < 16
    · simp [hi, show i - 8 < 8 by omega]
    · have hzero : id.testBit i = false := testBit_lt_two_pow
        (lt_of_lt_of_le hid (Nat.pow_le_pow_right (n := 2) (i := 16) (by omega) (by omega)))
      simp [hzero]
  · simp [hi]

theorem xor_group {k h : Nat} (hh : h < 256) : (256 * k + h) ^^^ (256 * k) = h := by
  have hor : 256 * k + h = 256 * k ||| h := two_pow_add_eq_or_of_lt (i := 8) hh k
  apply eq_of_testBit_eq
  intro i
  have hhigh : (256 * k).testBit i = (decide (i ≥ 8) && k.testBit (i - 8)) :=
    testBit_two_pow_mul (i := 8)
  rw [hor, testBit_xor, testBit_lor, hhigh]
  by_cases hi : 8 ≤ i
  · have hzero : h.testBit i = false := testBit_lt_two_pow
      (lt_of_lt_of_le hh (Nat.pow_le_pow_right (n := 2) (i := 8) (by omega) hi))
    simp [hzero]
  · simp [hi]

def IsGroup (srvId : Nat) : Prop :=
  ∃ k, k < 255 ∧ srvId = 256 * k

section Group

variable {srvId h h' : Nat}

theorem elementId_of_lt (hg : IsGroup srvId) (hh : h < 256) : elementId srvId h = srvId + h := by
  obtain ⟨k, hk, rfl⟩ := hg
  rw [elementId]
  omega

theorem groupId_elementId (hg : IsGroup srvId) (hh : h < 256) :
    gattElementGroupId (elementId srvId h) = srvId := by
  rw [elementId_of_lt hg hh]
  obtain ⟨k, hk, rfl⟩ := hg
  rw [gattElementGroupId_eq (by omega)]
  omega

theorem lt_of_groupId (hh : h < 65536)
    (heq : gattElementGroupId (elementId srvId h) = srvId) : h < 256 := by
  rw [gattElementGroupId_eq (by rw [elementId]; omega), elementId] at heq
  omega

theorem elementId_xor (hg : IsGroup srvId) (hh : h < 256) : elementId srvId h ^^^ srvId = h := by
  rw [elementId_of_lt hg hh]
  obtain ⟨k, _, rfl⟩ := hg
  exact xor_group hh

theorem isGroup_of_mem {id : Nat} (h : id ∈ serviceIds) : IsGroup id := by
  obtain ⟨i, hi, rfl⟩ := mem_map.mp h
  exact ⟨i + 1, by rw [mem_range] at hi; omega, rfl⟩

end Group

/-! ## The property -/

def Accepted.ids (a : Accepted) : List Nat :=
  a.db.map fun attr => elementId a.srvId attr.handle

def Dispatched (st : State) (id : Nat) (t : Target) : Prop :=
  target st id = some t ∧ ∀ action ∈ onReadRequest st id ++ onWriteRequest st id, action.target = t

/-- The attributes relied on have distinct element ids, and a request for one reaches its attribute
and service, with the application's handle. -/
def Unambiguous (st : State) : Prop :=
  (st.accepted.flatMap Accepted.ids).Nodup ∧
    ∀ a ∈ st.accepted, ∀ i attr, a.db[i]? = some attr →
      Dispatched st (elementId a.srvId attr.handle)
        ⟨a.srv, a.table.tag, i, attr.toElement a.srvId, attr.handle⟩

structure TableClear (service : Service) (first last : AttrDb) (db : List AttrDb) : Prop where
  small : ∀ attr ∈ db, attr.handle < 256
  nodup : (db.map AttrDb.handle).Nodup
  between : ∀ attr ∈ db, first.handle ≤ attr.handle ∧ attr.handle ≤ last.handle
  apart : ∀ attr ∈ db, ∀ t ∈ service.tables, t.covers (elementId service.srvId attr.handle) = false

/-- An accepted table keeps to its service's 256 ids, orders them within the range of its first and
last entry, has no two alike and none in the range of another table; no removal report meets a table
that was not removed. -/
def Clear (st : State) : Event → Prop
  | .addTable srv db sal => ∀ service ∈ findService st srv, ∀ first ∈ db.head?,
      ∀ last ∈ db.getLast?, accepts service first db sal = true → TableClear service first last db
  | .tableRemoved => ∀ id ∈ st.removed.head?, ∀ r ∈ reportedTable st id,
      r.2.tag ∉ st.accepted.map fun a => a.table.tag
  | _ => True

/-! ## The invariant -/

structure Serves (s : Service) (a : Accepted) : Prop where
  tag : s.tag = a.srv
  srvId : s.srvId = a.srvId
  elements : a.table.elements = a.db.map (AttrDb.toElement a.srvId)
  nonempty : a.db ≠ []
  small : ∀ attr ∈ a.db, attr.handle < 256
  nodup : (a.db.map AttrDb.handle).Nodup
  found : ∀ attr ∈ a.db, findServiceTableById s (elementId a.srvId attr.handle) = some a.table

structure Inv (st : State) : Prop where
  groups : ∀ s ∈ st.services, IsGroup s.srvId
  srvIds : (st.services.map Service.srvId).Nodup
  tags : (st.services.map Service.tag).Nodup
  tableTags : ∀ s ∈ st.services, ∀ s' ∈ st.services, ∀ t ∈ s.tables, ∀ t' ∈ s'.tables,
    t.tag = t'.tag → s.tag = s'.tag ∧ t = t'
  fresh : ∀ s ∈ st.services, s.tag < st.next ∧ ∀ t ∈ s.tables, t.tag < st.next
  acceptedTags : (st.accepted.map fun a => a.table.tag).Nodup
  serves : ∀ a ∈ st.accepted, ∃ s ∈ st.services, Serves s a

section Inv

variable {st : State} {s : Service} {a : Accepted}

theorem Serves.table_mem (h : Serves s a) : a.table ∈ s.tables := by
  obtain ⟨attr, hattr⟩ := exists_mem_of_ne_nil _ h.nonempty
  exact mem_of_find?_eq_some (h.found attr hattr)

theorem Inv.findGattsServiceById (h : Inv st) (hs : s ∈ st.services) {n : Nat}
    (hn : n < 256) : findGattsServiceById st.services (elementId s.srvId n) = some s := by
  rw [GattsProfile.findGattsServiceById, groupId_elementId (h.groups s hs) hn]
  exact (find?_eq_some h.srvIds).mpr ⟨hs, rfl⟩

variable {attr first last : AttrDb} {t : Target} {db : List AttrDb}

theorem Serves.findIdx? (h : Serves s a) (hg : IsGroup a.srvId) {i : Nat}
    (hi : a.db[i]? = some attr) :
    (a.table.elements.findIdx? fun e => e.handle = elementId a.srvId attr.handle) = some i := by
  obtain ⟨hlt, hget⟩ := List.getElem?_eq_some_iff.mp hi
  rw [h.elements, findIdx?_eq_some_iff_getElem]
  refine ⟨by simpa using hlt, by simp [hget, AttrDb.toElement], fun j hj => ?_⟩
  have hjlt : j < a.db.length := by omega
  have hne : (a.db[j]).handle ≠ attr.handle := by
    intro heq
    have hmap : (a.db.map AttrDb.handle)[j]? = (a.db.map AttrDb.handle)[i]? := by
      simp [hjlt, hlt, hget, heq]
    have hji := (getElem?_inj (by simpa using hjlt) h.nodup).mp hmap
    omega
  have hsmall := h.small _ (getElem_mem hjlt)
  have hsmall' := h.small attr (mem_of_getElem? hi)
  simp [AttrDb.toElement, elementId_of_lt hg hsmall, elementId_of_lt hg hsmall', hne]

theorem Inv.target (h : Inv st) (hs : s ∈ st.services) (hserves : Serves s a) {i : Nat}
    (hi : a.db[i]? = some attr) :
    target st (elementId a.srvId attr.handle)
      = some ⟨a.srv, a.table.tag, i, attr.toElement a.srvId, attr.handle⟩ := by
  have hmem := mem_of_getElem? hi
  have hsmall := hserves.small attr hmem
  have hg : IsGroup a.srvId := hserves.srvId ▸ h.groups s hs
  have hservice := h.findGattsServiceById hs hsmall
  rw [hserves.srvId] at hservice
  have helement : a.table.elements[i]? = some (attr.toElement a.srvId) := by
    rw [hserves.elements, getElem?_map, hi, Option.map_some]
  rw [GattsProfile.target, hservice, Option.bind_some, findServiceElementById,
    hserves.found attr hmem, Option.bind_some, hserves.findIdx? hg hi, Option.bind_some,
    helement]
  simp only [Option.map_some, hserves.tag, hserves.srvId, elementId_xor hg hsmall]

def places (st : State) : List (Nat × Nat) :=
  st.accepted.flatMap fun a => (List.range a.db.length).map fun i => (a.table.tag, i)

theorem Inv.nodup_places (h : Inv st) : (places st).Nodup := by
  rw [places, nodup_flatMap]
  constructor
  · intro a _
    exact nodup_range.map fun i j heq => (Prod.mk.inj heq).2
  · refine (pairwise_map.mp h.acceptedTags).imp ?_
    intro a b hne x hxa hxb
    obtain ⟨i, _, rfl⟩ := mem_map.mp hxa
    obtain ⟨j, _, hj⟩ := mem_map.mp hxb
    exact hne (Prod.mk.inj hj).1.symm

theorem Inv.nodup_ids (h : Inv st) : (st.accepted.flatMap Accepted.ids).Nodup := by
  have hmap : (st.accepted.flatMap Accepted.ids).map
      (fun id => (GattsProfile.target st id).map fun t => (t.table, t.index))
      = (places st).map some := by
    rw [map_flatMap, places, map_flatMap]
    apply flatMap_congr
    intro a ha
    obtain ⟨s, hs, hserves⟩ := h.serves a ha
    apply ext_getElem?
    intro i
    simp only [Accepted.ids, getElem?_map, map_map]
    cases hi : a.db[i]? with
    | none =>
      have hle := getElem?_eq_none_iff.mp hi
      simp [hle]
    | some attr =>
      have hlt := (List.getElem?_eq_some_iff.mp hi).1
      simp [h.target hs hserves hi, hlt]
  apply List.Nodup.of_map
  rw [hmap]
  exact h.nodup_places.map (Option.some_injective _)

theorem dispatched_of_target {id : Nat} (h : GattsProfile.target st id = some t) :
    Dispatched st id t := by
  refine ⟨h, ?_⟩
  simp only [onReadRequest, onWriteRequest, h, forall_mem_append, forall_mem_cons]
  refine ⟨?_, rfl, ?_⟩
  · (repeat' split) <;> simp [Action.target]
  · (repeat' split) <;> simp [Action.target]

theorem Inv.unambiguous (h : Inv st) : Unambiguous st := by
  refine ⟨h.nodup_ids, fun a ha i attr hi => ?_⟩
  obtain ⟨s, hs, hserves⟩ := h.serves a ha
  exact dispatched_of_target (h.target hs hserves hi)

theorem inv_init : Inv State.init := by
  constructor <;> simp [init]

/-! ## The steps -/

theorem Inv.findService (h : Inv st) {srv : Nat} :
    findService st srv = some s ↔ s ∈ st.services ∧ s.tag = srv :=
  find?_eq_some h.tags

theorem Inv.register (h : Inv st) : Inv (ifGattsRegisterService st) := by
  rw [ifGattsRegisterService]
  split
  · exact h
  rename_i id hid
  have hmem := mem_of_find?_eq_some hid
  have hg := isGroup_of_mem hmem
  have hnew : ∀ s ∈ st.services, s.srvId ≠ id := by
    have hnone := find?_some hid
    rw [Option.isNone_iff_eq_none] at hnone
    have hgid : gattElementGroupId id = id := by
      obtain ⟨k, hk, rfl⟩ := hg
      rw [gattElementGroupId_eq (by omega)]
      omega
    intro s hs
    rw [GattsProfile.findGattsServiceById, hgid] at hnone
    exact find?_eq_none hnone hs
  refine ⟨forall_mem_concat.mpr ⟨h.groups, hg⟩,
    nodup_concat h.srvIds hnew, nodup_concat h.tags fun s hs => Nat.ne_of_lt (h.fresh s hs).1,
    ?_, forall_mem_concat.mpr ⟨fun s hs => ?_, ?_⟩, h.acceptedTags, ?_⟩
  · -- the new service has no tables
    simp only [forall_mem_concat, not_mem_nil, false_implies, implies_true,
      and_true]
    exact h.tableTags
  · exact ⟨lt_succ_of_lt (h.fresh s hs).1, fun t ht => lt_succ_of_lt ((h.fresh s hs).2 t ht)⟩
  · exact ⟨lt_succ_self _, nofun⟩
  · intro a ha
    obtain ⟨s, hs, hserves⟩ := h.serves a ha
    exact ⟨s, mem_append_left _ hs, hserves⟩

theorem Inv.unregister (h : Inv st) (srv : Nat) : Inv (ifGattsUnregisterService srv st) := by
  rw [ifGattsUnregisterService]
  split
  · exact h
  have hsub : ∀ s, s ∈ Keyed.remove tag srv st.services → s ∈ st.services :=
    fun s hs => (mem_remove.mp hs).1
  constructor
  · exact fun s hs => h.groups s (hsub s hs)
  · exact nodup_remove h.srvIds
  · exact nodup_remove h.tags
  · exact fun s hs s' hs' => h.tableTags s (hsub s hs) s' (hsub s' hs')
  · exact fun s hs => h.fresh s (hsub s hs)
  · exact h.acceptedTags.sublist (filter_sublist.map _)
  · intro a ha
    obtain ⟨ha, hne⟩ := mem_filter.mp ha
    obtain ⟨s, hs, hserves⟩ := h.serves a ha
    refine ⟨s, mem_remove.mpr ⟨hs, ?_⟩, hserves⟩
    rw [hserves.tag]
    simpa using hne

theorem Inv.removeTable (h : Inv st) (srv attrHandle : Nat) :
    Inv (ifGattsRemoveAttrTable srv attrHandle st) := by
  rw [ifGattsRemoveAttrTable]
  split
  · exact h
  split
  · exact h
  exact ⟨h.groups, h.srvIds, h.tags, h.tableTags, h.fresh,
    h.acceptedTags.sublist (filter_sublist.map _),
    fun a ha => h.serves a (mem_filter.mp ha).1⟩

theorem mem_update_tables {services : List Service} {srv : Nat}
    {g : List Table → List Table} {s' : Service}
    (h : s' ∈ Keyed.update Service.tag srv (fun s => { s with tables := g s.tables }) services) :
    ∃ s ∈ services, s'.tag = s.tag ∧ s'.srvId = s.srvId ∧
      (s.tag = srv ∧ s'.tables = g s.tables ∨ s.tag ≠ srv ∧ s'.tables = s.tables) := by
  rcases mem_update.mp h with ⟨s, hs, htag, rfl⟩ | ⟨hs, htag⟩
  · exact ⟨s, hs, rfl, rfl, .inl ⟨htag, rfl⟩⟩
  · exact ⟨s', hs, rfl, rfl, .inr ⟨htag, rfl⟩⟩

theorem Inv.updateTables {st' : State} {srv : Nat} {g : List Table → List Table}
    {n : Option Table} (h : Inv st)
    (hservices : st'.services
      = Keyed.update tag srv (fun s => { s with tables := g s.tables }) st.services)
    (hg : ∀ ts, ∀ t ∈ g ts, t ∈ ts ∨ t ∈ n) (hnew : ∀ t ∈ n, t.tag = st.next ∧ t.tag < st'.next)
    (hnext : st.next ≤ st'.next) (hacc : (st'.accepted.map fun a => a.table.tag).Nodup)
    (hserves : ∀ a ∈ st'.accepted,
      (a ∈ st.accepted ∧ ∀ ts id, ts.find? (Table.covers id) = some a.table →
        (g ts).find? (Table.covers id) = some a.table) ∨ ∃ s ∈ st'.services, Serves s a) :
    Inv st' := by
  have hfrom : ∀ s' ∈ st'.services, ∃ s ∈ st.services, s'.tag = s.tag ∧ s'.srvId = s.srvId ∧
      ∀ t ∈ s'.tables, t ∈ s.tables ∨ s.tag = srv ∧ t ∈ n := by
    intro s' hs'
    obtain ⟨s, hs, htag, hid, ⟨hsrv, htables⟩ | ⟨_, htables⟩⟩ := mem_update_tables (hservices ▸ hs')
    · exact ⟨s, hs, htag, hid, fun t ht => (hg _ t (htables ▸ ht)).imp_right fun ht => ⟨hsrv, ht⟩⟩
    · exact ⟨s, hs, htag, hid, fun t ht => .inl (htables ▸ ht)⟩
  refine ⟨fun s' hs' => ?_, ?_, ?_, ?_, fun s' hs' => ?_, hacc, fun a ha => ?_⟩
  · obtain ⟨s, hs, -, hid, -⟩ := hfrom s' hs'
    rw [hid]
    exact h.groups s hs
  · rw [hservices, map_update (by intros; rfl)]
    exact h.srvIds
  · rw [hservices, map_update (by intros; rfl)]
    exact h.tags
  · intro s₁ hs₁ s₂ hs₂ t₁ ht₁ t₂ ht₂ heq
    obtain ⟨u₁, hu₁, htag₁, -, hmem₁⟩ := hfrom s₁ hs₁
    obtain ⟨u₂, hu₂, htag₂, -, hmem₂⟩ := hfrom s₂ hs₂
    rw [htag₁, htag₂]
    rcases hmem₁ t₁ ht₁ with hold₁ | ⟨hsrv₁, hnew₁⟩
    · rcases hmem₂ t₂ ht₂ with hold₂ | ⟨_, hnew₂⟩
      · exact h.tableTags u₁ hu₁ u₂ hu₂ t₁ hold₁ t₂ hold₂ heq
      · exact absurd (heq.trans (hnew t₂ hnew₂).1) (Nat.ne_of_lt ((h.fresh u₁ hu₁).2 t₁ hold₁))
    · rcases hmem₂ t₂ ht₂ with hold₂ | ⟨hsrv₂, hnew₂⟩
      · exact absurd (heq.symm.trans (hnew t₁ hnew₁).1)
          (Nat.ne_of_lt ((h.fresh u₂ hu₂).2 t₂ hold₂))
      · exact ⟨hsrv₁.trans hsrv₂.symm, Option.mem_unique hnew₁ hnew₂⟩
  · obtain ⟨u, hu, htag, -, hmem⟩ := hfrom s' hs'
    refine ⟨htag ▸ lt_of_lt_of_le (h.fresh u hu).1 hnext, fun t ht => ?_⟩
    rcases hmem t ht with hold | ⟨_, ht⟩
    · exact lt_of_lt_of_le ((h.fresh u hu).2 t hold) hnext
    · exact (hnew t ht).2
  · rcases hserves a ha with ⟨ha, hfound⟩ | hserves
    · obtain ⟨s, hs, hs'⟩ := h.serves a ha
      rw [hservices]
      by_cases htag : s.tag = srv
      · exact ⟨_, mem_update.mpr (.inl ⟨s, hs, htag, rfl⟩), hs'.tag, hs'.srvId, hs'.elements,
          hs'.nonempty, hs'.small, hs'.nodup, fun attr hattr => hfound _ _ (hs'.found attr hattr)⟩
      · exact ⟨s, mem_update.mpr (.inr ⟨hs, htag⟩), hs'⟩
    · exact hserves

theorem newTable_covers {tag : Nat} {srvId : Nat} (hg : IsGroup srvId)
    (hfirst : first.handle < 256) (hlast : last.handle < 256) (hattr : attr.handle < 256) :
    (newTable tag srvId first last db).covers (elementId srvId attr.handle) = true ↔
      first.handle ≤ attr.handle ∧ attr.handle ≤ last.handle := by
  simp only [Table.covers, newTable, elementId_of_lt hg hfirst, elementId_of_lt hg hlast,
    elementId_of_lt hg hattr, Bool.and_eq_true, decide_eq_true_eq]
  omega

theorem found_newTable {tag : Nat} (hg : IsGroup s.srvId) (hclear : TableClear s first last db)
    (hfirst : first ∈ db) (hlast : last ∈ db) (hattr : attr ∈ db) :
    (s.tables ++ [newTable tag s.srvId first last db]).find?
        (Table.covers (elementId s.srvId attr.handle))
      = some (newTable tag s.srvId first last db) := by
  have hnone : s.tables.find? (Table.covers (elementId s.srvId attr.handle)) = none :=
    find?_eq_none.mpr fun t ht => by simp [hclear.apart attr hattr t ht]
  have hcovers : (newTable tag s.srvId first last db).covers
      (elementId s.srvId attr.handle) = true :=
    (newTable_covers hg (hclear.small first hfirst) (hclear.small last hlast)
      (hclear.small attr hattr)).mpr (hclear.between attr hattr)
  rw [find?_append, hnone, Option.none_or, find?_singleton, if_pos hcovers]

def afterAdd (st : State) (service : Service) (first last : AttrDb) (db : List AttrDb) :
    State where
  services := Keyed.update Service.tag service.tag
    (fun s => { s with
      tables := s.tables ++ [newTable st.next service.srvId first last db] }) st.services
  removed := st.removed
  next := st.next + 1
  accepted := st.accepted
    ++ [⟨service.tag, service.srvId, newTable st.next service.srvId first last db, db⟩]

theorem Inv.afterAdd (h : Inv st) (hs : s ∈ st.services) (hfirst : first ∈ db)
    (hlast : last ∈ db) (hclear : TableClear s first last db) :
    Inv (afterAdd st s first last db) := by
  refine h.updateTables (g := (· ++ [newTable st.next s.srvId first last db]))
    (n := some (newTable st.next s.srvId first last db)) rfl
    (fun ts t ht => by simpa [eq_comm] using ht) ?_ (le_succ _) ?_ fun a ha => ?_
  · rintro t ⟨⟩
    exact ⟨rfl, lt_succ_self _⟩
  · refine nodup_concat h.acceptedTags fun a ha => ?_
    obtain ⟨u, hu, hserves⟩ := h.serves a ha
    exact Nat.ne_of_lt ((h.fresh u hu).2 _ hserves.table_mem)
  · rcases mem_append.mp ha with ha | ha
    · exact .inl ⟨ha, fun ts id hfound => by rw [find?_append, hfound]; rfl⟩
    · rw [mem_singleton.mp ha]
      refine .inr ⟨_, mem_update.mpr (.inl ⟨s, hs, rfl, rfl⟩), rfl, rfl, rfl,
        ne_nil_of_mem hfirst, hclear.small, hclear.nodup, fun attr hattr => ?_⟩
      exact found_newTable (h.groups s hs) hclear hfirst hlast hattr

theorem exists_of_target {id : Nat} (h : target st id = some t) :
    ∃ s ∈ st.services, s.srvId = gattElementGroupId id ∧ s.tag = t.srv ∧
      ∃ tb, findServiceTableById s id = some tb ∧ tb.tag = t.table := by
  obtain ⟨s, hs, h⟩ := Option.bind_eq_some_iff.mp h
  obtain ⟨⟨tb, i, e⟩, he, rfl⟩ := Option.map_eq_some_iff.mp h
  obtain ⟨hmem, hid⟩ := mem_of_find? hs
  obtain ⟨tb', htb, he⟩ := Option.bind_eq_some_iff.mp he
  obtain ⟨i', _, he⟩ := Option.bind_eq_some_iff.mp he
  obtain ⟨e', _, heq⟩ := Option.map_eq_some_iff.mp he
  cases heq
  exact ⟨s, hmem, hid, rfl, tb, htb, rfl⟩

theorem Inv.reaches_new (h : Inv st) (hs : s ∈ st.services)
    (htarget : GattsProfile.target (GattsProfile.afterAdd st s first last db)
      (elementId s.srvId attr.handle) = some t) (hsrv : t.srv = s.tag)
    (htable : t.table = st.next) :
    attr.handle < 256 ∧
      (newTable st.next s.srvId first last db).covers (elementId s.srvId attr.handle) = true ∧
      ∀ tb ∈ s.tables, tb.covers (elementId s.srvId attr.handle) = false := by
  obtain ⟨s', hs', hgroup, htag', tb, htb, htag⟩ := exists_of_target htarget
  obtain ⟨u, hu, hutag, huid, hutables⟩ :=
    mem_update_tables (g := (· ++ [newTable st.next s.srvId first last db])) hs'
  have hus : u = s := inj_on_of_nodup_map h.tags hu hs (by rw [← hutag, htag', hsrv])
  subst hus
  rcases hutables with ⟨_, hutables⟩ | ⟨hne, _⟩
  swap
  · exact absurd rfl hne
  refine ⟨lt_of_groupId attr.handle_lt (by rw [← hgroup, huid]), ?_⟩
  rw [findServiceTableById, hutables, find?_append] at htb
  cases hold : u.tables.find? (Table.covers (elementId u.srvId attr.handle)) with
  | some tb' =>
    rw [hold, Option.some_or, Option.some_inj] at htb
    have hlt := (h.fresh u hs).2 tb' (mem_of_find?_eq_some hold)
    rw [htb, htag, htable] at hlt
    exact absurd hlt (lt_irrefl _)
  | none =>
    rw [hold, Option.none_or] at htb
    refine ⟨?_, fun tb' htb' => by simpa using find?_eq_none.mp hold tb' htb'⟩
    rw [mem_singleton.mp (mem_of_find?_eq_some htb)] at htb
    exact find?_some htb

theorem Inv.tableClear_of_unambiguous (h : Inv st) (hs : s ∈ st.services) (hfirst : first ∈ db)
    (hlast : last ∈ db) (hun : Unambiguous (GattsProfile.afterAdd st s first last db)) :
    TableClear s first last db := by
  have hmem : (⟨s.tag, s.srvId, newTable st.next s.srvId first last db, db⟩ : Accepted)
      ∈ (GattsProfile.afterAdd st s first last db).accepted :=
    mem_append_right _ (mem_singleton_self _)
  have hreach : ∀ attr ∈ db, attr.handle < 256 ∧
      (newTable st.next s.srvId first last db).covers (elementId s.srvId attr.handle) = true ∧
      ∀ tb ∈ s.tables, tb.covers (elementId s.srvId attr.handle) = false := by
    intro attr hattr
    obtain ⟨i, hi⟩ := getElem?_of_mem hattr
    exact h.reaches_new hs (hun.2 _ hmem i attr hi).1 rfl rfl
  refine ⟨fun attr hattr => (hreach attr hattr).1, ?_, fun attr hattr => ?_,
    fun attr hattr => (hreach attr hattr).2.2⟩
  · have hids := (nodup_flatMap.mp hun.1).1 _ hmem
    apply List.Nodup.of_map (elementId s.srvId)
    rw [map_map]
    exact hids
  · exact (newTable_covers (h.groups s hs) (hreach first hfirst).1 (hreach last hlast).1
      (hreach attr hattr).1).mp (hreach attr hattr).2.1

def afterRemoved (st : State) (service : Service) (t : Table) (removed : List Nat) : State :=
  { st with
    removed := removed
    services := Keyed.update Service.tag service.tag
      (fun s => { s with tables := Keyed.remove Table.tag t.tag s.tables }) st.services }

theorem Inv.afterRemoved {t : Table} {removed : List Nat} (h : Inv st)
    (hnot : t.tag ∉ st.accepted.map fun a => a.table.tag) :
    Inv (afterRemoved st s t removed) := by
  refine h.updateTables (n := none) rfl (fun ts t ht => .inl (mem_remove.mp ht).1) nofun
    (le_refl _) h.acceptedTags fun a ha => .inl ⟨ha, fun ts id hfound => ?_⟩
  exact find?_remove hfound fun heq => hnot (mem_map.mpr ⟨a, ha, heq⟩)

theorem Inv.not_unambiguous_afterRemoved {t : Table} {removed : List Nat} (h : Inv st)
    (hs : s ∈ st.services) (ht : t ∈ s.tables)
    (hmem : t.tag ∈ st.accepted.map fun a => a.table.tag) :
    ¬ Unambiguous (GattsProfile.afterRemoved st s t removed) := by
  intro hun
  obtain ⟨a, ha, htag⟩ := mem_map.mp hmem
  obtain ⟨u, hu, hserves⟩ := h.serves a ha
  obtain ⟨attr, hattr⟩ := exists_mem_of_ne_nil _ hserves.nonempty
  obtain ⟨i, hi⟩ := getElem?_of_mem hattr
  obtain ⟨s', hs', _, _, tb, htb, htbtag⟩ := exists_of_target (hun.2 a ha i attr hi).1
  obtain ⟨v, hv, _, _, hvtables⟩ := mem_update_tables (g := Keyed.remove Table.tag t.tag) hs'
  have htb := mem_of_find?_eq_some htb
  rcases hvtables with ⟨_, hvtables⟩ | ⟨hvne, hvtables⟩
  · rw [hvtables] at htb
    exact (mem_remove.mp htb).2 (htbtag.trans htag)
  · rw [hvtables] at htb
    exact hvne (h.tableTags v hv s hs tb htb t ht (htbtag.trans htag)).1

/-! ## The theorem -/

theorem Inv.step {e : Event} (h : Inv st) (hclear : Clear st e) : Inv (step st e) := by
  cases e with
  | register => exact h.register
  | unregister srv => exact h.unregister srv
  | removeTable srv attrHandle => exact h.removeTable srv attrHandle
  | addTable srv db sal =>
    rw [GattsProfile.step, ifGattsAddAttrTable]
    split
    next s first last hsrv hf hl =>
      split
      next hacc =>
        obtain ⟨hs, rfl⟩ := h.findService.mp hsrv
        exact h.afterAdd hs (mem_of_head? hf) (mem_of_getLast? hl)
          (hclear s hsrv first hf last hl hacc)
      · exact h
    · exact h
  | tableRemoved =>
    rw [GattsProfile.step, onAttrTableRemoved]
    split
    · exact h
    next id removed hremoved =>
      dsimp only
      split
      · exact ⟨h.groups, h.srvIds, h.tags, h.tableTags, h.fresh, h.acceptedTags, h.serves⟩
      next s t hrep => exact h.afterRemoved (hclear id (by rw [hremoved]; rfl) (s, t) hrep)

theorem Inv.not_unambiguous_step {e : Event} (h : Inv st) (hclear : ¬ Clear st e) :
    ¬ Unambiguous (GattsProfile.step st e) := by
  intro hun
  cases e with
  | register | unregister srv | removeTable srv attrHandle => exact hclear trivial
  | addTable srv db sal =>
    rw [GattsProfile.step] at hun
    refine hclear fun service hsrv first hf last hl hacc => ?_
    obtain ⟨hs, rfl⟩ := h.findService.mp hsrv
    have heq : ifGattsAddAttrTable service.tag db sal st
        = GattsProfile.afterAdd st service first last db := by
      simp only [ifGattsAddAttrTable, Option.mem_def.mp hsrv, Option.mem_def.mp hf,
        Option.mem_def.mp hl, if_pos hacc]
      rfl
    rw [heq] at hun
    exact h.tableClear_of_unambiguous hs (mem_of_head? hf) (mem_of_getLast? hl) hun
  | tableRemoved =>
    rw [GattsProfile.step] at hun
    refine hclear ?_
    rintro id hid ⟨s, t⟩ hr hmem
    obtain ⟨removed, hremoved⟩ := head?_eq_some_iff.mp hid
    have hr' : reportedTable { st with removed } id = some (s, t) := hr
    rw [onAttrTableRemoved, hremoved] at hun
    simp only [hr'] at hun
    obtain ⟨s', hs, ht⟩ := Option.bind_eq_some_iff.mp hr
    obtain ⟨t', ht, ⟨⟩⟩ := Option.map_eq_some_iff.mp ht
    exact h.not_unambiguous_afterRemoved (mem_of_find? hs).1 (mem_of_find?_eq_some ht) hmem hun

/-- The ids are unambiguous in every state of a run if and only if every step is clear. -/
theorem unambiguous_iff_clear (events : List Event) :
    (∀ st ∈ Runs.visited GattsProfile.step State.init events, Unambiguous st) ↔
      Runs.Guarded GattsProfile.step Clear State.init events :=
  Runs.forall_visited_iff_guarded (fun _ h => h.unambiguous) (fun _ _ h hc => h.step hc)
    (fun _ _ h hc => h.not_unambiguous_step hc) inv_init

end Inv

/-! ## Ambiguous ids -/

def appAttr (handle : Nat) (h : handle < 65536 := by decide) : AttrDb :=
  ⟨handle, .rspByApp, true, true, h⟩

/-- A handle of the first table lies in the second service's ids, and a late report takes a table
from a service that got the id of an unregistered one. -/
theorem ids_not_unambiguous :
    (¬ ∀ st ∈ Runs.visited step State.init
        [.register, .register, .addTable 0 [appAttr 0x101] true], Unambiguous st) ∧
      ¬ ∀ st ∈ Runs.visited step State.init
        [.register, .addTable 0 [appAttr 1] true, .unregister 0, .register,
          .addTable 2 [appAttr 1] true, .tableRemoved], Unambiguous st := by
  constructor
  · intro hall
    have hlast := hall (Runs.after step init
      [.register, .register, .addTable 0 [appAttr 0x101] true]) (by decide)
    have hreach := hlast.2 ⟨0, 0x100, newTable 2 0x100 (appAttr 0x101) (appAttr 0x101)
      [appAttr 0x101], [appAttr 0x101]⟩ (by decide) 0 (appAttr 0x101) rfl
    exact absurd hreach.1 (by decide)
  · intro hall
    have hlast := hall (Runs.after step init
      [.register, .addTable 0 [appAttr 1] true, .unregister 0, .register,
        .addTable 2 [appAttr 1] true, .tableRemoved]) (by decide)
    have hreach := hlast.2 ⟨2, 0x100, newTable 3 0x100 (appAttr 1) (appAttr 1) [appAttr 1],
      [appAttr 1]⟩ (by decide) 0 (appAttr 1) rfl
    exact absurd hreach.1 (by decide)

end BtFramework.GattsProfile
