import BtFramework.GattServerTables

/-!
# Adding elements that may fail

`bt_sal_gatt_server_add_elements` for any array of elements, with every failure on the way. When
the registration fails, `register_service` resets `svc_attr_count` before it removes that many
attributes, so none is removed.
-/

namespace BtFramework.Gatts

open List Option

/-! ## The failures -/

structure Outcome where
  uuid : Bool
  first : Bool
  second : Bool

def tryElement (cfg : Config) (o : Outcome) (ref : ElementRef) (element : Element)
    (st : Server) : Server :=
  if !o.uuid || !o.first then st
  else
    match element.type with
    | .characteristic =>
      if o.second then addCharacteristic cfg ref element st
      else (gattDbAdd cfg (chrcAttr 0 none) st).getD st
    | _ => addElement cfg ref element st

def tryElementsFrom (cfg : Config) (o : Nat → Outcome) (table : Nat) :
    Nat → List Element → Server → Server
  | _, [], st => st
  | i, element :: elements, st =>
    tryElementsFrom cfg o table (i + 1) elements (tryElement cfg (o i) ⟨table, i⟩ element st)

/-- How the calls of one addition end. -/
structure Outcomes where
  element : Nat → Outcome
  request : Bool
  err : Bool
  send : Bool

/-- An element that cannot be added is passed over. -/
def tryAddElements (cfg : Config) (o : Outcomes) (table : Nat) (elements : List Element)
    (st : Server) : Bool × Server :=
  if elements.isEmpty then (false, st)
  else
    let st := tryElementsFrom cfg o.element table 0 elements st
    if !o.request then (false, st)
    else
      let (status, st) := registerService o.err st
      (status && o.send, st)

theorem tryElementsFrom_of_ok (cfg : Config) (table i : Nat) (elements : List Element)
    (st : Server) :
    tryElementsFrom cfg (fun _ => ⟨true, true, true⟩) table i elements st
      = addElementsFrom cfg table i elements st := by
  induction elements generalizing i st with
  | nil => rfl
  | cons element elements ih =>
    have hone : tryElement cfg ⟨true, true, true⟩ ⟨table, i⟩ element st
        = addElement cfg ⟨table, i⟩ element st := by
      cases htype : element.type <;> simp [tryElement, addElement, htype]
    rw [tryElementsFrom, addElementsFrom, hone, ih]

theorem tryAddElements_of_ok (cfg : Config) (t : Table) (err : Bool) (st : Server) :
    tryAddElements cfg ⟨fun _ => ⟨true, true, true⟩, true, err, true⟩ t.id t.elements st
      = btSalGattServerAddElements cfg t err st := by
  simp [tryAddElements, btSalGattServerAddElements, tryElementsFrom_of_ok, Table.elements]

/-! ## What is added of an element -/

def Element.width (e : Element) : Nat := if e.type = .characteristic then 2 else 1

def IsFor (ref : ElementRef) (e : Element) (group : List Attr) : Prop :=
  match e.type with
  | .primaryService => group = [serviceAttr btUuidGattPrimary e.uuid]
  | .secondaryService => group = [serviceAttr btUuidGattSecondary e.uuid]
  | .characteristic =>
    group = [chrcAttr e.properties.toUInt8 (some e.uuid), valueAttr ref e]
  | .descriptor => ∃ a, group = [a] ∧ (a.userData = .userData ref ∨ a.userData = .ccc ref)
  | .includedService => False

def Holds (table : Nat) : Nat → List Element → List Attr → Prop
  | _, [], attrs => attrs = []
  | i, e :: es, attrs =>
    ∃ group rest, attrs = group ++ rest ∧ IsFor ⟨table, i⟩ e group ∧ Holds table (i + 1) es rest

def Begins (cfg : Config) (o : Outcome) (ref : ElementRef) (e : Element) (st : Server) : Prop :=
  o.uuid = true ∧ o.first = true ∧ st.db.length < cfg.maxAttributes ∧
    match e.type with
    | .descriptor => ∃ chrc ∈ getBaseChrc st.db, (descriptorAttr cfg chrc ref e).isSome
    | .includedService => False
    | _ => True

def Adds (cfg : Config) (o : Outcome) (ref : ElementRef) (e : Element) (st : Server) : Prop :=
  Begins cfg o ref e st ∧
    (e.type = .characteristic → o.second = true ∧ st.db.length + 1 < cfg.maxAttributes)

def UserData.element? : UserData → Option ElementRef
  | .element ref => some ref
  | .userData ref => some ref
  | .ccc ref => some ref
  | _ => none

def descriptorPermission (elemPerm : UInt16) : UInt16 :=
  (covertGattPermission elemPerm).toUInt8.toUInt16 &&& gattPermMask

def Element.registered (e : Element) : UInt16 :=
  match e.type with
  | .descriptor => descriptorPermission e.permissions
  | _ => covertGattPermission e.permissions &&& gattPermMask

def Attr.Wired (a : Attr) : Prop :=
  match a.userData with
  | .ccc _ => a.read = .ccc ∧ a.write = some .ccc
  | _ => a.read = .value ∧ a.write = some .value

structure Added (cfg : Config) (o : Outcome) (ref : ElementRef) (e : Element) (st : Server)
    (new : List Attr) : Prop where
  eq : tryElement cfg o ref e st = ⟨st.db ++ new, st.svcAttrCount + new.length, st.svcs⟩
  begins : Begins cfg o ref e st ↔ new ≠ []
  adds : Adds cfg o ref e st → IsFor ref e new
  short : ¬Adds cfg o ref e st → new.length < e.width
  made : ∀ a ∈ new, ∀ r, a.userData.element? = some r → r = ref ∧ a.perm = e.registered ∧ a.Wired

variable {cfg : Config} {o : Outcome} {ref : ElementRef} {e : Element} {st : Server}

theorem gattDbAdd_of_le (attr : Attr) (h : ¬st.db.length < cfg.maxAttributes) :
    gattDbAdd cfg attr st = none :=
  if_pos (Nat.not_lt.mp h)

theorem width_pos : 0 < e.width := by
  rw [Element.width]
  split <;> decide

theorem Added.nil (heq : tryElement cfg o ref e st = st) (hno : ¬Begins cfg o ref e st) :
    Added cfg o ref e st [] where
  eq := by rw [heq, append_nil]; rfl
  begins := iff_of_false hno (fun h => h rfl)
  adds h := absurd h.1 hno
  short _ := width_pos
  made := forall_mem_nil _

theorem exists_added_one {a : Attr} (htype : e.type ≠ .characteristic)
    (heq : tryElement cfg o ref e st = (gattDbAdd cfg a st).getD st)
    (hbegins : Begins cfg o ref e st ↔ st.db.length < cfg.maxAttributes)
    (hfor : IsFor ref e [a])
    (hmade : ∀ r, a.userData.element? = some r → r = ref ∧ a.perm = e.registered ∧ a.Wired) :
    ∃ new, Added cfg o ref e st new := by
  by_cases hroom : st.db.length < cfg.maxAttributes
  · rw [gattDbAdd_of_lt a hroom] at heq
    refine ⟨[a], heq, iff_of_true (hbegins.mpr hroom) (cons_ne_nil _ _), fun _ => hfor, ?_, ?_⟩
    · exact fun hno => absurd ⟨hbegins.mpr hroom, fun h => absurd h htype⟩ hno
    · exact forall_mem_singleton.mpr hmade
  · rw [gattDbAdd_of_le a hroom] at heq
    exact ⟨[], .nil heq (mt hbegins.mp hroom)⟩

theorem exists_added (cfg : Config) (o : Outcome) (ref : ElementRef) (e : Element) (st : Server) :
    ∃ new, Added cfg o ref e st new := by
  by_cases hok : o.uuid = true ∧ o.first = true
  swap
  · refine ⟨[], .nil ?_ fun h => hok ⟨h.1, h.2.1⟩⟩
    rw [tryElement, if_pos]
    grind
  obtain ⟨huuid, hfirst⟩ := hok
  have hno : ¬(!o.uuid || !o.first) = true := by simp [huuid, hfirst]
  cases htype : e.type with
  | primaryService =>
    refine exists_added_one (a := serviceAttr btUuidGattPrimary e.uuid) ?_ ?_ ?_ ?_
      fun _ hr => absurd hr.symm (Option.some_ne_none _)
    all_goals simp [tryElement, addElement, addService, Begins, IsFor, htype, huuid, hfirst]
  | secondaryService =>
    refine exists_added_one (a := serviceAttr btUuidGattSecondary e.uuid) ?_ ?_ ?_ ?_
      fun _ hr => absurd hr.symm (Option.some_ne_none _)
    all_goals simp [tryElement, addElement, addService, Begins, IsFor, htype, huuid, hfirst]
  | includedService =>
    exact ⟨[], .nil (by simp [tryElement, addElement, htype]) (by simp [Begins, htype])⟩
  | descriptor =>
    have heq : tryElement cfg o ref e st = addDescriptor cfg ref e st := by
      simp [tryElement, addElement, htype, huuid, hfirst]
    cases hchrc : getBaseChrc st.db with
    | none => exact ⟨[], .nil (by rw [heq, addDescriptor, hchrc]) (by simp [Begins, htype, hchrc])⟩
    | some chrc =>
      cases hattr : descriptorAttr cfg chrc ref e with
      | none =>
        refine ⟨[], .nil ?_ (by simp [Begins, htype, hchrc, hattr])⟩
        simp only [heq, addDescriptor, hchrc, hattr]
      | some a =>
        have ha : (a.perm = e.registered ∧ a.Wired)
            ∧ (a.userData = .userData ref ∨ a.userData = .ccc ref) := by
          rw [descriptorAttr] at hattr
          grind [Element.registered, descriptorPermission, Attr.Wired]
        refine exists_added_one (a := a) (by simp [htype]) ?_ ?_ ?_ fun r hr => ⟨?_, ha.1⟩
        · simp only [heq, addDescriptor, hchrc, hattr]
        · simp [Begins, htype, huuid, hfirst, hchrc, hattr]
        · simp only [IsFor, htype]
          exact ⟨a, rfl, ha.2⟩
        · rcases ha.2 with hdata | hdata <;> rw [hdata] at hr <;> cases hr <;> rfl
  | characteristic =>
    have hbegins : Begins cfg o ref e st ↔ st.db.length < cfg.maxAttributes := by
      simp [Begins, htype, huuid, hfirst]
    by_cases hroom : st.db.length < cfg.maxAttributes
    swap
    · refine ⟨[], .nil ?_ (mt hbegins.mp hroom)⟩
      simp [tryElement, addCharacteristic, htype, gattDbAdd_of_le _ hroom]
    by_cases hsecond : o.second = true ∧ st.db.length + 1 < cfg.maxAttributes
    · refine ⟨[chrcAttr e.properties.toUInt8 (some e.uuid), valueAttr ref e], ?_, ?_, ?_, ?_, ?_⟩
      · simp only [tryElement, if_neg hno, htype, hsecond.1, if_true, addCharacteristic,
          gattDbAdd_of_lt _ hroom]
        rw [gattDbAdd_of_lt _ (by simpa using hsecond.2)]
        simp
      · exact iff_of_true (hbegins.mpr hroom) (cons_ne_nil _ _)
      · exact fun _ => by simp [IsFor, htype]
      · exact fun hnot => absurd ⟨hbegins.mpr hroom, fun _ => hsecond⟩ hnot
      · simp [chrcAttr, valueAttr, UserData.element?, Element.registered, Attr.Wired, htype]
    · refine ⟨[chrcAttr 0 none], ?_, ?_, ?_, ?_, by simp [chrcAttr, UserData.element?]⟩
      · simp only [tryElement, if_neg hno, htype, addCharacteristic, gattDbAdd_of_lt _ hroom]
        split
        · rw [gattDbAdd_of_le]
          · rfl
          · simp_all
        · rfl
      · exact iff_of_true (hbegins.mpr hroom) (cons_ne_nil _ _)
      · exact fun hadds => absurd (hadds.2 htype) hsecond
      · exact fun _ => by simp [Element.width, htype]

/-! ## What is added of all -/

def Element.widths (es : List Element) : Nat := (es.map Element.width).sum

def AllAdded (cfg : Config) (o : Nat → Outcome) (table : Nat) :
    Nat → List Element → Server → Prop
  | _, [], _ => True
  | i, e :: es, st => Adds cfg (o i) ⟨table, i⟩ e st ∧
    AllAdded cfg o table (i + 1) es (tryElement cfg (o i) ⟨table, i⟩ e st)

def NoneAdded (cfg : Config) (o : Nat → Outcome) (table i : Nat) (es : List Element)
    (st : Server) : Prop :=
  ∀ k e, es[k]? = some e → ¬Begins cfg (o (i + k)) ⟨table, i + k⟩ e st

theorem length_of_isFor {group : List Attr} (h : IsFor ref e group) : group.length = e.width := by
  rw [Element.width]
  unfold IsFor at h
  split at h <;> grind

theorem length_of_holds {table i : Nat} {es : List Element} {attrs : List Attr}
    (h : Holds table i es attrs) : attrs.length = Element.widths es := by
  induction es generalizing i attrs with
  | nil => rw [h]; rfl
  | cons e es ih =>
    obtain ⟨group, rest, rfl, hgroup, hrest⟩ := h
    simp [Element.widths, length_of_isFor hgroup, ih hrest]

structure AddedAll (cfg : Config) (o : Nat → Outcome) (table i : Nat) (es : List Element)
    (st : Server) (new : List Attr) : Prop where
  eq : tryElementsFrom cfg o table i es st = ⟨st.db ++ new, st.svcAttrCount + new.length, st.svcs⟩
  holds : Holds table i es new ↔ AllAdded cfg o table i es st
  length_le : new.length ≤ Element.widths es
  none : new = [] ↔ NoneAdded cfg o table i es st
  made : ∀ a ∈ new, ∀ r, a.userData.element? = some r →
    ∃ k e, es[k]? = some e ∧ r = ⟨table, i + k⟩ ∧ a.perm = e.registered ∧ a.Wired

theorem exists_addedAll (cfg : Config) (o : Nat → Outcome) (table i : Nat) (es : List Element)
    (st : Server) : ∃ new, AddedAll cfg o table i es st new := by
  induction es generalizing i st with
  | nil =>
    exact ⟨[], by simp [tryElementsFrom], iff_of_true rfl trivial, Nat.zero_le _,
      iff_of_true rfl nofun, nofun⟩
  | cons e es ih =>
    obtain ⟨new, h⟩ := exists_added cfg (o i) ⟨table, i⟩ e st
    obtain ⟨rest, hrest⟩ := ih (i + 1) (tryElement cfg (o i) ⟨table, i⟩ e st)
    have hwidths : Element.widths (e :: es) = e.width + Element.widths es := rfl
    have hle := hrest.length_le
    refine ⟨new ++ rest, ?_, ⟨fun hholds => ?_, fun hall => ?_⟩, ?_, ?_, fun a ha r hr => ?_⟩
    · rw [tryElementsFrom, hrest.eq, h.eq]
      simp [Nat.add_assoc]
    · have hlen := length_of_holds hholds
      rw [length_append, hwidths] at hlen
      have hadds : Adds cfg (o i) ⟨table, i⟩ e st := by
        by_contra hno
        have := h.short hno
        omega
      obtain ⟨group, rest', heq, hgroup, hrest'⟩ := hholds
      have hsame := (length_of_isFor (h.adds hadds)).trans (length_of_isFor hgroup).symm
      obtain ⟨-, rfl⟩ := append_inj heq hsame
      exact ⟨hadds, hrest.holds.mp hrest'⟩
    · exact ⟨new, rest, rfl, h.adds hall.1, hrest.holds.mpr hall.2⟩
    · rw [length_append, hwidths]
      by_cases hadds : Adds cfg (o i) ⟨table, i⟩ e st
      · have := length_of_isFor (h.adds hadds)
        omega
      · have := h.short hadds
        omega
    · rw [append_eq_nil_iff, hrest.none]
      constructor
      · rintro ⟨rfl, hnone⟩ k e' hk
        cases k with
        | zero => cases hk; exact mt h.begins.mp (fun hne => hne rfl)
        | succ k =>
          have hst := h.eq
          rw [append_nil] at hst
          rw [hst] at hnone
          have := hnone k e' hk
          rwa [Nat.add_right_comm i 1 k] at this
      · intro hnone
        have hnew : new = [] := by
          have := hnone 0 e rfl
          simpa using mt h.begins.mpr this
        subst hnew
        have hst := h.eq
        rw [append_nil] at hst
        refine ⟨rfl, fun k e' hk => ?_⟩
        rw [hst, Nat.add_right_comm]
        exact hnone (k + 1) e' hk
    · rcases mem_append.mp ha with ha | ha
      · obtain ⟨rfl, hmade⟩ := h.made a ha r hr
        exact ⟨0, e, rfl, rfl, hmade⟩
      · obtain ⟨k, e', hk, rfl, hmade⟩ := hrest.made a ha r hr
        exact ⟨k + 1, e', hk, by rw [Nat.add_right_comm, Nat.add_assoc], hmade⟩

/-! ## All or nothing -/

/-- All elements, as one service, or nothing. -/
def AddsAtomically (cfg : Config) (o : Outcomes) (table : Nat) (es : List Element)
    (st : Server) : Prop :=
  let (ok, st') := tryAddElements cfg o table es st
  if ok then
    ∃ (k start count : Nat) (new : List Attr), st'.svcs[k]? = some ⟨some start, count⟩
      ∧ start ≤ st.db.length ∧ st'.db.length ≤ start + count ∧ st'.db = st.db ++ new
      ∧ Holds table 0 es new
  else st'.db = st.db ∧ st'.svcs = st.svcs

/-- Of the elements all are added where the registration succeeds, and none where it does not. -/
def AllOrNothing (cfg : Config) (o : Outcomes) (table : Nat) (es : List Element)
    (st : Server) : Prop :=
  es = [] ∨
    if o.request = true ∧ o.err = false ∧ (findFreeServiceIndex st).isSome then
      o.send = true ∧ AllAdded cfg o.element table 0 es st
    else NoneAdded cfg o.element table 0 es st

theorem free_of_findFreeServiceIndex {k : Nat} (h : findFreeServiceIndex st = some k) :
    st.svcs[k]? = some ⟨none, 0⟩ := by
  obtain ⟨hlt, hfree, -⟩ := findIdx?_eq_some_iff_getElem.mp h
  simp only [Bool.and_eq_true, isNone_iff_eq_none, beq_iff_eq] at hfree
  rw [getElem?_eq_getElem hlt, ← hfree.1, ← hfree.2]

/-- **Adding is atomic** exactly when everything succeeds, or the call fails before
anything was added. -/
theorem adds_atomically_iff (cfg : Config) (o : Outcomes) (table : Nat) (es : List Element)
    (st : Server) : AddsAtomically cfg o table es st ↔ AllOrNothing cfg o table es st := by
  obtain ⟨new, h⟩ := exists_addedAll cfg o.element table 0 es st
  by_cases hes : es = []
  · simp [AddsAtomically, AllOrNothing, tryAddElements, hes]
  have hnone : st.db ++ new = st.db ↔ NoneAdded cfg o.element table 0 es st := by
    rw [append_right_eq_self, h.none]
  simp only [AddsAtomically, AllOrNothing, tryAddElements, List.isEmpty_iff, hes, h.eq, false_or]
  cases hreq : o.request with
  | false => simpa using hnone
  | true =>
    have hindex : findFreeServiceIndex ⟨st.db ++ new, st.svcAttrCount + new.length, st.svcs⟩
        = findFreeServiceIndex st := rfl
    cases hfree : findFreeServiceIndex st with
    | none => simpa [registerService, hindex, hfree, removeFromServerDb] using hnone
    | some k =>
      have hk := free_of_findFreeServiceIndex hfree
      obtain ⟨hlt, hget⟩ := List.getElem?_eq_some_iff.mp hk
      cases herr : o.err with
      | true =>
        have hset : st.svcs.set k ⟨none, 0⟩ = st.svcs := by rw [← hget, set_getElem_self]
        simpa [registerService, hindex, hfree, removeFromServerDb, hset] using hnone
      | false =>
        simp only [registerService, hindex, hfree]
        cases hsend : o.send with
        | false =>
          suffices hne : st.svcs.set k
              ⟨some ((st.db ++ new).length - (st.svcAttrCount + new.length)),
                st.svcAttrCount + new.length⟩ ≠ st.svcs by simpa using fun _ => hne
          intro heq
          have := congrArg (·[k]?) heq
          simp [hlt, hget] at this
        | true =>
          simp only [← h.holds]
          constructor
          · rintro ⟨-, -, -, new', -, -, -, heq, hholds⟩
            obtain rfl := append_cancel_left heq
            simpa using hholds
          · intro hholds
            refine ⟨k, _, _, new, getElem?_set_self hlt, ?_, ?_, rfl, by simpa using hholds⟩
            · simp only [length_append]
              omega
            · show (st.db ++ new).length ≤ (st.db ++ new).length - _ + _
              omega

/-- The stack refuses the service, and its attribute stays. -/
theorem refused_service_stays :
    ¬AddsAtomically ⟨1, 4, fun _ => 0⟩ ⟨fun _ => ⟨true, true, true⟩, true, true, true⟩ 0
      [⟨.primaryService, .uuid16 0x180F, 0, 0⟩] (Server.init ⟨1, 4, fun _ => 0⟩) :=
  fun h => absurd h.1 (by decide)

/-! ## Permissions -/

def requirements : List (UInt16 × UInt16 × UInt16) :=
  [(gattPermEncryptRequired, btGattPermReadEncrypt, btGattPermWriteEncrypt),
    (gattPermAuthenRequired, btGattPermReadAuthen, btGattPermWriteAuthen),
    (gattPermMitmRequired, btGattPermReadLesc, btGattPermWriteLesc)]

/-- What `perm` allows the element allows, under every requirement of the element. -/
def NotWeaker (elemPerm perm : UInt16) : Prop :=
  (perm &&& btGattPermRead ≠ 0 → elemPerm &&& gattPermRead ≠ 0) ∧
    (perm &&& btGattPermWrite ≠ 0 → elemPerm &&& gattPermWrite ≠ 0) ∧
    ∀ r ∈ requirements, elemPerm &&& r.1 ≠ 0 →
      (perm &&& btGattPermRead ≠ 0 → perm &&& r.2.1 ≠ 0) ∧
        (perm &&& btGattPermWrite ≠ 0 → perm &&& r.2.2 ≠ 0)

-- not by `inferInstance`, which would try every triple of flags
instance (elemPerm perm : UInt16) : Decidable (NotWeaker elemPerm perm) :=
  @instDecidableAnd _ _ _ (@instDecidableAnd _ _ _ (List.decidableBAll _ requirements))

/-- A writable descriptor with MITM protection, which is registered without it. -/
def Element.losesMitm (e : Element) : Prop :=
  e.type = .descriptor ∧ e.permissions &&& gattPermWrite ≠ 0
    ∧ e.permissions &&& gattPermMitmRequired ≠ 0

theorem flags_and {f : UInt16} (hf : 0x1F &&& f = f) (p : UInt16) : p &&& 0x1F &&& f = p &&& f := by
  rw [UInt16.and_assoc, hf]

theorem covertGattPermission_flags (p : UInt16) :
    covertGattPermission (p &&& 0x1F) = covertGattPermission p := by
  simp (disch := decide) only [covertGattPermission, permIf, flags_and]

theorem notWeaker_flags {p perm : UInt16} : NotWeaker (p &&& 0x1F) perm ↔ NotWeaker p perm := by
  simp (disch := decide) only [NotWeaker, requirements, forall_mem_cons, flags_and,
    not_mem_nil, false_implies, implies_true]

theorem forall_flags {P : UInt16 → Prop} (h : ∀ n : Fin 32, P (UInt16.ofNat n)) (p : UInt16) :
    P (p &&& 0x1F) := by
  have hlt : (p &&& 0x1F).toNat < 32 := by
    exact Nat.lt_of_le_of_lt Nat.and_le_right (by decide)
  simpa using h ⟨_, hlt⟩

theorem notWeaker_value (p : UInt16) : NotWeaker p (covertGattPermission p &&& gattPermMask) := by
  rw [← notWeaker_flags, ← covertGattPermission_flags p]
  exact forall_flags (P := fun p => NotWeaker p (covertGattPermission p &&& gattPermMask))
    (by decide) p

theorem notWeaker_descriptor_iff (p : UInt16) : NotWeaker p (descriptorPermission p)
    ↔ ¬(p &&& gattPermWrite ≠ 0 ∧ p &&& gattPermMitmRequired ≠ 0) := by
  rw [← notWeaker_flags, descriptorPermission, ← covertGattPermission_flags p, gattPermWrite,
    gattPermMitmRequired, ← flags_and (f := 2) rfl p, ← flags_and (f := 0x10) rfl p]
  exact forall_flags (P := fun p => NotWeaker p (descriptorPermission p)
    ↔ ¬(p &&& 2 ≠ 0 ∧ p &&& 0x10 ≠ 0)) (by decide) p

theorem notWeaker_registered_iff : NotWeaker e.permissions e.registered ↔ ¬e.losesMitm := by
  rw [Element.registered, Element.losesMitm]
  cases e.type with
  | descriptor => simpa using notWeaker_descriptor_iff e.permissions
  | _ => simpa using notWeaker_value e.permissions

theorem db_registerService (err : Bool) (st : Server) : (registerService err st).2.db = st.db := by
  cases hfree : findFreeServiceIndex st <;> cases err <;>
    simp [registerService, removeFromServerDb, hfree]

theorem added_attr (cfg : Config) (o : Outcomes) (table : Nat) (es : List Element) (st : Server)
    (a : Attr) (ha : a ∈ (tryAddElements cfg o table es st).2.db.drop st.db.length)
    (r : ElementRef) (hr : a.userData.element? = some r) :
    ∃ k e, r = ⟨table, k⟩ ∧ es[k]? = some e ∧ a.perm = e.registered ∧ a.Wired := by
  obtain ⟨new, h⟩ := exists_addedAll cfg o.element table 0 es st
  have hnew : a ∈ new := by
    revert ha
    rw [tryAddElements]
    cases es with
    | nil => simp
    | cons e es => cases hreq : o.request <;> simp [h.eq, db_registerService]
  obtain ⟨k, e, hk, rfl, hmade⟩ := h.made a hnew r hr
  exact ⟨k, e, by rw [Nat.zero_add], hk, hmade⟩

/-- **Permissions.** An attribute added for a value or a descriptor is not weaker than its
element, unless that is a descriptor that can be written and asks for MITM protection. -/
theorem permissions_kept_iff (cfg : Config) (o : Outcomes) (table : Nat) (es : List Element)
    (st : Server) (a : Attr)
    (ha : a ∈ (tryAddElements cfg o table es st).2.db.drop st.db.length) (r : ElementRef)
    (hr : a.userData.element? = some r) :
    ∃ k e, r = ⟨table, k⟩ ∧ es[k]? = some e ∧ (NotWeaker e.permissions a.perm ↔ ¬e.losesMitm) := by
  obtain ⟨k, e, hr, hk, hperm, -⟩ := added_attr cfg o table es st a ha r hr
  exact ⟨k, e, hr, hk, hperm ▸ notWeaker_registered_iff⟩

def allWell : Outcomes := ⟨fun _ => ⟨true, true, true⟩, true, false, true⟩

def guardedTable : List Element :=
  [⟨.primaryService, .uuid16 0x180F, 0, 0⟩, ⟨.characteristic, .uuid16 0x2A19, 0x0A, 0x1B⟩,
    ⟨.descriptor, .uuid16 0x2901, 0, 0x12⟩]

def guardedDb : List Attr :=
  (tryAddElements ⟨1, 4, fun _ => 0⟩ allWell 0 guardedTable (Server.init ⟨1, 4, fun _ => 0⟩)).2.db

theorem guarded_value_kept :
    ⟨.uuid16 0x2A19, 0x1B3, .value, some .value, .element ⟨0, 1⟩⟩ ∈ guardedDb
      ∧ ∃ k e, ElementRef.mk 0 1 = ⟨0, k⟩ ∧ guardedTable[k]? = some e
        ∧ (NotWeaker e.permissions 0x1B3 ↔ ¬e.losesMitm) :=
  ⟨by decide, permissions_kept_iff ⟨1, 4, fun _ => 0⟩ allWell 0 guardedTable
    (Server.init ⟨1, 4, fun _ => 0⟩) ⟨.uuid16 0x2A19, 0x1B3, .value, some .value, .element ⟨0, 1⟩⟩
    (by decide) ⟨0, 1⟩ rfl⟩

/-- The description can be written by anyone. -/
theorem guarded_descriptor_open :
    ∃ a ∈ guardedDb, a.userData.element? = some ⟨0, 2⟩ ∧ a.perm = btGattPermWrite
      ∧ ¬NotWeaker 0x12 a.perm := by
  refine ⟨⟨.uuid16 0x2901, 2, .value, some .value, .userData ⟨0, 2⟩⟩, by decide, rfl, rfl, ?_⟩
  decide

end BtFramework.Gatts
