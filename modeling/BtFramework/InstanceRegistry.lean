import BtFramework.IndexAllocator
import BtFramework.Keyed
import BtFramework.Runs

/-!
# The registry of instances

`manager_service.c` keeps the instances that applications have created, under a name and a
process id. A name is stored cut to 63 bytes, and a lookup compares as many bytes as the asked
name has, at most 64: it finds the first instance of the process whose stored name begins with
the asked one.
-/

namespace BtFramework.Instances

open Keyed List Nat

abbrev Byte := { b : UInt8 // b ≠ 0 }

/-- The bytes in front of the terminator. -/
abbrev Name := List Byte

def hostNameLen : Nat := 64

def strncmpEq : Nat → Name → Name → Bool
  | 0, _, _ => true
  | _ + 1, [], [] => true
  | _ + 1, [], _ :: _ => false
  | _ + 1, _ :: _, [] => false
  | n + 1, a :: as, b :: bs => a = b && strncmpEq n as bs

/-- `bt_instance_t`, with its key. -/
structure Instance where
  pid : Int32
  appId : Nat
  handle : UInt64
  name : Name
deriving DecidableEq

def Instance.hostName (i : Instance) : Name := i.name.take (hostNameLen - 1)

structure State where
  instances : List Instance
  ids : IndexAllocator

def State.start : State := ⟨[], IndexAllocator.create 10⟩

inductive Status where
  | success
  | fail
  | nomem
  | noResources
  | deviceNotFound
  | notFound

def managerFindInstance (s : State) (name : Name) (pid : Int32) : Option Instance :=
  s.instances.find? fun i =>
    strncmpEq (if name.length > hostNameLen then hostNameLen else name.length) i.hostName name
      && decide (i.pid = pid)

def managerCreateInstance (s : State) (handle : UInt64) (name : Name) (pid : Int32) (alloc : Bool) :
    State × Status :=
  match managerFindInstance s name pid with
  | some _ => (s, .fail)
  | none =>
    if !alloc then (s, .nomem)
    else
      match s.ids.indexAlloc with
      | (none, _) => (s, .noResources)
      | (some id, ids) => ({ instances := s.instances ++ [⟨pid, id, handle, name⟩], ids }, .success)

def managerGetInstance (s : State) (name : Name) (pid : Int32) : Status × UInt64 :=
  match managerFindInstance s name pid with
  | none => (.deviceNotFound, 0)
  | some i => (.success, i.handle)

def managerDeleteInstance (s : State) (appId : Nat) : State × Status :=
  match s.instances.find? fun i => i.appId = appId with
  | none => (s, .notFound)
  | some i =>
    ({ instances := Keyed.removeFirst Instance.appId appId s.instances
       ids := s.ids.indexFree i.appId }, .success)

inductive Event where
  | create (handle : UInt64) (name : Name) (pid : Int32) (alloc : Bool)
  | delete (appId : Nat)

def step (s : State) : Event → State
  | .create handle name pid alloc => (managerCreateInstance s handle name pid alloc).1
  | .delete appId => (managerDeleteInstance s appId).1

/-! ## The ids -/

structure State.IdsKept (s : State) : Prop where
  nodup : (s.instances.map Instance.appId).Nodup
  taken : ∀ i ∈ s.instances, i.appId ∈ s.ids.taken

variable {s : State} {name : Name} {pid : Int32}

theorem State.IdsKept.create (h : s.IdsKept) (handle : UInt64) (name : Name) (pid : Int32)
    (alloc : Bool) : (managerCreateInstance s handle name pid alloc).1.IdsKept := by
  rw [managerCreateInstance]
  split
  · exact h
  · split
    · exact h
    · split
      · exact h
      next id ids halloc =>
        obtain ⟨hfree, htaken⟩ := IndexAllocator.indexAlloc_some halloc
        have hnew : ∀ i ∈ s.instances, i.appId ≠ id := by
          rintro i hi rfl
          exact hfree (h.taken i hi)
        refine ⟨nodup_concat h.nodup hnew, forall_mem_concat.mpr ?_⟩
        rw [htaken]
        exact ⟨fun i hi => mem_cons_of_mem id (h.taken i hi), mem_cons_self⟩

theorem State.IdsKept.delete (h : s.IdsKept) (appId : Nat) :
    (managerDeleteInstance s appId).1.IdsKept := by
  rw [managerDeleteInstance]
  split
  · exact h
  next i hi =>
    obtain ⟨-, hid⟩ := mem_of_find? hi
    have hremove := removeFirst_eq_remove (k := appId) h.nodup
    refine ⟨?_, fun j hj => ?_⟩
    · rw [hremove]
      exact nodup_remove h.nodup
    · rw [hremove] at hj
      obtain ⟨hj, hne⟩ := mem_remove.mp hj
      exact (mem_erase_of_ne (hid ▸ hne)).mpr (h.taken j hj)

theorem State.IdsKept.after (es : List Event) : (Runs.after step State.start es).IdsKept := by
  refine Runs.guarded_true.invariant (fun s e h _ => ?_)
    ⟨nodup_nil, nofun⟩ (Runs.after step State.start es)
    Runs.after_mem_visited
  cases e with
  | create handle name pid alloc => exact h.create handle name pid alloc
  | delete appId => exact h.delete appId

/-! ## Lookups -/

theorem strncmpEq_length_iff (a b : Name) : strncmpEq b.length a b = true ↔ b <+: a := by
  induction b generalizing a with
  | nil => exact iff_of_true rfl nil_prefix
  | cons x b ih =>
    cases a with
    | nil => exact iff_of_false Bool.noConfusion (by simp)
    | cons y a =>
      rw [length_cons, strncmpEq, Bool.and_eq_true, decide_eq_true_iff, ih, cons_prefix_cons]
      exact and_congr_left fun _ => eq_comm

theorem strncmpEq_of_short {n : Nat} {a b : Name} (ha : a.length < n) (hb : n ≤ b.length) :
    strncmpEq n a b = false := by
  induction n generalizing a b with
  | zero => exact absurd ha (not_lt_zero _)
  | succ n ih =>
    cases b with
    | nil => exact absurd hb (not_succ_le_zero n)
    | cons y b =>
      cases a with
      | nil => rfl
      | cons x a =>
        rw [strncmpEq, ih (lt_of_succ_lt_succ ha) (le_of_succ_le_succ hb), Bool.and_false]

theorem Instance.length_hostName_lt (i : Instance) : i.hostName.length < hostNameLen := by
  rw [Instance.hostName, length_take, hostNameLen]
  omega

theorem managerFindInstance_eq (s : State) (name : Name) (pid : Int32) :
    managerFindInstance s name pid
      = s.instances.find? fun i => decide (name <+: i.hostName ∧ i.pid = pid) := by
  rw [managerFindInstance]
  congr 1
  funext i
  rw [Bool.decide_and]
  congr 1
  rw [Bool.eq_iff_iff, decide_eq_true_iff]
  split
  next hlong =>
    have hcut : i.hostName.length < hostNameLen := i.length_hostName_lt
    refine iff_of_false ?_ fun h => ?_
    · rw [strncmpEq_of_short hcut (Nat.le_of_lt hlong)]
      exact Bool.noConfusion
    · have hle := h.length_le
      omega
  · exact strncmpEq_length_iff i.hostName name

def State.Live (s : State) (name : Name) (pid : Int32) (i : Instance) : Prop :=
  i ∈ s.instances ∧ i.name = name ∧ i.pid = pid

theorem find_none_of_long (s : State) (pid : Int32) (hlong : hostNameLen ≤ name.length) :
    managerFindInstance s name pid = none := by
  rw [managerFindInstance_eq, find?_eq_none]
  intro i _ hi
  have hle := (of_decide_eq_true hi).1.length_le
  have hcut := i.length_hostName_lt
  omega

theorem create_refused_iff (s : State) (handle : UInt64) (name : Name) (pid : Int32)
    (alloc : Bool) : (managerCreateInstance s handle name pid alloc).2 = .fail
      ↔ ∃ i, managerFindInstance s name pid = some i := by
  rw [managerCreateInstance]
  split
  next i hi => exact iff_of_true rfl ⟨i, hi⟩
  next hnone =>
    refine iff_of_false ?_ fun ⟨i, hi⟩ => ?_
    · split
      · exact Status.noConfusion
      · split <;> exact Status.noConfusion
    · rw [hnone] at hi
      exact absurd hi.symm (Option.some_ne_none i)

/-! ## Right lookups -/

/-- What the registry should answer about a name and a process id: the handle of the
instance that has them, or that there is none, and a second instance is refused. -/
structure State.AnswersRight (s : State) (name : Name) (pid : Int32) : Prop where
  found : (∃ j, s.Live name pid j) →
    ∃ j, s.Live name pid j ∧ managerGetInstance s name pid = (.success, j.handle)
  missing : (¬∃ j, s.Live name pid j) → managerGetInstance s name pid = (.deviceNotFound, 0)
  refused : ∀ handle alloc,
    (managerCreateInstance s handle name pid alloc).2 = .fail ↔ ∃ j, s.Live name pid j

/-- The first instance of the process whose stored name begins with the asked one has the handle
of one with exactly this name, and no instance has a name that does not fit. -/
structure State.Clear (s : State) (name : Name) (pid : Int32) : Prop where
  first : ∀ i, (s.instances.find? fun i => decide (name <+: i.hostName ∧ i.pid = pid)) = some i →
    ∃ j, s.Live name pid j ∧ j.handle = i.handle
  long : hostNameLen ≤ name.length → ¬∃ j, s.Live name pid j

theorem State.AnswersRight.clear (h : s.AnswersRight name pid) : s.Clear name pid := by
  refine ⟨fun i hi => ?_, fun hlong hlive => ?_⟩
  · rw [← managerFindInstance_eq] at hi
    have hlive := (h.refused 0 true).mp ((create_refused_iff ..).mpr ⟨i, hi⟩)
    obtain ⟨j, hj, hget⟩ := h.found hlive
    rw [managerGetInstance, hi] at hget
    exact ⟨j, hj, (Prod.mk.inj hget).2.symm⟩
  · obtain ⟨i, hi⟩ := (create_refused_iff ..).mp ((h.refused 0 true).mpr hlive)
    rw [find_none_of_long s pid hlong] at hi
    exact absurd hi.symm (Option.some_ne_none i)

end BtFramework.Instances
