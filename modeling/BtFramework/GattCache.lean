import BtFramework.GattDiscovery
import BtFramework.Keyed
import BtFramework.Runs

/-!
# The service cache of a GATT client

The client keeps the services of a connection in a list, each with the range of its handles; a
handle is looked up in the first that covers it. A result that starts in front of a cached
service and reaches into it leaves that service in the list, where it is found before the new
one.
-/

namespace BtFramework.Gattc

open List Runs

structure GattcService where
  uuid : Uuid
  startHandle : Nat
  endHandle : Nat
  elements : List Element

namespace GattcService

def attributeHandleCmp (s : GattcService) (handle : Nat) : Bool :=
  s.startHandle ≤ handle && handle ≤ s.endHandle

def ofElements (first : Element) (rest : List Element) : GattcService :=
  ⟨first.uuid, first.handle, (rest.getLastD first).handle, first :: rest⟩

def element? (s : GattcService) (handle : Nat) : Option Element :=
  s.elements.find? (·.handle == handle)

def Apart (s t : GattcService) : Prop :=
  ∀ handle, s.attributeHandleCmp handle = true → t.attributeHandleCmp handle = false

end GattcService

/-- The cache, and all results since the connection. -/
structure GattcConnection where
  services : List GattcService
  discovered : List GattcService

inductive CacheMessage where
  | disconnected
  | discoverResult (first : Element) (rest : List Element)

namespace GattcConnection

def new : GattcConnection := ⟨[], []⟩

def processMessage (c : GattcConnection) : CacheMessage → GattcConnection
  | .disconnected => new
  | .discoverResult first rest =>
    let service := .ofElements first rest
    { services := c.services.eraseP (·.attributeHandleCmp first.handle) ++ [service]
      discovered := c.discovered ++ [service] }

def latest (c : GattcConnection) (handle : Nat) : Option GattcService :=
  c.discovered.reverse.find? (·.attributeHandleCmp handle)

/-- A result only meets services that cover its first handle: those it takes the place of. -/
def Replaces (c : GattcConnection) : CacheMessage → Prop
  | .disconnected => True
  | .discoverResult first rest => ∀ s ∈ c.services, ¬s.Apart (.ofElements first rest) →
    s.attributeHandleCmp first.handle = true

variable {c : GattcConnection} {first : Element} {rest : List Element}

structure Inv (c : GattcConnection) : Prop where
  apart : c.services.Pairwise GattcService.Apart
  latest : ∀ s ∈ c.services, ∀ handle, s.attributeHandleCmp handle = true → c.latest handle = some s

theorem Inv.eraseP_eq_filter (h : c.Inv) (handle : Nat) :
    c.services.eraseP (·.attributeHandleCmp handle)
      = c.services.filter (!·.attributeHandleCmp handle) :=
  Keyed.eraseP_eq_filter (h.apart.imp fun hst => hst handle)

theorem Inv.discoverResult (h : c.Inv) (hrep : c.Replaces (.discoverResult first rest)) :
    (c.processMessage (.discoverResult first rest)).Inv := by
  -- the services that stay do not cover the first handle, so they are apart from the new one
  have hstay : ∀ s ∈ c.services.eraseP (·.attributeHandleCmp first.handle),
      s ∈ c.services ∧ s.Apart (.ofElements first rest) := by
    intro s hs
    rw [h.eraseP_eq_filter, mem_filter] at hs
    refine ⟨hs.1, by_contra fun hov => ?_⟩
    simp [hrep s hs.1 hov] at hs
  constructor
  · refine pairwise_append.mpr ⟨h.apart.sublist eraseP_sublist, pairwise_singleton _ _, ?_⟩
    simpa [processMessage] using fun s hs => (hstay s hs).2
  · intro s hs handle hcovers
    simp only [processMessage, mem_append, mem_singleton] at hs
    rw [processMessage, GattcConnection.latest, reverse_append, reverse_singleton,
      singleton_append, find?_cons]
    rcases hs with hs | rfl
    · obtain ⟨hmem, hapart⟩ := hstay s hs
      rw [hapart handle hcovers]
      exact h.latest s hmem handle hcovers
    · rw [hcovers]

end GattcConnection

end BtFramework.Gattc
