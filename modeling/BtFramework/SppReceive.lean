import BtFramework.Runs

/-!
# Receiving over a serial port connection

Until the application connects to the pipe, and as long as something is waiting, buffers are put
on a list; the list is sent from the front when the pipe is connected and with every later
buffer, until a write fails. A buffer that finds the pipe connected and the list empty is
written at once; if that write fails the pipe is closed.
-/

namespace BtFramework.Spp

open List Runs

/-! ## The device -/

inductive ConnectionState where
  | disconnected | connecting | connected | disconnecting
deriving DecidableEq

inductive ProxyState where
  | connected | disconnected | connecting | closing
deriving DecidableEq

inductive Pipe where
  | null | listening | accepted | closing
deriving DecidableEq

/-- The part of a `spp_device_t` that receiving uses. `removed`: no longer on the list of devices.
`received` are the buffers that arrived and `written` those the pipe has taken. -/
structure RxDevice where
  state : ConnectionState
  proxyState : ProxyState
  pipe : Pipe
  rxList : List (List UInt8)
  rxBytes : UInt32
  removed : Bool
  received : List (List UInt8)
  written : List (List UInt8)

def RxDevice.opened (cached : List (List UInt8)) : RxDevice where
  state := .connected
  proxyState := .connecting
  pipe := .listening
  rxList := cached
  rxBytes := 0
  removed := false
  received := cached
  written := []

def removeSppDevice (d : RxDevice) : RxDevice := { d with removed := true }

def sppDeviceClose (d : RxDevice) : RxDevice :=
  if d.pipe = .null then d else { d with pipe := .closing, proxyState := .closing }

def sppDeviceCleanup (d : RxDevice) : RxDevice :=
  match d.proxyState with
  | .connecting =>
    let d := { d with proxyState := .closing }
    if d.state = .disconnecting then sppDeviceClose d else d
  | .connected => sppDeviceClose d
  | .disconnected => removeSppDevice (sppDeviceClose d)
  | .closing => d

/-! ## The list of waiting buffers -/

def sendLoop : Nat → RxDevice → List (List UInt8) → RxDevice
  | _, d, [] => { d with rxList := [] }
  | 0, d, buf :: rest =>
    { d with rxList := buf :: rest, rxBytes := d.rxBytes + UInt32.ofNat buf.length }
  | accepts + 1, d, buf :: rest =>
    sendLoop accepts
      { d with
        rxBytes := d.rxBytes + UInt32.ofNat buf.length
        written := d.written ++ [buf] }
      rest

def sppRxBufferSend (d : RxDevice) (accepts : Nat) : RxDevice := sendLoop accepts d d.rxList

def sppRxBufferCache (d : RxDevice) (allocated : Bool) (buffer : List UInt8) : RxDevice :=
  if allocated then { d with rxList := d.rxList ++ [buffer] } else d

/-! ## Events -/

def sppProxyConnectionCallback (d : RxDevice) (accepts : Nat) (readStart : Bool) : RxDevice :=
  let d := sppRxBufferSend d accepts
  if d.proxyState = .closing then sppDeviceClose d
  else
    let d := { d with proxyState := .connected }
    if readStart then d else sppDeviceClose d

def sppOnIncomingDataReceived (d : RxDevice) (buffer : List UInt8) (allocated : Bool)
    (accepts : Nat) : RxDevice :=
  if d.proxyState ≠ .connected then sppRxBufferCache d allocated buffer
  else if d.rxList ≠ [] then sppRxBufferSend (sppRxBufferCache d allocated buffer) accepts
  else
    let d := { d with rxBytes := d.rxBytes + UInt32.ofNat buffer.length }
    if 0 < accepts then { d with written := d.written ++ [buffer] } else sppDeviceClose d

def euvComplete (d : RxDevice) (statusOk : Bool) : RxDevice :=
  if statusOk then d else sppDeviceClose d

/-- `accepts`: how many writes succeed. -/
inductive RxEvent where
  | incoming (buffer : List UInt8) (allocated : Bool) (accepts : Nat)
  | pipeConnected (statusOk : Bool) (accepts : Nat) (readStart : Bool)
  | writeComplete (statusOk : Bool)
  | readFailed
  | disconnectRequested
  | disconnected
  | cleanup
  | closeComplete

def rxHandle (d : RxDevice) : RxEvent → RxDevice
  | .incoming buffer allocated accepts => sppOnIncomingDataReceived d buffer allocated accepts
  | .pipeConnected statusOk accepts readStart =>
    if d.pipe = .listening ∧ statusOk = true then
      sppProxyConnectionCallback { d with pipe := .accepted } accepts readStart
    else d
  | .writeComplete statusOk => euvComplete d statusOk
  | .readFailed => euvComplete d false
  | .disconnectRequested => { d with state := .disconnecting }
  | .disconnected => sppDeviceCleanup { d with state := .disconnected }
  | .cleanup => sppDeviceCleanup d
  | .closeComplete => if d.pipe = .closing then removeSppDevice d else d

def RxEvent.buffer? : RxEvent → Option (List UInt8)
  | .incoming buffer _ _ => some buffer
  | _ => none

def rxStep (d : RxDevice) (e : RxEvent) : RxDevice :=
  let d := { d with received := d.received ++ e.buffer?.toList }
  if d.removed then d else rxHandle d e

/-! ## Order -/

def RxDevice.Caches (d : RxDevice) : Prop := d.proxyState ≠ .connected ∨ d.rxList ≠ []
deriving Decidable

/-- There is memory for the node of the list. -/
def RxEvent.HasNode (d : RxDevice) : RxEvent → Prop
  | .incoming _ allocated _ => d.Caches → d.pipe ≠ .closing → allocated = true
  | _ => True

instance (d : RxDevice) (e : RxEvent) : Decidable (e.HasNode d) := by
  cases e <;> unfold RxEvent.HasNode <;> infer_instance

/-- No write to a connected pipe fails. -/
def RxEvent.WritesSucceed (d : RxDevice) : RxEvent → Prop
  | .incoming _ _ accepts => d.proxyState = .connected → d.rxList.length < accepts
  | .pipeConnected _ accepts _ => d.rxList.length ≤ accepts
  | _ => True

structure RxDevice.InOrder (d : RxDevice) : Prop where
  waiting : d.pipe ≠ .closing → d.received = d.written ++ d.rxList
  sent : d.written <+: d.received
  opened : d.pipe ≠ .null ∧ d.proxyState ≠ .disconnected
  accepted : d.proxyState = .connected ↔ d.pipe = .accepted
  removed : d.removed = true → d.pipe = .closing

theorem sendLoop_eq (accepts : Nat) (d : RxDevice) (l : List (List UInt8)) :
    ∃ rxBytes, sendLoop accepts d l =
      { d with rxBytes, rxList := l.drop accepts, written := d.written ++ l.take accepts } := by
  induction l generalizing accepts d with
  | nil => exact ⟨d.rxBytes, by simp [sendLoop]⟩
  | cons buf rest ih =>
    cases accepts with
    | zero =>
      exact ⟨d.rxBytes + UInt32.ofNat buf.length, by simp [sendLoop]⟩
    | succ accepts =>
      obtain ⟨rxBytes, h⟩ := ih accepts
        { d with
          rxBytes := d.rxBytes + UInt32.ofNat buf.length
          written := d.written ++ [buf] }
      exact ⟨rxBytes, by rw [sendLoop, h]; simp⟩

theorem sppRxBufferSend_eq (d : RxDevice) (accepts : Nat) :
    ∃ rxBytes, sppRxBufferSend d accepts =
      { d with
        rxBytes, rxList := d.rxList.drop accepts
        written := d.written ++ d.rxList.take accepts } :=
  sendLoop_eq accepts d d.rxList

variable {d : RxDevice}

theorem RxDevice.InOrder.of_waiting (h : d.received = d.written ++ d.rxList)
    (hopened : d.pipe ≠ .null ∧ d.proxyState ≠ .disconnected)
    (haccepted : d.proxyState = .connected ↔ d.pipe = .accepted)
    (hremoved : d.removed = true → d.pipe = .closing) : d.InOrder where
  waiting _ := h
  sent := ⟨d.rxList, h.symm⟩
  opened := hopened
  accepted := haccepted
  removed := hremoved

theorem RxDevice.inOrder_opened (cached : List (List UInt8)) :
    (RxDevice.opened cached).InOrder := by
  apply RxDevice.InOrder.of_waiting <;> simp [RxDevice.opened]

theorem RxDevice.inOrder_close (hpipe : d.pipe ≠ .null) (hsent : d.written <+: d.received) :
    (sppDeviceClose d).InOrder := by
  rw [sppDeviceClose, if_neg hpipe]
  exact ⟨fun hne => absurd rfl hne, hsent, ⟨nofun, nofun⟩, ⟨nofun, nofun⟩, fun _ => rfl⟩

theorem RxDevice.InOrder.close (h : d.InOrder) : (sppDeviceClose d).InOrder :=
  inOrder_close h.opened.1 h.sent

theorem RxDevice.InOrder.cleanup (h : d.InOrder) : (sppDeviceCleanup d).InOrder := by
  have hopened := h.opened.2
  unfold sppDeviceCleanup
  split
  next hproxy =>
    have hpipe : d.pipe ≠ .accepted := fun hpipe => by
      rw [h.accepted.mpr hpipe] at hproxy
      cases hproxy
    have hclosing : RxDevice.InOrder { d with proxyState := .closing } :=
      ⟨h.waiting, h.sent, ⟨h.opened.1, nofun⟩, ⟨nofun, fun hacc => absurd hacc hpipe⟩, h.removed⟩
    dsimp only
    split
    · exact hclosing.close
    · exact hclosing
  · exact h.close
  next hproxy => exact absurd hproxy hopened
  · exact h

theorem RxDevice.InOrder.pipeConnected (h : d.InOrder) (hpipe : d.pipe = .listening)
    (accepts : Nat) (readStart : Bool) :
    (sppProxyConnectionCallback { d with pipe := .accepted } accepts readStart).InOrder := by
  have hwaiting := h.waiting (by rw [hpipe]; nofun)
  obtain ⟨rxBytes, heq⟩ := sppRxBufferSend_eq { d with pipe := .accepted } accepts
  -- in every branch the device goes through the connected state, and is perhaps closed
  have hconnected : RxDevice.InOrder { d with
      pipe := .accepted, proxyState := .connected, rxBytes, rxList := d.rxList.drop accepts
      written := d.written ++ d.rxList.take accepts } := by
    refine .of_waiting ?_ ⟨nofun, nofun⟩ ⟨fun _ => rfl, fun _ => rfl⟩ fun hr => ?_
    · rw [append_assoc, take_append_drop, hwaiting]
    · exact absurd (hpipe.symm.trans (h.removed hr)) nofun
  simp only [sppProxyConnectionCallback, heq]
  split
  · exact hconnected.close
  · split
    · exact hconnected
    · exact hconnected.close

def RxDevice.arrived (d : RxDevice) (buffer : List UInt8) : RxDevice :=
  { d with received := d.received ++ [buffer] }

theorem arrived_cached_waiting (h : d.received = d.written ++ d.rxList) (buffer : List UInt8) :
    let d' := sppRxBufferCache (d.arrived buffer) true buffer
    d'.received = d'.written ++ d'.rxList := by
  show d.received ++ [buffer] = d.written ++ (d.rxList ++ [buffer])
  rw [h, append_assoc]

theorem RxDevice.InOrder.incoming (h : d.InOrder) (hremoved : d.removed = false)
    (buffer : List UInt8) {allocated : Bool} {accepts : Nat}
    (hnode : (RxEvent.incoming buffer allocated accepts).HasNode d) :
    (sppOnIncomingDataReceived (d.arrived buffer) buffer allocated accepts).InOrder := by
  have hgone : (d.arrived buffer).removed = true → (d.arrived buffer).pipe = .closing :=
    fun hr => absurd hr (by rw [RxDevice.arrived, hremoved]; nofun)
  unfold sppOnIncomingDataReceived
  split
  next hproxy =>
    by_cases hpipe : d.pipe = .closing
    · -- nothing is written any more, so it does not matter whether the buffer is kept
      have hclosed : ∀ l, RxDevice.InOrder { d.arrived buffer with rxList := l } := fun _ =>
        ⟨fun hne => absurd hpipe hne, h.sent.trans (prefix_append _ _), h.opened, h.accepted,
          h.removed⟩
      unfold sppRxBufferCache
      split
      · exact hclosed _
      · exact hclosed d.rxList
    · rw [hnode (.inl hproxy) hpipe]
      exact .of_waiting (arrived_cached_waiting (h.waiting hpipe) buffer) h.opened h.accepted hgone
  next hproxy =>
    have hpipe := h.accepted.mp (not_not.mp hproxy)
    have hwaiting := h.waiting (by rw [hpipe]; nofun)
    split
    next hlist =>
      rw [hnode (.inr hlist) (by rw [hpipe]; nofun)]
      obtain ⟨rxBytes, heq⟩ :=
        sppRxBufferSend_eq (sppRxBufferCache (d.arrived buffer) true buffer) accepts
      rw [heq]
      refine .of_waiting ?_ h.opened h.accepted hgone
      rw [append_assoc, take_append_drop]
      exact arrived_cached_waiting hwaiting buffer
    next hlist =>
      have hnil : d.rxList = [] := not_not.mp hlist
      split
      · refine .of_waiting ?_ h.opened h.accepted hgone
        show d.received ++ [buffer] = (d.written ++ [buffer]) ++ d.rxList
        rw [hwaiting, hnil, append_nil, append_nil]
      · exact RxDevice.inOrder_close h.opened.1 (h.sent.trans (prefix_append _ _))

theorem rxStep_eq_rxHandle {e : RxEvent} (hremoved : ¬d.removed = true)
    (hbuffer : e.buffer? = none) : rxStep d e = rxHandle d e := by
  simp only [rxStep, if_neg hremoved, hbuffer, Option.toList, append_nil]

theorem RxDevice.InOrder.step (h : d.InOrder) {e : RxEvent} (hnode : e.HasNode d) :
    (rxStep d e).InOrder := by
  by_cases hremoved : d.removed = true
  · -- buffers still arrive, and are freed
    have hclosed := h.removed hremoved
    simp only [rxStep, if_pos hremoved]
    exact ⟨fun hne => absurd hclosed hne, h.sent.trans (prefix_append _ _), h.opened,
      h.accepted, h.removed⟩
  cases e
  case incoming =>
    simp only [rxStep, if_neg hremoved]
    exact h.incoming (Bool.not_eq_true _ ▸ hremoved) _ hnode
  all_goals rw [rxStep_eq_rxHandle hremoved rfl, rxHandle]
  case pipeConnected =>
    split
    next hpipe => exact h.pipeConnected hpipe.1 _ _
    · exact h
  case writeComplete =>
    rw [euvComplete]
    split
    · exact h
    · exact h.close
  case readFailed => exact h.close
  case disconnectRequested => exact { h with }
  case disconnected => exact RxDevice.InOrder.cleanup { h with }
  case cleanup => exact h.cleanup
  case closeComplete =>
    split
    next hpipe => exact { h with removed := fun _ => hpipe }
    · exact h

/-! ## Nothing waits while writes succeed -/

def RxDevice.Drained (d : RxDevice) : Prop := d.proxyState = .connected → d.rxList = []

theorem RxDevice.Drained.close (h : d.Drained) : (sppDeviceClose d).Drained := by
  unfold sppDeviceClose
  split
  · exact h
  · exact nofun

theorem RxDevice.Drained.cleanup (h : d.Drained) : (sppDeviceCleanup d).Drained := by
  have hclosing : RxDevice.Drained { d with proxyState := .closing } := nofun
  unfold sppDeviceCleanup
  split
  · dsimp only
    split
    · exact hclosing.close
    · exact hclosing
  · exact h.close
  · exact h.close
  · exact h

theorem RxDevice.Drained.pipeConnected {accepts : Nat} (hwrites : d.rxList.length ≤ accepts)
    (readStart : Bool) :
    (sppProxyConnectionCallback { d with pipe := .accepted } accepts readStart).Drained := by
  obtain ⟨rxBytes, heq⟩ := sppRxBufferSend_eq { d with pipe := .accepted } accepts
  have hdrained : ∀ proxyState, RxDevice.Drained { d with
      pipe := .accepted, proxyState, rxBytes, rxList := d.rxList.drop accepts
      written := d.written ++ d.rxList.take accepts } :=
    fun _ _ => drop_of_length_le hwrites
  simp only [sppProxyConnectionCallback, heq]
  split
  · exact (hdrained _).close
  · split
    · exact hdrained _
    · exact (hdrained _).close

theorem RxDevice.Drained.incoming (h : d.Drained) (buffer : List UInt8) {allocated : Bool}
    {accepts : Nat} (hwrites : (RxEvent.incoming buffer allocated accepts).WritesSucceed d) :
    (sppOnIncomingDataReceived (d.arrived buffer) buffer allocated accepts).Drained := by
  unfold sppOnIncomingDataReceived
  split
  next hproxy =>
    intro hconnected
    unfold sppRxBufferCache at hconnected
    split at hconnected <;> exact absurd hconnected hproxy
  next hproxy =>
    have hconnected : d.proxyState = .connected := not_not.mp hproxy
    have hpos : 0 < accepts := Nat.zero_lt_of_lt (hwrites hconnected)
    have hempty : ¬(d.arrived buffer).rxList ≠ [] := not_not.mpr (h hconnected)
    rw [if_neg hempty]
    rw [if_pos hpos]
    exact h

theorem RxDevice.Drained.step (h : d.Drained) {e : RxEvent} (hwrites : e.WritesSucceed d) :
    (rxStep d e).Drained := by
  by_cases hremoved : d.removed = true
  · simp only [rxStep, if_pos hremoved]
    exact h
  cases e
  case incoming =>
    simp only [rxStep, if_neg hremoved]
    exact h.incoming _ hwrites
  all_goals rw [rxStep_eq_rxHandle hremoved rfl, rxHandle]
  case pipeConnected =>
    split
    · exact RxDevice.Drained.pipeConnected hwrites _
    · exact h
  case writeComplete =>
    rw [euvComplete]
    split
    · exact h
    · exact h.close
  case readFailed => exact h.close
  case disconnectRequested => exact h
  case disconnected | cleanup => exact RxDevice.Drained.cleanup h
  case closeComplete => split <;> exact h

/-- **Order of reception.** If every buffer that has to wait has a node, the buffers written are
the first of those received, and while the pipe is connected the others wait behind them; if no
write fails, none waits then. -/
theorem written_prefix_received (cached : List (List UInt8)) (es : List RxEvent)
    (hnodes : Guarded rxStep RxEvent.HasNode (.opened cached) es) :
    (∀ d ∈ visited rxStep (.opened cached) es, d.written <+: d.received
        ∧ (d.proxyState = .connected → d.received = d.written ++ d.rxList))
      ∧ (Guarded rxStep RxEvent.WritesSucceed (.opened cached) es →
          ∀ d ∈ visited rxStep (.opened cached) es,
            d.proxyState = .connected → d.written = d.received) := by
  have hinv := hnodes.invariant (fun d _ (h : RxDevice.InOrder d) hnode => h.step hnode)
    (RxDevice.inOrder_opened cached)
  have hwaiting : ∀ d ∈ visited rxStep (.opened cached) es,
      d.proxyState = .connected → d.received = d.written ++ d.rxList := by
    intro d hd hconnected
    have hpipe := (hinv d hd).accepted.mp hconnected
    exact (hinv d hd).waiting (by rw [hpipe]; nofun)
  refine ⟨fun d hd => ⟨(hinv d hd).sent, hwaiting d hd⟩, fun hwrites d hd hconnected => ?_⟩
  have hstart : (RxDevice.opened cached).Drained := nofun
  have hdrained := hwrites.invariant (fun d _ (h : RxDevice.Drained d) hwrite => h.step hwrite)
    hstart d hd hconnected
  rw [hwaiting d hd hconnected, hdrained, append_nil]

def receivedInOrder : List RxEvent :=
  [.incoming [1] true 0, .incoming [2] true 0, .pipeConnected true 2 true,
    .incoming [3] true 1, .writeComplete true, .disconnected, .closeComplete,
    .incoming [4] true 0]

theorem receivedInOrder_written :
    (Guarded rxStep RxEvent.HasNode (.opened []) receivedInOrder
        ∧ (after rxStep (.opened []) receivedInOrder).written = [[1], [2], [3]])
      ∧ (after rxStep (.opened []) receivedInOrder).written
          <+: (after rxStep (.opened []) receivedInOrder).received :=
  ⟨⟨by decide, by decide⟩,
    ((written_prefix_received [] receivedInOrder (by decide)).1 _ after_mem_visited).1⟩

def nodeLost : List RxEvent :=
  [.incoming [1] false 0, .incoming [2] true 0, .pipeConnected true 1 true]

/-- The application gets the second buffer and not the first, although the pipe is
connected and every write succeeds. -/
theorem nodeLost_skips_first :
    let d := after rxStep (.opened []) nodeLost
    d.proxyState = .connected ∧ d.received = [[1], [2]] ∧ d.written = [[2]]
      ∧ ¬d.written <+: d.received := by
  decide

end BtFramework.Spp
