import BtFramework.CStruct
import BtFramework.SnoopFilter

/-!
# BR/EDR traffic under the snoop log

What goes over the air while the filter watches: ACL links, L2CAP channels, and the PDUs
under way in each direction. `Traffic.step` is the L2CAP protocol, not the filter, and
`Link.wanted` says what the filter is for. A packet is given by what it is (`Happening`),
and `Traffic.packet` writes out its bytes. `Traffic.Conforms` is what the Core
specification and the order of fragments allow next.

`both`, `ours` and `theirs` keep a channel's ends apart: the cid of an end is known when
that end has named it.
-/

namespace BtFramework.Snoop

open CStruct (bytesOf)

/-! ## Channels -/

structure DynCid where
  val : Nat
  low : 0x40 ≤ val
  high : val < 0x10000

theorem DynCid.eq_of_val {c d : DynCid} (h : c.val = d.val) : c = d := by
  cases c
  cases d
  cases h
  rfl

instance : DecidableEq DynCid :=
  fun _ _ => decidable_of_iff _ ⟨DynCid.eq_of_val, congrArg DynCid.val⟩

inductive Ends where
  | ours (scid : DynCid)
  | theirs (scid : DynCid)
  | both (localCid peerCid : DynCid)
deriving DecidableEq

def Ends.requested (isReceive : Bool) (scid : DynCid) : Ends :=
  if isReceive then .theirs scid else .ours scid

def Ends.answered (isReceive : Bool) (dcid scid : DynCid) : Ends :=
  if isReceive then .both scid dcid else .both dcid scid

def Ends.endOf (isReceive : Bool) : Ends → Option DynCid
  | .ours scid => if isReceive then some scid else none
  | .theirs scid => if isReceive then none else some scid
  | .both localCid peerCid => some (if isReceive then localCid else peerCid)

def Ends.isOpen : Ends → Bool
  | .both _ _ => true
  | _ => false

structure Channel where
  ends : Ends
  psm : Nat
  signalling : Bool
deriving DecidableEq

def Channel.carries (isReceive : Bool) (cid : Nat) (c : Channel) : Bool :=
  c.ends.isOpen && (c.ends.endOf isReceive).any (·.val == cid)

structure Flow where
  cid : Nat
  rest : List UInt8
  dlci : Nat

structure Link where
  handle : Nat
  channels : List Channel
  rx : Option Flow
  tx : Option Flow

def Link.fresh (handle : Nat) : Link := ⟨handle, [], none, none⟩

def Link.flow (l : Link) (isReceive : Bool) : Option Flow := if isReceive then l.rx else l.tx

def Link.setFlow (l : Link) (isReceive : Bool) (flow : Flow) : Link :=
  if isReceive then { l with rx := some flow } else { l with tx := some flow }

/-! ## Signalling -/

inductive Signal where
  | connectionRequest (psm : Nat) (scid : DynCid)
  | connectionSuccess (dcid scid : DynCid) (status : Nat)
  | connectionPending (dcid : Nat) (scid : DynCid) (status : Nat)
  | connectionRefused (dcid : Nat) (scid : DynCid) (result status : Nat)
  | disconnectionResponse (dcid scid : DynCid)
  | other (code : UInt8) (data : List UInt8)

def le16 (v : Nat) : List UInt8 := bytesOf 2 v

def responseBytes (id : UInt8) (dcid scid result status : Nat) : List UInt8 :=
  [0x03, id, 8, 0] ++ le16 dcid ++ le16 scid ++ le16 result ++ le16 status

def Signal.bytes (id : UInt8) : Signal → List UInt8
  | .connectionRequest psm scid => [0x02, id, 4, 0] ++ le16 psm ++ le16 scid.val
  | .connectionSuccess dcid scid status => responseBytes id dcid.val scid.val 0 status
  | .connectionPending dcid scid status => responseBytes id dcid scid.val 1 status
  | .connectionRefused dcid scid result status => responseBytes id dcid scid.val result status
  | .disconnectionResponse dcid scid => [0x07, id, 4, 0] ++ le16 dcid.val ++ le16 scid.val
  | .other code data => [code, id] ++ le16 data.length ++ data

def Link.signal (l : Link) (isReceive : Bool) : Signal → Link
  | .connectionRequest psm scid =>
    { l with channels := l.channels ++
        [{ ends := .requested isReceive scid
           psm := psm
           signalling := psm == psmAvdtp && !l.channels.any (·.signalling) }] }
  | .connectionSuccess dcid scid _ =>
    { l with channels := l.channels.map fun c =>
        if c.ends = .requested (!isReceive) scid then
          { c with ends := .answered isReceive dcid scid }
        else c }
  | .connectionPending _ _ _ => l
  | .connectionRefused _ scid _ _ =>
    { l with channels := l.channels.filter fun c => c.ends ≠ .requested (!isReceive) scid }
  | .disconnectionResponse dcid scid =>
    { l with channels := l.channels.filter fun c => c.ends ≠ .answered isReceive dcid scid }
  | .other _ _ => l

def Link.SignalConforms (l : Link) (isReceive : Bool) : Signal → Prop
  | .connectionRequest psm scid =>
    psm < 0x10000 ∧ ∀ c ∈ l.channels, c.ends.endOf (!isReceive) ≠ some scid
  | .connectionSuccess dcid scid status =>
    status < 0x10000 ∧ (∃ c ∈ l.channels, c.ends = .requested (!isReceive) scid) ∧
      ∀ c ∈ l.channels, c.ends.endOf (!isReceive) ≠ some dcid
  | .connectionPending dcid scid status =>
    dcid < 0x10000 ∧ status < 0x10000 ∧ ∃ c ∈ l.channels, c.ends = .requested (!isReceive) scid
  | .connectionRefused dcid scid result status =>
    dcid < 0x10000 ∧ status < 0x10000 ∧ 2 ≤ result ∧ result < 0x10000 ∧
      ∃ c ∈ l.channels, c.ends = .requested (!isReceive) scid
  | .disconnectionResponse dcid scid => ∃ c ∈ l.channels, c.ends = .answered isReceive dcid scid
  | .other code data => code ≠ 0x02 ∧ code ≠ 0x03 ∧ code ≠ 0x07 ∧ data.length < 0x10000

/-! ## PDUs and packets -/

inductive Pdu where
  | signalling (signals : List (UInt8 × Signal))
  | data (cid : Nat) (payload : List UInt8)

def Pdu.cid : Pdu → Nat
  | .signalling _ => l2capSignalingChannelCid
  | .data cid _ => cid

def Pdu.payload : Pdu → List UInt8
  | .signalling signals => (signals.map fun s => s.2.bytes s.1).flatten
  | .data _ payload => payload

def Pdu.dlci (pdu : Pdu) : Nat := (pdu.payload.headD 0).toNat / 4

inductive Happening where
  | connectComplete (status : UInt8) (handle : Nat) (parameters : List UInt8)
  | disconnectComplete (status : UInt8) (handle : Nat) (reason : UInt8)
  | otherEvent (code : UInt8) (parameters : List UInt8)
  | start (isReceive : Bool) (handle : Nat) (flushable : Bool) (broadcast : Nat) (pdu : Pdu)
      (cut : Nat)
  | continuing (isReceive : Bool) (handle : Nat) (broadcast : Nat) (n : Nat)

structure Traffic where
  links : List Link

def Traffic.atLink (t : Traffic) (handle : Nat) (f : Link → Link) : Traffic :=
  { t with links := t.links.lookmap fun l => if l.handle = handle then some (f l) else none }

def Traffic.link (t : Traffic) (handle : Nat) : Option Link :=
  t.links.find? fun l => l.handle = handle

def Link.start (l : Link) (isReceive : Bool) (pdu : Pdu) (cut : Nat) : Link :=
  let l := l.setFlow isReceive ⟨pdu.cid, pdu.payload.drop cut, pdu.dlci⟩
  match pdu with
  | .signalling signals => signals.foldl (fun l s => l.signal isReceive s.2) l
  | .data _ _ => l

def Link.continuing (l : Link) (isReceive : Bool) (n : Nat) : Link :=
  match l.flow isReceive with
  | none => l
  | some flow => l.setFlow isReceive { flow with rest := flow.rest.drop n }

def Traffic.step (t : Traffic) : Happening → Traffic
  | .connectComplete status handle _ =>
    if status ≠ 0 then t
    else if t.links.any (fun l => l.handle = handle) then t
    else { t with links := t.links ++ [.fresh handle] }
  | .disconnectComplete status handle _ =>
    if status ≠ 0 then t else { t with links := t.links.eraseP fun l => l.handle = handle }
  | .otherEvent _ _ => t
  | .start isReceive handle _ _ pdu cut => t.atLink handle (·.start isReceive pdu cut)
  | .continuing isReceive handle _ n => t.atLink handle (·.continuing isReceive n)

def aclHeader (handle pb broadcast length : Nat) : List UInt8 :=
  0x02 :: le16 (handle + 0x1000 * pb + 0x4000 * broadcast) ++ le16 length

def Traffic.packet (t : Traffic) : Happening → List UInt8
  | .connectComplete status handle parameters =>
    [0x04, 0x03, UInt8.ofNat (3 + parameters.length), status] ++ le16 handle ++ parameters
  | .disconnectComplete status handle reason => [0x04, 0x05, 4, status] ++ le16 handle ++ [reason]
  | .otherEvent code parameters => [0x04, code, UInt8.ofNat parameters.length] ++ parameters
  | .start _ handle flushable broadcast pdu cut =>
    let first := pdu.payload.take cut
    aclHeader handle (if flushable then 2 else 0) broadcast (4 + first.length)
      ++ le16 pdu.payload.length ++ le16 pdu.cid ++ first
  | .continuing isReceive handle broadcast n =>
    let next := (((t.link handle).bind (·.flow isReceive)).elim [] (·.rest)).take n
    aclHeader handle 1 broadcast next.length ++ next

def Happening.isReceive : Happening → Bool
  | .start isReceive .. => isReceive
  | .continuing isReceive .. => isReceive
  | _ => true

/-! ## What may come next -/

def Link.CanCarry (l : Link) (isReceive : Bool) (cid : Nat) : Prop :=
  (0 < cid ∧ cid < 0x40 ∧ cid ≠ l2capSignalingChannelCid ∧ cid ≠ l2capLeSignalingChannelCid) ∨
    ∃ c ∈ l.channels, c.carries isReceive cid = true
deriving Decidable

def Link.SignalsConform (l : Link) (isReceive : Bool) : List (UInt8 × Signal) → Prop
  | [] => True
  | s :: rest =>
    l.SignalConforms isReceive s.2 ∧ (l.signal isReceive s.2).SignalsConform isReceive rest

def Link.PduConforms (l : Link) (isReceive : Bool) : Pdu → Prop
  | .signalling signals => l.SignalsConform isReceive signals
  | .data cid payload =>
    l.CanCarry isReceive cid ∧
      -- an RFCOMM frame has its address byte
      ∀ c ∈ l.channels, c.carries isReceive cid = true → c.psm = psmRfcomm → payload ≠ []

/-- ACL packets belong to a connected link, commands and responses match, a cid in use is not
given out again, data goes over fixed or open channels, and a continuing fragment brings bytes
that are left. -/
def Traffic.Conforms (t : Traffic) : Happening → Prop
  | .connectComplete _ handle _ => handle < 0x1000
  | .disconnectComplete _ handle _ => handle < 0x1000
  | .otherEvent code _ => code ≠ 0x03 ∧ code ≠ 0x05
  | .start isReceive handle _ broadcast pdu _ =>
    handle < 0x1000 ∧ broadcast < 4 ∧ pdu.payload.length < 0x10000 ∧
      ∃ l, t.link handle = some l ∧ l.PduConforms isReceive pdu
  | .continuing isReceive handle broadcast n =>
    handle < 0x1000 ∧ broadcast < 4 ∧
      ∃ l, t.link handle = some l ∧ ∃ flow, l.flow isReceive = some flow ∧
        0 < n ∧ n ≤ flow.rest.length ∧
        (flow.cid ≠ l2capSignalingChannelCid → l.CanCarry isReceive flow.cid)

section Decide

/-! Whether a trace conforms can be computed. -/

variable {α : Type} {o : Option α} {P : α → Prop} [DecidablePred P]

instance decidableExistsSome : Decidable (∃ a, o = some a ∧ P a) :=
  match o with
  | none => isFalse nofun
  | some a =>
    decidable_of_iff (P a) ⟨fun h => ⟨a, rfl, h⟩, fun ⟨_, hb, h⟩ => Option.some.inj hb ▸ h⟩

instance decidableForallSome : Decidable (∀ a, o = some a → P a) :=
  match o with
  | none => isTrue nofun
  | some a =>
    decidable_of_iff (P a) ⟨fun h _ hb => Option.some.inj hb ▸ h, fun h => h a rfl⟩

instance (l : Link) (isReceive : Bool) (σ : Signal) : Decidable (l.SignalConforms isReceive σ) := by
  cases σ <;> unfold Link.SignalConforms <;> infer_instance

instance decidableSignalsConform (isReceive : Bool) :
    ∀ (signals : List (UInt8 × Signal)) (l : Link), Decidable (l.SignalsConform isReceive signals)
  | [], _ => isTrue trivial
  | s :: rest, l =>
    have := decidableSignalsConform isReceive rest (l.signal isReceive s.2)
    inferInstanceAs (Decidable (_ ∧ _))

instance (l : Link) (isReceive : Bool) (pdu : Pdu) : Decidable (l.PduConforms isReceive pdu) := by
  cases pdu <;> unfold Link.PduConforms <;> infer_instance

instance (t : Traffic) (happening : Happening) : Decidable (t.Conforms happening) := by
  cases happening <;> unfold Traffic.Conforms <;> infer_instance

end Decide

/-! ## What the filter is for -/

def Channel.leftOut (on : FilterFlag → Bool) (dlci : Nat) (c : Channel) : Bool :=
  if c.psm = psmAvdtp then on .a2dpAudio && !c.signalling
  else if c.psm = psmRfcomm then on .spp && dlci != 0
  else if c.psm = psmAvctpBrowsing then on .avctpBrowsing
  else if c.psm = psmAtt then on .att
  else false

def Link.carrier (l : Link) (isReceive : Bool) (cid : Nat) : Option Channel :=
  l.channels.find? (·.carries isReceive cid)

def Link.wanted (l : Link) (on : FilterFlag → Bool) (isReceive : Bool) (cid dlci : Nat) : Bool :=
  if cid = l2capSignalingChannelCid then false
  else (l.carrier isReceive cid).any (·.leftOut on dlci)

def Traffic.wanted (t : Traffic) (on : FilterFlag → Bool) : Happening → Option Bool
  | .start isReceive handle _ _ pdu _ =>
    (t.link handle).map fun l => l.wanted on isReceive pdu.cid pdu.dlci
  | .continuing isReceive handle _ _ =>
    (t.link handle).bind fun l => (l.flow isReceive).map fun flow =>
      l.wanted on isReceive flow.cid flow.dlci
  | _ => none

end BtFramework.Snoop
