/-!
# L2CAP connection-oriented channels: the receive path

The part of `l2cap_service.c` between the stack delivering a segment and the application's data
pipe. Lengths and counters are natural numbers, reduced modulo 2^16 where the C arithmetic can
wrap. What the handlers branch on is collected in `L2capEnv`, what they ask for is recorded in
the channel.
-/

namespace BtFramework

def l2capMaxRxBufSize : Nat := 10240

def l2capLeCreditsLowWatermark : Nat := 10

def l2capCidDynamicMin : Nat := 0x40

/-! ## Channel options -/

inductive L2capTransport where
  | ble | bredr
deriving DecidableEq

/-- `l2cap_config_option_t`. -/
structure L2capConfigOption where
  transport : L2capTransport
  mtu : Nat
  leMps : Nat
  initCredits : Nat
deriving DecidableEq

def l2capConfigParam (option : L2capConfigOption) : Option L2capConfigOption :=
  if l2capMaxRxBufSize < option.mtu then none
  else
    match option.transport with
    | .bredr => some option
    | .ble =>
      if option.leMps = 0 then none
      else if option.mtu < option.leMps then none
      else
        let minCredits := (option.mtu + option.leMps - 1) / option.leMps
        let maxCredits := l2capMaxRxBufSize / option.leMps
        if option.initCredits < minCredits then
          some { option with initCredits := minCredits }
        else if maxCredits < option.initCredits then
          some { option with initCredits := maxCredits }
        else some option

/-! ## Channels -/

structure L2capEndpointParam where
  mtu : Nat
  leMps : Nat
  credits : Nat
deriving DecidableEq

/-- A block of `lenTotal` bytes. -/
structure L2capPkt where
  lenTotal : Nat
  lenReceived : Nat
  dataLen : Nat
  data : List UInt8
deriving DecidableEq

/-- The receive part of `l2cap_channel_t`. -/
structure L2capChannel where
  localCid : Nat
  incoming : L2capEndpointParam
  channelConnected : Bool
  pipe : Bool
  proxyConnected : Bool
  rxSdu : Option L2capPkt
  rxList : List L2capPkt
  rxBufSize : Nat
  written : List (List UInt8)
  granted : List Nat
  disconnects : Nat
deriving DecidableEq

structure L2capEnv where
  alloc : Bool
  giveCredits : Bool
  pipeWrite : Bool

def l2capAbortChannel (ch : L2capChannel) : L2capChannel :=
  let ch := if ch.pipe then { ch with proxyConnected := false, pipe := false } else ch
  if ch.localCid ≠ 0 then { ch with disconnects := ch.disconnects + 1 } else ch

/-- For the channel the connection belongs to: take the parameters of the stack over, size the
receive buffer, and restart reading, which may fail in either call. -/
def handleChannelConneted (readStop readStart : Bool) (ch : L2capChannel)
    (incoming : L2capEndpointParam) : L2capChannel :=
  if !ch.proxyConnected then l2capAbortChannel ch
  else
    let rxBufSize := incoming.credits * incoming.leMps
    let ch := { ch with
      incoming := incoming
      rxBufSize := if l2capMaxRxBufSize < rxBufSize then l2capMaxRxBufSize
        else rxBufSize }
    if !readStop then l2capAbortChannel ch
    else if !readStart then l2capAbortChannel ch
    else { ch with channelConnected := true }

def l2capAddIncomingCredits (env : L2capEnv) (ch : L2capChannel) : L2capChannel :=
  let remoteCredits := ch.rxBufSize / ch.incoming.leMps
  if remoteCredits ≤ ch.incoming.credits then ch
  else if !env.giveCredits then ch
  else { ch with
    granted := ch.granted ++ [remoteCredits - ch.incoming.credits]
    incoming := { ch.incoming with credits := remoteCredits } }

def l2capRefillCredits (env : L2capEnv) (ch : L2capChannel) : L2capChannel :=
  if ch.incoming.credits < l2capLeCreditsLowWatermark then
    l2capAddIncomingCredits env ch
  else ch

def l2capSendSduToApp (env : L2capEnv) (ch : L2capChannel) (sdu : L2capPkt) :
    L2capChannel :=
  let ch := { ch with rxSdu := none }
  if !env.pipeWrite then l2capAbortChannel ch
  else { ch with
    written := ch.written ++ [sdu.data.take sdu.lenTotal]
    rxList := ch.rxList ++ [sdu] }

def l2capSendSduToAppCb (env : L2capEnv) (statusOk : Bool) (ch : L2capChannel) :
    L2capChannel :=
  if !ch.pipe then ch
  else if !statusOk then l2capAbortChannel ch
  else
    match ch.rxList with
    | [] => ch
    | sdu :: rest =>
      let rxBufSize := (ch.rxBufSize + sdu.lenTotal) % 65536
      l2capRefillCredits env { ch with
        rxList := rest
        rxBufSize := if l2capMaxRxBufSize < rxBufSize then l2capMaxRxBufSize
          else rxBufSize }

/-! ## Receiving segments -/

def l2capOnSegmentReceived (env : L2capEnv) (cid : Nat) (seg : List UInt8)
    (sduLen segOff : Nat) : Option L2capPkt :=
  if seg.length = 0 then none
  else if cid < l2capCidDynamicMin then none
  else if 0 < sduLen ∧ sduLen < seg.length then none
  else if !env.alloc then none
  else some
    { lenTotal := sduLen
      lenReceived := seg.length
      dataLen := if segOff ≠ 0 then seg.length else sduLen
      data := seg }

def l2capReassemble (env : L2capEnv) (ch : L2capChannel) (packet : L2capPkt) :
    L2capChannel :=
  match ch.rxSdu with
  | none =>
    if packet.lenReceived = packet.lenTotal then
      l2capSendSduToApp env ch packet
    else { ch with rxSdu := some packet }
  | some sdu =>
    if sdu.lenTotal < sdu.lenReceived + packet.lenReceived then
      l2capAbortChannel { ch with rxSdu := none }
    else
      let sdu := { sdu with
        data := sdu.data ++ packet.data
        lenReceived := sdu.lenReceived + packet.lenReceived }
      if sdu.lenReceived = sdu.lenTotal then l2capSendSduToApp env ch sdu
      else { ch with rxSdu := some sdu }

def l2capAccepts (ch : L2capChannel) (packet : L2capPkt) : Bool :=
  packet.lenReceived ≤ ch.incoming.leMps && packet.lenTotal ≤ ch.incoming.mtu
    && ch.incoming.credits ≠ 0 && ch.proxyConnected && ch.pipe

def l2capTakeIn (env : L2capEnv) (ch : L2capChannel) (packet : L2capPkt) :
    L2capChannel :=
  l2capRefillCredits env { ch with
    incoming := { ch.incoming with credits := ch.incoming.credits - 1 }
    rxBufSize := (ch.rxBufSize + 65536 - packet.lenReceived) % 65536 }

def handlePacketReceived (env : L2capEnv) (ch : L2capChannel) (packet : L2capPkt) : L2capChannel :=
  if ch.incoming.leMps < packet.lenReceived then l2capAbortChannel ch
  else if ch.incoming.mtu < packet.lenTotal then l2capAbortChannel ch
  else if ch.incoming.credits = 0 then l2capAbortChannel ch
  else if !ch.proxyConnected || !ch.pipe then ch
  else l2capReassemble env (l2capTakeIn env ch packet) packet

/-! ## The channel as a system -/

/-- Bytes, length of the SDU and offset in it. -/
structure L2capSegment where
  data : List UInt8
  sduLen : Nat
  segOff : Nat

inductive L2capRxEvent where
  | segment (env : L2capEnv) (seg : L2capSegment)
  | writeDone (env : L2capEnv) (statusOk : Bool)

/-- A segment arrives, or a write to the pipe is complete. -/
def l2capRxStep (ch : L2capChannel) : L2capRxEvent → L2capChannel
  | .segment env seg =>
    match l2capOnSegmentReceived env ch.localCid seg.data seg.sduLen seg.segOff with
    | none => ch
    | some packet => handlePacketReceived env ch packet
  | .writeDone env statusOk => l2capSendSduToAppCb env statusOk ch

def preparedChannel (cid : Nat) : L2capChannel where
  localCid := cid
  incoming := { mtu := 0, leMps := 0, credits := 0 }
  channelConnected := false
  pipe := true
  proxyConnected := true
  rxSdu := none
  rxList := []
  rxBufSize := 0
  written := []
  granted := []
  disconnects := 0

/-- A channel after `handle_channel_conneted`. -/
def connectedChannel (cid : Nat) (readStop readStart : Bool)
    (option : L2capConfigOption) : L2capChannel :=
  handleChannelConneted readStop readStart (preparedChannel cid)
    { mtu := option.mtu, leMps := option.leMps, credits := option.initCredits }

end BtFramework
