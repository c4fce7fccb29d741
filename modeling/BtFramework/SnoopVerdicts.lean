import BtFramework.Runs
import BtFramework.SnoopTracking

/-!
# What the snoop filter drops

`followed_step` carries the view of `SnoopTracking` through every packet, and
`dataVerdict_right_iff` reads the verdict off the link: right for AVDTP; RFCOMM is judged by a
byte that is not the frame's address; AVCTP browsing and ATT are never tracked (`Judged`).
-/

namespace BtFramework.Snoop

open HciPacket Keyed List Nat
open Runs (Guarded)

variable {on : FilterFlag → Bool} {isReceive : Bool} {l : Link} {filterItems : Nat}

/-! ## Reading packets -/

theorem skip_ofBytes (xs : List UInt8) {ys : List UInt8} {beyond : Nat → UInt8} {n : Nat}
    (hn : xs.length = n) (hsize : (xs ++ ys).length < 0x100000000) :
    (HciPacket.ofBytes (xs ++ ys) beyond).skip n = .ofBytes ys fun i => beyond (n + i) := by
  subst hn
  rw [length_append] at hsize
  have hmem : ∀ i, (xs ++ ys).getD (xs.length + i) (beyond (xs.length + i))
      = ys.getD i (beyond (xs.length + i)) := by
    intro i
    rw [getD_eq_getElem?_getD, getD_eq_getElem?_getD,
      getElem?_append_right (Nat.le_add_right _ _), Nat.add_sub_cancel_left]
  have hlen : ((xs ++ ys).length + 0x100000000 - xs.length) % 0x100000000 = ys.length := by
    rw [length_append]
    omega
  exact (mk.injEq ..).mpr ⟨funext hmem, hlen⟩

section Header

variable {handle pb broadcast : Nat}

theorem aclHeader_read (hh : handle < 0x1000) (hpb : pb < 4) (hbc : broadcast < 4) (length : Nat)
    (rest : List UInt8) (beyond : Nat → UInt8) :
    let pkt := (ofBytes (aclHeader handle pb broadcast length ++ rest) beyond).skip 1
    aclHandle pkt = handle ∧ aclPbFlag pkt = pb := by
  have hword : handle + 0x1000 * pb + 0x4000 * broadcast < 0x10000 := by omega
  have hlow : aclHandle ((ofBytes (aclHeader handle pb broadcast length ++ rest)
        beyond).skip 1)
      = (handle + 0x1000 * pb + 0x4000 * broadcast) % 0x1000 :=
    congrArg (· % 0x1000) (toNat_le16 hword)
  have hhigh : aclPbFlag ((ofBytes (aclHeader handle pb broadcast length ++ rest)
        beyond).skip 1)
      = (handle + 0x1000 * pb + 0x4000 * broadcast) / 256 % 256 / 16 % 4 :=
    congrArg (· / 16 % 4) UInt8.toNat_ofNat'
  refine ⟨hlow.trans ?_, hhigh.trans ?_⟩ <;> omega

end Header

/-! ## Data packets -/

variable {cid : Nat}

theorem carrier_some {c : Channel} (h : l.carrier isReceive cid = some c) :
    c ∈ l.channels ∧ ∃ x : DynCid, c.ends.endOf isReceive = some x ∧ x.val = cid := by
  refine ⟨mem_of_find?_eq_some h, ?_⟩
  have hcarries := find?_some h
  obtain ⟨-, hend⟩ := Bool.and_eq_true_iff.mp hcarries
  cases hx : c.ends.endOf isReceive with
  | none => rw [hx] at hend; exact absurd hend nofun
  | some x => rw [hx] at hend; exact ⟨x, rfl, beq_iff_eq.mp hend⟩

theorem carrier_eq_none_of_lt (hcid : cid < 0x40) : l.carrier isReceive cid = none := by
  cases h : l.carrier isReceive cid with
  | none => rfl
  | some c =>
    obtain ⟨-, x, -, hx⟩ := carrier_some h
    have := x.low
    omega

theorem endOf_ne_of_lt (hpos : 0 < cid) (hcid : cid < 0x40) (e : Ends) :
    e.cids.endOf isReceive ≠ cid := by
  rw [Ends.endOf_cids]
  cases e.endOf isReceive with
  | none => exact hpos.ne
  | some x =>
    have := x.low
    show x.val ≠ cid
    omega

structure ViewsChannels (on : FilterFlag → Bool) (l : Link) (acl : AclInfo) : Prop where
  rfcommCh : acl.rfcommCh = markedCids (Channel.marksRfcomm on) l.channels
  filterCids : acl.filterCids = trackedInfos on l.channels

section Data

variable {acl : AclInfo} {ctx : L2capContext}

def dataVerdict (isReceive : Bool) (acl : AclInfo) (ctx : L2capContext) : Bool :=
  (acl.filterCids.find? (handleL2capData isReceive acl ctx)).isSome

theorem dataVerdict_eq_true_iff (hview : ViewsChannels on l acl) :
    dataVerdict isReceive acl ctx = true ↔
      ∃ c ∈ l.channels, c.tracked on = true ∧ handleL2capData isReceive acl ctx c.info = true := by
  rw [dataVerdict, find?_isSome, hview.filterCids, trackedInfos]
  constructor
  · rintro ⟨info, hinfo, hdrop⟩
    obtain ⟨c, hc, rfl⟩ := mem_map.mp hinfo
    exact ⟨c, (mem_filter.mp hc).1, (mem_filter.mp hc).2, hdrop⟩
  · rintro ⟨c, hc, ht, hdrop⟩
    exact ⟨c.info, mem_map_of_mem (mem_filter.mpr ⟨hc, ht⟩), hdrop⟩

theorem marked_end {mark : Channel → Bool} (hpos : 0 < cid)
    (h : cid = (markedCids mark l.channels).endOf isReceive) :
    ∃ c ∈ l.channels, mark c = true ∧ c.ends.cids.endOf isReceive = cid := by
  rcases markedCids_cases mark l.channels with ⟨hno, -⟩ | ⟨c, hc, hm, hcids⟩
  · rw [hno, noCids_endOf] at h
    exact absurd h hpos.ne'
  · exact ⟨c, hc, hm, by rw [h, hcids]⟩

theorem dataVerdict_fixed (hview : ViewsChannels on l acl)
    (hpos : 0 < ctx.cids.endOf isReceive) (hlow : ctx.cids.endOf isReceive < 0x40) :
    dataVerdict isReceive acl ctx = false := by
  refine Bool.eq_false_of_not_eq_true fun h => ?_
  obtain ⟨c, hc, ht, hdrop⟩ := (dataVerdict_eq_true_iff hview).mp h
  have hrfcomm : ctx.cids.endOf isReceive ≠ acl.rfcommCh.endOf isReceive := by
    rw [hview.rfcommCh]
    intro heq
    obtain ⟨d, -, -, hd⟩ := marked_end hpos heq
    exact endOf_ne_of_lt hpos hlow d.ends hd
  rw [handleL2capData, if_neg hrfcomm] at hdrop
  exact endOf_ne_of_lt hpos hlow c.ends (beq_iff_eq.mp hdrop)

theorem dataVerdict_carried (hok : ChannelsOk on l.channels) (hview : ViewsChannels on l acl)
    {c : Channel} (hcarrier : l.carrier isReceive (ctx.cids.endOf isReceive) = some c) :
    dataVerdict isReceive acl ctx
      = if c.marksRfcomm on then handleRfcommData ctx.pkt else c.tracked on := by
  obtain ⟨hc, x, hx, hval⟩ := carrier_some hcarrier
  have hsame : ∀ d ∈ l.channels,
      d.ends.cids.endOf isReceive = ctx.cids.endOf isReceive → d = c := by
    intro d hd heq
    rw [← hval, Ends.endOf_cids_eq_iff] at heq
    exact hok.eq_of_end hd hc heq hx
  have hcend : c.ends.cids.endOf isReceive = ctx.cids.endOf isReceive :=
    (Ends.endOf_cids_eq_iff.mpr hx).trans hval
  cases hmark : c.marksRfcomm on with
  | true =>
    -- the pair is c's own, so the payload decides, for the entry of c as for any other
    have hrfcomm : ctx.cids.endOf isReceive = acl.rfcommCh.endOf isReceive := by
      rcases markedCids_cases (·.marksRfcomm on) l.channels with ⟨-, hnone⟩ | ⟨d, hd, hm, hcids⟩
      · exact absurd ((hnone c hc).symm.trans hmark) nofun
      · rw [hview.rfcommCh, hcids, eq_of_mark hok.oneRfcomm hd hc hm hmark, hcend]
    have htracked : c.tracked on = true := by
      rw [Channel.tracked, Bool.and_comm (c.psm == psmRfcomm)]
      exact Bool.or_eq_true_iff.mpr (.inr hmark)
    rw [if_pos rfl, Bool.eq_iff_iff, dataVerdict_eq_true_iff hview]
    simp only [handleL2capData, if_pos hrfcomm]
    constructor
    · rintro ⟨d, -, -, h⟩
      exact h
    · exact fun h => ⟨c, hc, htracked, h⟩
  | false =>
    have hrfcomm : ctx.cids.endOf isReceive ≠ acl.rfcommCh.endOf isReceive := by
      rw [hview.rfcommCh]
      intro heq
      obtain ⟨d, hd, hm, hdend⟩ := marked_end (hval ▸ Nat.pos_of_ne_zero x.ne_zero) heq
      exact absurd (hmark.symm.trans (hsame d hd hdend ▸ hm)) Bool.false_ne_true
    rw [Bool.eq_iff_iff, dataVerdict_eq_true_iff hview]
    simp only [handleL2capData, if_neg hrfcomm, Bool.false_eq_true, if_false]
    constructor
    · rintro ⟨d, hd, ht, heq⟩
      exact hsame d hd (beq_iff_eq.mp heq) ▸ ht
    · exact fun ht => ⟨c, hc, ht, beq_iff_eq.mpr hcend⟩

end Data

/-! ## Verdicts and what the filter is for -/

/-- The verdict on RFCOMM is right, and what is never tracked is not to be dropped. -/
def Channel.Judged (on : FilterFlag → Bool) (dlci : Nat) (judged : Bool) (c : Channel) : Prop :=
  (c.marksRfcomm on = true → judged = (dlci != 0)) ∧
    (c.psm = psmAvctpBrowsing → on .avctpBrowsing = false) ∧ (c.psm = psmAtt → on .att = false)

def Link.Judged (on : FilterFlag → Bool) (l : Link) (isReceive : Bool) (cid dlci : Nat)
    (judged : Bool) : Prop :=
  ∀ c, l.carrier isReceive cid = some c → c.Judged on dlci judged

theorem Channel.judged_iff (c : Channel) (dlci : Nat) (judged : Bool) :
    (if c.marksRfcomm on then judged else c.tracked on) = c.leftOut on dlci
      ↔ c.Judged on dlci judged := by
  unfold Channel.Judged Channel.marksRfcomm Channel.tracked Channel.leftOut
  by_cases hA : c.psm = psmAvdtp
  · simp [hA, psmAvdtp, psmRfcomm, psmAvctpBrowsing, psmAtt]
  · by_cases hR : c.psm = psmRfcomm
    · cases hon : on .spp <;> simp [hR, psmAvdtp, psmRfcomm, psmAvctpBrowsing, psmAtt]
    · by_cases hB : c.psm = psmAvctpBrowsing
      · simp [hB, psmAvdtp, psmRfcomm, psmAvctpBrowsing, psmAtt]
      · by_cases hT : c.psm = psmAtt
        · simp [hT, psmAvdtp, psmRfcomm, psmAvctpBrowsing, psmAtt]
        · simp [hA, hR, hB, hT]

theorem canCarry_cases (h : l.CanCarry isReceive cid) :
    (0 < cid ∧ cid < 0x40 ∧ l.carrier isReceive cid = none) ∨
      ∃ c, l.carrier isReceive cid = some c := by
  rcases h with ⟨hpos, hlow, -⟩ | ⟨c, hc, hcarries⟩
  · exact .inl ⟨hpos, hlow, carrier_eq_none_of_lt hlow⟩
  · exact .inr (Option.isSome_iff_exists.mp (find?_isSome.mpr ⟨c, hc, hcarries⟩))

theorem canCarry_ne (h : l.CanCarry isReceive cid) :
    cid ≠ l2capSignalingChannelCid ∧ cid ≠ l2capLeSignalingChannelCid ∧ cid < 0x10000 := by
  rcases h with ⟨-, hlow, h1, h5⟩ | ⟨c, hc, hcarries⟩
  · exact ⟨h1, h5, by omega⟩
  · obtain ⟨d, hd⟩ := Option.isSome_iff_exists.mp (find?_isSome.mpr ⟨c, hc, hcarries⟩)
    obtain ⟨-, x, -, rfl⟩ := carrier_some hd
    have hlow := x.low
    have hhigh := x.high
    simp only [l2capSignalingChannelCid, l2capLeSignalingChannelCid]
    omega

theorem dataVerdict_right_iff {acl : AclInfo} {ctx : L2capContext}
    (hok : ChannelsOk on l.channels) (hview : ViewsChannels on l acl)
    (hcid : ctx.cids.endOf isReceive = cid) (hcarry : l.CanCarry isReceive cid) (dlci : Nat) :
    dataVerdict isReceive acl ctx = l.wanted on isReceive cid dlci ↔
      l.Judged on isReceive cid dlci (handleRfcommData ctx.pkt) := by
  subst hcid
  rw [Link.wanted, if_neg (canCarry_ne hcarry).1]
  rcases canCarry_cases hcarry with ⟨hpos, hlow, hnone⟩ | ⟨c, hc⟩
  · rw [dataVerdict_fixed hview hpos hlow, hnone]
    exact iff_of_true rfl fun c h => absurd (hnone.symm.trans h) nofun
  · rw [dataVerdict_carried hok hview hc, hc]
    refine (c.judged_iff dlci _).trans ⟨fun h d hd => ?_, fun h => h c hc⟩
    rw [hc, Option.some.injEq] at hd
    exact hd ▸ h

/-! ## Packets of a link -/

section Packets

variable {flow : Flow} {pkt : HciPacket}

theorem flow_setFlow (r : Bool) :
    (l.setFlow isReceive flow).flow r = if r = isReceive then some flow else l.flow r := by
  cases isReceive <;> cases r <;> rfl

@[simp] theorem setFlow_channels : (l.setFlow isReceive flow).channels = l.channels := by
  cases isReceive <;> rfl

theorem setFlow_view :
    (l.setFlow isReceive flow).view on
      = { l.view on with prevCids := (l.view on).prevCids.setEnd isReceive flow.cid } := by
  cases isReceive <;> rfl

theorem endOf_setEnd (cids : Cids) (cid : Nat) :
    (cids.setEnd isReceive cid).endOf isReceive = cid := by
  cases isReceive <;> rfl

theorem prevCids_endOf (on : FilterFlag → Bool) (hflow : l.flow isReceive = some flow) :
    (l.view on).prevCids.endOf isReceive = flow.cid := by
  cases isReceive <;> exact congrArg (·.elim 0 Flow.cid) hflow

theorem linkContinuing_view (hflow : l.flow isReceive = some flow) (n : Nat) :
    (l.continuing isReceive n).view on = l.view on := by
  rw [Link.continuing, hflow]
  rw [setFlow_view]
  rw [← prevCids_endOf on hflow]
  cases isReceive <;> rfl

end Packets

/-! ## The filter beside the traffic -/

/-- The filter beside what is on the air. -/
structure Watched where
  filter : SnoopFilter
  traffic : Traffic

/-- A packet, and the memory behind it. -/
structure Shown where
  happening : Happening
  alloc : Bool
  beyond : Nat → UInt8

def Watched.packet (s : Watched) (i : Shown) : HciPacket :=
  .ofBytes (s.traffic.packet i.happening) i.beyond

def Watched.verdict (s : Watched) (i : Shown) : SnoopFilter × Bool :=
  filterCanFilter s.filter i.alloc i.happening.isReceive (s.packet i)

def Watched.step (s : Watched) (i : Shown) : Watched :=
  ⟨(s.verdict i).1, s.traffic.step i.happening⟩

/-- The packet is dropped exactly if it is not wanted. -/
def VerdictRight (on : FilterFlag → Bool) (s : Watched) (i : Shown) : Prop :=
  ∀ wanted, s.traffic.wanted on i.happening = some wanted → (s.verdict i).2 = wanted
deriving Decidable

/-- The filter has memory, and can follow the signalling: one command, whole, in a packet. -/
def Trackable (on : FilterFlag → Bool) (s : Watched) (i : Shown) : Prop :=
  i.alloc = true ∧
    match i.happening with
    | .start isReceive handle _ _ (.signalling [(id, σ)]) cut =>
      (Pdu.signalling [(id, σ)]).payload.length ≤ cut ∧
        ∀ l, s.traffic.link handle = some l → l.SignalTrackable on isReceive σ
    | .start _ _ _ _ (.signalling _) _ => False
    | _ => True

/-- The packet is on no channel that is judged wrongly. -/
def Judged (on : FilterFlag → Bool) (s : Watched) (i : Shown) : Prop :=
  let judged := handleRfcommData (((s.packet i).skip 1).skip 8)
  match i.happening with
  | .start isReceive handle _ _ pdu _ =>
    ∀ l, s.traffic.link handle = some l → l.Judged on isReceive pdu.cid pdu.dlci judged
  | .continuing isReceive handle _ _ =>
    ∀ l, s.traffic.link handle = some l → ∀ flow, l.flow isReceive = some flow →
      l.Judged on isReceive flow.cid flow.dlci judged
  | _ => True

instance (on : FilterFlag → Bool) (s : Watched) (i : Shown) : Decidable (Trackable on s i) := by
  unfold Trackable
  split <;> infer_instance

instance (on : FilterFlag → Bool) (l : Link) (isReceive : Bool) (cid dlci : Nat) (judged : Bool) :
    Decidable (l.Judged on isReceive cid dlci judged) :=
  inferInstanceAs (Decidable (∀ c, _ = some c → _ ∧ _))

instance (on : FilterFlag → Bool) (s : Watched) (i : Shown) : Decidable (Judged on s i) := by
  unfold Judged
  dsimp only
  split <;> infer_instance

structure InStep (filterItems : Nat) (on : FilterFlag → Bool) (s : Watched) : Prop where
  items : s.filter.filterItems = filterItems
  links : s.filter.aclConnectionList = s.traffic.links.map (Link.view on)
  ok : ∀ l ∈ s.traffic.links, l.Ok on

section Steps

variable {s : Watched} {handle : Nat} {pkt : HciPacket} {alloc : Bool}

variable {f : Link → Link} {flow : Flow} {i : Shown} {flushable : Bool} {broadcast cut : Nat}
  {status : UInt8}

theorem handleAclData_view (h : InStep filterItems on s) (hhandle : aclHandle pkt = handle)
    (hlink : s.traffic.link handle = some l) {verdict : Bool}
    (hdata : handleLinkData filterItems alloc (l.view on) isReceive pkt
      = ((f l).view on, verdict)) :
    handleAclData s.filter alloc isReceive pkt
      = (⟨filterItems, (s.traffic.atLink handle f).links.map (Link.view on)⟩, verdict) := by
  have hfind : (s.traffic.links.map (Link.view on)).find?
      (fun acl : AclInfo => acl.connectionHandle = handle) = some (l.view on) := by
    rw [find?_map]
    exact congrArg (Option.map (Link.view on)) hlink
  have hlook := lookmap_map_of_find? (f := f)
    (p := fun acl : AclInfo => acl.connectionHandle = handle) (v := Link.view on) hlink
  simp only [decide_eq_true_eq] at hlook
  have hfilter : s.filter = ⟨filterItems, _⟩ := (SnoopFilter.mk.injEq ..).mpr ⟨h.items, h.links⟩
  rw [hfilter, handleAclData, hhandle]
  simp only [hfind, hdata, hlook]
  rfl

theorem atLink_ok (h : InStep filterItems on s) (hlink : s.traffic.link handle = some l)
    (hf : (f l).Ok on) : ∀ l ∈ (s.traffic.atLink handle f).links, l.Ok on := by
  have hall := forall_mem_lookmap (f := f) hlink h.ok hf
  simp only [decide_eq_true_eq] at hall
  exact hall

theorem link_ok (h : InStep filterItems on s) (hlink : s.traffic.link handle = some l) : l.Ok on :=
  h.ok l (mem_of_find?_eq_some hlink)

theorem Link.Ok.setFlow (h : l.Ok on)
    (hflow : flow.cid = l2capSignalingChannelCid → flow.rest = []) :
    (l.setFlow isReceive flow).Ok on := by
  refine ⟨by rw [setFlow_channels]; exact h.channels, fun r flow' hr hcid => ?_⟩
  rw [flow_setFlow] at hr
  split at hr
  · cases hr
    exact hflow hcid
  · exact h.whole r flow' hr hcid

structure Followed (filterItems : Nat) (on : FilterFlag → Bool) (s : Watched) (i : Shown) :
    Prop where
  next : InStep filterItems on (s.step i)
  verdict : VerdictRight on s i ↔ Judged on s i

theorem Followed.ofLink {verdict wanted : Bool} (h : InStep filterItems on s)
    (hlink : s.traffic.link handle = some l)
    (htraffic : s.traffic.step i.happening = s.traffic.atLink handle f)
    (hverdict : s.verdict i
      = handleAclData s.filter i.alloc i.happening.isReceive ((s.packet i).skip 1))
    (hhandle : aclHandle ((s.packet i).skip 1) = handle)
    (hdata : handleLinkData filterItems i.alloc (l.view on) i.happening.isReceive
      ((s.packet i).skip 1) = ((f l).view on, verdict)) (hok : (f l).Ok on)
    (hwanted : s.traffic.wanted on i.happening = some wanted)
    (hright : verdict = wanted ↔ Judged on s i) : Followed filterItems on s i := by
  have hcode := hverdict.trans (handleAclData_view h hhandle hlink hdata)
  refine ⟨⟨?_, ?_, ?_⟩, ?_⟩
  · show (s.verdict i).1.filterItems = filterItems
    rw [hcode]
  · show (s.verdict i).1.aclConnectionList = (s.traffic.step i.happening).links.map (Link.view on)
    rw [hcode, htraffic]
  · show ∀ l ∈ (s.traffic.step i.happening).links, l.Ok on
    rw [htraffic]
    exact atLink_ok h hlink hok
  · rw [← hright, VerdictRight, hwanted, hcode]
    exact ⟨fun hall => hall wanted rfl, fun heq w hw => heq.trans (Option.some.inj hw)⟩

theorem packet_start (t : Traffic) (flushable : Bool) (broadcast : Nat) (pdu : Pdu) (cut : Nat) :
    t.packet (.start isReceive handle flushable broadcast pdu cut)
      = aclHeader handle (if flushable then 2 else 0) broadcast (4 + (pdu.payload.take cut).length)
        ++ (le16 pdu.payload.length ++ le16 pdu.cid ++ pdu.payload.take cut) := by
  simp only [Traffic.packet, append_assoc]

theorem start_read {pdu : Pdu} (s : Watched)
    (hi : i.happening = .start isReceive handle flushable broadcast pdu cut)
    (hh : handle < 0x1000) (hbc : broadcast < 4) (hcid : pdu.cid < 0x10000) :
    s.verdict i = handleAclData s.filter i.alloc i.happening.isReceive ((s.packet i).skip 1) ∧
      aclHandle ((s.packet i).skip 1) = handle ∧ aclPbFlag ((s.packet i).skip 1) ≠ 1 ∧
      l2capCid ((s.packet i).skip 1) = pdu.cid := by
  have hpb : (if flushable then 2 else 0) < 4 ∧ (if flushable then 2 else 0) ≠ 1 := by
    cases flushable <;> decide
  have hpacket : s.packet i = .ofBytes (aclHeader handle (if flushable then 2 else 0) broadcast
      (4 + (pdu.payload.take cut).length)
      ++ (le16 pdu.payload.length ++ le16 pdu.cid ++ pdu.payload.take cut)) i.beyond := by
    rw [Watched.packet, hi, packet_start]
  rw [Watched.verdict, hpacket]
  obtain ⟨hhandle, hflag⟩ := aclHeader_read hh hpb.1 hbc
    (4 + (pdu.payload.take cut).length)
    (le16 pdu.payload.length ++ le16 pdu.cid ++ pdu.payload.take cut) i.beyond
  exact ⟨rfl, hhandle, fun h => hpb.2 (hflag.symm.trans h), toNat_le16 hcid⟩

theorem judged_start {pdu : Pdu}
    (hi : i.happening = .start isReceive handle flushable broadcast pdu cut)
    (hlink : s.traffic.link handle = some l) :
    Judged on s i ↔ l.Judged on isReceive pdu.cid pdu.dlci
      (handleRfcommData (((s.packet i).skip 1).skip 8)) := by
  simp only [Judged, hi, hlink, Option.some.injEq, forall_eq']

theorem followed_startData (h : InStep filterItems on s) {cid : Nat} {payload : List UInt8}
    (hi : i.happening = .start isReceive handle flushable broadcast (.data cid payload) cut)
    (hconf : s.traffic.Conforms i.happening) : Followed filterItems on s i := by
  rw [hi] at hconf
  obtain ⟨hh, hbc, -, l, hlink, hcarry, -⟩ := hconf
  obtain ⟨h1, h5, hcid⟩ := canCarry_ne hcarry
  obtain ⟨hverdict, hhandle, hpb, hread⟩ := start_read s hi hh hbc hcid
  have hok := link_ok h hlink
  have hdir : i.happening.isReceive = isReceive := by rw [hi]; rfl
  let flow : Flow := ⟨cid, payload.drop cut, (Pdu.data cid payload).dlci⟩
  have hdata : handleLinkData filterItems i.alloc (l.view on) i.happening.isReceive
      ((s.packet i).skip 1) = ((l.setFlow isReceive flow).view on,
        dataVerdict isReceive ((l.setFlow isReceive flow).view on)
          ⟨noCids.setEnd isReceive cid, ((s.packet i).skip 1).skip 8⟩) := by
    rw [hdir, handleLinkData, setFlow_view]
    simp only [hpb, if_false, hread, endOf_setEnd, Pdu.cid, h1, h5, or_self]
    rfl
  refine .ofLink h hlink (f := fun l => l.start isReceive (.data cid payload) cut)
    (by rw [hi]; rfl) hverdict hhandle hdata (hok.setFlow fun hsig => absurd hsig h1)
    (by rw [hi, Traffic.wanted, hlink]; rfl) ?_
  exact (dataVerdict_right_iff hok.channels (by rw [setFlow_view]; exact ⟨rfl, rfl⟩)
    (endOf_setEnd _ _) hcarry _).trans (judged_start hi hlink).symm

theorem signalConforms_setFlow {σ : Signal} (h : l.SignalConforms isReceive σ) :
    (l.setFlow isReceive flow).SignalConforms isReceive σ := by
  cases isReceive <;> cases σ <;> exact h

theorem signalTrackable_setFlow {σ : Signal} (h : l.SignalTrackable on isReceive σ) :
    (l.setFlow isReceive flow).SignalTrackable on isReceive σ := by
  cases isReceive <;> cases σ <;> exact h

theorem start_payload {pdu : Pdu} (s : Watched)
    (hi : i.happening = .start isReceive handle flushable broadcast pdu cut)
    (hlen : pdu.payload.length < 0x10000) (hcut : pdu.payload.length ≤ cut) :
    ((s.packet i).skip 1).skip 8 = .ofBytes pdu.payload fun j => i.beyond (1 + (8 + j)) := by
  have hsplit : ∀ pb, aclHeader handle pb broadcast (4 + pdu.payload.length)
      ++ (le16 pdu.payload.length ++ le16 pdu.cid ++ pdu.payload)
      = [0x02] ++ ((le16 (handle + 0x1000 * pb + 0x4000 * broadcast)
        ++ le16 (4 + pdu.payload.length) ++ le16 pdu.payload.length ++ le16 pdu.cid)
        ++ pdu.payload) := by
    intro pb
    simp only [aclHeader, append_assoc, cons_append, nil_append]
  have hsize : ∀ a b c d : Nat,
      (le16 a ++ le16 b ++ le16 c ++ le16 d ++ pdu.payload).length = 8 + pdu.payload.length := by
    intro a b c d
    simp only [le16, length_append, CStruct.length_bytesOf]
  rw [Watched.packet, hi, packet_start, take_of_length_le hcut, hsplit,
    skip_ofBytes [0x02] (n := 1) rfl
      (by rw [length_append, hsize]; simp only [length_singleton]; omega),
    skip_ofBytes (le16 _ ++ le16 _ ++ le16 _ ++ le16 _) (n := 8) rfl (by rw [hsize]; omega)]

theorem followed_startSignal (hflags : FlagsAre filterItems on) (h : InStep filterItems on s)
    {signals : List (UInt8 × Signal)}
    (hi : i.happening = .start isReceive handle flushable broadcast (.signalling signals) cut)
    (hconf : s.traffic.Conforms i.happening) (htrack : Trackable on s i) :
    Followed filterItems on s i := by
  rw [hi] at hconf
  obtain ⟨hh, hbc, hlen, l, hlink, hsignals⟩ := hconf
  obtain ⟨halloc, htrack⟩ := htrack
  rw [hi] at htrack
  obtain ⟨id, σ, rfl, hcut, htrack⟩ : ∃ id σ, signals = [(id, σ)] ∧
      (Pdu.signalling [(id, σ)]).payload.length ≤ cut ∧
      ∀ l, s.traffic.link handle = some l → l.SignalTrackable on isReceive σ := by
    match signals, htrack with
    | [(id, σ)], htrack => exact ⟨id, σ, rfl, htrack⟩
  have hcid : l2capSignalingChannelCid < 0x10000 := by decide
  obtain ⟨hverdict, hhandle, hpb, hread⟩ := start_read s hi hh hbc hcid
  have hok := link_ok h hlink
  have hdir : i.happening.isReceive = isReceive := by rw [hi]; rfl
  have hpayload : (Pdu.signalling [(id, σ)]).payload = σ.bytes id := append_nil _
  let flow : Flow :=
    ⟨l2capSignalingChannelCid, (Pdu.signalling [(id, σ)]).payload.drop cut,
      (Pdu.signalling [(id, σ)]).dlci⟩
  have hflow : (l.setFlow isReceive flow).Ok on := hok.setFlow fun _ => drop_of_length_le hcut
  have hview := signal_view hflags hflow.channels (signalConforms_setFlow hsignals.1)
    (signalTrackable_setFlow (htrack l hlink)) id fun j => i.beyond (1 + (8 + j))
  have hnext : ((l.setFlow isReceive flow).signal isReceive σ).Ok on :=
    ⟨signal_ok hflow.channels (signalConforms_setFlow hsignals.1)
        (signalTrackable_setFlow (htrack l hlink)),
      fun r flow' hr => hflow.whole r flow' (by cases σ <;> exact hr)⟩
  have hdata : handleLinkData filterItems i.alloc (l.view on) i.happening.isReceive
      ((s.packet i).skip 1) = (((l.setFlow isReceive flow).signal isReceive σ).view on, false) := by
    rw [hdir, handleLinkData, halloc, start_payload s hi hlen hcut, hpayload, ← hview, setFlow_view]
    simp only [hpb, if_false, hread, endOf_setEnd, Pdu.cid, true_or, if_true]
    rfl
  refine .ofLink h hlink (f := fun l => l.start isReceive (.signalling [(id, σ)]) cut)
    (by rw [hi]; rfl) hverdict hhandle hdata hnext (by rw [hi, Traffic.wanted, hlink]; rfl) ?_
  rw [judged_start hi hlink]
  have hnone : l.carrier isReceive l2capSignalingChannelCid = none :=
    carrier_eq_none_of_lt (by decide)
  exact iff_of_true rfl fun c hc => absurd (hc.symm.trans hnone) (Option.some_ne_none c)

theorem followed_continuing (h : InStep filterItems on s) {n : Nat}
    (hi : i.happening = .continuing isReceive handle broadcast n)
    (hconf : s.traffic.Conforms i.happening) : Followed filterItems on s i := by
  rw [hi] at hconf
  obtain ⟨hh, hbc, l, hlink, flow, hflow, hpos, hleft, hcarry⟩ := hconf
  have hok := link_ok h hlink
  -- signalling comes whole, so what is left is data
  have hsig : flow.cid ≠ l2capSignalingChannelCid := fun hcid => by
    rw [hok.whole isReceive flow hflow hcid] at hleft
    exact absurd hleft (not_le.mpr hpos)
  have hcarry := hcarry hsig
  obtain ⟨h1, h5, -⟩ := canCarry_ne hcarry
  have hdir : i.happening.isReceive = isReceive := by rw [hi]; rfl
  obtain ⟨next, hpacket⟩ : ∃ next, s.packet i
      = .ofBytes (aclHeader handle 1 broadcast next.length ++ next) i.beyond := by
    rw [Watched.packet, hi]
    exact ⟨_, rfl⟩
  have hread := aclHeader_read hh (show 1 < 4 by decide) hbc next.length next i.beyond
  rw [← hpacket] at hread
  obtain ⟨hhandle, hpb⟩ := hread
  have hdata : handleLinkData filterItems i.alloc (l.view on) i.happening.isReceive
      ((s.packet i).skip 1) = ((l.continuing isReceive n).view on, dataVerdict isReceive (l.view on)
        ⟨(l.view on).prevCids, ((s.packet i).skip 1).skip 8⟩) := by
    rw [hdir, handleLinkData, linkContinuing_view hflow]
    simp only [hpb, if_true, prevCids_endOf on hflow, h1, h5, or_self, if_false]
    rfl
  have hnext : (l.continuing isReceive n).Ok on := by
    rw [Link.continuing, hflow]
    exact hok.setFlow fun hcid => absurd hcid h1
  have hwanted : s.traffic.wanted on i.happening
      = some (l.wanted on isReceive flow.cid flow.dlci) := by
    rw [hi, Traffic.wanted, hlink, Option.bind_some, hflow]
    rfl
  refine .ofLink h hlink (f := fun l => l.continuing isReceive n) (by rw [hi]; rfl)
    (by rw [Watched.verdict, hpacket]; rfl) hhandle hdata hnext hwanted ?_
  simp only [Judged, hi, hlink, hflow, Option.some.injEq, forall_eq']
  exact dataVerdict_right_iff hok.channels ⟨rfl, rfl⟩ (prevCids_endOf on hflow) hcarry _

/-! ### Connection events -/

theorem Followed.ofEvent (hnext : InStep filterItems on (s.step i))
    (hwanted : s.traffic.wanted on i.happening = none) (hjudged : Judged on s i) :
    Followed filterItems on s i :=
  ⟨hnext, iff_of_true (fun _ hw => absurd (hwanted.symm.trans hw) nofun) hjudged⟩

theorem fresh_ok : (Link.fresh handle).Ok on :=
  ⟨⟨.nil, nofun, .nil, .nil⟩, fun r flow h => by cases r <;> exact absurd h nofun⟩

theorem status_ne_zero_iff : status.toNat ≠ 0 ↔ status ≠ 0 := not_congr (UInt8.toNat_inj (b := 0))

theorem event_read {code length : UInt8} {rest : List UInt8} (s : Watched)
    (hbytes : s.traffic.packet i.happening = [0x04, code, length, status] ++ le16 handle ++ rest)
    (hhandle : handle < 0x1000) :
    (s.verdict i).1 = (handleHciEvent s.filter i.alloc ((s.packet i).skip 1)).1 ∧
      ((s.packet i).skip 1).byte 0 = code.toNat ∧ ((s.packet i).skip 1).byte 2 = status.toNat ∧
      ((s.packet i).skip 1).word 3 = handle := by
  rw [Watched.verdict, Watched.packet, hbytes]
  exact ⟨rfl, rfl, rfl, toNat_le16 (lt_trans hhandle (by decide))⟩

theorem followed_connect (h : InStep filterItems on s) {parameters : List UInt8}
    (hi : i.happening = .connectComplete status handle parameters)
    (hconf : s.traffic.Conforms i.happening) (halloc : i.alloc = true) :
    Followed filterItems on s i := by
  rw [hi] at hconf
  obtain ⟨hcode, hbyte, hstatus, hword⟩ := event_read s (by rw [hi]; rfl) hconf
  refine .ofEvent ?_ (by rw [hi]; rfl) (by simp only [Judged, hi])
  have hany : s.filter.aclConnectionList.any (fun acl => acl.connectionHandle = handle)
      = s.traffic.links.any fun l => l.handle = handle := by
    rw [h.links, any_map]; rfl
  rw [Watched.step, hcode, handleHciEvent, hbyte, hi]
  simp only [UInt8.reduceToNat, if_true, handleHciEventConnectComplete, hstatus, hword, halloc,
    Traffic.step, hany, status_ne_zero_iff]
  split
  · exact h
  · split
    · exact h
    · refine ⟨h.items, ?_, forall_mem_concat.mpr ⟨h.ok, fresh_ok⟩⟩
      rw [h.links, map_append]
      rfl

theorem followed_disconnect (h : InStep filterItems on s) {reason : UInt8}
    (hi : i.happening = .disconnectComplete status handle reason)
    (hconf : s.traffic.Conforms i.happening) : Followed filterItems on s i := by
  rw [hi] at hconf
  obtain ⟨hcode, hbyte, hstatus, hword⟩ := event_read s (by rw [hi]; rfl) hconf
  refine .ofEvent ?_ (by rw [hi]; rfl) (by simp only [Judged, hi])
  rw [Watched.step, hcode, handleHciEvent, hbyte, hi]
  simp only [UInt8.reduceToNat, Nat.reduceEqDiff, if_false, if_true,
    handleHciEventDisconnectComplete, hstatus, hword, Traffic.step, status_ne_zero_iff]
  split
  · exact h
  · refine ⟨h.items, ?_, fun l hl => h.ok l (mem_of_mem_eraseP hl)⟩
    rw [h.links, eraseP_map]
    rfl

theorem followed_otherEvent (h : InStep filterItems on s) {code : UInt8}
    {parameters : List UInt8} (hi : i.happening = .otherEvent code parameters)
    (hconf : s.traffic.Conforms i.happening) : Followed filterItems on s i := by
  obtain ⟨happening, alloc, beyond⟩ := i
  obtain rfl : happening = _ := hi
  refine .ofEvent ?_ rfl trivial
  have h3 : code.toNat ≠ 0x03 := fun heq => hconf.1 (UInt8.toNat_inj.mp heq)
  have h5 : code.toNat ≠ 0x05 := fun heq => hconf.2 (UInt8.toNat_inj.mp heq)
  show InStep filterItems on ⟨(if code.toNat = 0x03 then _ else if code.toNat = 0x05 then _ else _ :
    SnoopFilter × Bool).1, s.traffic⟩
  rw [if_neg h3, if_neg h5]
  split <;> exact h

/-- **Step lemma.** -/
theorem followed_step (hflags : FlagsAre filterItems on) (h : InStep filterItems on s)
    (hconf : s.traffic.Conforms i.happening) (htrack : Trackable on s i) :
    Followed filterItems on s i := by
  cases hi : i.happening with
  | connectComplete status handle parameters => exact followed_connect h hi hconf htrack.1
  | disconnectComplete status handle reason => exact followed_disconnect h hi hconf
  | otherEvent code parameters => exact followed_otherEvent h hi hconf
  | start isReceive handle flushable broadcast pdu cut =>
    cases pdu with
    | signalling signals => exact followed_startSignal hflags h hi hconf htrack
    | data cid payload => exact followed_startData h hi hconf
  | continuing isReceive handle broadcast n => exact followed_continuing h hi hconf

end Steps

/-! ## Whole traces -/

def asked (flags : List Nat) (f : FilterFlag) : Bool := decide (f.bit ∈ flags)

def watching (flags : List Nat) : Watched := ⟨flags.foldl filterSetFilterFlag filterInit, ⟨[]⟩⟩

theorem filterSetFilterFlag_flag (f : SnoopFilter) (flag : Nat) {bit : Nat} (hbit : bit < 5) :
    (filterSetFilterFlag f flag).filterItems.testBit bit
      = (f.filterItems.testBit bit || decide (bit = flag)) := by
  unfold filterSetFilterFlag
  split
  · rw [testBit_or, one_shiftLeft, testBit_two_pow]
    congr 1
    exact decide_eq_decide.mpr eq_comm
  next hrange =>
    have hne : bit ≠ flag := fun h => hrange (h ▸ hbit)
    rw [decide_eq_false hne, Bool.or_false]

variable (flags : List Nat)

theorem foldl_filterSetFilterFlag (f : SnoopFilter) {bit : Nat} (hbit : bit < 5) :
    (flags.foldl filterSetFilterFlag f).filterItems.testBit bit
      = (f.filterItems.testBit bit || decide (bit ∈ flags)) := by
  induction flags generalizing f with
  | nil => simp
  | cons flag flags ih =>
    rw [foldl_cons, ih, filterSetFilterFlag_flag f flag hbit, Bool.or_assoc]
    simp only [mem_cons, Bool.decide_or]

theorem watching_acls (f : SnoopFilter) :
    (flags.foldl filterSetFilterFlag f).aclConnectionList = f.aclConnectionList := by
  induction flags generalizing f with
  | nil => rfl
  | cons flag flags ih =>
    rw [foldl_cons, ih]
    unfold filterSetFilterFlag
    split <;> rfl

theorem watching_flags : FlagsAre (watching flags).filter.filterItems (asked flags) := by
  intro f hf
  have hbit : f.bit < 5 := by cases f <;> first | exact absurd rfl hf | decide
  show ((flags.foldl filterSetFilterFlag filterInit).filterItems.testBit f.bit) = _
  rw [foldl_filterSetFilterFlag flags _ hbit]
  simp [filterInit, asked]

theorem watching_inStep :
    InStep (watching flags).filter.filterItems (asked flags) (watching flags) :=
  ⟨rfl, watching_acls flags filterInit, nofun⟩

/-- Along every trace that conforms and that the filter can follow, the verdict on each ACL packet
is right exactly when each data fragment is judged right. -/
theorem snoop_verdicts_right_iff (flags : List Nat) (shown : List Shown)
    (h : Guarded Watched.step
      (fun s i => s.traffic.Conforms i.happening ∧ Trackable (asked flags) s i) (watching flags)
      shown) :
    Guarded Watched.step (VerdictRight (asked flags)) (watching flags) shown ↔
      Guarded Watched.step (Judged (asked flags)) (watching flags) shown :=
  h.guarded_congr
    (fun _ _ hs hok => (followed_step (watching_flags flags) hs hok.1 hok.2).next)
    (fun _ _ hs hok => (followed_step (watching_flags flags) hs hok.1 hok.2).verdict)
    (watching_inStep flags)

def dyn (n : Fin 0xffc0) : DynCid := ⟨0x40 + n, Nat.le_add_right .., by omega⟩

def plain (happening : Happening) : Shown := ⟨happening, true, fun _ => 0⟩

def opened (psm : Nat) (localCid peerCid : DynCid) : List Shown :=
  [plain (.start false 1 true 0 (.signalling [(1, .connectionRequest psm localCid)]) 8),
    plain (.start true 1 true 0 (.signalling [(1, .connectionSuccess peerCid localCid 0)]) 12)]

/-- A2DP with the audio flag on: a media packet is dropped in both its
fragments, with an answer on the signalling channel kept in between. -/
theorem a2dp_verdicts_right :
    Guarded Watched.step (VerdictRight (asked [0])) (watching [0])
      (plain (.connectComplete 0 1 []) :: opened psmAvdtp (dyn 0) (dyn 0) ++
        opened psmAvdtp (dyn 1) (dyn 1) ++
        [plain (.start false 1 true 0 (.data 0x41 [0x80, 0x60, 0, 1]) 2),
          plain (.start true 1 true 0 (.data 0x40 [0x12, 0x01]) 2),
          plain (.continuing false 1 0 2)]) :=
  (snoop_verdicts_right_iff _ _ (by decide)).mpr (by decide)

def modemStatus : List UInt8 := [0x03, 0xef, 0x09, 0xe3, 0x05, 0x0b, 0x8d, 0x9a]

/-- Under the SPP flag a frame of DLCI 0 is to be kept and is dropped; under the AVCTP flag a
browsing PDU is to be dropped and is kept. -/
theorem dlci0_dropped_browsing_kept :
    let opening := fun (psm : Nat) =>
      plain (.connectComplete 0 1 []) :: opened psm (dyn 0) (dyn 1)
    let sent := fun (payload : List UInt8) =>
      plain (.start false 1 true 0 (.data 0x41 payload) payload.length)
    let spp := Runs.after Watched.step (watching [3]) (opening psmRfcomm)
    let avctp := Runs.after Watched.step (watching [1]) (opening psmAvctpBrowsing)
    (Guarded Watched.step
        (fun s i => s.traffic.Conforms i.happening ∧ Trackable (asked [3]) s i) (watching [3])
        (opening psmRfcomm ++ [sent modemStatus]) ∧
      (Pdu.data 0x41 modemStatus).dlci = 0 ∧
      spp.traffic.wanted (asked [3]) (sent modemStatus).happening = some false ∧
      (spp.verdict (sent modemStatus)).2 = true) ∧
    (Guarded Watched.step
        (fun s i => s.traffic.Conforms i.happening ∧ Trackable (asked [1]) s i) (watching [1])
        (opening psmAvctpBrowsing ++ [sent [0x00]]) ∧
      avctp.traffic.wanted (asked [1]) (sent [0x00]).happening = some true ∧
      (avctp.verdict (sent [0x00])).2 = false) := by
  decide

end BtFramework.Snoop
