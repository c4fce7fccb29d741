import BtFramework.Keyed
import BtFramework.SnoopTraffic
import Mathlib.Data.List.Pairwise

/-!
# How the snoop filter follows a link

`SnoopFilter` is the code and `SnoopTraffic` what is really on the air. As long as the
filter can follow the signalling (`Link.SignalTrackable`), the record it keeps for a link
is a function of the link, `Link.view`, and each signalling command takes the view before
to the view after (`signal_view`). The argument uses that no two channels of a link share
a cid at one end (`ChannelsOk`), which signalling keeps.
-/

namespace BtFramework.Snoop

open Bool Channel Cids DynCid Ends Link List
open Keyed (eraseP_eq_filter lookmap_eq_map)

variable {on : FilterFlag → Bool} {isReceive : Bool}

/-! ## The filter's view of a link -/

def Ends.cids : Ends → Cids
  | .ours scid => ⟨scid.val, 0⟩
  | .theirs scid => ⟨0, scid.val⟩
  | .both localCid peerCid => ⟨localCid.val, peerCid.val⟩

def Channel.tracked (on : FilterFlag → Bool) (c : Channel) : Bool :=
  (c.psm == psmAvdtp && on .a2dpAudio && !c.signalling) || (c.psm == psmRfcomm && on .spp)

def Channel.marksAvdtp (on : FilterFlag → Bool) (c : Channel) : Bool :=
  on .a2dpAudio && c.signalling

def Channel.marksRfcomm (on : FilterFlag → Bool) (c : Channel) : Bool :=
  on .spp && c.psm == psmRfcomm

def Channel.info (c : Channel) : ChannelInfo :=
  ⟨c.ends.cids, c.psm, if c.ends.isOpen then .connected else .connecting⟩

def markedCids (mark : Channel → Bool) (channels : List Channel) : Cids :=
  (channels.find? mark).elim noCids (·.ends.cids)

def trackedInfos (on : FilterFlag → Bool) (channels : List Channel) : List ChannelInfo :=
  (channels.filter (·.tracked on)).map Channel.info

def Link.view (on : FilterFlag → Bool) (l : Link) : AclInfo where
  connectionHandle := l.handle
  avdtpSignalCh := markedCids (Channel.marksAvdtp on) l.channels
  rfcommCh := markedCids (Channel.marksRfcomm on) l.channels
  prevCids := ⟨l.rx.elim 0 (·.cid), l.tx.elim 0 (·.cid)⟩
  filterCids := trackedInfos on l.channels

/-! ### Ends and cids -/

theorem DynCid.ne_zero (c : DynCid) : c.val ≠ 0 := by
  have := c.low
  omega

variable (e : Ends)

theorem Ends.endOf_cids (isReceive : Bool) :
    e.cids.endOf isReceive = (e.endOf isReceive).elim 0 (·.val) := by
  cases e <;> cases isReceive <;> rfl

theorem Ends.endOf_cids_eq_iff {e : Ends} {c : DynCid} :
    e.cids.endOf isReceive = c.val ↔ e.endOf isReceive = some c := by
  rw [endOf_cids]
  cases h : e.endOf isReceive with
  | none => exact iff_of_false (fun h0 => c.ne_zero h0.symm) nofun
  | some d => exact ⟨fun hv => congrArg some (eq_of_val hv), fun hs => by cases hs; rfl⟩

theorem noCids_endOf : noCids.endOf isReceive = 0 := by cases isReceive <;> rfl

theorem Ends.cids_injective {e f : Ends} (h : e.cids = f.cids) : e = f := by
  have hpos := ne_zero
  cases e <;> cases f <;> simp only [cids, Cids.mk.injEq] at h
  case ours.ours a b => rw [eq_of_val h.1]
  case theirs.theirs a b => rw [eq_of_val h.2]
  case both.both a b c d => rw [eq_of_val h.1, eq_of_val h.2]
  case ours.theirs a b => exact absurd h.1 (hpos a)
  case theirs.ours a b => exact absurd h.2 (hpos a)
  case ours.both a b c => exact absurd h.2.symm (hpos c)
  case theirs.both a b c => exact absurd h.1.symm (hpos b)
  case both.ours a b c => exact absurd h.2 (hpos b)
  case both.theirs a b c => exact absurd h.1 (hpos a)

theorem Ends.requested_cids (isReceive : Bool) (scid : DynCid) :
    (Ends.requested isReceive scid).cids = noCids.setEnd (!isReceive) scid.val := by
  cases isReceive <;> rfl

theorem Ends.requested_endOf (isReceive : Bool) (scid : DynCid) :
    (Ends.requested (!isReceive) scid).endOf isReceive = some scid := by
  cases isReceive <;> rfl

theorem Ends.exists_answered_endOf (isReceive : Bool) (dcid scid : DynCid) (r : Bool) :
    ∃ x, (Ends.answered isReceive dcid scid).endOf r = some x := by
  cases isReceive <;> exact ⟨_, rfl⟩

theorem Ends.answered_endOf {dcid scid x : DynCid} {r : Bool}
    (h : (Ends.answered isReceive dcid scid).endOf r = some x) :
    r = isReceive ∧ x = scid ∨ r = !isReceive ∧ x = dcid := by
  cases isReceive <;> cases r <;> cases h <;> simp

/-! ## Well-formed links -/

def Channel.Apart (c d : Channel) : Prop :=
  ∀ isReceive x, c.ends.endOf isReceive = some x → d.ends.endOf isReceive ≠ some x

structure ChannelsOk (on : FilterFlag → Bool) (channels : List Channel) : Prop where
  apart : channels.Pairwise Channel.Apart
  signalling : ∀ c ∈ channels, c.signalling = true → c.psm = psmAvdtp
  oneSignalling : channels.Pairwise fun c d => c.signalling = true → d.signalling = false
  oneRfcomm : channels.Pairwise fun c d => c.marksRfcomm on = true → d.marksRfcomm on = false

structure Link.Ok (on : FilterFlag → Bool) (l : Link) : Prop where
  channels : ChannelsOk on l.channels
  whole : ∀ isReceive flow, l.flow isReceive = some flow →
    flow.cid = l2capSignalingChannelCid → flow.rest = []

variable {channels : List Channel}

instance : Std.Symm Channel.Apart := ⟨fun _ _ h dir x hd hc => h dir x hc hd⟩

theorem ChannelsOk.eq_of_end (h : ChannelsOk on channels) {c d : Channel} (hc : c ∈ channels)
    (hd : d ∈ channels) {x : DynCid} (hcx : c.ends.endOf isReceive = some x)
    (hdx : d.ends.endOf isReceive = some x) : c = d := by
  by_contra hne
  exact h.apart.forall hc hd hne isReceive x hcx hdx

theorem ChannelsOk.sublist {channels' : List Channel} (h : ChannelsOk on channels)
    (hsub : channels'.Sublist channels) : ChannelsOk on channels' where
  apart := h.apart.sublist hsub
  signalling c hc := h.signalling c (hsub.subset hc)
  oneSignalling := h.oneSignalling.sublist hsub
  oneRfcomm := h.oneRfcomm.sublist hsub

theorem Ends.exists_end : ∃ isReceive x, e.endOf isReceive = some x := by
  cases e with
  | ours scid => exact ⟨true, scid, rfl⟩
  | theirs scid => exact ⟨false, scid, rfl⟩
  | both localCid => exact ⟨true, localCid, rfl⟩

theorem ChannelsOk.eq_of_ends (h : ChannelsOk on channels) {c d : Channel} (hc : c ∈ channels)
    (hd : d ∈ channels) (heq : c.ends = d.ends) : c = d := by
  obtain ⟨dir, x, hx⟩ := c.ends.exists_end
  exact h.eq_of_end hc hd hx (heq ▸ hx)

theorem ChannelsOk.one_with_ends (h : ChannelsOk on channels) (e : Ends) :
    channels.Pairwise fun c d => c.ends = e → d.ends ≠ e := by
  refine h.apart.imp fun {c d} hcd hc hd => ?_
  obtain ⟨dir, x, hx⟩ := e.exists_end
  exact hcd dir x (hc ▸ hx) (hd ▸ hx)

/-! ## Marked channels -/

section Marks

variable {mark : Channel → Bool}

theorem markedCids_concat (mark : Channel → Bool) (channels : List Channel) (c : Channel) :
    markedCids mark (channels ++ [c])
      = if mark c && !channels.any mark then c.ends.cids else markedCids mark channels := by
  rw [markedCids, find?_append, find?_singleton, ← isSome_find?, markedCids]
  cases channels.find? mark <;> cases mark c <;> rfl

theorem markedCids_eq_noCids (hnone : ∀ d ∈ channels, mark d = false) :
    markedCids mark channels = noCids := by
  have hfind : channels.find? mark = none :=
    find?_eq_none.mpr fun d hd => by rw [hnone d hd]; exact Bool.false_ne_true
  rw [markedCids, hfind]
  rfl

theorem markedCids_cases (mark : Channel → Bool) (channels : List Channel) :
    (markedCids mark channels = noCids ∧ ∀ d ∈ channels, mark d = false) ∨
      ∃ c ∈ channels, mark c = true ∧ markedCids mark channels = c.ends.cids := by
  cases hfind : channels.find? mark with
  | none =>
    have hnone := fun d hd => eq_false_of_not_eq_true (find?_eq_none.mp hfind d hd)
    exact .inl ⟨markedCids_eq_noCids hnone, hnone⟩
  | some c =>
    refine .inr ⟨c, mem_of_find?_eq_some hfind, find?_some hfind, ?_⟩
    rw [markedCids, hfind]
    rfl

theorem eq_of_mark (hone : channels.Pairwise fun c d => mark c = true → mark d = false)
    {c d : Channel} (hc : c ∈ channels) (hd : d ∈ channels) (hmc : mark c = true)
    (hmd : mark d = true) : c = d := by
  have hsymm : Std.Symm fun c d : Channel => mark c = true → mark d = false :=
    ⟨fun c d h hd => eq_false_of_not_eq_true fun hc => absurd ((h hc).symm.trans hd) nofun⟩
  by_contra hne
  exact absurd ((hone.forall hc hd hne hmc).symm.trans hmd) nofun

theorem ne_noCids : e.cids.peerCid ≠ 0 ∨ e.cids.localCid ≠ 0 := by
  cases e with
  | ours scid => exact .inr scid.ne_zero
  | theirs scid => exact .inl scid.ne_zero
  | both localCid => exact .inr localCid.ne_zero

end Marks

/-! ## Following the signalling -/

/-- A signalling PDU with one command; no RFCOMM request while there is an RFCOMM channel, and
neither the AVDTP signalling channel nor the RFCOMM channel refused, under their flags. -/
def Link.SignalTrackable (on : FilterFlag → Bool) (l : Link) (isReceive : Bool) : Signal → Prop
  | .connectionRequest psm _ =>
    psm = psmRfcomm → on .spp = true → ∀ c ∈ l.channels, c.psm ≠ psmRfcomm
  | .connectionRefused _ scid _ _ =>
    ∀ c ∈ l.channels, c.ends = .requested (!isReceive) scid →
      c.marksAvdtp on = false ∧ c.marksRfcomm on = false
  | _ => True

instance (l : Link) (σ : Signal) : Decidable (l.SignalTrackable on isReceive σ) := by
  apply σ.casesOn (motive := fun σ => Decidable (l.SignalTrackable on isReceive σ)) <;> intros <;>
    unfold Link.SignalTrackable <;> infer_instance

def FlagsAre (filterItems : Nat) (on : FilterFlag → Bool) : Prop :=
  ∀ f, f ≠ .max → flagSet filterItems f = on f

theorem trackedInfos_concat (channels : List Channel) (c : Channel) :
    trackedInfos on (channels ++ [c])
      = trackedInfos on channels ++ if c.tracked on then [c.info] else [] := by
  rw [trackedInfos, filter_append, map_append, filter_singleton]
  cases c.tracked on <;> rfl

section Request

variable {l : Link} {filterItems : Nat} {psm : Nat} {scid : DynCid} {pkt : HciPacket}

theorem Channel.info_requested (psm : Nat) (signalling : Bool) :
    Channel.info ⟨.requested isReceive scid, psm, signalling⟩
      = ⟨noCids.setEnd (!isReceive) scid.val, psm, .connecting⟩ := by
  cases isReceive <;> rfl

theorem taken_iff (mark : Channel → Bool) :
    ((markedCids mark l.channels).peerCid ≠ 0 ∨ (markedCids mark l.channels).localCid ≠ 0)
      ↔ l.channels.any mark = true := by
  rcases markedCids_cases mark l.channels with ⟨hno, hnone⟩ | ⟨c, hc, hm, hcids⟩
  · rw [hno, any_eq_true]
    exact iff_of_false (by simp [noCids]) fun ⟨d, hd, hm⟩ => by simp [hnone d hd] at hm
  · rw [hcids]
    exact iff_of_true (ne_noCids c.ends) (any_eq_true.mpr ⟨c, hc, hm⟩)

theorem request_view (hflags : FlagsAre filterItems on)
    (hpsm : pkt.word 4 = psm) (hscid : pkt.word 6 = scid.val)
    (htrack : l.SignalTrackable on isReceive (.connectionRequest psm scid)) :
    handleL2capConnectionRequest filterItems true (l.view on) isReceive pkt
      = (l.signal isReceive (.connectionRequest psm scid)).view on := by
  have havdtp := hflags .a2dpAudio nofun
  have hspp := hflags .spp nofun
  have hfree : ∀ {mark : Channel → Bool}, l.channels.any mark = false →
      markedCids mark l.channels = noCids := fun h =>
    markedCids_eq_noCids fun d hd => eq_false_of_not_eq_true (any_eq_false.mp h d hd)
  simp only [handleL2capConnectionRequest, checkChannelNeedFiltered, hpsm, hscid, signal, view,
    markedCids_concat, trackedInfos_concat, info_requested, requested_cids, taken_iff]
  by_cases hA : psm = psmAvdtp
  · subst hA
    cases hflag : on .a2dpAudio with
    | false => simp [psmFlag, psmAvdtp, psmRfcomm, havdtp, hflag, marksAvdtp, marksRfcomm, tracked]
    | true =>
      have hmarks : marksAvdtp on = (·.signalling) := by
        funext c
        rw [marksAvdtp, hflag, Bool.true_and]
      cases hany : l.channels.any (·.signalling) <;>
        simp [psmFlag, psmAvdtp, psmRfcomm, havdtp, hflag, hmarks, marksRfcomm, tracked, hany,
          hfree]
  by_cases hR : psm = psmRfcomm
  · subst hR
    cases hflag : on .spp with
    | false => simp [psmFlag, psmAvdtp, psmRfcomm, hspp, hflag, marksAvdtp, marksRfcomm, tracked]
    | true =>
      have hany : l.channels.any (marksRfcomm on) = false := by
        simpa [marksRfcomm, hflag] using htrack rfl hflag
      have hmark : ∀ e signalling, marksRfcomm on ⟨e, psmRfcomm, signalling⟩ = true := by
        simp [marksRfcomm, hflag]
      simp [psmFlag, hA, hspp, hflag, marksAvdtp, tracked, hany, hfree, hmark]
  · simp [hA, hR, marksAvdtp, marksRfcomm, tracked]

end Request

/-! ### Responses -/

section Response

variable {l : Link} {dcid scid : DynCid} {pkt : HciPacket} {mark : Channel → Bool} {c : Channel}

def Cids.answer (rec cids : Cids) : Cids :=
  if rec.localCid = cids.localCid then { rec with peerCid := cids.peerCid }
  else if rec.peerCid = cids.peerCid then { rec with localCid := cids.localCid }
  else rec

theorem Cids.answer_of_ne {rec cids : Cids} (h : ∀ r, rec.endOf r ≠ cids.endOf r) :
    rec.answer cids = rec := by
  have hlocal : rec.localCid ≠ cids.localCid := h true
  have hpeer : rec.peerCid ≠ cids.peerCid := h false
  rw [answer, if_neg hlocal, if_neg hpeer]

theorem connectionResponse_pairs {acl : AclInfo} {cids : Cids}
    (h : (∀ r, acl.avdtpSignalCh.endOf r ≠ cids.endOf r) ∨
      ∀ r, acl.rfcommCh.endOf r ≠ cids.endOf r) :
    handleAclInfoConnectionResponse acl cids.localCid cids.peerCid
      = { acl with
          avdtpSignalCh := acl.avdtpSignalCh.answer cids
          rfcommCh := acl.rfcommCh.answer cids } := by
  have hne : ∀ {rec : Cids}, (∀ r, rec.endOf r ≠ cids.endOf r) →
      rec.localCid ≠ cids.localCid ∧ rec.peerCid ≠ cids.peerCid := fun h => ⟨h true, h false⟩
  unfold handleAclInfoConnectionResponse
  rcases h with h | h
  · rw [answer_of_ne h, if_neg (hne h).1, if_neg (hne h).2, answer]
    split_ifs <;> rfl
  · rw [answer_of_ne h, if_neg (hne h).1, if_neg (hne h).2, answer]
    split_ifs <;> rfl

theorem noCids_ne_answered (r : Bool) :
    noCids.endOf r ≠ (Ends.answered isReceive dcid scid).cids.endOf r := by
  cases isReceive <;> cases r <;> first | exact scid.ne_zero.symm | exact dcid.ne_zero.symm

theorem requested_answer :
    (Ends.requested (!isReceive) scid).cids.answer (Ends.answered isReceive dcid scid).cids
      = (Ends.answered isReceive dcid scid).cids := by
  cases isReceive with
  | true => exact if_pos rfl
  | false =>
    have hne : (requested (!false) scid).cids.localCid
        ≠ (answered false dcid scid).cids.localCid := dcid.ne_zero.symm
    rw [answer, if_neg hne]
    exact if_pos rfl

theorem ne_answered_of_not_requested (hok : ChannelsOk on l.channels)
    (hreq : ∃ c ∈ l.channels, c.ends = .requested (!isReceive) scid)
    (hfresh : ∀ c ∈ l.channels, c.ends.endOf (!isReceive) ≠ some dcid) (hc : c ∈ l.channels)
    (hne : c.ends ≠ .requested (!isReceive) scid) (r : Bool) :
    c.ends.cids.endOf r ≠ (Ends.answered isReceive dcid scid).cids.endOf r := by
  obtain ⟨x, hx⟩ := exists_answered_endOf isReceive dcid scid r
  intro heq
  rw [endOf_cids_eq_iff.mpr hx, endOf_cids_eq_iff] at heq
  rcases answered_endOf hx with ⟨rfl, rfl⟩ | ⟨rfl, rfl⟩
  · obtain ⟨c₀, hc₀, hends⟩ := hreq
    have hc₀scid : c₀.ends.endOf r = some x := by rw [hends, requested_endOf]
    exact hne (hok.eq_of_end hc hc₀ heq hc₀scid ▸ hends)
  · exact hfresh c hc heq

def Channel.succeed (isReceive : Bool) (dcid scid : DynCid) (c : Channel) : Channel :=
  if c.ends = .requested (!isReceive) scid then { c with ends := .answered isReceive dcid scid }
  else c

theorem Channel.succeed_eq (c : Channel) :
    ∃ e, c.succeed isReceive dcid scid = { c with ends := e } := by
  unfold succeed
  split
  · exact ⟨_, rfl⟩
  · exact ⟨c.ends, rfl⟩

theorem markedCids_success (hmark : ∀ c e, mark { c with ends := e } = mark c)
    (hok : ChannelsOk on l.channels)
    (hreq : ∃ c ∈ l.channels, c.ends = .requested (!isReceive) scid)
    (hfresh : ∀ c ∈ l.channels, c.ends.endOf (!isReceive) ≠ some dcid) (status : Nat) :
    markedCids mark (l.signal isReceive (.connectionSuccess dcid scid status)).channels
      = (markedCids mark l.channels).answer (Ends.answered isReceive dcid scid).cids := by
  have hkeep : mark ∘ succeed isReceive dcid scid = mark := by
    funext c
    obtain ⟨e, he⟩ := c.succeed_eq
    rw [Function.comp_apply, he, hmark]
  show markedCids mark (l.channels.map (succeed isReceive dcid scid)) = _
  rw [markedCids, find?_map, hkeep, markedCids]
  cases hfind : l.channels.find? mark with
  | none => exact (answer_of_ne noCids_ne_answered).symm
  | some c =>
    have hc := mem_of_find?_eq_some hfind
    show (succeed isReceive dcid scid c).ends.cids = c.ends.cids.answer _
    by_cases hends : c.ends = .requested (!isReceive) scid
    · rw [succeed, if_pos hends, hends, requested_answer]
    · rw [succeed, if_neg hends,
        answer_of_ne (ne_answered_of_not_requested hok hreq hfresh hc hends)]

theorem marked_apart (hok : ChannelsOk on l.channels) (hc : c ∈ l.channels) :
    c.marksAvdtp on = false ∨ c.marksRfcomm on = false := by
  refine or_iff_not_imp_left.mpr fun hA => ?_
  have hpsm := hok.signalling c hc (Bool.and_eq_true _ _ ▸ eq_true_of_not_eq_false hA).2
  rw [marksRfcomm, hpsm]
  simp [psmAvdtp, psmRfcomm]

theorem info_cids_eq_iff {e : Ends} : c.info.cids = e.cids ↔ c.ends = e :=
  ⟨fun h => cids_injective h, fun h => congrArg cids h⟩

theorem trackedInfos_success (hok : ChannelsOk on l.channels) :
    ((trackedInfos on l.channels).lookmap fun info =>
        if info.cids = (Ends.requested (!isReceive) scid).cids then
          some { info with
            cids := info.cids.setEnd (!isReceive)
              ((Ends.answered isReceive dcid scid).cids.endOf (!isReceive))
            state := .connected }
        else none)
      = trackedInfos on (l.channels.map (succeed isReceive dcid scid)) := by
  have hone : (trackedInfos on l.channels).Pairwise fun a b =>
      a.cids = (requested (!isReceive) scid).cids →
        b.cids ≠ (requested (!isReceive) scid).cids := by
    refine pairwise_map.mpr (((hok.one_with_ends (.requested (!isReceive) scid)).filter _).imp ?_)
    intro a b hab ha hb
    exact hab (info_cids_eq_iff.mp ha) (info_cids_eq_iff.mp hb)
  have htracked : ∀ c : Channel, (c.succeed isReceive dcid scid).tracked on = c.tracked on := by
    intro c
    obtain ⟨e, he⟩ := c.succeed_eq
    rw [he]
    rfl
  rw [lookmap_eq_map (hone.imp fun {a b} hab ha => ?_)]
  · rw [trackedInfos, trackedInfos, map_map, filter_map, map_map,
      filter_congr fun c _ => (htracked c).symm]
    refine map_congr_left fun c _ => ?_
    simp only [Function.comp_apply, info_cids_eq_iff, succeed]
    split
    next hends =>
      rw [info, hends]
      cases isReceive <;> rfl
    · rfl
  · by_cases h : a.cids = (requested (!isReceive) scid).cids
    · exact if_neg (hab h)
    · rw [if_neg h] at ha
      exact absurd ha nofun

theorem wanted_cids (hscid : pkt.word 6 = scid.val) :
    noCids.setEnd isReceive ((responseCids isReceive pkt).endOf isReceive)
      = (Ends.requested (!isReceive) scid).cids := by
  cases isReceive
  · exact congrArg (Cids.mk 0) hscid
  · exact congrArg (Cids.mk · 0) hscid

theorem responseCids_eq (hdcid : pkt.word 4 = dcid.val) (hscid : pkt.word 6 = scid.val) :
    responseCids isReceive pkt = (Ends.answered isReceive dcid scid).cids := by
  cases isReceive <;> simp [responseCids, answered, cids, hdcid, hscid]

theorem markedCids_ne_answered (hok : ChannelsOk on l.channels) {c₀ : Channel}
    (hc₀ : c₀ ∈ l.channels) (hends : c₀.ends = .requested (!isReceive) scid)
    (hfresh : ∀ c ∈ l.channels, c.ends.endOf (!isReceive) ≠ some dcid) (hmark : mark c₀ = false)
    (r : Bool) :
    (markedCids mark l.channels).endOf r ≠ (Ends.answered isReceive dcid scid).cids.endOf r := by
  rcases markedCids_cases mark l.channels with ⟨hno, -⟩ | ⟨c, hc, hm, hcids⟩
  · rw [hno]
    exact noCids_ne_answered r
  · rw [hcids]
    refine ne_answered_of_not_requested hok ⟨c₀, hc₀, hends⟩ hfresh hc (fun hc' => ?_) r
    rw [hok.eq_of_ends hc hc₀ (hc'.trans hends.symm), hmark] at hm
    exact absurd hm nofun

theorem success_view (hok : ChannelsOk on l.channels) {status : Nat}
    (hconf : l.SignalConforms isReceive (.connectionSuccess dcid scid status))
    (hdcid : pkt.word 4 = dcid.val) (hscid : pkt.word 6 = scid.val) (hres : pkt.word 8 = 0) :
    handleL2capConnectionResponse (l.view on) isReceive pkt
      = (l.signal isReceive (.connectionSuccess dcid scid status)).view on := by
  obtain ⟨-, hreq, hfresh⟩ := hconf
  obtain ⟨c₀, hc₀, hends⟩ := id hreq
  rw [handleL2capConnectionResponse, hres, if_pos rfl]
  rw [wanted_cids hscid, responseCids_eq hdcid hscid, connectionResponse_pairs
    ((marked_apart hok hc₀).imp (markedCids_ne_answered hok hc₀ hends hfresh)
      (markedCids_ne_answered hok hc₀ hends hfresh))]
  dsimp only [view]
  rw [trackedInfos_success hok, markedCids_success (fun _ _ => rfl) hok hreq hfresh status,
    markedCids_success (fun _ _ => rfl) hok hreq hfresh status]
  rfl

/-! Channels that go: what the filter erases is what the link loses. -/

theorem trackedInfos_eraseP (hok : ChannelsOk on channels) {p : ChannelInfo → Bool} {e : Ends}
    (hp : ∀ c ∈ channels, p c.info = decide (c.ends = e)) :
    (trackedInfos on channels).eraseP p
      = trackedInfos on (channels.filter fun c => c.ends ≠ e) := by
  have hone : (trackedInfos on channels).Pairwise fun a b => p a = true → p b = false := by
    refine pairwise_map.mpr (((hok.one_with_ends e).filter _).imp_of_mem ?_)
    intro a b ha hb hab hpa
    rw [hp a (mem_of_mem_filter ha), decide_eq_true_eq] at hpa
    rw [hp b (mem_of_mem_filter hb), decide_eq_false_iff_not]
    exact hab hpa
  rw [eraseP_eq_filter hone, trackedInfos, trackedInfos, filter_map, filter_filter, filter_filter]
  refine congrArg (List.map info) (filter_congr fun c hc => ?_)
  rw [Function.comp_apply, hp c hc, Bool.and_comm, decide_not]

theorem markedCids_filter (hone : channels.Pairwise fun c d => mark c = true → mark d = false)
    (e : Ends) :
    markedCids mark (channels.filter fun c => c.ends ≠ e)
      = if markedCids mark channels = e.cids then noCids else markedCids mark channels := by
  rcases markedCids_cases mark channels with ⟨hno, hnone⟩ | ⟨c, hc, hm, hcids⟩
  · rw [hno, ite_self]
    exact markedCids_eq_noCids fun d hd => hnone d (mem_of_mem_filter hd)
  rw [hcids]
  -- a marked channel that stays is the one that was marked before
  rcases markedCids_cases mark (channels.filter fun c => c.ends ≠ e) with
    ⟨hno, hnone⟩ | ⟨d, hd, hmd, hdcids⟩
  · have hends : c.ends = e := by
      by_contra hne
      exact absurd ((hnone c (mem_filter.mpr ⟨hc, decide_eq_true hne⟩)).symm.trans hm) nofun
    rw [hno, if_pos (congrArg cids hends)]
  · obtain ⟨hd, hne⟩ := mem_filter.mp hd
    obtain rfl := eq_of_mark hone hd hc hmd hm
    rw [hdcids, if_neg fun h => of_decide_eq_true hne (cids_injective h)]

theorem ChannelsOk.oneAvdtp (hok : ChannelsOk on channels) :
    channels.Pairwise fun c d => c.marksAvdtp on = true → d.marksAvdtp on = false := by
  refine hok.oneSignalling.imp fun {c d} h hc => ?_
  rw [marksAvdtp, h (Bool.and_eq_true _ _ ▸ hc).2, Bool.and_false]

theorem noCids_ne_cids : noCids ≠ e.cids := by
  intro h
  rcases ne_noCids e with hne | hne
  · exact hne (h ▸ rfl)
  · exact hne (h ▸ rfl)

theorem markedCids_ne (hok : ChannelsOk on channels) (hc : c ∈ channels) (hmark : mark c = false) :
    markedCids mark channels ≠ c.ends.cids := by
  intro h
  rcases markedCids_cases mark channels with ⟨hno, -⟩ | ⟨d, hd, hm, hcids⟩
  · exact absurd (hno.symm.trans h) (noCids_ne_cids c.ends)
  · rw [hok.eq_of_ends hd hc (cids_injective (hcids.symm.trans h)), hmark] at hm
    exact absurd hm nofun

theorem refused_view (hok : ChannelsOk on l.channels) {dcid result status : Nat}
    (hconf : l.SignalConforms isReceive (.connectionRefused dcid scid result status))
    (htrack : l.SignalTrackable on isReceive (.connectionRefused dcid scid result status))
    (hscid : pkt.word 6 = scid.val) (hres : pkt.word 8 = result) :
    handleL2capConnectionResponse (l.view on) isReceive pkt
      = (l.signal isReceive (.connectionRefused dcid scid result status)).view on := by
  obtain ⟨-, -, hlow, -, c₀, hc₀, hends⟩ := hconf
  obtain ⟨hmA, hmR⟩ := htrack c₀ hc₀ hends
  have hA := markedCids_filter hok.oneAvdtp c₀.ends
  have hR := markedCids_filter hok.oneRfcomm c₀.ends
  rw [if_neg (markedCids_ne hok hc₀ hmA), hends] at hA
  rw [if_neg (markedCids_ne hok hc₀ hmR), hends] at hR
  rw [handleL2capConnectionResponse, hres, if_neg (by omega), if_neg (by omega), wanted_cids hscid]
  have herase : (trackedInfos on l.channels).eraseP
        (fun info => info.cids = (requested (!isReceive) scid).cids)
      = trackedInfos on (l.channels.filter fun c => c.ends ≠ .requested (!isReceive) scid) :=
    trackedInfos_eraseP hok fun c _ => decide_eq_decide.mpr info_cids_eq_iff
  simp only [view, signal, hA, hR]
  rw [herase]

theorem disconnectionResponse_pairs {acl : AclInfo} {cids : Cids}
    (h : acl.avdtpSignalCh ≠ cids ∨ acl.rfcommCh ≠ cids) :
    handleAclInfoDisconnectionResponse acl cids
      = { acl with
          avdtpSignalCh := if acl.avdtpSignalCh = cids then noCids else acl.avdtpSignalCh
          rfcommCh := if acl.rfcommCh = cids then noCids else acl.rfcommCh } := by
  unfold handleAclInfoDisconnectionResponse
  split
  next hA => rw [if_neg (h.resolve_left (not_not_intro hA))]
  · split <;> rfl

theorem eq_answered_iff (hok : ChannelsOk on l.channels) {c₀ : Channel} (hc₀ : c₀ ∈ l.channels)
    (hends : c₀.ends = .answered isReceive dcid scid) (hc : c ∈ l.channels) :
    (c.ends.cids.localCid = (Ends.answered isReceive dcid scid).cids.localCid ∨
        c.ends.cids.peerCid = (Ends.answered isReceive dcid scid).cids.peerCid)
      ↔ c.ends = .answered isReceive dcid scid := by
  have hend : ∀ r, c.ends.cids.endOf r = (answered isReceive dcid scid).cids.endOf r →
      c.ends = .answered isReceive dcid scid := by
    intro r hr
    obtain ⟨x, hx⟩ := exists_answered_endOf isReceive dcid scid r
    rw [endOf_cids_eq_iff.mpr hx, endOf_cids_eq_iff] at hr
    exact hok.eq_of_end hc hc₀ hr (hends ▸ hx) ▸ hends
  constructor
  · rintro (h | h)
    · exact hend true h
    · exact hend false h
  · intro h
    exact .inl (by rw [h])

theorem disconnection_view (hok : ChannelsOk on l.channels)
    (hconf : l.SignalConforms isReceive (.disconnectionResponse dcid scid))
    (hdcid : pkt.word 4 = dcid.val) (hscid : pkt.word 6 = scid.val) :
    handleL2capDisconnectionResponse (l.view on) isReceive pkt
      = (l.signal isReceive (.disconnectionResponse dcid scid)).view on := by
  obtain ⟨c₀, hc₀, hends⟩ := hconf
  have hpairs : (l.view on).avdtpSignalCh ≠ (answered isReceive dcid scid).cids ∨
      (l.view on).rfcommCh ≠ (answered isReceive dcid scid).cids := by
    rw [← hends]
    exact (marked_apart hok hc₀).imp (markedCids_ne hok hc₀) (markedCids_ne hok hc₀)
  have herase : (trackedInfos on l.channels).eraseP
        (fun info => info.cids.localCid = (answered isReceive dcid scid).cids.localCid
          || info.cids.peerCid = (answered isReceive dcid scid).cids.peerCid)
      = trackedInfos on (l.channels.filter fun c => c.ends ≠ .answered isReceive dcid scid) := by
    refine trackedInfos_eraseP hok fun c hc => ?_
    rw [← decide_or]
    exact decide_eq_decide.mpr (eq_answered_iff hok hc₀ hends hc)
  have hA := markedCids_filter hok.oneAvdtp (.answered isReceive dcid scid)
  have hR := markedCids_filter hok.oneRfcomm (.answered isReceive dcid scid)
  rw [handleL2capDisconnectionResponse, responseCids_eq hdcid hscid,
    disconnectionResponse_pairs hpairs]
  simp only [view, signal, hA, hR]
  rw [herase]
  rfl

end Response

/-! ## Any command -/

def HciPacket.ofBytes (bytes : List UInt8) (beyond : Nat → UInt8) : HciPacket :=
  ⟨fun i => bytes.getD i (beyond i), bytes.length⟩

theorem toNat_le16 {v : Nat} (h : v < 0x10000) :
    (UInt8.ofNat v).toNat + 256 * (UInt8.ofNat (v / 256)).toNat = v := by
  rw [UInt8.toNat_ofNat', UInt8.toNat_ofNat']
  omega

section Signals

variable {l : Link} {filterItems : Nat}

theorem signal_view (hflags : FlagsAre filterItems on) (hok : ChannelsOk on l.channels)
    {σ : Signal} (hconf : l.SignalConforms isReceive σ) (htrack : l.SignalTrackable on isReceive σ)
    (id : UInt8) (beyond : Nat → UInt8) :
    handleL2capSignalingChannelData filterItems true (l.view on) isReceive
        (.ofBytes (σ.bytes id) beyond)
      = (l.signal isReceive σ).view on := by
  cases σ with
  | connectionRequest psm scid =>
    exact request_view hflags (toNat_le16 hconf.1) (toNat_le16 scid.high) htrack
  | connectionSuccess dcid scid status =>
    show handleL2capConnectionResponse (l.view on) isReceive
      (.ofBytes (responseBytes id dcid.val scid.val 0 status) beyond) = _
    exact success_view hok hconf (toNat_le16 dcid.high) (toNat_le16 scid.high) rfl
  | connectionPending dcid scid status => rfl
  | connectionRefused dcid scid result status =>
    exact refused_view hok hconf htrack (toNat_le16 scid.high) (toNat_le16 hconf.2.2.2.1)
  | disconnectionResponse dcid scid =>
    exact disconnection_view hok hconf (toNat_le16 dcid.high) (toNat_le16 scid.high)
  | other code data =>
    obtain ⟨h2, h3, h7, -⟩ := hconf
    have hne2 : code.toNat ≠ 2 := fun h => h2 (UInt8.toNat_inj.mp h)
    have hne3 : code.toNat ≠ 3 := fun h => h3 (UInt8.toNat_inj.mp h)
    have hne7 : code.toNat ≠ 7 := fun h => h7 (UInt8.toNat_inj.mp h)
    show (if _ then _ else if code.toNat = 2 then _ else if code.toNat = 3 then _
      else if code.toNat = 7 then _ else _) = _
    rw [if_neg hne2, if_neg hne3, if_neg hne7, ite_self]
    rfl

theorem request_ok (hok : ChannelsOk on l.channels) {psm : Nat} {scid : DynCid}
    (hconf : l.SignalConforms isReceive (.connectionRequest psm scid))
    (htrack : l.SignalTrackable on isReceive (.connectionRequest psm scid)) :
    ChannelsOk on (l.signal isReceive (.connectionRequest psm scid)).channels := by
  refine ⟨?_, ?_, ?_, ?_⟩
  · refine pairwise_append.mpr ⟨hok.apart, pairwise_singleton _ _, fun c hc d hd => ?_⟩
    rw [mem_singleton.mp hd]
    intro dir x hx hnew
    -- a new channel has one end, and its cid is fresh there
    cases isReceive <;> cases dir
    · exact absurd hnew nofun
    · exact hconf.2 c hc (hx.trans hnew.symm)
    · exact hconf.2 c hc (hx.trans hnew.symm)
    · exact absurd hnew nofun
  · intro c hc hsig
    rcases mem_append.mp hc with hc | hc
    · exact hok.signalling c hc hsig
    · rw [mem_singleton.mp hc] at hsig ⊢
      exact beq_iff_eq.mp (Bool.and_eq_true _ _ ▸ hsig).1
  · refine pairwise_append.mpr
      ⟨hok.oneSignalling, pairwise_singleton _ _, fun c hc d hd hsig => ?_⟩
    have hany : l.channels.any (·.signalling) = true := any_eq_true.mpr ⟨c, hc, hsig⟩
    rw [mem_singleton.mp hd]
    rw [hany, Bool.not_true, Bool.and_false]
  · refine pairwise_append.mpr
      ⟨hok.oneRfcomm, pairwise_singleton _ _, fun c hc d hd hmark => ?_⟩
    obtain ⟨hon, hpsm⟩ := and_eq_true_iff.mp hmark
    rw [mem_singleton.mp hd]
    refine eq_false_of_not_eq_true fun hnew => ?_
    exact htrack (beq_iff_eq.mp (and_eq_true_iff.mp hnew).2) hon c hc (beq_iff_eq.mp hpsm)

theorem success_apart {dcid scid : DynCid} {c d : Channel} (hcd : c.Apart d)
    (hc : c.ends = .requested (!isReceive) scid) (hfresh : d.ends.endOf (!isReceive) ≠ some dcid) :
    Channel.Apart { c with ends := .answered isReceive dcid scid } d := by
  intro dir x hx hd
  rcases answered_endOf hx with ⟨rfl, rfl⟩ | ⟨rfl, rfl⟩
  · exact hcd dir x (by rw [hc, requested_endOf]) hd
  · exact hfresh hd

theorem success_ok (hok : ChannelsOk on l.channels) {dcid scid : DynCid} {status : Nat}
    (hconf : l.SignalConforms isReceive (.connectionSuccess dcid scid status)) :
    ChannelsOk on (l.signal isReceive (.connectionSuccess dcid scid status)).channels := by
  obtain ⟨-, -, hfresh⟩ := hconf
  have hsig : ∀ c : Channel, (c.succeed isReceive dcid scid).signalling = c.signalling :=
    fun c => by rw [c.succeed_eq.choose_spec]
  have hpsm : ∀ c : Channel, (c.succeed isReceive dcid scid).psm = c.psm :=
    fun c => by rw [c.succeed_eq.choose_spec]
  show ChannelsOk on (l.channels.map (succeed isReceive dcid scid))
  refine ⟨?_, ?_, ?_, ?_⟩
  · refine pairwise_map.mpr
      ((hok.apart.and (hok.one_with_ends (.requested (!isReceive) scid))).imp_of_mem ?_)
    rintro c d hc hd ⟨hcd, hone⟩
    unfold succeed
    by_cases hcends : c.ends = .requested (!isReceive) scid
    · rw [if_pos hcends, if_neg (hone hcends)]
      exact success_apart hcd hcends (hfresh d hd)
    · rw [if_neg hcends]
      split
      next hdends => exact symm (success_apart (symm hcd) hdends (hfresh c hc))
      · exact hcd
  · simpa only [forall_mem_map, hsig, hpsm] using hok.signalling
  · simpa only [pairwise_map, hsig] using hok.oneSignalling
  · simpa only [pairwise_map, marksRfcomm, hpsm] using hok.oneRfcomm

theorem signal_ok (hok : ChannelsOk on l.channels) {σ : Signal}
    (hconf : l.SignalConforms isReceive σ) (htrack : l.SignalTrackable on isReceive σ) :
    ChannelsOk on (l.signal isReceive σ).channels := by
  cases σ with
  | connectionRequest psm scid => exact request_ok hok hconf htrack
  | connectionSuccess dcid scid status => exact success_ok hok hconf
  | connectionPending dcid scid status | other code data => exact hok
  | connectionRefused dcid scid result status | disconnectionResponse dcid scid =>
    exact hok.sublist filter_sublist

end Signals

end BtFramework.Snoop
