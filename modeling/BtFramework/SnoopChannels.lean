import BtFramework.SnoopVerdicts

/-!
# Channels that end

A connection request writes up to three things, an entry, the AVDTP signalling pair and the
RFCOMM pair. A disconnection response undoes all of them; a connection response that refuses
takes back the entry alone, so a refused AVDTP signalling channel is taken for the signalling
channel from then on.
-/

namespace BtFramework.Snoop

open Keyed List
open Runs (Guarded)

def Link.without (l : Link) (e : Ends) : Link :=
  { l with channels := l.channels.filter fun c => c.ends ≠ e }

def Signal.ended (isReceive : Bool) : Signal → Option Ends
  | .connectionRefused _ scid _ _ => some (.requested (!isReceive) scid)
  | .disconnectionResponse dcid scid => some (.answered isReceive dcid scid)
  | _ => none

def AclInfo.ofChannels (acl : AclInfo) : List ChannelInfo × Cids × Cids :=
  (acl.filterCids, acl.avdtpSignalCh, acl.rfcommCh)

structure Forgotten (on : FilterFlag → Bool) (handle : Nat) (l : Link) (e : Ends)
    (s s' : SnoopFilter) : Prop where
  here : (s'.aclConnectionList.find? fun acl => acl.connectionHandle = handle).map
    AclInfo.ofChannels = some (AclInfo.ofChannels ((l.without e).view on))
  others : s'.aclConnectionList.filter (fun acl => acl.connectionHandle ≠ handle)
    = s.aclConnectionList.filter fun acl => acl.connectionHandle ≠ handle

/-- A refused request and a closed channel leave nothing behind: the record of their link is that of
a link with the other channels only. -/
def Forgets (on : FilterFlag → Bool) (s : Watched) (i : Shown) : Prop :=
  match i.happening with
  | .start isReceive handle _ _ (.signalling [(_, σ)]) _ =>
    ∀ e, σ.ended isReceive = some e → ∀ l, s.traffic.link handle = some l →
      Forgotten on handle l e s.filter (s.step i).filter
  | _ => True

theorem forgets_of_inStep {on : FilterFlag → Bool} {filterItems : Nat} {s : Watched} {i : Shown}
    (h : InStep filterItems on s) (hnext : InStep filterItems on (s.step i)) :
    Forgets on s i := by
  unfold Forgets
  split
  next isReceive handle _ _ id σ cut hi =>
    intro e he l hl
    have hlinks := hnext.links
    rw [show (s.step i).traffic = s.traffic.atLink handle
      (·.start isReceive (.signalling [(id, σ)]) cut) by rw [Watched.step, hi]; rfl] at hlinks
    have hkeep : ∀ d : Link, decide (d.handle = handle) = true →
        decide ((d.start isReceive (.signalling [(id, σ)]) cut).handle = handle) = true :=
      fun d hd => by cases σ <;> cases isReceive <;> exact hd
    have hchannels : (l.start isReceive (.signalling [(id, σ)]) cut).channels
        = (l.without e).channels := by
      cases σ <;> cases he <;> cases isReceive <;> rfl
    have hhere := find?_lookmap (f := (·.start isReceive (.signalling [(id, σ)]) cut)) hl
      (hkeep l (find?_some (p := fun d : Link => decide (d.handle = handle)) hl))
    have hothers := Keyed.filter_lookmap (l := s.traffic.links)
      (q := fun d => !decide (d.handle = handle)) (fun _ => congrArg not)
      (fun d hd => congrArg not (hkeep d hd))
    simp only [decide_eq_true_eq] at hhere hothers
    refine ⟨?_, ?_⟩
    · rw [hlinks, find?_map]
      refine (congrArg (fun o => (o.map (Link.view on)).map AclInfo.ofChannels) hhere).trans ?_
      simp only [Option.map_some, Link.view, AclInfo.ofChannels, hchannels]
    · simp only [hlinks, h.links, filter_map, ne_eq, decide_not]
      exact congrArg (List.map (Link.view on)) hothers
  · trivial

/-- Along every trace that conforms to the Core specification and that the
filter can follow, every channel that is refused or closed is forgotten. -/
theorem ended_channels_forgotten (flags : List Nat) (shown : List Shown)
    (h : Guarded Watched.step
      (fun s i => s.traffic.Conforms i.happening ∧ Trackable (asked flags) s i) (watching flags)
      shown) :
    Guarded Watched.step (Forgets (asked flags)) (watching flags) shown :=
  h.steps (fun _ _ hs hok => (followed_step (watching_flags flags) hs hok.1 hok.2).next)
    (fun _ _ hs hok => forgets_of_inStep hs
      (followed_step (watching_flags flags) hs hok.1 hok.2).next)
    (watching_inStep flags)

/-- A channel is opened and closed. -/
theorem closed_channel_forgotten :
    Guarded Watched.step (Forgets (asked [0])) (watching [0])
      (plain (.connectComplete 0 1 []) :: opened psmAvdtp (dyn 0) (dyn 0) ++
        [plain (.start true 1 true 0
          (.signalling [(2, .disconnectionResponse (dyn 0) (dyn 0))]) 8)]) :=
  ended_channels_forgotten _ _ (by decide)

/-- The peer refuses our AVDTP channel and the pair stays: when the next attempt succeeds, that
channel is taken for a media channel and its signalling is left out of the log. -/
theorem refused_signalling_channel_stays :
    let refused := Runs.after Watched.step (watching [0]) [plain (.connectComplete 0 1 []),
      plain (.start false 1 true 0 (.signalling [(1, .connectionRequest psmAvdtp (dyn 0))]) 8)]
    let refusal := plain (.start true 1 true 0
      (.signalling [(1, .connectionRefused 0 (dyn 0) 4 0)]) 12)
    let reopened := Runs.after Watched.step (refused.step refusal) (opened psmAvdtp (dyn 1) (dyn 1))
    let discover := plain (.start false 1 true 0 (.data 0x41 [0x00, 0x01]) 2)
    refused.traffic.Conforms refusal.happening ∧
      (refused.step refusal).filter.aclConnectionList.map (·.avdtpSignalCh) = [⟨0x40, 0⟩] ∧
      ¬Forgets (asked [0]) refused refusal ∧
      reopened.traffic.wanted (asked [0]) discover.happening = some false ∧
      (reopened.verdict discover).2 = true := by
  refine ⟨by decide, by decide, fun h => ?_, by decide, by decide⟩
  have hhere := (h _ rfl _ rfl).here
  revert hhere
  decide

end BtFramework.Snoop
