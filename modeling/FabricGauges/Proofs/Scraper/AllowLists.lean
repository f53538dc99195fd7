import FabricGauges.Proofs.Cycle.Accepted
import FabricGauges.Proofs.Scraper.Calls

/-!
# Allow-lists over whole runs

A scraper shows and asks for accepted resources only, in every cycle and at every moment, and a
cycle that succeeds leaves nothing out that is accepted. The boards that can be shown include those
between two samples and what is left of a cycle that has failed or was given up.
-/

namespace FabricGauges

open Fetch

/-- Every series that is ever shown is accepted by the allow-list about its resource. -/
theorem Board.Shown.acceptsSeries {filters : Filters} {b : Board} (h : b.Shown filters) {m : Metric}
    {labels : List String} (hshows : b.Shows m labels) : filters.AcceptsSeries m labels := by
  obtain ⟨⟨labels, value⟩, hmem, rfl⟩ := List.mem_map.1 hshows
  obtain ⟨ids, stage, cs, samples, hgathered, hsample⟩ := h.of_mem_family hmem
  exact Cycle.acceptsSeries_of_gathered hgathered hsample

namespace Scraper

/-- The allow-lists hold whatever happens to a scraper. Every series about gateways or virtual
servers on any of its boards has an accepted name or identifier. It asks about a listed resource
only if one with its identifier has been accepted on a page of the same cycle. And after a cycle
that has succeeded, every accepted gateway that was listed has its series, every accepted load
balancer has been asked for all its virtual servers, and each of those that is accepted has its
series. -/
theorem allow_lists_hold (s : Scraper) (stimuli : List Stimulus) :
    let t := s.after stimuli
    let calls := s.calls stimuli
    (t.state.board.Shown s.filters ∧ ∀ b : Board, b.Shown s.filters → ∀ (m : Metric) labels,
      b.Shows m labels → s.filters.AcceptsSeries m labels) ∧
    (∀ request resume l id, t.phase = .asking request resume → request.listed? = some (l, id) →
      ∃ x, Offered calls l x ∧ l.accepts s.filters x ∧ l.id x = id) ∧
    (∀ delay, t.phase = .sleeping delay → t.state.stats.lastError = none →
      (∀ kind (g : Gateway), Offered calls (.gateways kind) g →
        (s.filters.gateways kind).includes g.displayName g.id →
          t.state.board.Shows (.gateway kind .status) [g.id, nameOr g.displayName g.id] ∧
          t.state.board.Shows (.gateway kind .transport) [g.id, nameOr g.displayName g.id]) ∧
      (∀ x : Balancer, Offered calls .balancers x →
        s.filters.balancer.includes x.displayName x.id →
          ∃ statuses status, ⟨.balancerStatus x.id, .ok statuses⟩ ∈ calls ∧
            statuses.results = [status] ∧ ∀ v ∈ status.virtualServers, ∃ path settings,
              v.path = some path ∧ ⟨.virtualServer (lastSegment path), .ok settings⟩ ∈ calls) ∧
      ∀ id settings, ⟨.virtualServer id, .ok settings⟩ ∈ calls →
        s.filters.virtualServer.includes settings.displayName settings.id →
          t.state.board.Shows (.virtualServer .enable)
            [nameOr settings.displayName settings.id, settings.id]) := by
  intro t calls
  have htraced : Traced s t calls := traced_after s stimuli
  refine ⟨⟨shown_after s stimuli, fun b hb m labels hshows => hb.acceptsSeries hshows⟩, ?_, ?_⟩
  · intro request resume l id hphase hlisted
    obtain ⟨before, es, hreaches, -⟩ := htraced.waiting request resume hphase
    exact Cycle.Waits.offered ⟨es, resume, hreaches⟩ hlisted
  · intro delay hphase hnone
    obtain ⟨before, outcome, took, hrecorded, herror⟩ := htraced.rested delay hphase
    -- without a message, the cycle has ended without an error
    obtain rfl : outcome = .ok () := by
      cases outcome with
      | ok _ => rfl
      | error e => cases herror.symm.trans hnone
    exact ⟨fun kind g hoffered => Cycle.shows_gateway hrecorded hoffered,
      fun x hoffered => Cycle.asked_of_balancer hrecorded hoffered,
      fun id settings hasked => Cycle.shows_virtualServer hrecorded hasked⟩

/-- Two gateways are listed, and the allow-list has the name of the first one. -/
theorem unlisted_gateway_is_left_out :
    let s : Scraper := ⟨⟨⟨["edge"]⟩, ⟨[]⟩, ⟨[]⟩, ⟨[]⟩⟩, ⟨5⟩, ⟨1⟩⟩
    let accepted : Gateway := ⟨"g1", some "edge", none, none⟩
    let rejected : Gateway := ⟨"g2", none, none, none⟩
    let reply : (r : Request) → Except ApiError r.Answer := fun
      | .clusterStatus => .ok ⟨⟨none⟩, ⟨none, [], []⟩⟩
      | .page (.gateways .tier0) _ => .ok ⟨[accepted, rejected], none, none⟩
      | .page _ _ => .ok ⟨[], none, none⟩
      | .gatewayState _ _ => .ok ⟨⟨none, none, none, none, []⟩, ⟨none, []⟩⟩
      | _ => .error (.transport "https://m")
    let stimuli := List.replicate 5 (.answer reply ⟨1⟩)
    let t := s.after stimuli
    (∃ x : Gateway, Offered (s.calls (stimuli.take 4)) (.gateways .tier0) x ∧ x.id = "g1") ∧
      t.phase = .sleeping ⟨5⟩ ∧ t.state.stats.lastError = none ∧
      t.state.board.Shows (.gateway .tier0 .status) ["g1", "edge"] ∧
      ∀ b : Board, b.Shown s.filters → ¬b.Shows (.gateway .tier0 .status) ["g2", "g2"] := by
  intro s accepted rejected reply stimuli t
  have hphase : t.phase = .sleeping ⟨5⟩ := rfl
  have hnone : t.state.stats.lastError = none := rfl
  obtain ⟨⟨-, hshown⟩, -, hended⟩ := allow_lists_hold s stimuli
  obtain ⟨hgateways, -, -⟩ := hended ⟨5⟩ hphase hnone
  -- one answer earlier the state of the accepted gateway is asked for
  obtain ⟨resume, hasking⟩ : ∃ resume, (s.after (stimuli.take 4)).phase =
      .asking (.gatewayState .tier0 "g1") resume := ⟨_, rfl⟩
  obtain ⟨-, hasked, -⟩ := allow_lists_hold s (stimuli.take 4)
  have hoffered : Offered (s.calls stimuli) (.gateways .tier0) accepted :=
    ⟨none, ⟨[accepted, rejected], none, none⟩,
      .tail _ (.tail _ (.tail _ (.head _))), List.mem_cons_self⟩
  refine ⟨?_, hphase, hnone, ?_, ?_⟩
  · obtain ⟨x, hx, -, hid⟩ := hasked _ resume (.gateways .tier0) "g1" hasking rfl
    exact ⟨x, hx, hid⟩
  · exact (hgateways .tier0 accepted hoffered (by decide)).1
  · intro b hb hshows
    rcases hshown b hb _ _ hshows _ rfl with hempty | ⟨value, hvalue, hmem⟩
    · cases hempty
    · obtain rfl := List.mem_singleton.1 hvalue
      revert hmem
      decide

end Scraper

end FabricGauges
