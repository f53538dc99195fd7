import FabricGauges.Proofs.Scraper.Shown

/-!
# Series that say what they are meant to say

The samples of a cycle are coherent one by one. A board is changed sample by sample, and clearing
families, recording a cycle and giving one up leave the series that stay as they are, so the series
are coherent at every moment, whatever has become of the cycles that set them.
-/

namespace FabricGauges

theorem Cycle.coherent_of_gathered {filters : Filters} {ids : List String} {stage : Stage}
    {cs : List Call} {samples : List Sample} (h : Gathered filters ids stage cs samples) :
    Coherent samples := by
  intro s hs
  obtain ⟨resource, identity, -, hof⟩ := exists_isOf_of_gathered h hs
  exact hof.coherent

namespace Scraper

/-- Whatever happens to a scraper and at whatever moment its board is seen, every series has exactly
the labels of its family, in their order, and its value says what the values of the family say: a
status is one if it is the expected one and zero if not, what is said to be there is one, flags are
zero or one, and counts are natural numbers. -/
theorem series_are_coherent (s : Scraper) (stimuli : List Stimulus) :
    (s.after stimuli).state.board.Shown s.filters ∧
      ∀ b : Board, b.Shown s.filters → ∀ m labels value, (labels, value) ∈ b.family m →
        let named := m.family.labels.zip labels
        named.map Prod.fst = m.family.labels ∧ named.map Prod.snd = labels ∧
          m.meaning.Holds named value := by
  refine ⟨shown_after s stimuli, fun b hb m labels value hmem => ?_⟩
  have hlength : labels.length = m.family.labels.length := hb.labelled.of_mem_family hmem
  obtain ⟨ids, stage, cs, samples, hgathered, hsample⟩ := hb.of_mem_family hmem
  refine ⟨List.map_fst_zip (by omega), List.map_snd_zip (by omega), ?_⟩
  exact Cycle.coherent_of_gathered hgathered _ hsample

/-- A cluster that is not stable, of which a cycle has told that failed later. -/
theorem degraded_cluster_shows_zero :
    let s : Scraper := ⟨.none, ⟨5⟩, ⟨1⟩⟩
    let reply : (r : Request) → Except ApiError r.Answer := fun
      | .clusterStatus => .ok ⟨⟨some "DEGRADED"⟩, ⟨none, [], []⟩⟩
      | _ => .error (.transport "https://m")
    let stimuli := [.answer reply ⟨1⟩, .answer reply ⟨2⟩, .wake, .notice (.value false)]
    let board := (s.after stimuli).state.board
    board.family (.cluster .control) = [(["DEGRADED"], .zero)] ∧
      board.family (.cluster .management) = [(["UNKNOWN"], .zero)] ∧
      ∀ b : Board, b.Shown s.filters → ∀ value,
        (["DEGRADED"], value) ∈ b.family (.cluster .control) → value = .zero := by
  intro s reply stimuli board
  obtain ⟨-, hcoherent⟩ := series_are_coherent s stimuli
  refine ⟨by decide +kernel, by decide +kernel, fun b hb value hmem => ?_⟩
  obtain ⟨-, -, shown, hshown, hvalue⟩ := hcoherent b hb _ _ _ hmem
  obtain rfl : "DEGRADED" = shown := Option.some.inj hshown
  exact hvalue

end Scraper

end FabricGauges
