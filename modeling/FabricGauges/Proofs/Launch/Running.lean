import FabricGauges.Launch.Exporter
import FabricGauges.Proofs.Checks
import FabricGauges.Proofs.Scraper.Shown

/-!
# What an exporter runs with

An exporter is started from settings, and whatever happens to it afterwards, it keeps them: its
client, the filters and pauses of its cycles, the routes and the namespace of its answers, and the
level and the form of what it writes. `Exporter.Keeps` is what one stimulus leaves as it was, and a
whole run is one stimulus after the other.
-/

namespace FabricGauges

namespace Exporter

/-- The exporter after some things have happened to it. -/
def after (e : Exporter) (stimuli : List Scraper.Stimulus) : Exporter := stimuli.foldl react e

/-- An exporter is set up as it was before. -/
structure Keeps (before now : Exporter) : Prop where
  client : now.client = before.client
  scraper : now.scraper = before.scraper
  space : now.space = before.space
  logger : now.logger = before.logger
  routes : ∀ endpoint, now.endpoint = .ok endpoint →
    ∃ earlier, before.endpoint = .ok earlier ∧ endpoint.routes = earlier.routes

theorem Keeps.refl (e : Exporter) : e.Keeps e :=
  ⟨rfl, rfl, rfl, rfl, fun endpoint h => ⟨endpoint, h, rfl⟩⟩

theorem Keeps.trans {e e' e'' : Exporter} (h : e.Keeps e') (h' : e'.Keeps e'') : e.Keeps e'' where
  client := h'.client.trans h.client
  scraper := h'.scraper.trans h.scraper
  space := h'.space.trans h.space
  logger := h'.logger.trans h.logger
  routes endpoint hendpoint := by
    obtain ⟨later, hlater, hroutes⟩ := h'.routes endpoint hendpoint
    obtain ⟨earlier, hearlier, hroutes'⟩ := h.routes later hlater
    exact ⟨earlier, hearlier, hroutes.trans hroutes'⟩

end Exporter

end FabricGauges
