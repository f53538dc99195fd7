import FabricGauges.Log.Event
import FabricGauges.Metric.Sample
import FabricGauges.Record.Basic
import FabricGauges.Record.Key

/-!
# Samples of gateways
-/

namespace FabricGauges

/-- The state of a gateway whose configuration is realized. -/
def realizedState : String := "in_sync"

namespace GatewayRecord

/-- The labels that identify a gateway. -/
def labels (g : GatewayRecord) : List String :=
  [g.settings.id, nameOr g.settings.displayName g.settings.id]

/-- The sample of an edge node, if its path and its status are known. -/
def edgeSamples (kind : GatewayKind) (labels : List String) (e : EdgeNode) : List Sample :=
  Sample.presence (.gateway kind .edge) do
    let path ← e.path
    let status ← e.haStatus
    return labels ++ [lastSegment path, status]

/-- The samples of a gateway of a kind. -/
def samples (kind : GatewayKind) (g : GatewayRecord) : List Sample :=
  let failure := do
    let code ← g.state.failureCode
    let message ← g.state.failureMessage
    return g.labels ++ [toString code.toInt, message]
  Sample.presence (.gateway kind .info) (g.settings.haMode.map fun mode => g.labels ++ [mode]) ++
    [⟨.gateway kind .status, g.labels, statusValue g.state.state realizedState⟩] ++
    Sample.presence (.gateway kind .failure) failure ++
    [Sample.count (.gateway kind .transport) g.labels g.state.details.length] ++
    g.status.edgeNodes.flatMap (edgeSamples kind g.labels)

/-- What is logged about a gateway whose state does not say how far it is realized. -/
def warning? (kind : GatewayKind) (g : GatewayRecord) : Option Event :=
  if g.state.state.isNone then some (.gatewayWithoutState kind.name g.settings.id) else none

end GatewayRecord

end FabricGauges
