import TestScribe.Time.Instant

/-!
# Health

How the gateway and the services it depends on are doing.
-/

namespace TestScribe.Gateway

open Wire

/-- How a service is doing. -/
structure ServiceHealth where
  service : String
  healthy : Bool
  latency : Int
  message : Option String

/-- How the gateway is doing. -/
structure GatewayHealth where
  service : String
  healthy : Bool
  timestamp : Time.Instant

/-- How the gateway and its services are doing. -/
structure StatusReport where
  gateway : GatewayHealth
  dependencies : List ServiceHealth

namespace ServiceHealth

/-- Read the health of a service. -/
def read : Reader ServiceHealth :=
  record "ServiceHealth" fun ms => mk
    <$> field (.single "service") text ms
    <*> field (.single "healthy") truth ms
    <*> fieldOr ⟨"latencyMs", "latency_ms"⟩ 0 integer ms
    <*> field? (.single "message") text ms

/-- The health of a service as JSON. -/
def toJson (h : ServiceHealth) : Json :=
  .obj [("service", .str h.service), ("healthy", .bool h.healthy), ("latencyMs", .int h.latency),
    ("message", .ofString? h.message)]

end ServiceHealth

namespace GatewayHealth

/-- Read the health of the gateway. -/
def read : Reader GatewayHealth :=
  record "GatewayHealth" fun ms => mk
    <$> field (.single "service") text ms
    <*> fieldOr (.single "healthy") true truth ms
    <*> field (.single "timestamp") Time.Instant.read ms

/-- The health of the gateway as JSON. -/
def toJson (h : GatewayHealth) : Json :=
  .obj [("service", .str h.service), ("healthy", .bool h.healthy),
    ("timestamp", h.timestamp.toJson)]

end GatewayHealth

namespace StatusReport

/-- Read a report. -/
def read : Reader StatusReport :=
  record "StatusReport" fun ms => mk
    <$> field (.single "gateway") GatewayHealth.read ms
    <*> fieldOr (.single "dependencies") [] (list ServiceHealth.read) ms

/-- A report as JSON. -/
def toJson (r : StatusReport) : Json :=
  .obj [("gateway", r.gateway.toJson),
    ("dependencies", .arr (r.dependencies.map ServiceHealth.toJson))]

end StatusReport

end TestScribe.Gateway
