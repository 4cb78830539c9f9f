/-!
# The services

There are three services for the three stages of the work, and a gateway in front of them.
-/

namespace TestScribe

/-- A service. -/
inductive Service
  | analysis
  | gateway
  | generation
  | validation
  deriving DecidableEq

namespace Service

/-- All services, in the order of their words. -/
def all : List Service := [analysis, gateway, generation, validation]

/-- The word by which a service is chosen when it is started. -/
def word : Service → String
  | analysis => "analysis"
  | gateway => "gateway"
  | generation => "generation"
  | validation => "validation"

/-- The name of a service. -/
def name : Service → String
  | analysis => "code-analysis"
  | gateway => "api-gateway"
  | generation => "llm-service"
  | validation => "test-validation"

/-- The title of a service. -/
def title : Service → String
  | analysis => "rtlgen code analysis"
  | gateway => "rtlgen gateway"
  | generation => "rtlgen generation"
  | validation => "rtlgen test validation"

/-- The port on which a service listens unless told otherwise. -/
def port : Service → Nat
  | gateway => 3000
  | analysis => 3001
  | generation => 3002
  | validation => 3003

/-- The service that is chosen by a word. -/
def ofWord? (word : String) : Option Service :=
  all.find? fun s => s.word == word

end Service

/-- A service that the gateway depends on. -/
inductive Peer
  | analysis
  | generation
  | validation
  deriving DecidableEq

namespace Peer

/-- All services that the gateway depends on, in the order of the stages. -/
def all : List Peer := [analysis, generation, validation]

/-- The service that a peer is. -/
def service : Peer → Service
  | analysis => .analysis
  | generation => .generation
  | validation => .validation

/-- The name of a peer. -/
def name (p : Peer) : String :=
  p.service.name

end Peer

end TestScribe
