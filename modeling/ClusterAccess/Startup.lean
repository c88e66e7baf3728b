/-
  ClusterAccess.Startup

  From what a program finds on its machine to an auditor, or to a service that
  can tell why it has none.
-/
import ClusterAccess.Http.Service

namespace ClusterAccess

/-- What a program finds: its machine, and a cluster's server. -/
structure Surroundings where
  machine : Machine := {}
  server : Server
  failures : List ArmedFailure := []
  /-- Seconds on a clock. -/
  clock : Int := 0
  /-- The date and time, in the form of profiles. -/
  now : String := ""

namespace Surroundings

/-- The settings that the arguments and the environment give. -/
def settings (s : Surroundings) (arguments : List (String × Json)) : Except Fault Settings :=
  (Settings.read ⟨arguments, s.machine.environment⟩).mapError .malformed

/-- The auditor that settings ask for. -/
def auditor (s : Surroundings) (settings : Settings) : Except Fault Auditor := do
  let connection ← settings.connection s.machine
  pure (.ofGateway settings {
    connection
    server := s.server
    pageSize := settings.pageSize
    failures := s.failures
    clock := s.clock
    now := s.now })

/-- The service that the environment asks for. -/
def service (s : Surroundings) : Http.Service :=
  match s.settings [] >>= s.auditor with
  | .ok a => .up a
  | .error fault => .down fault 0

end Surroundings
end ClusterAccess
