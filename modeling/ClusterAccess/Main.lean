/-
  ClusterAccess.Main

  The program. The cluster is one document on the first line of standard input;
  a running service takes its requests from the lines that follow, and writes
  one response a line.
-/
import ClusterAccess.Cluster
import ClusterAccess.CommandLine

namespace ClusterAccess.Program

/-- The names that settings have in the environment. -/
def variableNames : List String :=
  match ({} : Settings).toJson with
  | .object fields => fields.map (·.1)
  | _ => []

/-- The variable of a setting, in capitals or in small letters. -/
def variableOf (name : String) : IO (Option (String × String)) := do
  match ← IO.getEnv name.toUpper with
  | some value => return some (name, value)
  | none => return (← IO.getEnv name).map fun value => (name, value)

/-- The content of a file, if it can be read. -/
def fileAt (path : String) : IO (Option (String × String)) :=
  try
    let content ← IO.FS.readFile path
    return some (path, content)
  catch _ => return none

/-- The variables that tell where the cluster around this program is. -/
def serviceNames : List String :=
  ["KUBERNETES_SERVICE_HOST", "KUBERNETES_SERVICE_PORT"]

/-- What this program finds: its machine, as far as it is needed, and a cluster. -/
def surroundings (clusterText : String) : IO Surroundings := do
  let settings ← variableNames.filterMapM variableOf
  let service ← serviceNames.filterMapM fun name =>
    return (← IO.getEnv name).map fun value => (name, value)
  let home := (← IO.getEnv "HOME").getD "/"
  let machine : Machine := { environment := settings ++ service, home }
  let given := (settings.find? fun v => v.1 = "kube_config_path").map (·.2)
  let path := machine.expand (given.getD "")
  let files ← [Path.normal path].filterMapM fileAt
  let cluster := Cluster.ofJson ((Json.parse? clusterText).getD .null)
  return { machine := { machine with files }, server := cluster.server }

/-- Answers requests until there are no more. -/
partial def serve (input output : IO.FS.Stream) (service : Http.Service) : IO Unit := do
  let line ← input.getLine
  if line.isEmpty then return
  let request := Http.Request.ofJson ((Json.parse? line).getD .null)
  let (response, service) := service.handle request
  output.putStrLn response.toJson.compact
  output.flush
  serve input output service

/-- Runs the program with its arguments. -/
def start (args : List String) : IO UInt32 := do
  let input ← IO.getStdin
  let output ← IO.getStdout
  let found ← surroundings (← input.getLine)
  match CommandLine.run args found with
  | .error fault =>
    let message := match fault.report?, fault with
      | some r, _ => r.message
      | none, .defect d => d.message
      | none, _ => "The configuration or the cluster cannot be read"
    IO.eprintln message
    return 1
  | .ok done =>
    output.putStr done.output
    if done.serving.isSome then serve input output found.service
    return UInt32.ofNat done.exitCode

end ClusterAccess.Program

/-- Runs the program. -/
def main (args : List String) : IO UInt32 :=
  ClusterAccess.Program.start args
