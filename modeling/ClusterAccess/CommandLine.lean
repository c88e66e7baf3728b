/-
  ClusterAccess.CommandLine

  The command line: one command, `serve` unless another is named, and two
  options, of which any beginning that fits no other one will do. Behind a
  double dash nothing is an option. All arguments are looked at before the first
  of them counts.
-/
import ClusterAccess.Json.Writer
import ClusterAccess.Startup
import ClusterAccess.Text.Digit

namespace ClusterAccess

/-- What to do. -/
inductive Command
  /-- Answer requests. -/
  | serve
  /-- Write one snapshot. -/
  | sync
  deriving DecidableEq, Repr

/-- The command with a word. -/
def Command.ofWord? : String → Option Command
  | "serve" => some .serve
  | "sync" => some .sync
  | _ => none

/-- An option. -/
inductive CommandOption
  | help
  | noValidate
  | reload
  deriving DecidableEq, Repr

namespace CommandOption

/-- The options by name. -/
def names : List (String × CommandOption) :=
  [("--help", .help), ("--no-validate", .noValidate), ("--reload", .reload)]

/-- What an argument is. -/
inductive Reading
  /-- No option at all: a single dash and a negative number are words, too. -/
  | word (text : String)
  /-- A double dash, behind which there are words only. -/
  | dashes
  | option (o : CommandOption)
  /-- An option that nothing is known of. -/
  | unknown
  /-- A value where none is taken. -/
  | refused
  deriving DecidableEq, Repr

/-- Whether the characters behind a dash make a negative number, of decimal digits of any script. A
line end may follow it. -/
def isNumber (cs : List Char) : Bool :=
  let cs := if cs.getLast? = some '\n' then cs.dropLast else cs
  let fraction := (cs.dropWhile Text.isDecimal).drop 1
  cs ≠ [] && match cs.dropWhile Text.isDecimal with
    | [] => true
    | c :: _ => c == '.' && !fraction.isEmpty && fraction.all Text.isDecimal

/-- Reads what stands behind the letter of help: an equals sign may, and then nothing but the letter
again, any number of times. -/
def readHelp (cs : List Char) : Reading :=
  let letters := if cs.head? = some '=' then cs.drop 1 else cs
  if letters.all (· = 'h') ∧ cs ≠ ['='] then .option .help else .refused

/-- Reads an argument that no option is known for. -/
def readOther (arg : String) : Reading :=
  if arg.toList.contains ' ' then .word arg else .unknown

/-- Reads an argument of one dash. -/
def readShort (arg : String) : List Char → Reading
  | [] => .word arg
  | 'h' :: cs => readHelp cs
  | cs => if isNumber cs then .word arg else readOther arg

/-- Reads an argument that begins with two dashes; `none` if it fits several options. -/
def readLong (arg : String) : Option Reading :=
  let (name, value) := Text.cut '=' arg.toList
  match names.filter fun entry => name.isPrefixOf entry.1.toList with
  | [] => some (readOther arg)
  | [entry] => some (if value.isSome then .refused else .option entry.2)
  | _ => none

/-- Reads an argument in front of any double dash. -/
def read (arg : String) : Option Reading :=
  match arg.toList with
  | '-' :: '-' :: _ => readLong arg
  | '-' :: cs => some (readShort arg cs)
  | _ => some (.word arg)

/-- Reads all arguments. An argument that fits several options makes the line unusable. -/
def readAll : List String → Option (List Reading)
  | [] => some []
  | arg :: rest =>
    if arg = "--" then some (.dashes :: rest.map .word)
    else match read arg, readAll rest with
      | some r, some rs => some (r :: rs)
      | _, _ => none

end CommandOption

/-- The arguments as read so far. -/
structure CommandLine where
  command : Option Command := none
  noValidate : Bool := false
  reload : Bool := false
  /-- Whether there was more than can be used. -/
  excess : Bool := false
  deriving DecidableEq, Repr

namespace CommandLine

/-! ## Reading -/

/-- What becomes of the arguments. -/
inductive Outcome
  | run (line : CommandLine)
  | help
  | refused
  deriving DecidableEq, Repr

/-- Drops a double dash at the front. -/
def dropDashes : List CommandOption.Reading → List CommandOption.Reading
  | .dashes :: rest => rest
  | rest => rest

theorem length_dropDashes_le (rs : List CommandOption.Reading) :
    (dropDashes rs).length ≤ rs.length := by
  unfold dropDashes
  split
  · simp
  · exact Nat.le_refl _

/-- Goes through the arguments one by one. The first word is the command; a double dash belongs to
it if it stands right in front of it or right behind it. Help is given as soon as it is asked
for. -/
def follow (line : CommandLine) : List CommandOption.Reading → Outcome
  | [] => if line.excess then .refused else .run line
  | .option .help :: _ => .help
  | .option .noValidate :: rest => follow { line with noValidate := true } rest
  | .option .reload :: rest => follow { line with reload := true } rest
  | .unknown :: rest => follow { line with excess := true } rest
  | .refused :: _ => .refused
  | .dashes :: rest => follow { line with excess := line.excess || line.command.isSome } rest
  | .word text :: rest =>
    if line.command.isSome then follow { line with excess := true } rest
    else match Command.ofWord? text with
      | some c => follow { line with command := some c } (dropDashes rest)
      | none => .refused
termination_by rs => rs.length
decreasing_by
  all_goals simp_wf
  have := length_dropDashes_le rest
  omega

/-- Reads arguments. -/
def read (args : List String) : Outcome :=
  match CommandOption.readAll args with
  | some rs => follow {} rs
  | none => .refused

/-! ## Running -/

/-- How a server of the service is set up. -/
structure ServerSetup where
  host : String
  portNumber : Int
  reload : Bool
  logLevel : String
  deriving DecidableEq, Repr

/-- What a run has done. -/
structure Done where
  exitCode : Nat
  /-- The server that is to be started. -/
  serving : Option ServerSetup := none
  /-- What is to be written. -/
  output : String := ""
  /-- How many calls the cluster's server got. -/
  calls : Nat := 0
  deriving Repr

/-- One snapshot as text, after a probe unless that is left out. -/
def snapshotText (probing : Bool) : Action Auditor String := do
  if probing then Auditor.probe
  let s ← Auditor.snapshot
  pure (s.toJson.indented ++ "\n")

/-- Carries out a line. -/
def carryOut (line : CommandLine) (s : Surroundings) : Except Fault Done := do
  let settings ← s.settings []
  match line.command.getD .serve with
  | .serve => pure {
      exitCode := 0
      serving := some {
        host := settings.host
        portNumber := settings.portNumber
        reload := line.reload
        logLevel := Text.lower settings.logLevel } }
  | .sync =>
    let a ← s.auditor settings
    -- Nothing is written unless all of it could be read.
    match Action.outcome (snapshotText !line.noValidate) a with
    | (.ok output, a) => pure { exitCode := 0, output, calls := a.gateway.calls.length }
    | (.error fault, _) => throw fault

/-- Runs the program. A line that cannot be used ends with code 2, and nothing is looked at. -/
def run (args : List String) (s : Surroundings) : Except Fault Done :=
  match read args with
  | .run line => line.carryOut s
  | .help => pure { exitCode := 0 }
  | .refused => pure { exitCode := 2 }

end CommandLine
end ClusterAccess
