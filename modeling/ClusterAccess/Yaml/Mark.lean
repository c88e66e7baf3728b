/-
  ClusterAccess.Yaml.Mark

  Places in a YAML text, as messages show them: a line and a column, which count
  from one, and perhaps the line itself with a caret under the place.
-/
import ClusterAccess.Text.Utf

namespace ClusterAccess.Yaml

/-- Whether a character ends a line. -/
def isBreak (c : Char) : Bool :=
  c == '\n' || c == '\r' || c == '\x85' || c == '\u2028' || c == '\u2029'

/-- Where a text comes from. -/
inductive Source
  /-- The text is given; messages show lines of it. -/
  | given
  /-- The text stands in a file. -/
  | file (path : String)
  deriving DecidableEq, Repr

/-- The name of a source. -/
def Source.name : Source → String
  | .given => "<unicode string>"
  | .file path => path

/-- A place in a text, both counts from zero, with what stands around it in its line. -/
structure Mark where
  line : Nat
  column : Nat
  before : List Char
  after : List Char
  deriving DecidableEq, Repr

namespace Mark

/-- The line and the column behind some characters. A line end of two characters counts once, and
a byte order mark has no column. -/
def count (line column : Nat) : List Char → Option Char → Nat × Nat
  | [], _ => (line, column)
  | c :: cs, next =>
    if isBreak c ∧ ¬ (c = '\r' ∧ cs.head?.or next = some '\n') then count (line + 1) 0 cs next
    else count line (if c = '\uFEFF' then column else column + 1) cs next

/-- The place where a text goes on behind its front. -/
def ofSplit (front rest : List Char) : Mark :=
  let (line, column) := count 0 0 front rest.head?
  { line
    column
    before := (front.reverse.takeWhile fun c => !isBreak c).reverse
    after := rest.takeWhile fun c => !isBreak c }

/-- The place where the last part of a text begins. -/
def ofRest (cs rest : List Char) : Mark :=
  ofSplit (cs.take (cs.length - rest.length)) rest

/-- How many characters of a line are shown on each side of a place where it is cut off. -/
def reach : Nat := 32

/-- How many characters of a line are shown on each side of a place where it is not. -/
def fullReach : Nat := 36

/-- What stands for the part of a line that is not shown. -/
def ellipsis : String := " ... "

/-- The line of a place, and a caret under the place. -/
def snippet (m : Mark) : String :=
  let head := if m.before.length ≤ fullReach then String.ofList m.before
    else ellipsis ++ String.ofList (m.before.drop (m.before.length - reach))
  let tail := if m.after.length ≤ fullReach then String.ofList m.after
    else String.ofList (m.after.take reach) ++ ellipsis
  let indent := "    "
  indent ++ head ++ tail ++ "\n" ++ indent ++ String.ofList (List.replicate head.length ' ') ++ "^"

/-- A place in words. -/
def message (source : Source) (m : Mark) : String :=
  "  in \"" ++ source.name ++ "\", line " ++ toString (m.line + 1) ++
    ", column " ++ toString (m.column + 1) ++
    match source with
    | .given => ":\n" ++ m.snippet
    | .file _ => ""

end Mark
end ClusterAccess.Yaml
