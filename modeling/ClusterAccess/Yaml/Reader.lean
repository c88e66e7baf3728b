/-
  ClusterAccess.Yaml.Reader

  YAML documents in the notation of JSON, read by the rules of YAML. These differ
  in what they make of the same text. Only spaces and line ends stand between the
  parts of a document. A number has a point, and its exponent a sign, if it is no
  integer; otherwise it is a text, as are the words for infinity and for what is
  no number. The colon behind the name of a field stands in the same line and not
  far away. A line end inside a text is folded with the blanks around it, and
  escapes by number give one symbol each, also for halves of a pair.

  A place is given by what follows from there on. The first argument of a reader
  bounds its steps; twice the length of the text is always enough.
-/
import ClusterAccess.Json.Reader
import ClusterAccess.Yaml.Refusal

namespace ClusterAccess.Yaml

open Text (Symbol)

/-- What stands at the front of a text with what follows it, or why nothing does. -/
abbrev Reading (α : Type) := Except (Refusal (List Char)) (α × List Char)

/-- Makes something of what was read. -/
def Reading.as {α β : Type} (f : α → β) (r : Reading α) : Reading β :=
  r.map fun (a, rest) => (f a, rest)

/-- Takes the blanks and the line ends off the front. -/
def skipBlank (cs : List Char) : List Char :=
  cs.dropWhile fun c => c == ' ' || isBreak c

/-- Something cannot stand at the front: a tab is a beginning of nothing. -/
def misplaced {α : Type} : List Char → Reading α
  | '\t' :: rest => .error (.noToken '\t' ('\t' :: rest))
  | _ => .error .foreign

/-! ## Texts -/

/-- What stands in a text between two other characters: blanks, or one or more line ends, around
which there are no blanks any more. -/
inductive Gap
  | blanks (cs : List Char)
  | lines (first : Char) (more : List Char)

namespace Gap

/-- Nothing. -/
def none : Gap := .blanks []

/-- A gap with a blank behind it. -/
def blank (c : Char) : Gap → Gap
  | .blanks cs => .blanks (cs ++ [c])
  | .lines first more => .lines first more

/-- A gap with a line end behind it. -/
def newline (c : Char) : Gap → Gap
  | .blanks _ => .lines c []
  | .lines first more => .lines first (more ++ [c])

/-- What a gap stands for. A single plain line end is a space, and the first of several is
nothing. -/
def folded : Gap → List Symbol
  | .blanks cs => cs.map .char
  | .lines first more =>
    let front := if first ≠ '\n' then [first] else if more = [] then [' '] else []
    (front ++ more).map .char

end Gap

/-- Whether a line begins with the mark that separates documents. -/
def isSeparator : List Char → Bool
  | '-' :: '-' :: '-' :: rest | '.' :: '.' :: '.' :: rest =>
    rest.head?.all fun c => c == ' ' || c == '\t' || isBreak c
  | _ => false

/-- A line end as a text keeps it. -/
def keptBreak (c : Char) : Char :=
  if c = '\u2028' ∨ c = '\u2029' then c else '\n'

/-- The symbols up to the closing mark of a text that began at `start`, and what follows it. -/
def readText (start : List Char) (gap : Gap) : List Char → Reading (List Symbol)
  | [] => .error .foreign
  | '"' :: rest => .ok (gap.folded, rest)
  | '\\' :: 'u' :: a :: b :: c :: d :: rest =>
    match Json.hexUnit? (.char a) (.char b) (.char c) (.char d) with
    | some n => (readText start .none rest).as (gap.folded ++ .ofNat n :: ·)
    | none => .error .foreign
  | '\\' :: c :: rest =>
    match Json.escaped? c with
    | some c => (readText start .none rest).as (gap.folded ++ .char c :: ·)
    | none => .error .foreign
  -- Two characters that are one line end.
  | '\r' :: '\n' :: rest =>
    if isSeparator rest then .error (.separator start rest)
    else readText start (gap.newline '\n') rest
  | c :: rest =>
    if isBreak c then
      if isSeparator rest then .error (.separator start rest)
      else readText start (gap.newline (keptBreak c)) rest
    else if c = ' ' ∨ c = '\t' then readText start (gap.blank c) rest
    else (readText start .none rest).as (gap.folded ++ .char c :: ·)

/-! ## Words and numbers -/

/-- Whether a number with a fraction or an exponent is written as one. -/
def isReal (cs : List Char) : Bool :=
  cs.contains '.' &&
    match (cs.dropWhile fun c => c != 'e' && c != 'E').drop 1 with
    | [] => true
    | c :: _ => c == '+' || c == '-'

/-- The value of a word or a number without marks around it. -/
def valueOf (cs : List Char) : Json → Json
  | .real d => if isReal cs then .real d else .text (String.ofList cs)
  | value => value

/-- Whether a word goes on with a character. -/
def isWord (c : Char) : Bool :=
  !(c == ' ' || c == '\t' || isBreak c || ",:[]\x7b\x7d".contains c)

/-- A word or a number. -/
def readWord (cs : List Char) : Reading Json :=
  let word := cs.takeWhile isWord
  match Json.readScalar (word.map .char) with
  | .ok (value, []) => .ok (valueOf word value, cs.drop word.length)
  | .error (.tooLong digits) => .error (.tooLong digits)
  | _ => .error .foreign

/-! ## Values -/

/-- How far the colon behind the name of a field may stand from the beginning of the name. -/
def nameReach : Nat := 1024

/-- Whether a colon stands too far behind a name, or in another line. -/
def isLate (name colon : List Char) : Bool :=
  let between := name.take (name.length - colon.length)
  between.any isBreak || nameReach < between.length

mutual
/-- A value at the front. -/
def readValue : Nat → List Char → Reading Json
  | 0, _ => .error .foreign
  | fuel + 1, cs =>
    match cs with
    | '"' :: rest => (readText cs .none rest).as Json.ofSymbols
    | '[' :: rest =>
      match skipBlank rest with
      | ']' :: rest => .ok (.array [], rest)
      | rest => (readItems fuel rest).as .array
    | '\x7b' :: rest =>
      match skipBlank rest with
      | '\x7d' :: rest => .ok (.object [], rest)
      | rest => (readFields fuel cs [] rest).as Json.ofNamed
    | '\t' :: _ => misplaced cs
    | _ => readWord cs

/-- One or more items, up to the closing bracket. -/
def readItems : Nat → List Char → Reading (List Json)
  | 0, _ => .error .foreign
  | fuel + 1, cs =>
    match readValue fuel cs with
    | .error refusal => .error refusal
    | .ok (item, rest) =>
      match skipBlank rest with
      | ']' :: rest => .ok ([item], rest)
      | ',' :: rest => (readItems fuel (skipBlank rest)).as (item :: ·)
      | rest => misplaced rest

/-- One or more fields behind those read so far, up to the closing brace of an object that began at
`start`. -/
def readFields : Nat → List Char → List (List Symbol × Json) → List Char →
    Reading (List (List Symbol × Json))
  | 0, _, _, _ => .error .foreign
  | fuel + 1, start, fields, cs =>
    match cs with
    | '"' :: rest =>
      match readText cs .none rest with
      | .error refusal => .error refusal
      | .ok (name, rest) =>
        match skipBlank rest with
        | ':' :: rest =>
          -- The name is measured up to its colon, white space between them included.
          if isLate cs (':' :: rest) then .error (.lateColon start (':' :: rest))
          else match readValue fuel (skipBlank rest) with
            | .error refusal => .error refusal
            | .ok (value, rest) =>
              let fields := Json.setField name value fields
              match skipBlank rest with
              | '\x7d' :: rest => .ok (fields, rest)
              | ',' :: rest => readFields fuel start fields (skipBlank rest)
              | rest => misplaced rest
        | rest => misplaced rest
    | _ => misplaced cs
end

/-! ## Documents -/

/-- Whether a text may hold a character. -/
def isAllowed (c : Char) : Bool :=
  c == '\t' || c == '\n' || c == '\r' || (0x20 ≤ c.toNat && c.toNat ≤ 0x7E) || c == '\x85' ||
    (0xA0 ≤ c.toNat && c.toNat ≤ 0xFFFD) || 0x10000 ≤ c.toNat

/-- A document: one value, or none, with nothing but blanks and line ends around it. A byte order
mark may stand in front. -/
def readDocument (cs : List Char) : Except (Refusal (List Char)) Json :=
  match cs.dropWhile isAllowed with
  | c :: rest => .error (.unprintable c (cs.length - (rest.length + 1)))
  | [] =>
    match skipBlank (if cs.head? = some '\uFEFF' then cs.drop 1 else cs) with
    | [] => .ok .null
    | front => do
      let (value, rest) ← readValue (2 * cs.length + 2) front
      match skipBlank rest with
      | [] => pure value
      | rest => (fun r => r.1) <$> (misplaced rest : Reading Json)

/-- The document that a text holds, or why it holds none. -/
def read (s : String) : Except (Refusal Mark) Json :=
  (readDocument s.toList).mapError (Refusal.map (Mark.ofRest s.toList))

end ClusterAccess.Yaml
