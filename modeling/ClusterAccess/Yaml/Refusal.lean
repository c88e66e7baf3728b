/-
  ClusterAccess.Yaml.Refusal

  Why a text is no YAML document, or one that is not read here.
-/
import ClusterAccess.Json.Refusal
import ClusterAccess.Text.Quoted
import ClusterAccess.Yaml.Mark

namespace ClusterAccess.Yaml

/-- Why a text is no document, with places given in some way. -/
inductive Refusal (α : Type)
  /-- A character that no text may hold, so many characters behind the beginning. -/
  | unprintable (c : Char) (position : Nat)
  /-- Nothing begins with a character. -/
  | noToken (c : Char) (place : α)
  /-- Inside a text that begins at `start` there is a line that separates documents. -/
  | separator (start place : α)
  /-- In an object that begins at `start` a colon stands too far behind the name of a field. -/
  | lateColon (start place : α)
  /-- An integer has this many digits. -/
  | tooLong (digits : Nat)
  /-- The text is not written in the notation that is read here. -/
  | foreign
  deriving DecidableEq, Repr

namespace Refusal

/-- Gives places in another way. -/
def map {α β : Type} (f : α → β) : Refusal α → Refusal β
  | .unprintable c position => .unprintable c position
  | .noToken c place => .noToken c (f place)
  | .separator start place => .separator (f start) (f place)
  | .lateColon start place => .lateColon (f start) (f place)
  | .tooLong digits => .tooLong digits
  | .foreign => .foreign

/-- A number in at least four hexadecimal digits. -/
def codeText (n : Nat) : String :=
  String.ofList (Text.hexAtLeast 4 n)

/-- Why a text is no document, in words. -/
def message (source : Source) : Refusal Mark → String
  | .unprintable c position =>
    "unacceptable character #x" ++ codeText c.toNat ++
      ": special characters are not allowed\n  in \"" ++ source.name ++ "\", position " ++
      toString position
  | .noToken c place =>
    "while scanning for the next token\nfound character " ++ Text.quoted (String.singleton c) ++
      " that cannot start any token\n" ++ place.message source
  | .separator start place =>
    "while scanning a quoted scalar\n" ++ start.message source ++
      "\nfound unexpected document separator\n" ++ place.message source
  | .lateColon start place =>
    "while parsing a flow mapping\n" ++ start.message source ++
      "\nexpected \x27,\x27 or \x27\x7d\x27, but got \x27:\x27\n" ++ place.message source
  | .tooLong digits => Json.longNumberMessage digits
  | .foreign => "not a document in this notation"

end Refusal
end ClusterAccess.Yaml
