/-
  ClusterAccess.Text.Quoted

  A text between quotation marks, as messages show it. Single marks, unless the
  text holds a single mark and no double one. Unprintable characters are written
  by number.
-/
import ClusterAccess.Text.Hex
import ClusterAccess.Text.Printable
import ClusterAccess.Text.Utf

namespace ClusterAccess.Text

/-- The mark that encloses a text. -/
def quoteMark (cs : List Char) : Char :=
  if cs.contains '\x27' && !cs.contains '"' then '"' else '\x27'

/-- One character between marks. -/
def quotedChar (mark c : Char) : List Char :=
  if c = mark ∨ c = '\\' then ['\\', c]
  else if c = '\n' then ['\\', 'n']
  else if c = '\r' then ['\\', 'r']
  else if c = '\t' then ['\\', 't']
  else if isPrintable c then [c]
  else if c.toNat < 0x100 then '\\' :: 'x' :: hex 2 c.toNat
  else if c.toNat < 0x10000 then '\\' :: 'u' :: hex 4 c.toNat
  else '\\' :: 'U' :: hex 8 c.toNat

/-- One symbol between marks; half of a pair is written by number. -/
def quotedSymbol (mark : Char) : Symbol → List Char
  | .char c => quotedChar mark c
  | .half unit => '\\' :: 'u' :: hex 4 unit

/-- The quoted form of symbols. -/
def quotedSymbols (symbols : List Symbol) : String :=
  let mark := quoteMark (symbols.filterMap Symbol.char?)
  String.ofList (mark :: symbols.flatMap (quotedSymbol mark) ++ [mark])

/-- The quoted form of a text. -/
def quoted (s : String) : String :=
  let mark := quoteMark s.toList
  String.ofList (mark :: s.toList.flatMap (quotedChar mark) ++ [mark])

end ClusterAccess.Text
