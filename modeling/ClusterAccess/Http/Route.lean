/-
  ClusterAccess.Http.Route

  Paths and the questions they ask. The id of a resource may hold any text, also
  none and also slashes, between the fixed parts of its path; a kind is one
  segment. A path that only has one slash too many or too few at its end is sent
  on to the right one.
-/
import ClusterAccess.Text.Hex
import ClusterAccess.Text.Split
import ClusterAccess.Text.Utf

namespace ClusterAccess.Http

/-- What an auditor can be asked about. -/
inductive Topic
  | metadata
  | kinds
  | canI
  | whoCan
  | resources (kindName : String)
  | entitlements (kindName id : String)
  | grants (kindName id : String)
  deriving DecidableEq, Repr

/-- What a path leads to: an auditor, or the state of the service itself. -/
inductive Route
  | topic (topic : Topic)
  | health
  deriving DecidableEq, Repr

namespace Route

/-- The paths without a free part. -/
def fixed : List (String × Route) := [
  ("/api/sync/metadata", .topic .metadata),
  ("/api/sync/resource-types", .topic .kinds),
  ("/api/sync/can-i", .topic .canI),
  ("/api/sync/who-can", .topic .whoCan),
  ("/health", .health)]

/-- What stands behind a first part. -/
def behind? (first : String) (cs : List Char) : Option (List Char) :=
  if first.toList.isPrefixOf cs then some (cs.drop first.length) else none

/-- What stands before a last part. -/
def before? (last : String) (cs : List Char) : Option (List Char) :=
  if last.toList.isSuffixOf cs then some (cs.take (cs.length - last.length)) else none

/-- The id between a first part and a last part. An id has no line breaks. -/
def idBetween? (last : String) (cs : List Char) : Option String :=
  ((behind? "/resources/" cs).bind (before? last)).bind fun id =>
    if id.contains '\n' then none else some (String.ofList id)

/-- The topic of a path below the one of a kind. -/
def topicOf? (kindName : String) (rest : List Char) : Option Topic :=
  if rest = "/resources".toList then some (.resources kindName)
  else ((idBetween? "/entitlements" rest).map (Topic.entitlements kindName)).or
    ((idBetween? "/grants" rest).map (Topic.grants kindName))

/-- A path without a line break at its end. -/
def withoutLineEnd (cs : List Char) : List Char :=
  if cs.getLast? = some '\n' then cs.dropLast else cs

/-- The route of a path. -/
def ofPath? (path : String) : Option Route :=
  let cs := withoutLineEnd path.toList
  ((fixed.find? fun entry => entry.1.toList = cs).map (·.2)).or do
    let rest ← behind? "/api/sync/" cs
    let kindName := rest.takeWhile (· ≠ '/')
    if kindName = [] then none
    else (topicOf? (String.ofList kindName) (rest.drop kindName.length)).map .topic

/-! ## Redirects -/

/-- The path with the slash at its end changed: without any, or with one. -/
def otherSlash (path : String) : String :=
  let cs := path.toList
  if cs.getLast? = some '/' then String.ofList (cs.reverse.dropWhile (· = '/')).reverse
  else path ++ "/"

/-- The path that a path without a route is sent on to. -/
def redirect? (path : String) : Option String :=
  if path = "/" then none
  else if (ofPath? (otherSlash path)).isSome then some (otherSlash path)
  else none

/-- The characters that stand for themselves in the path of a location. -/
def plainMarks : List Char := "_.-~:/%=@[]!$&\x27()*+,;".toList

/-- One octet by number. -/
def percent (octet : Nat) : List Char :=
  '%' :: (Text.hex 2 octet).map Char.toUpper

/-- A text as part of a location. -/
def quoteWith (plain : List Char) (s : String) : String :=
  String.ofList (s.toList.flatMap fun c =>
    if c.isAlphanum || plain.contains c then [c] else (Text.utf8 [c]).flatMap percent)

/-- One name or value of a query: a space is written as a plus sign. -/
def quoteParam (s : String) : String :=
  String.ofList ((quoteWith ['_', '.', '-', '~', ' '] s).toList.map fun c =>
    if c = ' ' then '+' else c)

/-- A query behind its path. -/
def queryText : List (String × String) → String
  | [] => ""
  | params => "?" ++ "&".intercalate (params.map fun p => quoteParam p.1 ++ "=" ++ quoteParam p.2)

/-- The location of a path and a query on a host. -/
def location (host path : String) (query : List (String × String)) : String :=
  "http://" ++ host ++ quoteWith plainMarks path ++ queryText query

end Route
end ClusterAccess.Http
