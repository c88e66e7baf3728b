/-
  ClusterAccess.Manifest.Verbs

  The verbs that a raw value lists: the items of a list, the characters of a text,
  the names of fields. Any value that holds no others can be a verb, but verbs of
  different shapes have no order.
-/
import ClusterAccess.Json.Same
import ClusterAccess.Manifest.Basic
import ClusterAccess.Verb

namespace ClusterAccess.Verb

open Manifest

/-- Whether one of some raw verbs stands for all standard ones. What stands behind it does not
count. -/
def rawExpands : List Json → Reading Bool
  | [] => .ok false
  | j :: rest =>
    match j with
    | .array _ | .object _ | .brokenObject _ => .error (.notPlain (shape j))
    | .text s => if isExpanding s then .ok true else rawExpands rest
    | _ => rawExpands rest

/-- Puts a number into a list that increases. A number with the same value stays as it is. -/
def insertNumber (j : Json) : List Json → List Json
  | [] => [j]
  | other :: rest =>
    if j.same other then other :: rest
    else if j.isLess other then j :: other :: rest
    else other :: insertNumber j rest

/-- Raw verbs in their order, each once. -/
def sortRaw (items : List Json) : Reading (List Json) :=
  match items.mapM Json.looseText? with
  | some texts => .ok ((Text.sortDistinct texts).map .text)
  | none =>
    match items.find? fun j => j.worth?.isNone with
    | none => .ok (items.foldl (fun sorted j => insertNumber j sorted) [])
    | some odd =>
      match items.find? fun j => !j.same odd with
      | none => .ok [odd]
      | some other => .error (.notOrdered (shape odd) (shape other))

/-- The verbs that a raw value stands for, in order, each once. -/
def ofRaw (j : Json) : Reading (List Json) := do
  let items ← parts j
  if ← rawExpands items then
    return (effective standard).map .text
  else
    sortRaw items

end ClusterAccess.Verb
