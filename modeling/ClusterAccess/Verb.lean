/-
  ClusterAccess.Verb

  The verbs of a rule. A rule lists verbs in any order and may repeat them; `*`
  or the empty verb anywhere in the list stands for the eight standard verbs and
  for nothing else that is listed.
-/
import ClusterAccess.Text.Order

namespace ClusterAccess.Verb

/-- The verbs that `*` stands for. -/
def standard : List String :=
  ["get", "list", "watch", "create", "update", "patch", "delete", "deletecollection"]

/-- Whether a verb stands for all standard verbs. -/
def isExpanding (verb : String) : Bool :=
  verb == "*" || verb == ""

/-- The verbs that a list stands for, in code point order, each once. -/
def effective (listed : List String) : List String :=
  Text.sortDistinct (if listed.any isExpanding then standard else listed)

end ClusterAccess.Verb
