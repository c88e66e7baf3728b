/-
  ClusterAccess.Http.Question

  Questions with their parameters, and how an auditor answers them.
-/
import ClusterAccess.Auditor
import ClusterAccess.Http.Message
import ClusterAccess.Http.Route

namespace ClusterAccess.Http

/-- A question with all that it needs. -/
inductive Question
  | metadata
  | kinds
  | canI (principal verb target : String) (refresh : Bool)
  | whoCan (verb target : String)
  | resources (kindName token : String)
  | entitlements (kindName id : String)
  | grants (kindName id : String)
  deriving DecidableEq, Repr

namespace Question

/-! ## Parameters -/

/-- A parameter that has to be given. -/
def required (r : Request) (name : String) : Validated String :=
  match r.param? name with
  | some value => .valid value
  | none => .fault ["query", name] .missing

/-- A parameter that is a truth value, false unless it is given. -/
def flag (r : Request) (name : String) : Validated Bool :=
  match r.param? name with
  | none => .valid false
  | some value =>
    match Scalar.truthOfText? value with
    | some b => .valid b
    | none => .fault ["query", name] .unreadableBoolean

/-- The question that a request asks about a topic. -/
def ofRequest (r : Request) : Topic → Validated Question
  | .metadata => .valid .metadata
  | .kinds => .valid .kinds
  | .canI => canI <$> required r "principal" <*> required r "verb" <*> required r "target" <*>
      flag r "refresh"
  | .whoCan => whoCan <$> required r "verb" <*> required r "target"
  | .resources kindName => .valid (.resources kindName ((r.param? "page_token").getD ""))
  | .entitlements kindName id => .valid (.entitlements kindName id)
  | .grants kindName id => .valid (.grants kindName id)

/-! ## Answers -/

/-- A page as a document. -/
def pageJson {α : Type} (toJson : α → Json) (p : Page α) : Json := .object [
  ("items", .array (p.items.map toJson)),
  ("next_page_token", .text (p.next.getD ""))]

/-- A whole list as the only page of it. -/
def onePage {α : Type} (toJson : α → Json) (items : List α) : Json :=
  pageJson toJson ⟨items, none⟩

/-- A path of access as a document. -/
def pathJson (p : AccessPath) : Json := .object [
  ("role", p.membership.target.toJson),
  ("scope", .ofText? p.membership.scope),
  ("permission_target", p.permission.target.toJson)]

/-- The resource that an id of a kind names. Only what its id tells is known of it. -/
def resourceOf (kindName id : String) : Action Auditor Resource := do
  let c ← Auditor.catalog kindName
  let ref ← Action.ofExcept .ref (ResourceRef.make c.kind id)
  pure { ref, displayName := ResourceRef.shortName id }

/-- Whether a principal may do a verb on a target, and why. Both ids are read before the graph is
needed. -/
def answerCanI (principal verb target : String) (refresh : Bool) : Action Auditor Json := do
  let principalRef ← Action.ofExcept .ref (ResourceRef.ofText principal)
  let targetRef ← Action.ofExcept .ref (ResourceRef.ofText target)
  let graph ← Auditor.accessGraph refresh
  let paths := graph.explain principalRef verb targetRef []
  pure (.object [
    ("allowed", .bool (!paths.isEmpty)),
    ("principal", principalRef.toJson),
    ("verb", .text verb),
    ("target", targetRef.toJson),
    ("paths", .array (paths.map pathJson))])

/-- Who may do a verb on a target. The graph is needed before the target is read. -/
def answerWhoCan (verb target : String) : Action Auditor Json := do
  let graph ← Auditor.accessGraph false
  let targetRef ← Action.ofExcept .ref (ResourceRef.ofText target)
  pure (.array ((graph.whoCan verb targetRef).map ResourceRef.toJson))

/-- The answer to a question. -/
def answer : Question → Action Auditor Json
  | .metadata => do
    let a ← get
    Action.ofExcept id a.metadata
  | .kinds => do
    let a ← get
    pure (.array ((Auditor.freshCatalogs a.settings).map fun c => c.kind.toJson))
  | .canI principal verb target refresh => answerCanI principal verb target refresh
  | .whoCan verb target => answerWhoCan verb target
  | .resources kindName token => pageJson Resource.toJson <$> Auditor.listPage kindName token
  | .entitlements kindName id => do
    let r ← resourceOf kindName id
    onePage Entitlement.toJson <$> Auditor.entitlements kindName r
  | .grants kindName id => do
    let r ← resourceOf kindName id
    onePage Grant.toJson <$> Auditor.grants kindName r

end Question
end ClusterAccess.Http
