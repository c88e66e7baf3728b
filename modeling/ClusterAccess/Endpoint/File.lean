/-
  ClusterAccess.Endpoint.File

  Configuration documents in files. Of the entries of one name in a list of such
  a document, the first counts.
-/
import ClusterAccess.Endpoint.Document

namespace ClusterAccess.ConfigDocument

/-- The items of a value that is gone through: the items of a list, the characters of a text, the
names of fields. -/
def itemsOf (j : Json) : Usable (List Json) :=
  (Manifest.elements j).mapError fun _ => .defect (.notIterable (Manifest.shape j))

/-- The name of an entry that has been taken. -/
def takenName (path : String) (entry : Json) : Usable Json :=
  (·.value) <$> (⟨path ++ "/" ++ entry.displayInner, entry⟩ : Place).get "name"

/-- The name of an entry that is to be taken. -/
def newName (entry : Json) : Usable Json :=
  match entry with
  | .object _ | .brokenObject _ =>
    match entry.field? "name" with
    | some name => .ok name
    | none => Usable.defective (.noField "name")
  | .array _ => Usable.defective .namedItem
  | .text _ | .brokenText _ => Usable.defective .namedCharacter
  | _ => Usable.defective (.notKeyed (Manifest.shape entry))

/-- Whether an entry has the name of one that has been taken. -/
def isTaken (path : String) (entry : Json) : List Json → Usable Bool
  | [] => .ok false
  | taken :: rest => do
    let name ← takenName path taken
    if name.same (← newName entry) then pure true else isTaken path entry rest

/-- Takes the first entry of each name, behind those taken before. -/
def takeFirst (path : String) : List Json → List Json → Usable (List Json)
  | taken, [] => .ok taken
  | taken, entry :: rest => do
    if ← isTaken path entry taken then
      takeFirst path taken rest
    else
      takeFirst path (taken ++ [entry]) rest

/-- The lists of a document that hold entries with names. -/
def listKeys : List String := ["clusters", "contexts", "users"]

/-- A document with one entry of each name. -/
def withoutRepetition (path : String) (document : Json) :
    List String → Usable (List (String × Json))
  | [] => .ok []
  | key :: keys => do
    let entries ← takeFirst path [] (← itemsOf (document.field key))
    return (key, .array entries) :: (← withoutRepetition path document keys)

/-- The document that a value from a file is. -/
def ofFile (path : String) (document : Json) : Usable ConfigDocument :=
  match document with
  | .null => Usable.unusable ("Invalid kube-config. " ++ path ++ " file is empty")
  | .object _ | .brokenObject _ => do
    let lists ← withoutRepetition path document listKeys
    let current := ("current-context", document.field "current-context")
    pure { root := ⟨path, .object (current :: lists)⟩, base := Path.parent path }
  | .array _ => Usable.defective .namedItem
  | j => Usable.defective (.notSettable (Manifest.shape j))

end ClusterAccess.ConfigDocument
