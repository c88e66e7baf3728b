/-
  ClusterAccess.Machine

  What a program finds on its machine: variables, files, and the time of day.
-/
import ClusterAccess.Defect
import ClusterAccess.Machine.Path

namespace ClusterAccess

/-- A machine. Its paths are in normal form. -/
structure Machine where
  environment : List (String × String) := []
  /-- The contents of plain files by path. -/
  files : List (String × String) := []
  /-- What can be read under a path without being a plain file. -/
  devices : List (String × String) := []
  /-- Directories of which nothing else need be known, among them the current one. -/
  directories : List String := ["/", "."]
  /-- The directory of the user who is there. -/
  home : String := "/"
  /-- The directories of users by name. -/
  homes : List (String × String) := []
  /-- Seconds since the beginning of 1970. -/
  seconds : Int := 0
  deriving Repr

namespace Machine

/-- The value of a variable. -/
def lookUp? (m : Machine) (name : String) : Option String :=
  (m.environment.find? fun v => v.1 = name).map (·.2)

/-- The directory of a user; the empty name is that of the user who is there. -/
def homeOf? (m : Machine) (user : String) : Option String :=
  if user = "" then some m.home else (m.homes.find? fun h => h.1 = user).map (·.2)

/-- A path with the directory of a user in place of a tilde and the name of the user. -/
def expand (m : Machine) (path : String) : String :=
  match path.toList with
  | '~' :: rest =>
    let user := rest.takeWhile (· ≠ '/')
    match m.homeOf? (String.ofList user) with
    | none => path
    | some home =>
      let front := (home.toList.reverse.dropWhile (· = '/')).reverse
      let text := String.ofList (front ++ rest.drop user.length)
      if text = "" then "/" else text
  | _ => path

/-! ## Places -/

/-- What is known to stand at a place, in a list of contents. -/
def at? (place : String) (entries : List (String × String)) : Option String :=
  (entries.find? fun e => e.1 = place).map (·.2)

/-- Whether there is a directory at a place: it is known to be one, or something known is in it. -/
def isDirectoryAt (m : Machine) (place : String) : Bool :=
  m.directories.contains place ||
    (m.files ++ m.devices).any fun e => e.1.startsWith (Path.join place "")

/-- Whether there is anything at a place. -/
def isKnown (m : Machine) (place : String) : Bool :=
  m.isDirectoryAt place || (at? place (m.files ++ m.devices)).isSome

/-- Goes on from a place by the parts of a path. Only a directory leads on. -/
def walk (m : Machine) (path place : String) : List (List Char) → Except Defect String
  | [] => .ok place
  | part :: rest =>
    let part := String.ofList part
    let next := Path.normal (Path.join place part)
    if !m.isDirectoryAt place then .error (.notDirectory path)
    else if Path.longestPart < part.utf8ByteSize then .error (.longName path)
    else if m.isKnown next then m.walk path next rest
    else .error (.missingFile path)

/-- The place, in normal form, that a path leads to. -/
def resolve (m : Machine) (path : String) : Except Defect String :=
  if path.toList.contains '\x00' then .error .nullInPath
  else if path = "" then .error (.missingFile path)
  else if Path.longest < path.utf8ByteSize then .error (.longName path)
  else m.walk path (if path.startsWith "/" then "/" else ".") (Text.parts '/' path.toList)

/-- Whether there is a plain file under a path. -/
def isFile (m : Machine) (path : String) : Bool :=
  match m.resolve path with
  | .ok place => (at? place m.files).isSome
  | .error _ => false

/-- Whether there is anything under a path. -/
def isThere (m : Machine) (path : String) : Bool :=
  (m.resolve path).isOk

/-- What can be read under a path. -/
def read (m : Machine) (path : String) : Except Defect String := do
  match at? (← m.resolve path) (m.files ++ m.devices) with
  | some content => return content
  | none => throw (.directory path)

/-- Why a command cannot be started. A path of its own may lead to what is no command; other
commands are looked for by name. -/
def startFault (m : Machine) (command : String) : Defect :=
  if command.toList.contains '/' then
    match m.resolve command with
    | .ok _ => .notStartable command
    | .error fault => fault
  else if command.toList.contains '\x00' then .nullInPath
  else if Path.longestPart < command.utf8ByteSize then .longName command
  else .missingFile command

end Machine
end ClusterAccess
