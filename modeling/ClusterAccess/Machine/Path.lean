/-
  ClusterAccess.Machine.Path

  Paths as texts. The normal form of a path names the same place, as far as the
  text alone can tell, without empty parts, single dots and avoidable double
  dots.
-/
import ClusterAccess.Text.Split

namespace ClusterAccess.Path

/-- The most octets that a path has. -/
def longest : Nat := 4095

/-- The most octets that a part of a path has. -/
def longestPart : Nat := 255

/-- The slashes at the front of a path that count: exactly two are kept. -/
def rootOf : List Char → List Char
  | '/' :: '/' :: '/' :: _ => ['/']
  | '/' :: '/' :: _ => ['/', '/']
  | '/' :: _ => ['/']
  | _ => []

/-- Puts a part behind others, which are given last first. A double dot takes the part before it
away; above a root there is nothing. -/
def push (rooted : Bool) (parts : List (List Char)) (part : List Char) : List (List Char) :=
  if part = [] ∨ part = ['.'] then parts
  else if part ≠ ['.', '.'] then part :: parts
  else match parts with
    | [] => if rooted then [] else [part]
    | last :: before => if last = ['.', '.'] then part :: parts else before

/-- The normal form of a path. -/
def normal (path : String) : String :=
  let cs := path.toList
  let root := rootOf cs
  let parts := ((Text.parts '/' cs).foldl (push (root ≠ [])) []).reverse
  let text := root ++ List.intercalate ['/'] parts
  if text = [] then "." else String.ofList text

/-- A path from a place on: one from the root stands alone. -/
def join (base path : String) : String :=
  if path.startsWith "/" then path
  else if base = "" ∨ base.endsWith "/" then base ++ path
  else base ++ "/" ++ path

/-- The path without its last part. -/
def parent (path : String) : String :=
  let front := (path.toList.reverse.dropWhile (· ≠ '/'))
  let bare := front.dropWhile (· = '/')
  String.ofList (if bare = [] then front.reverse else bare.reverse)

end ClusterAccess.Path
