import Jobflow.Text.Cut

/-!
# Paths

Paths are texts of names separated by slashes; one that starts with a slash is absolute.
The functions here work on the text alone: joining, splitting, and the normal form without
empty and `.` names, in which `..` takes back the name before it.
-/

namespace Jobflow.Path

/-- The names of a path, empty ones included. -/
def names (path : String) : List String :=
  (Text.splitAll (· == '/') path.toList).map String.ofList

/-- Whether a path is absolute. -/
def isAbsolute (path : String) : Bool := Text.startsWith path "/"

/-- A path seen from a folder: itself if it is absolute. -/
def join (folder path : String) : String :=
  if isAbsolute path || folder.isEmpty then path
  else if Text.endsWith folder "/" then folder ++ path
  else folder ++ "/" ++ path

/-- Take a name into the reversed names of a path: empty and `.` names do nothing and `..`
takes back the name before it. At the root it does nothing; in a relative path it stays
when there is nothing to take back. -/
def step (absolute : Bool) (reversed : List String) (name : String) : List String :=
  if name = "" ∨ name = "." then reversed
  else if name = ".." then
    match reversed with
    | [] => if absolute then [] else [".."]
    | last :: rest => if last = ".." then ".." :: reversed else rest
  else name :: reversed

/-- The names of a path in normal form. -/
def normalNames (path : String) : List String :=
  ((names path).foldl (step (isAbsolute path)) []).reverse

/-- The slashes that a normal form starts with: exactly two are kept. -/
def leadingSlashes (path : String) : String :=
  if !isAbsolute path then ""
  else if Text.startsWith path "//" && !Text.startsWith path "///" then "//"
  else "/"

/-- The normal form of a path. -/
def normal (path : String) : String :=
  let result := leadingSlashes path ++ Text.join "/" (normalNames path)
  if result.isEmpty then "." else result

/-- The normal form of a path seen from a folder. -/
def absolute (folder path : String) : String := normal (join folder path)

/-- The place that a path leads to from a folder when there are no links: its normal form
below a single root. -/
def real (folder path : String) : String :=
  "/" ++ Text.join "/" (normalNames (join folder path))

/-- The folder of a path, and the name after its last slash. -/
def split (path : String) : String × String :=
  match Text.cutLast? (· == '/') path.toList with
  | none => ("", path)
  | some (folder, name) =>
    let trimmed := (folder.reverse.dropWhile (· == '/')).reverse
    let folder := if trimmed.isEmpty then folder ++ ['/'] else trimmed
    (String.ofList folder, String.ofList name)

/-- The folder of a path. -/
def folder (path : String) : String := (split path).1

/-- The name after the last slash. -/
def fileName (path : String) : String := (split path).2

/-- A name without its extension: what follows its last dot, unless only dots come before
it. -/
def stem (name : String) : String :=
  match Text.cutLast? (· == '.') name.toList with
  | none => name
  | some (before, _) => if before.all (· == '.') then name else String.ofList before

/-- A path without slashes at its end. -/
def withoutTrailingSlashes (path : String) : String :=
  String.ofList ((path.toList.reverse.dropWhile (· == '/')).reverse)

/-- Drop a common beginning of two lists. -/
def dropCommon : List String → List String → List String × List String
  | a :: as, b :: bs => if a = b then dropCommon as bs else (a :: as, b :: bs)
  | as, bs => (as, bs)

/-- The path that leads from one absolute place to another one. -/
def relative (start path : String) : String :=
  let (down, up) := dropCommon (normalNames path) (normalNames start)
  let names := up.map (fun _ => "..") ++ down
  if names.isEmpty then "." else Text.join "/" names

example : normal "/a/./b/../c/" = "/a/c" ∧ normal "" = "." ∧ normal "a/../../b" = "../b" := by
  decide +kernel

end Jobflow.Path
