import Jobflow.Properties.Reader
import Jobflow.World

/-!
# Loading properties files

Properties files are read from disk with all kinds of line ends taken for line feeds. Of
several files later ones override earlier ones; the first that cannot be read stops the
loading.
-/

namespace Jobflow.PropertiesFile

open Text (quote)

/-- The wording of bytes that are no text. -/
def decodingReason (failure : Text.Utf8.Failure) : String :=
  let reason :=
    match failure.reason with
    | .startByte => "invalid start byte"
    | .continuationByte => "invalid continuation byte"
    | .endOfData => "unexpected end of data"
  let place :=
    if failure.length = 1 then
      "byte 0x" ++ String.ofList (Text.hex 2 failure.byte) ++ " in position " ++
        toString failure.start
    else
      "bytes in position " ++ toString failure.start ++ "-" ++
        toString (failure.start + failure.length - 1)
  "'utf-8' codec can't decode " ++ place ++ ": " ++ reason

/-- The characters of the file at a path, with line feeds for all line ends. -/
def contents (tree : FileTree) (folder path : String) : Except Refusal (List Char) :=
  match tree.find folder path with
  | .error .notFolder =>
    .error (.unreadableProperties path ("[Errno 20] Not a directory: " ++ quote path))
  | .error _ => .error (.noPropertiesFile path)
  | .ok (_, .folder) =>
    .error (.unreadableProperties path ("[Errno 21] Is a directory: " ++ quote path))
  | .ok (_, file) =>
    match file.characters with
    | .ok cs => .ok (Text.unifyBreaks cs)
    | .error failure => .error (.unreadableProperties path (decodingReason failure))

/-- The mapping written in the files at some paths. -/
def load (paths : List String) : Action (OrderedMap String) := do
  let world ← get
  match paths.mapM (contents world.tree world.folder) with
  | .ok files => return read files
  | .error reason => Action.refuse reason

/-- Texts as properties. -/
def toProperties (entries : OrderedMap String) : Properties := entries.map Value.text

end Jobflow.PropertiesFile
