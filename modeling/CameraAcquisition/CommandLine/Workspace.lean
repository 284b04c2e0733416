import CameraAcquisition.CommandLine.Program
import CameraAcquisition.CommandLine.LogFilter

/-!
# A working directory of files

The program runs in a working directory that holds only files. A path is followed part by
part, from the root when it starts with `/` and from the working directory otherwise: `.`
stays, `..` climbs, and a name looks inside the directory reached so far. Every part but the
last must lead to a directory: through a file the path fails with "not a directory", through
a name that names nothing with "no such file".

Outside the working directory the world is small: the working directory is a fresh directory
of `/tmp`, and besides the root, `/tmp` and the working directory there is only `/dev` with
its empty device `/dev/null`. Climbing above the root stays at the root.

Reading a directory fails with "is a directory", and so does creating one, or creating a file
through a path that ends in `/`. Reading a file through such a path fails with "not a
directory". Creating a file empties it. The log file is created before anything else is
done, so a settings file of the same name reads empty.

## What this module delivers

- `Place`, `Workspace` with `Workspace.resolve`, `create`, `read` and `names`.
- `runIn`, the whole program on a command line, with a log filter setting, in a working
  directory.
-/

set_option autoImplicit false

namespace CameraAcquisition.CommandLine

/-- Where a path leads. -/
inductive Place where
  /-- The working directory. -/
  | work
  /-- The root directory. -/
  | root
  /-- The directory of devices, `/dev`. -/
  | devices
  /-- The directory of temporary files, `/tmp`. -/
  | temporary
  /-- The empty device `/dev/null`, which reads empty and takes any writing. -/
  | sink
  /-- A file of the working directory. -/
  | file (name : String)
  /-- A name that names nothing, in the working directory or outside it. -/
  | missing (inside : Bool) (name : String)
  deriving Repr, BEq, DecidableEq, Inhabited

namespace Place

/-- Whether a place is a directory. -/
def isDirectory : Place → Bool
  | work | root | devices | temporary => true
  | _ => false

/-- Whether a place exists. -/
def isPresent : Place → Bool
  | missing .. => false
  | _ => true

/-- The directory that holds a directory; the root holds itself. -/
def parent : Place → Place
  | work => temporary
  | devices | temporary => root
  | p => p

end Place

/-- A working directory: its files and what they hold. -/
structure Workspace where
  files : List (String × String)
  deriving Repr, BEq, DecidableEq, Inhabited

namespace Workspace

/-- Whether the directory has a file of this name. -/
def has (ws : Workspace) (name : String) : Bool := ws.files.any (·.1 == name)

/-- The place a part of a path leads to from a directory. -/
def step (ws : Workspace) (dir : Place) (part : String) : Place :=
  if part == "." then dir
  else if part == ".." then dir.parent
  else match dir with
    | .work => if ws.has part then .file part else .missing true part
    | .root =>
      if part == "dev" then .devices
      else if part == "tmp" then .temporary
      else .missing false part
    | .devices => if part == "null" then .sink else .missing false part
    | _ => .missing false part

/-- Where a path leads, or why it leads nowhere: every part but the last must reach a
directory. -/
def resolve (ws : Workspace) (path : String) : Except FileProblem Place :=
  if path.isEmpty then .error .notFound
  else
    let start : Place := if path.startsWith "/" then .root else .work
    let parts := (path.splitOn "/").filter (· ≠ "")
    parts.foldlM (fun here part =>
      if here.isDirectory then .ok (ws.step here part)
      else .error (if here.isPresent then .notDirectory else .notFound)) start

/-- Creates an empty file, or empties an existing one. -/
def create (ws : Workspace) (path : String) : Except FileProblem Workspace := do
  let place ← ws.resolve path
  if place.isDirectory || path.endsWith "/" then throw .isDirectory
  match place with
  | .file name | .missing true name =>
    pure ⟨(ws.files.filter (·.1 != name)) ++ [(name, "")]⟩
  | _ => pure ws

/-- What a file holds. -/
def read (ws : Workspace) (path : String) : Except FileProblem String := do
  let place ← ws.resolve path
  if place.isDirectory then throw .isDirectory
  if !place.isPresent then throw .notFound
  if path.endsWith "/" then throw .notDirectory
  match place with
  | .file name => pure ((ws.files.find? (·.1 == name)).map (·.2) |>.getD "")
  | _ => pure ""

/-- The names of the files, sorted. -/
def names (ws : Workspace) : List String :=
  (ws.files.map (·.1)).mergeSort fun a b => decide (a ≤ b)

end Workspace

/-- Runs the program on a command line, with a log filter setting, in a working directory:
what it printed and how it ended, and the directory afterwards. Warnings about the log filter
come once the log file is created, before anything else the program prints on standard
error. -/
def runIn (args : List String) (logSetting : Option String) (ws : Workspace) :
    Reply × Workspace :=
  match parse args with
  | .error (.show text) => (⟨0, text, ""⟩, ws)
  | .error (.reject text) => (⟨2, "", text⟩, ws)
  | .ok inv =>
    let created := match inv.logFile with
      | some path => ws.create path
      | none => .ok ws
    match created with
    | .error p => (Reply.failure "" [p.message], ws)
    | .ok ws =>
      let reply := execute inv (inv.config.map ws.read)
      ({ reply with stderr := filterWarnings logSetting ++ reply.stderr }, ws)

end CameraAcquisition.CommandLine
