import Advent.Run.Input

/-!
# Files in memory

A storage is a working directory with files and directories in it. Reading follows a path component
by component: a missing name ends it, a file has nothing below it, and a directory is no text. Above
the working directory there is nothing else.
-/
namespace Advent

inductive Node
  | file (content : ByteArray)
  | directory (entries : List (String × Node))

namespace Node

def emptyDirectory : Node := .directory []

/-- Puts a node under a path of names; what stands in the way gives way. -/
def insert (added : Node) : List String → Node → Node
  | [], _ => added
  | name :: rest, node =>
    let entries :=
      match node with
      | .directory entries => entries
      | .file _ => []
    let below := (entries.lookup name).getD emptyDirectory
    .directory ((name, insert added rest below) :: entries.filter fun entry => entry.1 ≠ name)

/-- The node that a path leads to; `above` holds the directories that were left, nearest first. -/
def walk (node : Node) (above : List Node) : List String → Except ReadFault Node
  | [] => .ok node
  | name :: rest =>
    match node with
    | .file _ => .error .notDirectory
    | .directory entries =>
      if name = "" || name = "." then walk node above rest
      else if name = ".." then
        match above with
        | parent :: further => walk parent further rest
        -- Everything outside the working directory is missing.
        | [] => walk emptyDirectory [] rest
      else if 255 < name.utf8ByteSize then .error .nameTooLong
      else
        match entries.lookup name with
        | none => .error .notFound
        | some below => walk below (node :: above) rest

end Node

structure Storage where
  root : Node

namespace Storage

/-- Files and directories by their paths in the working directory. -/
def ofFiles (files : List (String × Node)) : Storage :=
  ⟨files.foldl (fun root (path, node) =>
    node.insert ((path.splitOn "/").filter fun name => name ≠ "") root) .emptyDirectory⟩

/-- The length in bytes from which on no path is followed. -/
def pathLimit : Nat := 4096

def read (storage : Storage) (path : String) : Except ReadFault String :=
  if path.contains '\x00' then .error .nulInPath
  else if pathLimit ≤ path.utf8ByteSize then .error .nameTooLong
  else if path.isEmpty then .error .notFound
  else
    let start := if path.startsWith "/" then Node.emptyDirectory else storage.root
    match start.walk [] (path.splitOn "/") with
    | .error fault => .error fault
    | .ok (.directory _) => .error .isDirectory
    | .ok (.file content) =>
      match String.fromUTF8? content with
      | some text => .ok text
      | none => .error .notText

end Storage

end Advent
