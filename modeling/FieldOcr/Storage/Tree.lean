import FieldOcr.Storage.Fault
import FieldOcr.Storage.Path
import FieldOcr.Text.Utf8

/-!
# File trees

A *tree* holds files and directories by their place, which is the list of
names that leads to them from the root.  Reading leaves a tree as it is, and a
file is renamed at once or not at all.
-/

namespace FieldOcr
namespace Storage

/-- What a tree holds at a place. -/
inductive Node
  | file (contents : List UInt8)
  | directory
  deriving DecidableEq, Repr

/-- Files and directories by their place. -/
structure Tree where
  /-- The place from which relative paths start. -/
  workingDirectory : List String
  /-- What the tree holds besides the root. -/
  nodes : List (List String × Node)
  deriving DecidableEq, Repr

namespace Tree

/-- What stands at a place. -/
def node? (tree : Tree) (place : List String) : Option Node :=
  if place.isEmpty then some .directory
  else (tree.nodes.find? (·.1 = place)).map (·.2)

/-- Puts a node at a place. -/
def put (tree : Tree) (place : List String) (node : Node) : Tree :=
  { tree with
    nodes := (place, node) :: tree.nodes.filter (·.1 ≠ place) }

/-- Takes away what stands at a place. -/
def remove (tree : Tree) (place : List String) : Tree :=
  { tree with nodes := tree.nodes.filter (·.1 ≠ place) }

/-- The place from which a path starts. -/
def start (tree : Tree) (path : Path) : List String :=
  if path.absolute then [] else tree.workingDirectory

/-- Goes along parts that all have to name directories. -/
def walk
    (tree : Tree)
    (place : List String) : List String -> Except Fault (List String)
  | [] => .ok place
  | part :: rest =>
      if part = "." then walk tree place rest
      else if part = ".." then walk tree place.dropLast rest
      else if nameLimit < part.utf8ByteSize then .error .nameTooLong
      else
        match tree.node? (place ++ [part]) with
        | none => .error .missing
        | some (.file _) => .error .notDirectory
        | some .directory => walk tree (place ++ [part]) rest

/-- Whether parts lead to a directory. -/
def isDirectory (tree : Tree) (place parts : List String) : Bool :=
  (tree.walk place parts).isOk

/-- What the last part of a path refers to: the directory that it stands for,
or a name in the directory that holds it. -/
inductive Target
  | itself
  | entry (place : List String)
  deriving DecidableEq, Repr

/-- Finds what the last of some parts refers to.  No parts at all refer to the
starting place itself. -/
def target
    (tree : Tree)
    (place parts : List String) : Except Fault Target :=
  match parts.getLast? with
  | none => .ok .itself
  | some last =>
      match tree.walk place parts.dropLast with
      | .error fault => .error fault
      | .ok holder =>
          if last = "." || last = ".." then .ok .itself
          else if nameLimit < last.utf8ByteSize then .error .nameTooLong
          else .ok (.entry (holder ++ [last]))

/-- The contents of the file at a path. -/
def read (tree : Tree) (text : String) : Except Fault (List UInt8) :=
  let path := Path.ofString text
  if holdsNul text then .error .nulInName
  else if text.isEmpty then .error .missing
  else if pathLimit ≤ text.utf8ByteSize then .error .nameTooLong
  else
    match tree.target (tree.start path) path.parts with
    | .error fault => .error fault
    | .ok .itself => .error .isDirectory
    | .ok (.entry place) =>
        match tree.node? place with
        | none => .error .missing
        | some .directory => .error .isDirectory
        | some (.file contents) =>
            if path.trailingSlash then .error .notDirectory else .ok contents

/-- The contents of the file at a path as a text. -/
def readText (tree : Tree) (text : String) : Except Fault String :=
  match tree.read text with
  | .error fault => .error fault
  | .ok contents =>
      if Text.Utf8.isValid contents then
        .ok (String.ofList (Text.Utf8.decode contents))
      else .error .notText

/-- Creates one directory. -/
def createDirectory
    (tree : Tree)
    (place parts : List String) : Except Fault Tree :=
  match tree.target place parts with
  | .error fault => .error fault
  | .ok .itself => .error .alreadyExists
  | .ok (.entry entry) =>
      match tree.node? entry with
      | some _ => .error .alreadyExists
      | none => .ok (tree.put entry .directory)

/-- Puts a finished file in place of whatever file stands at a path. -/
def rename
    (tree : Tree)
    (text : String)
    (contents : List UInt8) : Except Fault Tree :=
  let path := Path.ofString text
  if holdsNul text then .error .invalidArgument
  else if text.isEmpty then .error .missing
  else if pathLimit ≤ text.utf8ByteSize then .error .nameTooLong
  else
    match tree.target (tree.start path) path.parts with
    | .error fault => .error fault
    | .ok .itself => .error .busy
    | .ok (.entry place) =>
        if path.trailingSlash then .error .notDirectory
        else
          match tree.node? place with
          | some .directory => .error .isDirectory
          | _ => .ok (tree.put place (.file contents))

/-- Puts a node below a place, and directories wherever one is missing on the
way. -/
def putBelow
    (tree : Tree)
    (place : List String)
    (node : Node) : List String -> Tree
  | [] => tree
  | [name] => tree.put (place ++ [name]) node
  | name :: rest =>
      let inner := place ++ [name]
      let grown :=
        if tree.node? inner = some .directory then tree
        else tree.put inner .directory
      putBelow grown inner node rest

/-- What the working directory holds, at any depth: the path of each entry
from there, and the contents of each file. -/
def listing (tree : Tree) : List (String × Option (List UInt8)) :=
  tree.nodes.filterMap fun (place, node) =>
    if tree.workingDirectory.isPrefixOf place &&
        place ≠ tree.workingDirectory then
      let path :=
        "/".intercalate (place.drop tree.workingDirectory.length)
      match node with
      | .file contents => some (path, some contents)
      | .directory => some (path ++ "/", none)
    else none

end Tree
end Storage
end FieldOcr
