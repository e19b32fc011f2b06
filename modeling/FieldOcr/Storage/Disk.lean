import FieldOcr.Storage.Tree

/-!
# Disks

A *disk* carries out the steps that change a tree.  A step may fail for
reasons that do not show in the tree, such as a lack of rights or of space.  A
file is replaced by way of a temporary one: the directories that hold it are
created, the contents are written to a temporary file next to it, and this is
renamed.  After any fault the temporary file is discarded.
-/

namespace FieldOcr
namespace Storage

/-- How the steps that change a tree are carried out. -/
class Disk where
  /-- Creates one directory. -/
  createDirectory : Tree -> List String -> List String -> Except Fault Tree
  /-- Creates an empty temporary file in a directory and tells its place. -/
  createTemporary : Tree -> List String -> Except Fault (List String × Tree)
  /-- Writes contents to a temporary file; a part of them may be written in
  front of a fault. -/
  write : Tree -> List String -> List UInt8 -> Tree × Except Fault Unit
  /-- Makes sure that what was written to a temporary file lasts. -/
  synchronize : Tree -> List String -> Except Fault Unit
  /-- Renames a temporary file to a path. -/
  persist : Tree -> List String -> String -> Except Fault Tree
  /-- Discards a temporary file. -/
  discard : Tree -> List String -> Tree

namespace Disk

/-- Creates a directory and those that hold it, given its parts from the last
to the first.  A directory that exists already is no fault. -/
def createDirectories
    (disk : Disk)
    (tree : Tree)
    (place : List String) : List String -> Tree × Except Fault Unit
  | [] => (tree, .ok ())
  | last :: before =>
      let parts := (last :: before).reverse
      match disk.createDirectory tree place parts with
      | .ok created => (created, .ok ())
      | .error .missing =>
          match createDirectories disk tree place before with
          | (prepared, .error fault) => (prepared, .error fault)
          | (prepared, .ok ()) =>
              match disk.createDirectory prepared place parts with
              | .ok created => (created, .ok ())
              | .error fault =>
                  if prepared.isDirectory place parts then (prepared, .ok ())
                  else (prepared, .error fault)
      | .error fault =>
          if tree.isDirectory place parts then (tree, .ok ())
          else (tree, .error fault)

/-- Fills a temporary file and renames it to a path, or discards it. -/
def finish
    (disk : Disk)
    (tree : Tree)
    (temporary : List String)
    (text : String)
    (contents : List UInt8) : Tree × Except Fault Unit :=
  match disk.write tree temporary contents with
  | (written, .error fault) => (disk.discard written temporary, .error fault)
  | (written, .ok ()) =>
      match disk.synchronize written temporary with
      | .error fault => (disk.discard written temporary, .error fault)
      | .ok () =>
          match disk.persist written temporary text with
          | .error fault => (disk.discard written temporary, .error fault)
          | .ok replaced => (replaced, .ok ())

/-- Replaces the file at a path by way of a temporary file in a directory. -/
def replaceWithin
    (disk : Disk)
    (tree : Tree)
    (directory : List String)
    (text : String)
    (contents : List UInt8) : Tree × Except Fault Unit :=
  match disk.createTemporary tree directory with
  | .error fault => (tree, .error fault)
  | .ok (temporary, created) => disk.finish created temporary text contents

/-- Replaces the file at a path, after creating the directories that hold
it. -/
def replace
    (disk : Disk)
    (tree : Tree)
    (text : String)
    (contents : List UInt8) : Tree × Except Fault Unit :=
  let path := Path.ofString text
  let holder := path.names.dropLast
  if holder.any holdsNul then (tree, .error .nulInName)
  else if pathLimit ≤ ("/".intercalate holder).utf8ByteSize then
    (tree, .error .nameTooLong)
  else
    match disk.createDirectories tree (tree.start path) holder.reverse with
    | (prepared, .error fault) => (prepared, .error fault)
    | (prepared, .ok ()) =>
        match prepared.walk (prepared.start path) holder with
        | .error fault => (prepared, .error fault)
        | .ok directory =>
            disk.replaceWithin prepared directory text contents

/-! ## The disk without faults -/

/-- A name that is longer than all names in a tree, as it holds them all. -/
def freshName (tree : Tree) : String :=
  let names := tree.nodes.flatMap (·.1)
  String.ofList ('.' :: names.flatMap String.toList)

/-- Renames the temporary file at a place to a path. -/
def renameFrom
    (tree : Tree)
    (temporary : List String)
    (text : String) : Except Fault Tree :=
  match tree.node? temporary with
  | some (.file contents) => (tree.remove temporary).rename text contents
  | some .directory => .error .isDirectory
  | none => .error .missing

/-- The disk whose only faults are those that show in the tree.  It is used
unless another one is given. -/
instance ordinary : Disk where
  createDirectory := Tree.createDirectory
  createTemporary tree directory :=
    let place := directory ++ [freshName tree]
    .ok (place, tree.put place (.file []))
  write tree temporary contents :=
    (tree.put temporary (.file contents), .ok ())
  synchronize _ _ := .ok ()
  persist := renameFrom
  discard := Tree.remove

end Disk
end Storage
end FieldOcr
