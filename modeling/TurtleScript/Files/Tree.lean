import TurtleScript.Files.Opening

/-!
# A tree of files

A small file system: files in directories below a root, which is the current directory. A path is
walked part by part. An empty part or a single dot stays where it is, two dots go back to the
directory above, and any other part goes down; each of them needs a directory to start from. Above
the root there is nothing to be seen: going up from it leads to a place without entries, from where
no part leads back.
-/

namespace TurtleScript

/-- A file or a directory. -/
inductive FileTree where
  /-- A file with its bytes. -/
  | file (bytes : Bytes)
  /-- A directory with its entries. Of two entries with one name the first counts. -/
  | directory (entries : List (Bytes × FileTree))

namespace FileTree

/-- A directory without entries. -/
def empty : FileTree := directory []

/-- What a node shows when it is opened. -/
def content : FileTree → Content
  | file bytes => .file bytes
  | directory _ => .directory

/-- The entry of a name. -/
def child? (name : Bytes) : List (Bytes × FileTree) → Option FileTree
  | [] => none
  | e :: entries => if e.1 = name then some e.2 else child? name entries

/-- The parts of a path, cut at every slash. -/
def parts (path : Bytes) : List Bytes :=
  path.foldr
    (fun b parts ↦
      if b = 0x2F then [] :: parts
      else
        match parts with
        | [] => [[b]]
        | part :: parts => (b :: part) :: parts)
    [[]]

/-- Put a node under a name, instead of the one that has it. -/
def putEntry (name : Bytes) (node : FileTree) (entries : List (Bytes × FileTree)) :
    List (Bytes × FileTree) :=
  (name, node) :: entries.filter fun e ↦ e.1 ≠ name

/-- Change what stands at the end of a row of names, with the directories that lead to it. -/
def alter (change : Option FileTree → FileTree) : List Bytes → Option FileTree → FileTree
  | [], node => change node
  | name :: names, node =>
    let entries :=
      match node with
      | some (directory entries) => entries
      | _ => []
    directory (putEntry name (alter change names (child? name entries)) entries)

/-- The names that lead to a path, without the parts that lead nowhere. -/
def names (path : Bytes) : List Bytes := (parts path).filter fun part ↦ part ≠ [] && part ≠ [0x2E]

/-- Add a file, instead of what is there. -/
def addFile (tree : FileTree) (path bytes : Bytes) : FileTree :=
  alter (fun _ ↦ file bytes) (names path) (some tree)

/-- Add a directory, if there is none yet. -/
def addDirectory (tree : FileTree) (path : Bytes) : FileTree :=
  alter
    (fun
      | some (directory entries) => directory entries
      | _ => empty)
    (names path) (some tree)

/-- The longest part that a directory can have an entry for. -/
def longestName : Nat := 255

/-- The longest path. -/
def longestPath : Nat := 4095

/-- Walk on from a node, with the directories that it lies in. -/
def walk : List FileTree → FileTree → List Bytes → Except OpenFailure FileTree
  | _, node, [] => .ok node
  | _, file _, _ :: _ => .error .notADirectory
  | above, directory entries, part :: parts =>
    if part = [] || part = [0x2E] then walk above (directory entries) parts
    else if part = [0x2E, 0x2E] then
      match above with
      | [] => walk [] empty parts
      | node :: above => walk above node parts
    else if longestName < part.length then .error .nameTooLong
    else
      match child? part entries with
      | none => .error .notFound
      | some node => walk (directory entries :: above) node parts

/-- Open a path from the root of a tree. -/
def openPath (tree : FileTree) : Files := fun path ↦
  if path.contains 0 then .error .zeroByte
  else if path = [] then .error .notFound
  else if longestPath < path.length then .error .nameTooLong
  else (walk [] tree (parts path)).map content

end FileTree

end TurtleScript
