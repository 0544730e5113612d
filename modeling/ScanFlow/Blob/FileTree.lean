import ScanFlow.Text.Cut

/-!
Trees of files, directories and symbolic links, and how a path is resolved in one.

A path is taken part by part from a directory. An empty part and a single dot stay there,
two dots go up, and a link is replaced by its target, up to a number of links. What is
found is named by its location, the names from the root down to it, so that two paths lead
to the same place exactly when their locations are equal. Everything in a tree may be read;
permissions are no part of it.
-/

namespace ScanFlow

/-- A file, a directory or a symbolic link. -/
inductive FileTree where
  | file
  | directory (entries : List (String × FileTree))
  | link (target : String)

/-- Why a path leads nowhere. -/
inductive PathFault where
  | missing
  | notDirectory
  | tooManyLinks
  deriving DecidableEq, Repr

def PathFault.message : PathFault → String
  | missing => "No such file or directory (os error 2)"
  | notDirectory => "Not a directory (os error 20)"
  | tooManyLinks => "Too many levels of symbolic links (os error 40)"

namespace FileTree

/-- The entry of a name in a directory. -/
def entry? (name : String) : FileTree → Option FileTree
  | directory entries => entries.lookup name
  | _ => none

/-- What stands at a location, with no link followed. -/
def at? (tree : FileTree) : List String → Option FileTree
  | [] => some tree
  | name :: rest => (tree.entry? name).bind fun next => next.at? rest

def isDirectory : FileTree → Bool
  | directory _ => true
  | _ => false

/-- The greatest number of links that a path may go through. -/
def maxLinks : Nat := 40

/-- The greatest length of a path in bytes. -/
def maxPathBytes : Nat := 4095

/-- Whether a path starts at the root. -/
def isAbsolute (path : String) : Bool := path.startsWith "/"

/-- The location to which parts lead from a location, with at most so many links. -/
def follow (root : FileTree) (links : Nat) (here : List String) (parts : List String) :
    Except PathFault (List String) :=
  match parts with
  | [] => .ok here
  | part :: rest =>
    if !(root.at? here).any isDirectory then .error .notDirectory
    else if part = "" || part = "." then follow root links here rest
    else if part = ".." then follow root links here.dropLast rest
    else
      match root.at? (here ++ [part]) with
      | none => .error .missing
      | some (link target) =>
        match links with
        | 0 => .error .tooManyLinks
        | links + 1 =>
          follow root links (if isAbsolute target then [] else here)
            (Text.parts '/' target ++ rest)
      | some _ => follow root links (here ++ [part]) rest
termination_by (links, parts.length)

/-- Where a path starts: at the root if nothing stands before its first slash. -/
def origin (here path : List String) : List String :=
  if path.head? = some "" then [] else here

/-- The location of a path that is taken from a location, by the parts of the path. The path
without any character leads nowhere. -/
def resolve (root : FileTree) (here path : List String) : Except PathFault (List String) :=
  if path = [] ∨ path = [""] then .error .missing
  else follow root maxLinks (origin here path) path

/-- Puts something at the end of a path of names, making the directories on the way. -/
def put (tree : FileTree) (names : List String) (leaf : FileTree) : FileTree :=
  match names with
  | [] => leaf
  | name :: rest =>
    let entries := match tree with
      | directory entries => entries
      | _ => []
    let below := (entries.lookup name).getD (directory [])
    directory (entries.filter (fun entry => entry.1 ≠ name) ++ [(name, below.put rest leaf)])

end FileTree

end ScanFlow
