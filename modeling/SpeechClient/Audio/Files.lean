import SpeechClient.Text.Bytes
import SpeechClient.Text.Pieces

/-!
# A tree of files

What a path leads to: the octets of a file, a directory, or a reason why it leads nowhere.  Paths
are octets, parted by slashes; they are followed from a working directory.
-/

namespace SpeechClient

inductive FileError where
  | notFound
  | notDirectory
  | isDirectory
  | nameTooLong
  | zeroInPath
  | notText
  | other (reason : String)
  deriving DecidableEq, Repr

def FileError.message : FileError → String
  | .notFound => "No such file or directory (os error 2)"
  | .notDirectory => "Not a directory (os error 20)"
  | .isDirectory => "Is a directory (os error 21)"
  | .nameTooLong => "File name too long (os error 36)"
  | .zeroInPath => "file name contained an unexpected NUL byte"
  | .notText => "stream did not contain valid UTF-8"
  | .other reason => reason

inductive FileNode where
  | file (content : Bytes)
  | directory
  deriving DecidableEq, Repr

namespace Path

def slash : UInt8 := 0x2f
def dot : UInt8 := 0x2e

def steps (path : Bytes) : List Bytes :=
  (pieces (· == slash) path).filter fun p => !p.isEmpty && p ≠ [dot]

def fileName? (path : Bytes) : Option Bytes :=
  match (steps path).getLast? with
  | some p => if p = [dot, dot] then none else some p
  | none => none

def extension? (path : Bytes) : Option Bytes := do
  let reversed := (← fileName? path).reverse
  let extension := reversed.takeWhile (· ≠ dot)
  let stem := (reversed.drop (extension.length + 1))
  if stem.isEmpty then none else some extension.reverse

end Path

/-- The files of a working directory, by path, and a look at any path from it. -/
structure FileTree where
  look : Bytes → Except FileError FileNode

namespace FileTree

def nameLimit : Nat := 255

def pathLimit : Nat := 4095

/-- What stands at a place of the tree, the place given as its steps from the working directory. -/
def nodeAt (nodes : List (List Bytes × FileNode)) (place : List Bytes) : Option FileNode :=
  if place.isEmpty then some .directory
  else
    match nodes.lookup place with
    | some node => some node
    | none =>
      if nodes.any fun (p, _) => place.isPrefixOf p && place ≠ p then some .directory else none

/-- The end of a walk of `steps` from a directory above the working directory.  The steps that name
nothing end in such a directory again; of the names up there none is known. -/
def walkAbove (steps : List Bytes) : Except FileError FileNode :=
  match steps.find? fun step => step ≠ [Path.dot] ∧ step ≠ [Path.dot, Path.dot] with
  | none => .ok .directory
  | some name => .error (if nameLimit < name.length then .nameTooLong else .notFound)

/-- The end of a walk of `steps` from the directory at `place`, which stands in reverse.  Two full
stops lead back, in the end out of the working directory. -/
def walk (nodes : List (List Bytes × FileNode)) (place : List Bytes) :
    List Bytes → Except FileError FileNode
  | [] =>
    match nodeAt nodes place.reverse with
    | some node => .ok node
    | none => .error .notFound
  | step :: rest =>
    match nodeAt nodes place.reverse with
    | none => .error .notFound
    | some (.file _) => .error .notDirectory
    | some .directory =>
      if nameLimit < step.length then .error .nameTooLong
      else if step = [Path.dot] then walk nodes place rest
      else if step = [Path.dot, Path.dot] then
        match place with
        | [] => walkAbove rest
        | _ :: up => walk nodes up rest
      else walk nodes (step :: place) rest

/-- The tree with these files and directories in the working directory.  A slash or a full stop at
the end of a path asks for a directory. -/
def ofNodes (nodes : List (Bytes × FileNode)) : FileTree where
  look path :=
    let nodes := nodes.map fun (p, node) => (Path.steps p, node)
    if path.contains 0 then .error .zeroInPath
    else if path.isEmpty then .error .notFound
    else if pathLimit < path.length then .error .nameTooLong
    else if path.head? = some Path.slash then walkAbove (Path.steps path)
    else
      let pieces := (pieces (· == Path.slash) path).filter fun p => !p.isEmpty
      let asked := if path.getLast? = some Path.slash then pieces ++ [[Path.dot]] else pieces
      walk nodes [] asked

end FileTree

end SpeechClient
