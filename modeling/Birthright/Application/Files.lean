import Birthright.Table

/-!
# Files

What a path leads to among files whose texts are known. A path is a list of names with slashes
between them. It begins in the current folder, or outside of all folders if it begins with a slash.
An empty name and a single point stay in a folder, and two points leave it. Only a folder can be
followed by anything, be it an empty name.
-/

namespace Birthright

/-- Why there is no text at the end of a path. -/
inductive FileFailure where
  | missing
  | notFolder
  | isFolder
  | nameTooLong
  deriving DecidableEq, Repr

/-- What is said about a path. -/
def FileFailure.message : FileFailure → String
  | .missing => "No such file or directory (os error 2)"
  | .notFolder => "Not a directory (os error 20)"
  | .isFolder => "Is a directory (os error 21)"
  | .nameTooLong => "File name too long (os error 36)"

/-- The names of the folders that something is in, the outermost first, and its own name. -/
abbrev Place : Type := List String

/-- Files in folders. Every file is in folders, and there may be more folders. -/
structure Files where
  texts : Table Place String
  folders : List Place
  /-- The current folder. -/
  here : Place

namespace Files

/-- Whether there is a folder at a place. -/
def hasFolder (f : Files) (p : Place) : Bool :=
  (f.here :: f.folders).any (p.isPrefixOf ·)
    || f.texts.any fun entry => p.isPrefixOf entry.1.dropLast

/-- The greatest number of bytes in a name, and in a path. -/
def greatestSizes : Nat × Nat := (255, 4095)

/-- Follows one name of a path. -/
def follow (f : Files) (p : Place) (name : String) : Except FileFailure Place :=
  if !f.hasFolder p then .error .notFolder
  else if name = "" ∨ name = "." then .ok p
  else if name = ".." then .ok p.dropLast
  else if greatestSizes.1 < name.utf8ByteSize then .error .nameTooLong
  else
    let next := p ++ [name]
    if f.hasFolder next || (f.texts.get? next).isSome then .ok next else .error .missing

/-- The text of the file that a path leads to. -/
def read (f : Files) (path : String) : Except FileFailure String := do
  if path = "" then throw .missing
  if greatestSizes.2 < path.utf8ByteSize then throw .nameTooLong
  let names := (path.toList.splitOn '/').map String.ofList
  let place ← names.foldlM f.follow (if names.head? = some "" then [] else f.here)
  if f.hasFolder place then throw .isFolder
  match f.texts.get? place with
  | some text => return text
  | none => throw .missing

example :
    let f : Files := ⟨[(["tmp", "a"], "text")], [], ["tmp"]⟩
    ["a", "/tmp//./a", "a/", "a/b", "b/c", "."].map (f.read · |>.toOption)
      = [some "text", some "text", none, none, none, none] := by decide +kernel

end Files

end Birthright
