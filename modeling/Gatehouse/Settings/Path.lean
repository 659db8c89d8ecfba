import Gatehouse.Text.Split
import Gatehouse.Text.Utf8

/- Paths of files, and the directory in which the program runs. A path is kept without empty parts and without
   parts that stay where they are. Of what lies outside the directory only the way up is known. -/
namespace Gatehouse

structure Path where
  root : String
  parts : List String
deriving DecidableEq

namespace Path

-- Two slashes at the start are kept, any other number is one.
def rootOf (text : List Char) : String :=
  match (text.takeWhile (· == '/')).length with
  | 0 => ""
  | 2 => "//"
  | _ => "/"

def ofText (text : String) : Path :=
  let parts := (Text.split '/' text.toList).map String.ofList
  ⟨rootOf text.toList, parts.filter fun part => part != "" && part != "."⟩

def text (path : Path) : String :=
  if path.root == "" && path.parts.isEmpty then "." else path.root ++ String.intercalate "/" path.parts

end Path

-- The files of a directory, each under its path, with the folders that may not be entered and the files that may not
-- be opened.
structure Directory where
  files : List (String × ByteArray)
  closed : List Path

inductive Lookup where
  | present
  | absent
  | nameTooLong
  | refused
deriving DecidableEq

namespace Directory

def content? (directory : Directory) (name : String) : Option ByteArray :=
  (directory.files.reverse.find? fun file => file.1 == name).map Prod.snd

def hasFile (directory : Directory) (place : List String) : Bool :=
  directory.files.any fun file => (Path.ofText file.1).parts == place

def hasFolder (directory : Directory) (place : List String) : Bool :=
  place.isEmpty || directory.files.any fun file =>
    let parts := (Path.ofText file.1).parts
    place.isPrefixOf parts && place != parts

def nameLimit : Nat := 255

def pathLimit : Nat := 4095

def isTooLong (name : String) : Bool := nameLimit < (Utf8.encode name).size

-- Follows the parts of a path from a place below the directory, or from outside.
def follow (directory : Directory) : Option (List String) → List String → Lookup
  | _, [] => .present
  | none, ".." :: rest => follow directory none rest
  | none, name :: _ => if isTooLong name then .nameTooLong else .absent
  | some place, name :: rest =>
    if directory.closed.contains ⟨"", place⟩ then .refused
    else if name == ".." then follow directory (if place.isEmpty then none else some place.dropLast) rest
    else if isTooLong name then .nameTooLong
    else
      let next := place ++ [name]
      if directory.hasFolder next then follow directory (some next) rest
      else if directory.hasFile next && rest.isEmpty then .present
      else .absent

-- A path from the root that leads through a closed folder.
def isBarred (directory : Directory) (path : Path) : Bool :=
  path.root != "" && directory.closed.any fun folder =>
    folder.root == path.root && folder.parts.isPrefixOf path.parts && folder.parts != path.parts

def lookup (directory : Directory) (path : Path) : Lookup :=
  if path.text.toList.contains (Char.ofNat 0) then .absent
  else if pathLimit < (Utf8.encode path.text).size then .nameTooLong
  else if directory.isBarred path then .refused
  else match directory.follow (if path.root == "" then some [] else none) path.parts with
    | .absent => if directory.files.any fun file => Path.ofText file.1 == path then .present else .absent
    | found => found

-- A file of the directory cannot be opened, or not even be looked for.
def isSealed (directory : Directory) (name : String) : Bool :=
  directory.closed.contains ⟨"", []⟩ ||
    ((directory.content? name).isSome && directory.closed.contains (Path.ofText name))

end Directory
end Gatehouse
