import HttpScenario.CommandLine.Perform
import HttpScenario.Table
/-!
# A directory of files

A directory in memory, in which commands can be carried out without any other effect.  It holds the
texts of files by their paths from the directory on; what stands before a slash in such a path is a
directory inside it.  Paths are followed part by part, and what the system would say against one is
said here too.  Nothing outside the directory can be read.
-/

namespace HttpScenario.CommandLine

/-- Texts of files by their paths. -/
structure Directory where
  files : Table String := []
  deriving DecidableEq, Repr, Inhabited

/-- What can be wrong with a path. -/
inductive PathFault where
  | missing
  | notADirectory
  | isADirectory
  | nameTooLong
  | hasNul
  deriving DecidableEq, Repr

/-- What the system says. -/
def PathFault.message : PathFault → String
  | .missing => "No such file or directory (os error 2)"
  | .notADirectory => "Not a directory (os error 20)"
  | .isADirectory => "Is a directory (os error 21)"
  | .nameTooLong => "File name too long (os error 36)"
  | .hasNul => "file name contained an unexpected NUL byte"

/-- What stands at some place. -/
inductive Place where
  | directory
  | file (text : String)
  | nothing
  /-- A directory outside. -/
  | outside
  deriving DecidableEq, Repr

/-- The greatest length of a path and of a name in it, in octets. -/
def maxPathLength : Nat := 4095

/-- The greatest length of a name, in octets. -/
def maxNameLength : Nat := 255

namespace Directory

/-- The path that some names make. -/
def pathOf (names : List String) : String :=
  "/".intercalate names

/-- Whether some names start the path of a file. -/
def hasBelow (directory : Directory) (names : List String) : Bool :=
  directory.files.any fun (path, _) =>
    (Text.strip? (pathOf names ++ "/").toList path.toList).isSome

/-- What stands at the end of some names; `none` is a place outside. -/
def placeOf (directory : Directory) : (names : Option (List String)) → Place
  | none => .outside
  | some [] => .directory
  | some names =>
    match Table.find? (pathOf names) directory.files with
    | some text => .file text
    | none => if directory.hasBelow names then .directory else .nothing

/-- Goes one part of a path further. -/
def step (directory : Directory) (names : Option (List String)) (part : String) :
    Except PathFault (Option (List String)) :=
  match directory.placeOf names with
  | .nothing => .error .missing
  | .file _ => .error .notADirectory
  | .outside => if part = "" ∨ part = "." ∨ part = ".." then .ok none else .error .missing
  | .directory =>
    if part = "" ∨ part = "." then .ok names
    else if maxNameLength < part.utf8ByteSize then .error .nameTooLong
    else match names with
      | none => .ok none
      | some names =>
        if part = ".." then .ok (if names.isEmpty then none else some names.dropLast)
        else .ok (some (names ++ [part]))

/-- Follows some parts of a path. -/
def walk (directory : Directory) (names : Option (List String)) :
    List String → Except PathFault (Option (List String))
  | [] => .ok names
  | part :: parts => do
    let next ← directory.step names part
    directory.walk next parts

/-- The parts of a path, and where it starts. -/
def partsOf (path : String) : Except PathFault (Option (List String) × List String) :=
  let parts := (Text.pieces '/' path.toList).map String.ofList
  if path.toList.contains '\x00' then .error .hasNul
  else if path.isEmpty then .error .missing
  else if maxPathLength < path.utf8ByteSize then .error .nameTooLong
  else .ok (if path.toList.head? = some '/' then none else some [], parts)

/-- What stands at a path. -/
def look (directory : Directory) (path : String) : Except PathFault Place := do
  let (start, parts) ← partsOf path
  let names ← directory.walk start parts
  .ok (directory.placeOf names)

/-- The text of a file. -/
def read (directory : Directory) (path : String) : Except PathFault String := do
  match ← directory.look path with
  | .file text => .ok text
  | .directory => .error .isADirectory
  | .outside => .error .isADirectory
  | .nothing => .error .missing

/-- Whether there is something at a path. -/
def isThere (directory : Directory) (path : String) : Bool :=
  match directory.look path with
  | .ok .nothing => false
  | .ok _ => true
  | .error _ => false

/-- Saves a text in a file, a new one if there is none.  A slash at the end of the path asks for a
directory, whatever may be there. -/
def save (directory : Directory) (path text : String) : Except PathFault Directory := do
  let (start, parts) ← partsOf path
  let named := (parts.reverse.dropWhile (·.isEmpty)).reverse
  let parent ← directory.walk start named.dropLast
  let names ← directory.step parent (named.getLast?.getD "")
  if named.length < parts.length then .error .isADirectory
  else match names, directory.placeOf names with
    | some names, .file _ => .ok ⟨Table.insert (pathOf names) text directory.files⟩
    | some names, .nothing => .ok ⟨Table.insert (pathOf names) text directory.files⟩
    | _, _ => .error .isADirectory

/-- What a command sees in a directory. -/
def surroundings (directory : Directory) (configPath : Option String) (colors : Bool)
    (clock : Nat → Int64) (network : Network := .absent) : Surroundings :=
  { read := fun path => (directory.read path).mapError PathFault.message
    isThere := directory.isThere
    network := network
    configPath := configPath
    colors := colors
    clock := clock }

/-- Carries out what a response asks for. -/
def settle (directory : Directory) (response : Response) : Response × Directory :=
  match response.save with
  | none => (response, directory)
  | some (path, text) =>
    match directory.save path text with
    | .ok saved => (response.afterSaving (.ok ()), saved)
    | .error fault => (response.afterSaving (.error fault.message), directory)

end Directory

end HttpScenario.CommandLine
