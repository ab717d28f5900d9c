import Conformance.CommandLine.Run

namespace Conformance
namespace CommandLine

/-!
# Directories in memory

A directory in memory stands in for the files of a system, so that commands can be
run as pure functions.  Paths are relative to the directory, and the names of its files
are texts.  A file can be written only where its own directory is there.
-/

/-- Files under their paths. -/
structure Directory where
  files : List (String × String)
deriving DecidableEq, Repr

namespace Directory

/-- The steps that lead to a file of the directory. -/
def stepsOf (file : String × String) : List SystemText := Path.parts file.1

/-- Whether steps lead to the directory or to a folder that holds a file. -/
def hasFolder (directory : Directory) (steps : List SystemText) : Bool :=
  steps.isEmpty || directory.files.any fun file =>
    steps.length < (stepsOf file).length && steps.isPrefixOf (stepsOf file)

/-- Takes one part of a path.  Only a folder can be left behind, and the directory
itself is never left. -/
def step? (directory : Directory) (taken : List SystemText) (part : SystemText) :
    Option (List SystemText) :=
  if !directory.hasFolder taken then none
  else if part.isEmpty || part == ("." : SystemText) then some taken
  else if part == (".." : SystemText) then if taken.isEmpty then none else some taken.dropLast
  else some (taken ++ [part])

/-- The steps that a path stands for, if it stays below the directory.  A path that
begins with a slash does not. -/
def steps? (directory : Directory) (path : SystemText) : Option (List SystemText) :=
  match Path.partsFrom [] path.units with
  | ⟨[]⟩ :: _ => none
  | parts => parts.foldlM directory.step? []

/-- The text of a file. -/
def read? (directory : Directory) (path : SystemText) : Option String := do
  let steps ← directory.steps? path
  (directory.files.find? fun file => stepsOf file == steps).map Prod.snd

/-- The directory with a file written, if that is possible. -/
def write? (directory : Directory) (path : SystemText) (text : String) : Option Directory := do
  let steps ← directory.steps? path
  if directory.hasFolder steps || !directory.hasFolder steps.dropLast then none
  else
    let others := directory.files.filter fun file => stepsOf file != steps
    let names ← steps.mapM SystemText.toString?
    some ⟨others ++ [("/".intercalate names, text)]⟩

/-- Access to the files of a directory in memory. -/
def access : FileAccess (StateM Directory) where
  read path := return (← get).read? path
  write path text := do
    match (← get).write? path text with
    | some directory =>
        set directory
        return true
    | none => return false

end Directory
end CommandLine
end Conformance
