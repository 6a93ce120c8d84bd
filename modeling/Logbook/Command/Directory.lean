import Logbook.Command.Run
import Logbook.Text.Lines

/-!
# Commands on files in memory

The files of a directory as a value: a command can run on it, and the files after it can be looked
at.

* `pathSteps`, `Directory.follow`: the steps of a path, and where they lead;
* `Directory.text?`, `Directory.write?`: the text of a file, and another text for it;
* **`Directory.run`**: the reply to a request, and the files after it.
-/

namespace Logbook.Command

/-- The steps of a path from a directory; slashes one behind the other count as one. -/
def pathSteps (path : String) : List String :=
  ((Text.pieces '/' path.toList).map String.ofList).filter (· ≠ "")

/-- Whether a path can only lead to a directory. -/
def endsInSlash (path : String) : Bool := path.toList.getLast? = some '/'

/-- The texts of files by their places, each the names on the way to it from the directory; a later
text of one file comes first. -/
structure Directory where
  files : List (List String × String) := []

namespace Directory

/-- The files with these paths. -/
def ofFiles (files : List (String × String)) : Directory :=
  ⟨files.map fun f => ((pathSteps f.1).filter (· ≠ "."), f.2)⟩

/-- Whether a place is the directory itself or has files below it. -/
def isFolder (d : Directory) (place : List String) : Bool :=
  place.isEmpty || d.files.any fun f => place.isPrefixOf f.1 && place.length < f.1.length

/-- Why nothing is found at a place: a part of it is a file, or there is no such part. -/
def missing (d : Directory) (place : List String) : FileError :=
  if d.files.any fun f => f.1.isPrefixOf place then .notDirectory else .notFound

/-- The place to which steps lead from another place. Each step starts at a folder; one dot stays
there and two dots go back. -/
def follow (d : Directory) : List String → List String → Except FileError (List String)
  | place, [] => .ok place
  | place, step :: steps =>
    if d.isFolder place then
      if step = "." then d.follow place steps
      else if step = ".." then d.follow place.dropLast steps
      else d.follow (place ++ [step]) steps
    else .error (d.missing place)

/-- The text of a file. -/
def text? (d : Directory) (path : String) : Except FileError String := do
  let place ← d.follow [] (pathSteps path)
  match d.files.lookup place with
  | some text => if endsInSlash path then .error .notDirectory else .ok text
  | none => .error (if d.isFolder place then .isDirectory else .notFound)

/-- The files after a text was written to one of them. -/
def write? (d : Directory) (path text : String) : Except FileError Directory := do
  let place ← d.follow [] (pathSteps path)
  if d.isFolder place then .error .isDirectory
  else if endsInSlash path then
    .error (if (d.files.lookup place).isSome then .notDirectory else .isDirectory)
  else .ok ⟨(place, text) :: d.files⟩

/-- **The reply to a request**, and the files after it. -/
def run (d : Directory) (r : Request) (input : String) : Reply × Directory :=
  let reply := r.run { file := d.text?, input := .ok input } .pipe
  match reply.output with
  | none => (reply, d)
  | some (path, text) =>
    match d.write? path text with
    | .ok d => (reply, d)
    | .error e => (reply.failOutput path e, d)

end Directory

end Logbook.Command
