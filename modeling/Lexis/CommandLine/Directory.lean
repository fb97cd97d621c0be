import Lexis.Text.Utf8
import Lexis.Fault

/-!
# Directory — finding a file by its path

A directory is a list of entries, each a file or a directory with its path from the one that holds
them all.  Paths of entries and paths to be read go the same way:

* a path is a sequence of segments between slashes;
* following it, an empty segment and a single dot stay where they are, two dots go up, and a name
  goes down to the entry of that name;
* every segment needs a directory to start from, so a file cannot be followed by anything, not even
  by a slash.

An entry brings with it the directories that its path passes, and takes the place of an earlier one
at the same place.  What lies outside the directory is not seen.
-/

namespace Lexis

namespace CommandLine

/-! ## Paths -/

/-- The parts of a path between its slashes; there is always one. -/
def segments : Text → List Text
  | [] => [[]]
  | c :: rest =>
    if c = '/' then
      [] :: segments rest
    else
      match segments rest with
      | [] => [[c]]
      | segment :: more => (c :: segment) :: more

/-- A place in a directory: the names that lead down to it. -/
abbrev Place := List Text

namespace Place

/-- The place that a segment leads to, unless that lies outside. -/
def step? (place : Place) (segment : Text) : Option Place :=
  if segment = [] ∨ segment = ['.'] then some place
  else if segment = ['.', '.'] then
    if place = [] then none else some place.dropLast
  else some (place ++ [segment])

/-- The place that segments lead to, unless they lead outside. -/
def reached? (place : Place) : List Text → Option Place
  | [] => some place
  | segment :: rest =>
    match place.step? segment with
    | none => none
    | some next => next.reached? rest

/-- The places that segments start from, in order, as far as they stay inside. -/
def passed (place : Place) : List Text → List Place
  | [] => []
  | segment :: rest =>
    match place.step? segment with
    | none => [place]
    | some next => place :: next.passed rest

/-- The place at the end of a path. -/
def ofPath? (path : Text) : Option Place :=
  reached? [] (segments path)

/-- The places that a path passes before its end; all of them have to be directories. -/
def passedBy (path : Text) : List Place :=
  passed [] (segments path)

end Place

/-! ## Entries -/

/-- What an entry of a directory is. -/
inductive Content where
  | file (bytes : Bytes)
  | directory
  deriving DecidableEq, Repr

/-- A directory: its entries, each with its path below it. -/
abbrev Directory := List (Text × Content)

namespace Directory

/-- The entry at a place, which is the last one whose path ends there. -/
def entry? (entries : Directory) (place : Place) : Option Content :=
  (entries.findRev? fun (path, _) => Place.ofPath? path == some place).map (·.2)

/-- Whether the place is the directory itself or one that the path of an entry passes. -/
def isPassed (entries : Directory) (place : Place) : Bool :=
  place == [] || entries.any fun (path, _) => (Place.passedBy path).contains place

/-- What stands at a place: its entry, or a directory on the way to another. -/
def at? (entries : Directory) (place : Place) : Option Content :=
  match entries.entry? place with
  | some content => some content
  | none => if entries.isPassed place then some .directory else none

/-- Why a path cannot be followed from a place, if it cannot. -/
def obstacle? (entries : Directory) (place : Place) : Option IoFault :=
  match entries.at? place with
  | none => some .notFound
  | some (.file _) => some .notADirectory
  | some .directory => none

/-! ## Reading -/

/-- The greatest number of bytes in a path. -/
def maxPathLength : Nat := 4095

/-- The bytes of the file at a place. -/
def readAt (entries : Directory) (place : Place) : Except IoFault Bytes :=
  match entries.at? place with
  | none => .error .notFound
  | some .directory => .error .isADirectory
  | some (.file bytes) => .ok bytes

/-- The bytes of the file at a path.  A path from the root of all directories leads outside. -/
def read (entries : Directory) (path : Text) : Except IoFault Bytes :=
  if maxPathLength < (Text.utf8 path).length then
    .error .pathTooLong
  else if path.head? = some '/' then
    .error .notFound
  else
    -- the first place on the way that is no directory is the obstacle
    match (Place.passedBy path).findSome? entries.obstacle? with
    | some cause => .error cause
    | none =>
      match Place.ofPath? path with
      | none => .error .notFound
      | some place => entries.readAt place

end Directory

end CommandLine

end Lexis
