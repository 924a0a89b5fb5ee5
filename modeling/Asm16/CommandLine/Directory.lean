import Asm16.Text.Quoted
import Asm16.Numeral.Digits

/-!
# Files

What the command sees of a file system: some files, some directories, the place of the working
directory among them, and the reasons for which a path leads to no readable file.

* `FileFailure` — a reason, with its number and its words.
* `ReadFailure` — why a program cannot be read: the file fails, the path is none, or the contents
  are no text.
* `Directory.locate` — follow a path, name by name.  Whatever is followed by another name has to be
  a directory, so a path breaks off at the first name that leads nowhere.
* `Directory.read`, `Directory.openLog` — a program file as text; a log file to be written.  The
  path of a log is made absolute and simplified before it is followed, the path of a program is not.
-/

namespace Asm16

/-- Why a path leads to no file. -/
inductive FileFailure
  | missing
  | notDirectory
  | isDirectory
  | nameTooLong
  deriving DecidableEq, Repr

namespace FileFailure

def number : FileFailure → Nat
  | .missing => 2
  | .notDirectory => 20
  | .isDirectory => 21
  | .nameTooLong => 36

def words : FileFailure → Text
  | .missing => text "No such file or directory"
  | .notDirectory => text "Not a directory"
  | .isDirectory => text "Is a directory"
  | .nameTooLong => text "File name too long"

end FileFailure

/-- The words for a file that could not be opened. -/
def fileMessage (number : Nat) (words path : Text) : Text :=
  text "[Errno " ++ decimal number ++ text "] " ++ words ++ text ": " ++ path.quoted

/-- Why a program cannot be read. -/
inductive ReadFailure
  /-- The file cannot be opened, for the reason given by number and words. -/
  | file (number : Nat) (words : Text)
  /-- The path holds a zero character, which no path may. -/
  | zeroInPath
  /-- The contents are not valid UTF-8. -/
  | notText
  deriving DecidableEq, Repr

/-- What the command sees of a file system.  A place is a list of names, counted from the root. -/
structure Directory where
  location : List Text := []
  files : List (List Text × ByteArray) := []
  directories : List (List Text) := []
  /-- Files that are always empty: what is written to them is lost. -/
  sinks : List (List Text) := []

namespace Directory

/-- The names in a path; empty ones say nothing. -/
def parts (path : Text) : List Text := (path.cut '/').filter fun p => !p.isEmpty

/-- The place that a list of names leads to by its words alone: the name `.` stays, and the name
`..` takes away the one before it. -/
def simplify (names : List Text) : List Text :=
  (names.foldl
    (fun stack p =>
      if p = ['.'] then stack else if p = text ".." then stack.drop 1 else p :: stack) []).reverse

def width (t : Text) : Nat := (String.ofList t).utf8ByteSize

def nameLimit : Nat := 255

def pathLimit : Nat := 4095

def isDirectory (d : Directory) (place : List Text) : Bool :=
  place.isPrefixOf d.location || d.directories.any (fun p => place.isPrefixOf p) ||
    d.files.any fun f => place.isPrefixOf f.1 && f.1 ≠ place

/-- The contents of the file at the given place. -/
def contents? (d : Directory) (place : List Text) : Option ByteArray :=
  if d.sinks.contains place then some .empty else d.files.lookup place

/-- Follow names from a place to where they lead. -/
def follow (d : Directory) (place : List Text) : List Text → Except FileFailure (List Text)
  | [] => .ok place
  | p :: rest =>
    if !d.isDirectory place then
      .error (if (d.contents? place).isSome then .notDirectory else .missing)
    else if p = ['.'] then d.follow place rest
    else if p = text ".." then d.follow place.dropLast rest
    else if nameLimit < width p then .error .nameTooLong
    else d.follow (place ++ [p]) rest

/-- Where a path starts: at the root if it begins with a slash, else in the working directory. -/
def origin (d : Directory) (path : Text) : List Text :=
  if Text.startsWith '/' path then [] else d.location

def locate (d : Directory) (path : Text) : Except FileFailure (List Text) := do
  if path.isEmpty then throw .missing
  else if pathLimit < width path then throw .nameTooLong
  else
    let place ← d.follow (d.origin path) (parts path)
    if Text.endsWith '/' path && (d.contents? place).isSome then throw .notDirectory
    else return place

def read (d : Directory) (path : Text) : Except ReadFailure Text :=
  if path.contains '\x00' then .error .zeroInPath
  else match d.locate path with
    | .error e => .error (.file e.number e.words)
    | .ok place =>
      match d.contents? place with
      | none =>
        let e : FileFailure := if d.isDirectory place then .isDirectory else .missing
        .error (.file e.number e.words)
      | some bytes =>
        match String.fromUTF8? bytes with
        | some s => .ok s.toList
        | none => .error .notText

/-! ## Log files -/

def logPlace (d : Directory) (path : Text) : List Text := simplify (d.origin path ++ parts path)

/-- Why a log file cannot be opened for writing, `none` if it can. -/
def openLog (d : Directory) (path : Text) : Option FileFailure :=
  let place := d.logPlace path
  if pathLimit < width (place.flatMap fun p => '/' :: p) then some .nameTooLong
  else match d.follow [] place with
    | .error e => some e
    | .ok place => if d.isDirectory place then some .isDirectory else none

/-- The directory once a log file is open: a new one is empty. -/
def create (d : Directory) (path : Text) : Directory :=
  let place := d.logPlace path
  if (d.contents? place).isSome then d else { d with files := d.files ++ [(place, .empty)] }

/-- What is written to a log file is lost. -/
def loses (d : Directory) (path : Text) : Bool := d.sinks.contains (d.logPlace path)

end Directory
end Asm16
