import ParcelPricing.Text.Bytes

/-! Files in memory and on a disk, by what reading a path gives. -/
namespace ParcelPricing

/-- Why a file could not be read as text. -/
inductive InputFault where
  | missing
  | directory
  | belowFile
  | longName
  | nullInName
  | notText
deriving DecidableEq

def InputFault.message : InputFault → String
  | missing => "No such file or directory (os error 2)"
  | directory => "Is a directory (os error 21)"
  | belowFile => "Not a directory (os error 20)"
  | longName => "File name too long (os error 36)"
  | nullInName => "file name contained an unexpected NUL byte"
  | notText => "stream did not contain valid UTF-8"

abbrev FileReader := String → Except InputFault ByteArray

/-- The text of a file, which must be UTF-8. A byte order mark belongs to the text. -/
def FileReader.text (read : FileReader) (path : String) : Except InputFault String := do
  match String.fromUTF8? (← read path) with
  | some text => return text
  | none => throw .notText

/-- The names on the way from the top to a file or a directory. Two points that lead out of the top
stay. -/
abbrev Place := List (List Char)

def upwards : List Char := ['.', '.']

/-- Files in memory, and the directories that are there besides the top. -/
structure Files where
  entries : List (Place × ByteArray)
  directories : List Place

namespace Files

/-- The top and what it lies in are directories too. -/
def isDirectory (files : Files) (place : Place) : Bool :=
  place.all (· = upwards) || files.directories.contains place

def content? (files : Files) (place : Place) : Option ByteArray := files.entries.lookup place

/-- One name further. -/
def enter (place : Place) (name : List Char) : Place :=
  if name = [] ∨ name = ['.'] then place
  else if name = upwards ∧ !place.all (· = upwards) then place.dropLast
  else place ++ [name]

/-- The bytes that one name may have, and those that a path may have with its end mark. -/
def mostNameBytes : Nat := 255

def mostPathBytes : Nat := 4096

/-- Goes on from a place, which must be a directory as long as names are left. -/
def walk (files : Files) (place : Place) : List (List Char) → Except InputFault Place
  | [] => .ok place
  | name :: rest =>
    if files.isDirectory place then
      if mostNameBytes < Text.byteCount name then .error .longName
      else walk files (enter place name) rest
    else if (files.content? place).isSome then .error .belowFile
    else .error .missing

/-- Reads a path from the top; the empty path is the top itself. What lies outside is not known, but
for the directories on the way up. -/
def read (files : Files) : FileReader := fun path => do
  if path.toList.contains '\x00' then throw .nullInName
  if mostPathBytes ≤ path.utf8ByteSize then throw .longName
  let start : Place := if path.toList.head? = some '/' then [upwards] else []
  let place ← files.walk start (path.toList.splitOn '/')
  match files.content? place with
  | some content => return content
  | none => throw (if files.isDirectory place then .directory else .missing)

def empty : Files := ⟨[], []⟩

/-- Makes the directories of a path, and gives its place. -/
def makeDirectories (files : Files) (place : Place) : List (List Char) → Files × Place
  | [] => (files, place)
  | name :: rest =>
    let place := enter place name
    makeDirectories { files with directories := place :: files.directories } place rest

/-- Writes a file over the one that was there. -/
def write (files : Files) (path : String) (content : ByteArray) : Files :=
  let names := path.toList.splitOn '/'
  let (files, place) := files.makeDirectories [] names.dropLast
  { files with entries := (enter place (names.getLast?.getD []), content) :: files.entries }

def ofList (files : List (String × ByteArray)) : Files :=
  files.foldl (fun files f => files.write f.1 f.2) empty

end Files

end ParcelPricing
