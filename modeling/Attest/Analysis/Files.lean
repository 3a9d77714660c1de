/-!
# Files

What reading a file may give, and a directory of files whose contents are kept.
-/

namespace Attest

inductive ReadError
  | notFound
  | isDirectory
  | notDirectory
  | nameTooLong
  | nulInName
  | notText
  | other (message : String)
  deriving DecidableEq, Repr

namespace ReadError

def message : ReadError → String
  | notFound => "No such file or directory (os error 2)"
  | isDirectory => "Is a directory (os error 21)"
  | notDirectory => "Not a directory (os error 20)"
  | nameTooLong => "File name too long (os error 36)"
  | nulInName => "file name contained an unexpected NUL byte"
  | notText => "stream did not contain valid UTF-8"
  | other message => message

/-- The text of some bytes, which must be UTF-8. -/
def decode (bytes : ByteArray) : Except ReadError String :=
  match String.fromUTF8? bytes with
  | some text => .ok text
  | none => .error .notText

end ReadError

abbrev Files := String → Except ReadError String

/-- A directory without subdirectories. Of two files of one name the first counts. -/
structure Directory where
  files : List (String × ByteArray) := []

namespace Directory

def write (d : Directory) (name : String) (bytes : ByteArray) : Directory :=
  ⟨(name, bytes) :: d.files⟩

/-- The parts of a path between slashes. -/
def splitPath (current : List Char) : List Char → List String
  | [] => [String.ofList current.reverse]
  | c :: rest =>
    if c = '/' then String.ofList current.reverse :: splitPath [] rest
    else splitPath (c :: current) rest

def read (d : Directory) : Files := fun path =>
  let parts := splitPath [] path.toList
  if path.toList.contains '\x00' then .error .nulInName
  else if path.isEmpty then .error .notFound
  else
    match parts.filter fun part => part != "" && part != "." with
    | [] | [".."] => .error .isDirectory
    | name :: deeper =>
      if 255 < name.utf8ByteSize || 4096 ≤ path.utf8ByteSize then .error .nameTooLong
      else
        match d.files.lookup name with
        | none => .error .notFound
        | some bytes =>
          if deeper.isEmpty && parts.getLast? == some name then ReadError.decode bytes
          else .error .notDirectory

end Directory

end Attest
