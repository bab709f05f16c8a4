import Lexing.Text.Numeral

/-!
# Files in a working directory

A working directory is given by the files in it, each with the path that leads to it. It
is a part of a file system of which little else is known: the directories above it and a
few devices. A path is looked up name by name, as a file system does it, and fails at the
first name that leads nowhere.

## Main definitions

* `FileError`: why a file cannot be read.
* `Directory`: the files of a working directory.
* `Directory.entries`: the known files of the whole file system.
* `Directory.read`: the bytes of the file at a path.
-/

namespace Lexing

/-- Why a file cannot be read. -/
inductive FileError where
  /-- There is nothing at the path. -/
  | notFound
  /-- What the path leads to has no bytes: it is a directory. -/
  | notMappable
  /-- The path goes on behind a file. -/
  | notDirectory
  /-- The path, or a name in it, is too long. -/
  | nameTooLong
  /-- Any other reason that the system gives, with its number. -/
  | other (reason : Text) (code : Nat)
  deriving DecidableEq, Repr

namespace FileError

/-- What the system calls the error. -/
def reason : FileError → Text
  | .notFound => "No such file or directory"
  | .notMappable => "No such device"
  | .notDirectory => "Not a directory"
  | .nameTooLong => "File name too long"
  | .other reason _ => reason

/-- The system's number of the error. -/
def code : FileError → Nat
  | .notFound => 2
  | .notMappable => 19
  | .notDirectory => 20
  | .nameTooLong => 36
  | .other _ code => code

/-- The wording of the error. -/
def message (error : FileError) : Text :=
  error.reason ++ (" (os error " : Text) ++ Text.numeral error.code ++ [')']

end FileError

/-- The names of a path, from the first to the last. Two slashes have an empty name
between them. -/
def pathNames (path : Text) : List Text :=
  path.foldr (fun c names =>
    match names with
    | [] => [[c]]
    | name :: rest => if c = '/' then [] :: name :: rest else (c :: name) :: rest) [[]]

/-- The files of a working directory. -/
structure Directory where
  /-- The path of each file from the directory, and its bytes. -/
  files : List (Text × List UInt8)

namespace Directory

/-- The number of bytes that a name may have. -/
def nameLimit : Nat := 255

/-- The number of bytes that a path may have. -/
def pathLimit : Nat := 4095

/-- Whether a name leads nowhere: it is empty or a single dot. -/
def isStay (name : Text) : Bool :=
  name == [] || name == ['.']

/-- The names that a path leads through. -/
def routeOf (path : Text) : List Text :=
  (pathNames path).filter (!isStay ·)

/-- The route from the root of the file system to the working directory, which lies among
the temporary files. Its name is not known: an empty one, which no path can spell, stands
for it. -/
def home : List Text :=
  [("tmp" : Text), []]

/-- The devices that can be counted on. As files they are empty. -/
def devices : List Text :=
  ["/dev/null", "/dev/zero", "/dev/full", "/dev/random", "/dev/urandom"]

/-- The known files: the route of each one from the root of the file system, and its
bytes. -/
def entries (directory : Directory) : List (List Text × List UInt8) :=
  devices.map (fun path => (routeOf path, [])) ++
    directory.files.map fun file => (home ++ routeOf file.1, file.2)

/-- The bytes of the file at the end of a route. A file written later replaces one
written before. -/
def fileAt? (directory : Directory) (route : List Text) : Option (List UInt8) :=
  (directory.entries.findRev? (·.1 == route)).map Prod.snd

/-- Whether a route leads to a directory: on the way to the working directory or to some
file. -/
def hasDirectory (directory : Directory) (route : List Text) : Bool :=
  route.isPrefixOf home || directory.entries.any (route.isPrefixOf ·.1)

/-- Follows names from the directory at the end of `route`. Two dots lead to the directory
above, and from the root to the root itself. -/
def follow (directory : Directory) (route : List Text) :
    List Text → Except FileError (List UInt8)
  | [] => .error .notMappable
  | name :: names =>
    if nameLimit < name.byteLength then .error .nameTooLong
    else if isStay name then directory.follow route names
    else if name = ['.', '.'] then directory.follow route.dropLast names
    else
      let reached := route ++ [name]
      match directory.fileAt? reached with
      | some bytes => if names = [] then .ok bytes else .error .notDirectory
      | none =>
        if directory.hasDirectory reached then directory.follow reached names
        else .error .notFound

/-- The bytes of the file at the path. A path that begins with a slash leads from the
root of the file system, any other one from the working directory. -/
def read (directory : Directory) (path : Text) : Except FileError (List UInt8) :=
  if path = [] then .error .notFound
  else if pathLimit < path.byteLength then .error .nameTooLong
  else if path.head? = some '/' then directory.follow [] (pathNames path)
  else directory.follow home (pathNames path)

end Directory

end Lexing
