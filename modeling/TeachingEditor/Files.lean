import TeachingEditor.Text.Utf8

/-!
# Files

**Input.**  The files of a working directory, by their paths from it, and the path
of a file to be read.

**Algorithm.**  A path is followed from one part to the next.  Empty parts and
single dots stay where they are, except that nothing lies inside a file.  Outside
the working directory only the few directories are known that every system has,
and the one file that is always empty.

**Results.**  `read` gives the bytes of a file or the reason why there are none,
`readText` the text that they write, and `finds` whether the path leads somewhere.
-/

namespace TeachingEditor

/-- Why a file cannot be read as text. -/
inductive FileError where
  | notFound
  | notADirectory
  | isADirectory
  | notUtf8
  | nulInName
  /-- The path leads nowhere for another reason, in the words of the system. -/
  | unreachable (message : Text)
  /-- Something is there that cannot be read for another reason, in the words of the system. -/
  | other (message : Text)
  deriving DecidableEq, Repr

/-- The wording of a reason. -/
def FileError.message : FileError → Text
  | notFound => "No such file or directory (os error 2)".toList
  | notADirectory => "Not a directory (os error 20)".toList
  | isADirectory => "Is a directory (os error 21)".toList
  | notUtf8 => "stream did not contain valid UTF-8".toList
  | nulInName => "file name contained an unexpected NUL byte".toList
  | unreachable message => message
  | other message => message

/-- What reading the file at a path gives. -/
abbrev FileReader := Text → Except FileError (List UInt8)

namespace FileReader

/-- Whether something is at a path, be it a directory or a file that cannot be read. -/
def finds (read : FileReader) (path : Text) : Bool :=
  match read path with
  | .ok _ => true
  | .error .isADirectory => true
  | .error (.other _) => true
  | .error _ => false

/-- The text of the file at a path. -/
def readText (read : FileReader) (path : Text) : Except FileError Text := do
  let bytes ← read path
  match Utf8.decode bytes with
  | .ok t => return t
  | .error _ => .error .notUtf8

end FileReader

/-- The parts of a path, which slashes separate. -/
def pathParts : Text → List Text
  | [] => [[]]
  | c :: rest =>
      match pathParts rest with
      | [] => [[c]]
      | part :: parts => if c = '/' then [] :: part :: parts else (c :: part) :: parts

/-- The files of a working directory: their paths from it and their bytes. -/
abbrev Directory := List (List Text × List UInt8)

/-- Where a path leads. -/
inductive Place where
  /-- A directory inside the working directory, by its path from it. -/
  | inside (path : List Text)
  /-- A directory around the working directory, of which nothing else is known. -/
  | above
  /-- The root of the file system. -/
  | root
  /-- A directory in the root, by its name. -/
  | system (name : Text)
  | file (bytes : List UInt8)

namespace Directory

/-- The directory of files whose names may hold slashes. -/
def ofFiles (files : List (Text × List UInt8)) : Directory :=
  files.map fun (name, bytes) => (pathParts name, bytes)

/-- The directories in the root of every system. -/
def systemDirectories : List Text :=
  ["bin".toList, "boot".toList, "dev".toList, "etc".toList, "home".toList, "lib".toList,
    "media".toList, "mnt".toList, "opt".toList, "proc".toList, "root".toList, "run".toList,
    "sbin".toList, "srv".toList, "sys".toList, "tmp".toList, "usr".toList, "var".toList]

/-- Enter a part that is neither empty nor made of dots alone. -/
def enter (d : Directory) (part : Text) : Place → Except FileError Place
  | .file _ => .error .notADirectory
  | .inside path =>
      match d.lookup (path ++ [part]) with
      | some bytes => .ok (.file bytes)
      | none =>
          if d.any fun (name, _) => (path ++ [part]).isPrefixOf name then
            .ok (.inside (path ++ [part]))
          else
            .error .notFound
  | .above => .error .notFound
  | .root => if part ∈ systemDirectories then .ok (.system part) else .error .notFound
  | .system name =>
      if name = "dev".toList ∧ part = "null".toList then .ok (.file []) else .error .notFound

/-- Go up to the directory around a place. -/
def leave : Place → Except FileError Place
  | .file _ => .error .notADirectory
  | .inside [] => .ok .above
  | .inside (part :: path) => .ok (.inside (part :: path).dropLast)
  | .above => .ok .above
  | .root => .ok .root
  | .system _ => .ok .root

/-- Follow the parts of a path. -/
def follow (d : Directory) : Place → List Text → Except FileError Place
  | place, [] => .ok place
  | place, part :: parts => do
      let next ←
        if part = [] ∨ part = ['.'] then
          match place with
          | .file _ => .error .notADirectory
          | place => .ok place
        else if part = ['.', '.'] then
          leave place
        else
          d.enter part place
      d.follow next parts

/-- The bytes of the file at a path. -/
def read (d : Directory) : FileReader := fun path =>
  if '\x00' ∈ path then
    .error .nulInName
  else if path = [] then
    .error .notFound
  else do
    let start := if path.head? = some '/' then Place.root else Place.inside []
    match ← d.follow start (pathParts path) with
    | .file bytes => return bytes
    | _ => .error .isADirectory

end Directory
end TeachingEditor
