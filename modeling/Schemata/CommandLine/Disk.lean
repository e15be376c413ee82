set_option autoImplicit false

/-!
Files and directories. A file can be written where its directory exists, and then it holds the written text and
nothing else.
-/

namespace Schemata.CommandLine

-- The names on the way from the root.
abbrev Path := List String

inductive WriteError where
  | nullCharacter | isDirectory | noDirectory | notDirectory | nameTooLong
deriving DecidableEq

structure Disk where
  directories : List Path
  files : List (Path × String)

-- How many bytes a name and a whole path may have.
def longestName : Nat := 255

def longestPath : Nat := 4095

def Path.text (path : Path) : String := "/" ++ "/".intercalate path

namespace Disk

def read? (disk : Disk) (path : Path) : Option String := disk.files.lookup path

def isDirectory (disk : Disk) (path : Path) : Bool := path.isEmpty || disk.directories.contains path

-- The file holds the text, whatever it held before.
def put (disk : Disk) (path : Path) (text : String) : Disk :=
  { disk with files := (path, text) :: disk.files.filter fun file => file.1 != path }

-- What keeps the names of a path from leading from a directory to a file.
def obstacle? (disk : Disk) (directory : Path) : List String → Option WriteError
  | [] => some .isDirectory
  | name :: rest =>
    let path := directory ++ [name]
    if longestName < name.utf8ByteSize then some .nameTooLong
    else if disk.isDirectory path then disk.obstacle? path rest
    else if rest.isEmpty then none
    else if (disk.read? path).isSome then some .notDirectory
    else some .noDirectory

def write (disk : Disk) (path : Path) (text : String) : Except WriteError Disk :=
  if path.any (·.contains '\x00') then .error .nullCharacter
  else if longestPath < path.text.utf8ByteSize then .error .nameTooLong
  else
    match disk.obstacle? [] path with
    | some obstacle => .error obstacle
    | none => .ok (disk.put path text)

end Disk
end Schemata.CommandLine
