/-!
# Files

A directory tree as it lies behind relative paths, and what reading a file from it gives.
-/

set_option autoImplicit false

namespace AtomicCss

/-- Why a file gives no text. -/
inductive FileFault where
  | notFound
  | isDirectory
  /-- The path goes on behind something that is no directory. -/
  | notDirectory
  /-- A name along the path, or the whole path, is longer than any can be. -/
  | tooLong
  /-- The path holds the character that ends a path. -/
  | nulInPath
  /-- The bytes of the file are no UTF-8. -/
  | notText
  deriving DecidableEq, Repr

def FileFault.message : FileFault → String
  | .notFound => "No such file or directory (os error 2)"
  | .isDirectory => "Is a directory (os error 21)"
  | .notDirectory => "Not a directory (os error 20)"
  | .tooLong => "File name too long (os error 36)"
  | .nulInPath => "file name contained an unexpected NUL byte"
  | .notText => "stream did not contain valid UTF-8"

/-- The names along a path; empty ones and dots for the same directory are dropped. -/
def pathNames (path : String) : List String :=
  ((path.splitOn "/").filter fun name => name != "" && name != ".")

/-- Whether a path ends like one of a directory. -/
def namesDirectory (path : String) : Bool :=
  match (path.splitOn "/").getLast? with
  | some "" => true
  | some "." => true
  | some ".." => true
  | _ => false

def nameLimit : Nat := 255

def pathLimit : Nat := 4095

/-- Files with their bytes, and directories, by the names along their paths. The
directories on the way to an entry are there without being listed. -/
structure Files where
  entries : List (List String × Option ByteArray)

namespace Files

/-- Puts a file or a directory at a place, instead of what lies there. -/
def put (files : Files) (place : List String) (content : Option ByteArray) : Files where
  entries := (place, content) :: files.entries.filter fun entry => entry.1 != place

/-- What lies at a place: the bytes of a file, or none for a directory. -/
def entry? (files : Files) (place : List String) : Option (Option ByteArray) :=
  match files.entries.find? fun entry => entry.1 == place with
  | some entry => some entry.2
  | none =>
      if place.isEmpty || files.entries.any fun entry => place.isPrefixOf entry.1 then some none
      else none

/-- Follows names from a place, a pair of dots back to the directory around it. Around the
whole tree there is nothing to be found. -/
def follow (files : Files) (place : List String) : List String → Except FileFault (List String)
  | [] => .ok place
  | name :: rest =>
      match files.entry? place with
      | none => .error .notFound
      | some (some _) => .error .notDirectory
      | some none =>
          if nameLimit < name.utf8ByteSize then .error .tooLong
          else if name != ".." then follow files (place ++ [name]) rest
          else if place.isEmpty then .error .notFound
          else follow files place.dropLast rest

/-- What a path leads through: the tree, or nothing where the path starts with a slash. -/
def behind (files : Files) (path : String) : Files :=
  if path.startsWith "/" then ⟨[]⟩ else files

def readText (files : Files) (path : String) : Except FileFault String := do
  if path.contains '\x00' then .error .nulInPath
  else if pathLimit < path.utf8ByteSize then .error .tooLong
  let tree := files.behind path
  let place ← tree.follow [] (pathNames path)
  match tree.entry? place with
  | none => .error .notFound
  | some none => .error .isDirectory
  | some (some bytes) =>
      if namesDirectory path then .error .notDirectory
      else
        match String.fromUTF8? bytes with
        | some text => .ok text
        | none => .error .notText

end Files

/-- The extension of a file name: what follows its last dot, unless nothing is in front of
that dot. -/
def extension? (path : String) : Option String :=
  match (pathNames path).getLast? with
  | none => none
  | some ".." => none
  | some name =>
      let reversed := name.toList.reverse
      match reversed.dropWhile (· != '.') with
      | [] => none
      | [_] => none
      | _ => some (String.ofList (reversed.takeWhile (· != '.')).reverse)

end AtomicCss
