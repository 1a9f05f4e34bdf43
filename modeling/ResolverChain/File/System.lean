/-
  Files and the paths to them.

  * `absolute` is a path without steps that stay in place or lead back, from the
    root of all directories or from the current one;
  * a `FileSystem` is a current directory, what there is at each path in it, and the
    encodings that text files can be in;
  * `stateAt` goes along the steps of a path, and the first step that cannot be
    taken says why there is nothing at its end;
  * `read` gives what can be read of a file, or the reason why it cannot be opened.
-/
import ResolverChain.Text.Encoding.Basic
import ResolverChain.Text.Quoted

namespace ResolverChain

/-! ## Paths -/

namespace Path

/-- The slashes in front of a path: at most one, unless there are just two. -/
def root (cs : List Char) : String :=
  match (cs.takeWhile (· == '/')).length with
  | 0 => ""
  | 2 => "//"
  | _ => "/"

/-- The steps of a path. -/
def steps (path : String) : List String :=
  ((path.toList.splitOn '/').filter (!·.isEmpty)).map String.ofList

/-- The steps from the root after further ones, when those already taken are given
    last first.  A step back takes the last one away, and none leads out of the
    root. -/
def follow : List String → List String → List String
  | taken, [] => taken.reverse
  | taken, step :: steps =>
    if step = "." then follow taken steps
    else if step = ".." then follow taken.tail steps
    else follow (step :: taken) steps

/-- The steps from a directory to a path below it, if it is there. -/
def stepsBelow? (directory path : String) : Option (List String) :=
  if root directory.toList = root path.toList ∧ (steps directory).isPrefixOf (steps path) then
    some ((steps path).drop (steps directory).length)
  else none

/-- A path seen from a directory.  A directory that is given by its name alone lies
    in the root, and so does what a path finds on its way back out of it. -/
def absolute (directory path : String) : String :=
  let front := root path.toList
  if front != "" then front ++ "/".intercalate (follow [] (steps path))
  else
    let home := steps directory
    let taken := follow home.reverse (steps path)
    let front := if home.isPrefixOf taken then root directory.toList else "/"
    front ++ "/".intercalate taken

end Path

/-! ## Files -/

/-- Why a file cannot be read. -/
inductive FileError where
  | missing
  | isDirectory
  /-- A part of the path that should be a directory is a file. -/
  | notDirectory
  /-- A part of the path is too long, or all of it. -/
  | nameTooLong
  /-- The path holds the character that ends paths. -/
  | embeddedNul
  /-- The file, or a part of the path, is not for this user. -/
  | denied
  /-- The device does not give what is asked of it. -/
  | interrupted
  /-- Another error of the system, with its number and its words. -/
  | other (number : Nat) (words : String)
deriving DecidableEq, Repr

/-- The reason for an error of the system with a number and words. -/
def FileError.ofNumber (number : Nat) (words : String) : FileError :=
  match number with
  | 2 => missing
  | 5 => interrupted
  | 13 => denied
  | 20 => notDirectory
  | 21 => isDirectory
  | 36 => nameTooLong
  | _ => other number words

/-- The number and the words for a reason. -/
def FileError.words : FileError → String
  | missing => "[Errno 2] No such file or directory"
  | isDirectory => "[Errno 21] Is a directory"
  | notDirectory => "[Errno 20] Not a directory"
  | nameTooLong => "[Errno 36] File name too long"
  | embeddedNul => "embedded null byte"
  | denied => "[Errno 13] Permission denied"
  | interrupted => "[Errno 5] Input/output error"
  | other number words => "[Errno " ++ Text.Numeral.ofNat number ++ "] " ++ words

/-- What is reported of a path that cannot be opened. -/
def FileError.message (e : FileError) (path : String) : String :=
  match e with
  | embeddedNul => e.words
  | _ => e.words ++ ": " ++ Text.quoteText path

/-- What reading a file gives. -/
structure FileContent where
  bytes : List UInt8
  /-- Why reading stops behind the bytes, if that is not the end of the file. -/
  stop : Option FileError := none
deriving DecidableEq, Repr

/-- What there is at a path. -/
inductive FileState where
  /-- Nothing that can be found. -/
  | absent (reason : FileError)
  | directory
  /-- Something that cannot be opened. -/
  | unreadable (reason : FileError)
  | file (content : FileContent)
deriving DecidableEq, Repr

/-- A current directory, what there is at each path, and the encodings of text files. -/
structure FileSystem where
  directory : String
  state : String → FileState
  codecs : Text.Codecs := {}

namespace FileSystem

/-- The longest part of a path, in bytes. -/
def maxPart : Nat := 255

/-- The longest path, in bytes. -/
def maxPath : Nat := 4095

/-- Files by their names, `none` for a directory. -/
abbrev Entries := List (String × Option (List UInt8))

/-- What there is in a directory at the end of some steps, all but the last of which
    are known to be directories.  A directory need not be listed if a file in it is. -/
def entryAt (entries : Entries) (taken : List String) : FileState :=
  let name := "/".intercalate taken
  match entries.lookup name with
  | some (some bytes) => .file { bytes }
  | some none => .directory
  | none =>
    if entries.any fun (other, _) => (name ++ "/").isPrefixOf other then .directory
    else .absent .missing

/-- What there is at the end of further steps from a directory. -/
def stateAt (entries : Entries) (taken : List String) : List String → FileState
  | [] => .directory
  | step :: steps =>
    if maxPart < step.utf8ByteSize then .absent .nameTooLong
    else
      match entryAt entries (taken ++ [step]) with
      | .directory => stateAt entries (taken ++ [step]) steps
      | .file content => if steps.isEmpty then .file content else .absent .notDirectory
      | closed => closed

/-- What there is outside of the current directory on every system: an empty file
    and the directories that are always there. -/
def outside : Entries := [("dev/null", some []), ("tmp", none)]

/-- What there is at a path, when the current directory has some entries. -/
def stateOf (directory : String) (entries : Entries) (path : String) : FileState :=
  if path.toList.contains '\x00' then .absent .embeddedNul
  else if maxPath < path.utf8ByteSize then .absent .nameTooLong
  else
    match Path.stepsBelow? directory path with
    | some steps => stateAt entries [] steps
    | none => stateAt outside [] (Path.steps path)

/-- The file system of a current directory with some files in it. -/
def ofEntries (directory : String) (entries : Entries) : FileSystem :=
  { directory, state := stateOf directory entries }

/-- The absolute form of a path. -/
def resolve (fs : FileSystem) (path : String) : String := Path.absolute fs.directory path

/-- Whether there is a file or a directory at a path, readable or not.  A path that
    holds the character that ends paths cannot be looked for. -/
def hasPath (fs : FileSystem) (path : String) : Except FileError Bool :=
  match fs.state (fs.resolve path) with
  | .absent .embeddedNul => .error .embeddedNul
  | .absent _ => .ok false
  | _ => .ok true

/-- What reading the file at a path gives, once it is open. -/
def read (fs : FileSystem) (path : String) : Except FileError FileContent :=
  match fs.state (fs.resolve path) with
  | .absent reason | .unreadable reason => .error reason
  | .directory => .error .isDirectory
  | .file content => .ok content

end FileSystem

end ResolverChain
