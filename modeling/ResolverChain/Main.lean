/-
  The command `txresolve-lookup`, which looks up a name in the hosts file.

  The rules are in `Command`; here the hosts file is read, and what a run shows is
  written.  No query leaves the machine: a server that the user names gets none,
  and the lookup fails as if no reply came in time.
-/
import ResolverChain.Command.Run

namespace ResolverChain

/-- The reason for an error of the system. -/
def reasonOf : IO.Error → FileError
  | .noFileOrDirectory _ number words | .permissionDenied _ number words
  | .inappropriateType _ number words | .invalidArgument _ number words
  | .resourceExhausted _ number words | .noSuchThing _ number words
  | .alreadyExists _ number words | .interrupted _ number words
  | .otherError number words | .resourceBusy number words | .resourceVanished number words
  | .unsupportedOperation number words | .hardwareFault number words
  | .unsatisfiedConstraints number words | .illegalOperation number words
  | .protocolError number words | .timeExpired number words => .ofNumber number.toNat words
  | .unexpectedEof | .userError _ => .interrupted

/-- What reading an open file gives, up to its end or to the place where reading stops. -/
def contentOf (file : IO.FS.Handle) : IO FileContent := do
  let mut content : FileContent := { bytes := [] }
  let mut isOpen := true
  while isOpen do
    try
      let block ← file.read Text.blockSize.toUSize
      content := { bytes := content.bytes ++ block.toList }
      isOpen := !block.isEmpty
    catch e =>
      content := { content with stop := some (reasonOf e) }
      isOpen := false
  return content

/-- What there is at a path. -/
def stateAt (path : String) : IO FileState := do
  let place? ← try some <$> IO.FS.realPath ⟨path⟩ catch _ => pure none
  if let some place := place? then
    if ← place.isDir then return .directory
  try
    let file ← IO.FS.Handle.mk ⟨path⟩ .read
    return .file (← contentOf file)
  catch e =>
    let reason := reasonOf e
    return if place?.isSome then .unreadable reason else .absent reason

/-- The hosts file that a run reads, if it gets that far. -/
def wantedFile (platformFile : String) (args : List String) : Option String :=
  match Command.Request.parse args with
  | .ok (.run settings) => some (settings.hostsFile.getD platformFile)
  | _ => none

/-- The files around a run: the hosts file that it reads. -/
def filesFor (directory : String) (wanted : Option String) : IO FileSystem := do
  match wanted with
  | none => return { directory, state := fun _ => .absent .missing }
  | some path =>
    let place := Path.absolute directory path
    let state ← stateAt place
    return { directory, state := fun p => if p = place then state else .absent .missing }

end ResolverChain

open ResolverChain in
/-- Runs the command. -/
def main (args : List String) : IO UInt32 := do
  let platformFile := Hosts.defaultPath false none
  let directory := (← IO.currentDir).toString
  let files ← filesFor directory (wantedFile platformFile args)
  let shown := Command.run { files, platformFile } args
  IO.print shown.output
  IO.eprint shown.errors
  match shown.exit with
  | .status code => return code.toUInt32
  | .message text =>
    IO.eprintln text
    return 1
