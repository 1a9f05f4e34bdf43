/-
  Loading a hosts table into a resolver.

  * `load` reads a source; `loadFile` reads a file, after noting which;
  * `createTable` is the table to begin with: of the file that was asked for, or
    of the platform's hosts file if there is one;
  * `defaultPath` is where the platform keeps its hosts file.
-/
import ResolverChain.Resolver

namespace ResolverChain.Hosts

/-- The result of loading, and what was noted meanwhile. -/
structure Loaded where
  table : Except Failure Table
  log : List Log.Event

/-- Loads the table of a source. -/
def load (source : Source) : Loaded :=
  match Table.ofSource source with
  | .error failure => ⟨.error failure, []⟩
  | .ok table =>
    let text := "Loaded " ++ Text.Numeral.ofNat table.length ++ " host names"
    ⟨.ok table, [⟨.info, origin, some text⟩]⟩

/-- Loads the table of the file at a path. -/
def loadFile (fs : FileSystem) (path : String) (encoding : Option String) : Loaded :=
  let reading : Log.Event := ⟨.debug, origin, some ("Reading hosts file " ++ fs.resolve path)⟩
  match Source.ofFile fs path encoding with
  | .error failure => ⟨.error failure, [reading]⟩
  | .ok source =>
    let loaded := load source
    ⟨loaded.table, reading :: loaded.log⟩

/-- The table to begin with: of the file asked for, else of the platform's hosts
    file, which may be absent. -/
def createTable (fs : FileSystem) (platformFile : String) (path encoding : Option String) :
    Loaded :=
  match path with
  | some path => loadFile fs path encoding
  | none =>
    match fs.hasPath platformFile with
    | .error e => ⟨.error (.file e (fs.resolve platformFile)), []⟩
    | .ok true => loadFile fs platformFile encoding
    | .ok false =>
      let text :=
        "No hosts file at " ++ fs.resolve platformFile ++ "; the hosts table is empty"
      ⟨.ok [], [⟨.warn, Network.origin, some text⟩]⟩

/-! ## The platform's hosts file -/

/-- A path with one more part, which stands for itself if it begins at the root. -/
def joinPath (path part : String) : String :=
  if part.toList.head? = some '/' then part
  else if path = "" ∨ path.toList.getLast? = some '/' then path ++ part
  else path ++ "/" ++ part

/-- The directory of the system on Windows, unless the environment names one. -/
def systemRoot : String := "C:\\Windows"

/-- Where the platform keeps its hosts file. -/
def defaultPath (isWindows : Bool) (root : Option String) : String :=
  if isWindows then
    ["System32", "drivers", "etc", "hosts"].foldl joinPath (root.getD systemRoot)
  else "/etc/hosts"

end ResolverChain.Hosts
