/-
  Where the lines of a hosts file come from.

  * a `Source` is a row of lines and, if reading stops before the end, the
    failure behind them;
  * `Source.ofText` splits a text at its line feeds;
  * `Source.ofFile` reads a file in some encoding.
-/
import ResolverChain.Failure
import ResolverChain.Text.Encoding.File

namespace ResolverChain.Hosts

/-- Lines, and the failure that stops reading behind them. -/
structure Source where
  lines : List String
  failure : Option Failure := none
deriving Repr

namespace Source

/-- The lines of a text. -/
def ofText (text : String) : Source := ⟨(text.toList.splitOn '\n').map String.ofList, none⟩

/-- The lines of what is read of a file.  Reading goes on to the first fault in the
    text, or else to the place where it stops before the end of the file. -/
def ofContent (charset : Text.Charset) (content : FileContent) : Source :=
  let (cs, fault) := charset.decode content.stop.isNone content.bytes
  let failure := (fault.map Failure.decoding).or (content.stop.map Failure.reading)
  ⟨Text.linesOf cs failure.isSome, failure⟩

/-- The lines of the file at a path, in the encoding asked for. -/
def ofFile (fs : FileSystem) (path : String) (encoding : Option String) :
    Except Failure Source := do
  let content ← (fs.read path).mapError (.file · (fs.resolve path))
  let charset ← (fs.codecs.charset? encoding).mapError .encoding
  return ofContent charset content

end Source

end ResolverChain.Hosts
