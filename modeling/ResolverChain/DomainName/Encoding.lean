/-
  Host names in any script, encoded in ASCII.

  * a name is a row of labels between dots; besides the full stop, three other
    characters count as dots;
  * an ASCII label stands for itself; any other one is prepared and, if that
    leaves it outside ASCII, written in punycode behind `acePrefix`;
  * a label takes 1 to 63 bytes; the last one of a name may be empty;
  * a name that is ASCII as a whole is only checked, never changed.
-/
import ResolverChain.DomainName.Basic
import ResolverChain.DomainName.Prepared
import ResolverChain.DomainName.Punycode

namespace ResolverChain.DomainName

open Punycode (isAscii)

/-- The characters that separate labels. -/
def isDot (c : Char) : Bool := c == '.' || c == '\u3002' || c == '\uFF0E' || c == '\uFF61'

/-- The longest label, in bytes. -/
def maxLabel : Nat := 63

/-- What a label in punycode begins with. -/
def acePrefix : List Char := ['x', 'n', '-', '-']

/-- The label, if its length is allowed. -/
def sized? (label : List Char) : Option (List Char) :=
  if 0 < label.length ∧ label.length ≤ maxLabel then some label else none

/-- A label in ASCII.  One that is prepared to look like an encoded label is
    refused, since it could not be told from one. -/
def encodeLabel? (label : List Char) : Option (List Char) :=
  if label.all isAscii then sized? label
  else do
    let prepared ← prepare? label
    if prepared.all isAscii then sized? prepared
    else if acePrefix.isPrefixOf prepared then none
    else sized? (acePrefix ++ Punycode.encode prepared)

/-- Whether the labels of a name that is ASCII have allowed lengths. -/
def asciiLabelsFit (labels : List (List Char)) : Bool :=
  labels.dropLast.all (fun l => 0 < l.length && l.length ≤ maxLabel) &&
    (labels.getLastD []).length ≤ maxLabel

/-- Labels with dots between them. -/
def joinLabels (labels : List (List Char)) : List Char := ['.'].intercalate labels

/-- A name in ASCII. -/
def encode? (cs : List Char) : Option (List Char) :=
  if cs.all isAscii then
    if asciiLabelsFit (cs.splitOn '.') then some cs else none
  else
    let labels := cs.splitOnP isDot
    if labels.getLast? = some [] then
      (labels.dropLast.mapM encodeLabel?).map fun ls => joinLabels ls ++ ['.']
    else (labels.mapM encodeLabel?).map joinLabels

/-- The normal name that a text spells. -/
def ofText? (s : String) : Option DomainName :=
  (encode? (Text.dropTrailing (· == '.') s.toList)).map fun cs => normal (bytesOfAscii cs)

end ResolverChain.DomainName
