/-
  Prepared labels: the form of a label in which spellings that a reader takes
  for the same are the same.

  * letters are folded to lower case and characters without a width dropped;
  * the result is brought to its normal form;
  * a label with a prohibited character, or with letters of both writing
    directions, has no prepared form.
-/
import ResolverChain.Unicode.CaseFolding
import ResolverChain.Unicode.Direction
import ResolverChain.Unicode.Normalization
import ResolverChain.Unicode.Prohibited

namespace ResolverChain.DomainName

open Unicode

/-- The label folded and in normal form. -/
def folded (label : List Char) : List Char := normalized (label.flatMap CaseFolding.fold)

/-- The prepared form of a label. -/
def prepare? (label : List Char) : Option (List Char) :=
  let cs := folded label
  if cs.any isProhibited || !isOneWay cs then none else some cs

end ResolverChain.DomainName
