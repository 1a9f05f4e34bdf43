/-
  The version of the library and its command.
-/

namespace ResolverChain

/-- The version, as its users see it. -/
def version : String := "1.0.0"

end ResolverChain
