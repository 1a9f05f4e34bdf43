/-
  Lookups on the command line: how what was found is printed.

  * each item found is written on a line of its own (`Found.lines?`);
  * finding nothing ends the command with a message, and so does a failure that
    comes from the answer's code or from the name or address asked for; any other
    failure is passed on (`reported`);
  * `printed` is what is written, and how the lookup ends.
-/
import ResolverChain.Lookup.Kind
import ResolverChain.Text.Encoding.Lenient

namespace ResolverChain.Lookup

/-- The text of a name, which has to be ASCII. -/
def nameText (n : DomainName) : Except Failure String :=
  match n.text? with
  | some s => .ok s
  | none => .error (.unwritable .name)

/-- The items found, each as text. -/
def Found.lines? : Found → Except Failure (List String)
  | addresses all => .ok (all.map Address.text)
  | address first => .ok (first.toList.map Address.text)
  | pointer target => target.toList.mapM nameText
  | texts all => .ok (all.map fun bytes => String.ofList (Text.lenientText bytes))

/-- What was written, and how the lookup ended. -/
structure Printed where
  output : String
  outcome : Except Failure Unit

/-- The message for a name about which nothing was found. -/
def nothingFound (name : String) : String :=
  "ERROR: no records found for " ++ Text.quoteText name

/-- Writes what was found about a name. -/
def printFound (name : String) (found : Found) : Printed :=
  match found.lines? with
  | .error failure => ⟨"", .error failure⟩
  | .ok [] => ⟨"", .error (.exit (nothingFound name))⟩
  | .ok lines => ⟨String.join (lines.map (· ++ "\n")), .ok ()⟩

/-- Whether a failure ends the command with a message of its own. -/
def isReported : Failure → Bool
  | .result _ | .address (.invalid _ _) | .name (.unencodable _) => true
  | _ => false

/-- The failure with which the command ends when the lookup of a name failed. -/
def reported (name : String) (failure : Failure) : Failure :=
  if isReported failure then
    match failure.message? with
    | .ok text => .exit ("ERROR: lookup of " ++ Text.quoteText name ++ " failed: " ++ text)
    | .error reason => .unwritable reason
  else failure

/-- Writes what a lookup found about a name, or ends with its failure. -/
def printed (name : String) : Except Failure Found → Printed
  | .ok found => printFound name found
  | .error failure => ⟨"", .error (reported name failure)⟩

end ResolverChain.Lookup
