import ResolverChain.Lookup.Cascade
import ResolverChain.Main
import ResolverChain.Version
import ResolverChain.Proofs.AddressText
import ResolverChain.Proofs.NormalName
import ResolverChain.Proofs.HostsAnswer
import ResolverChain.Proofs.Chain
import ResolverChain.Proofs.HostsLookup
import ResolverChain.Proofs.Effect
import ResolverChain.Proofs.Lifecycle
import ResolverChain.Proofs.Course
import ResolverChain.Proofs.NetworkReport
import ResolverChain.Proofs.HostsTable
import ResolverChain.Proofs.LastLoad
import ResolverChain.Proofs.Delivery
import ResolverChain.Proofs.Spelling
import ResolverChain.Proofs.AsciiName
import ResolverChain.Proofs.CommandRun
import ResolverChain.Proofs.HostsListing
import ResolverChain.Proofs.WellFormedName
import ResolverChain.Proofs.CascadeRun
import ResolverChain.Proofs.PrintedLookup
import ResolverChain.Proofs.FirstAddress
import ResolverChain.Proofs.CanonicalName
import ResolverChain.Proofs.ReverseName
import ResolverChain.Proofs.TextEncoding
import ResolverChain.Proofs.HostsFile
import ResolverChain.Proofs.PlainDots
import ResolverChain.Proofs.ServerText
import ResolverChain.Proofs.PrintedLines
import ResolverChain.Proofs.LookupArgument
import ResolverChain.Proofs.ServerGrammar
import ResolverChain.Proofs.AnswerBuilding
import ResolverChain.Proofs.AnswerEquality
import ResolverChain.Proofs.OptionSpelling
