import CallSites.Main
import CallSites.Matcher.Selection
import CallSites.Proofs.Descriptor.Meaning
import CallSites.Proofs.Config.Factory
import CallSites.Proofs.Descriptor.TypeName
import CallSites.Proofs.Matcher.Acceptance
import CallSites.Proofs.Config.Log
import CallSites.Proofs.Config.Phases
import CallSites.Proofs.Text.Utf8
import CallSites.Proofs.CommandLine.Check
import CallSites.Proofs.CommandLine.Agreement
import CallSites.Proofs.Regex.Language
import CallSites.Proofs.Regex.Positions
import CallSites.Proofs.Regex.Matching
import CallSites.Proofs.Regex.Grammar
import CallSites.Proofs.Regex.Variants
import CallSites.Proofs.Matcher.Patterns
import CallSites.Proofs.Config.Failures
import CallSites.Proofs.Matcher.Spelling
import CallSites.Proofs.CommandLine.Verbose
import CallSites.Proofs.Descriptor.Nameable
import CallSites.Proofs.Config.Reading
import CallSites.Proofs.Config.Refusals
import CallSites.Proofs.Config.Composition
import CallSites.Proofs.CommandLine.Answers
import CallSites.Proofs.Config.Keys
import CallSites.Proofs.Matcher.Plain
import CallSites.Proofs.Descriptor.Legal
import CallSites.Proofs.Descriptor.Trailing
import CallSites.Proofs.Shown
import CallSites.Proofs.Config.Description
import CallSites.Proofs.Descriptor.Scanning
