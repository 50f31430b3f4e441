import BytePattern.Describe
import BytePattern.Proofs.Cuts
import BytePattern.Proofs.Walk
import BytePattern.Proofs.Traversal
import BytePattern.Proofs.Lossless
import BytePattern.Proofs.Suffix
import BytePattern.Proofs.LiveRun
import BytePattern.Proofs.Encoding
import BytePattern.Proofs.EscapeSearch
import BytePattern.Proofs.Expansion
import BytePattern.Proofs.Capturing
import BytePattern.Proofs.History
import BytePattern.Proofs.Meaning
import BytePattern.Proofs.OuterGroups
import BytePattern.Proofs.Counting
import BytePattern.Proofs.Lookups
import BytePattern.Proofs.Keeping
import BytePattern.Proofs.Lockstep
import BytePattern.Proofs.Events
import BytePattern.Proofs.Nesting
import BytePattern.Proofs.Exploring
import BytePattern.Proofs.Searching
import BytePattern.Proofs.CutOff
import BytePattern.Proofs.Contract
import BytePattern.Proofs.Refusal
import BytePattern.Proofs.Agreement
import BytePattern.Proofs.Composition
import BytePattern.Proofs.References
import BytePattern.Proofs.Escaping
import BytePattern.Proofs.ReferenceSearch
import BytePattern.Proofs.RuleSearch
import BytePattern.Proofs.Waiting
import BytePattern.Proofs.FirstUse
import BytePattern.Proofs.Sessions
import BytePattern.Proofs.Transparency
import BytePattern.Proofs.Views
import BytePattern.Proofs.NameCharacters
import BytePattern.Proofs.SpelledBrackets
import BytePattern.Proofs.SpelledPatterns
import BytePattern.Proofs.SpelledPrograms
import BytePattern.Proofs.RuleOrder
import BytePattern.Proofs.Expressions
import BytePattern.Proofs.IdealExpansion
import BytePattern.Proofs.Simplified
import BytePattern.Proofs.InlineFlags
import BytePattern.Proofs.FirstMatches
import BytePattern.Proofs.PlainPatterns
import BytePattern.Proofs.OuterOrder
