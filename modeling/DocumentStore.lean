import DocumentStore.LogLevel
import DocumentStore.Proofs.Restart
import DocumentStore.Proofs.WriteBack
import DocumentStore.Proofs.Identity
import DocumentStore.Proofs.IdField
import DocumentStore.Proofs.Atomicity
import DocumentStore.Proofs.Twin
import DocumentStore.Proofs.Burst
import DocumentStore.Proofs.Reading
import DocumentStore.Proofs.Roundtrip
import DocumentStore.Proofs.WellFormed
import DocumentStore.Proofs.Readback
import DocumentStore.Proofs.Isolation
import DocumentStore.Proofs.Agreement
import DocumentStore.Proofs.Bulk
import DocumentStore.Proofs.Numbering
import DocumentStore.Proofs.Process
import DocumentStore.Proofs.Conjunction
import DocumentStore.Proofs.Paging
import DocumentStore.Proofs.Tiebreak
import DocumentStore.Proofs.Rounding
import DocumentStore.Proofs.Integers
import DocumentStore.Proofs.Distinction
import DocumentStore.Proofs.Spelling
import DocumentStore.Proofs.Concatenation
import DocumentStore.Proofs.Fieldwise
import DocumentStore.Proofs.Overriding
import DocumentStore.Proofs.Addition
import DocumentStore.Proofs.Equivalence
import DocumentStore.Proofs.Ranking
import DocumentStore.Proofs.Meaning
import DocumentStore.Proofs.Lookup
import DocumentStore.Proofs.Replacement
import DocumentStore.Proofs.Reordering
import DocumentStore.Proofs.Normalization
import DocumentStore.Proofs.Drawing
import DocumentStore.Proofs.Configuration
