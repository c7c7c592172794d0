import PathTemplate.Outline
import PathTemplate.Proofs.Balance
import PathTemplate.Proofs.Building
import PathTemplate.Proofs.Changes
import PathTemplate.Proofs.Documents
import PathTemplate.Proofs.Duality
import PathTemplate.Proofs.Emission
import PathTemplate.Proofs.Extraction
import PathTemplate.Proofs.Inclusion
import PathTemplate.Proofs.Occurrence
import PathTemplate.Proofs.Participation
import PathTemplate.Proofs.Pruning
import PathTemplate.Proofs.Renaming
import PathTemplate.Proofs.Replacement
import PathTemplate.Proofs.Reuse
import PathTemplate.Proofs.RoundTrip
import PathTemplate.Proofs.Safety
import PathTemplate.Proofs.Settling
import PathTemplate.Proofs.Staging
import PathTemplate.Proofs.Structure
import PathTemplate.Proofs.Unwrapping
import PathTemplate.Proofs.Validation
import PathTemplate.Proofs.Writing
import PathTemplate.Session
