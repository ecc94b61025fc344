import ServiceDescription.Main
import ServiceDescription.Proofs.CommandLine.AllOrNothing
import ServiceDescription.Proofs.Contract.Pairing
import ServiceDescription.Proofs.Definition.Coherence
import ServiceDescription.Proofs.Definition.CrossReferences
import ServiceDescription.Proofs.Definition.Order
import ServiceDescription.Proofs.Definition.Padding
import ServiceDescription.Proofs.Definition.Prefixes
import ServiceDescription.Proofs.Definition.TextOrFile
import ServiceDescription.Proofs.Rendering.Lossless
import ServiceDescription.Proofs.Schema.Coverage
import ServiceDescription.Proofs.Schema.Duplicates
import ServiceDescription.Proofs.Schema.Exactness
import ServiceDescription.Proofs.Schema.Frozen
import ServiceDescription.Proofs.Schema.Pending
import ServiceDescription.Proofs.Schema.Precedence
import ServiceDescription.Proofs.Schema.References
import ServiceDescription.Proofs.Schema.Resumption
import ServiceDescription.Proofs.Schema.Standalone
import ServiceDescription.Proofs.Xml.Resolution
import ServiceDescription.Rendering.Label
