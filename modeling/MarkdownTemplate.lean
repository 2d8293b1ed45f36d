import MarkdownTemplate.Load
import MarkdownTemplate.Json.Reader
import MarkdownTemplate.Options.Toml
import MarkdownTemplate.Options.Json
import MarkdownTemplate.Proofs.Marker.Occurrences
import MarkdownTemplate.Proofs.Body.BlockMatching
import MarkdownTemplate.Proofs.Body.HeaderIndependence
import MarkdownTemplate.Proofs.Body.Recovery
import MarkdownTemplate.Proofs.Body.SharedHeader
import MarkdownTemplate.Proofs.Body.Variables
import MarkdownTemplate.Proofs.Body.WrittenBack
import MarkdownTemplate.Proofs.Template.DiagnosticPlaces
import MarkdownTemplate.Proofs.Template.Rewriting
import MarkdownTemplate.Proofs.Node.Visited
import MarkdownTemplate.Proofs.Template.NeededValues
import MarkdownTemplate.Proofs.Json.Members
import MarkdownTemplate.Proofs.Template.SchemaView
import MarkdownTemplate.Proofs.Body.Liveness
import MarkdownTemplate.Proofs.Body.References
import MarkdownTemplate.Proofs.Body.Registration
import MarkdownTemplate.Proofs.Header.LastDeclaration
import MarkdownTemplate.Proofs.Template.NormalForm
import MarkdownTemplate.Proofs.Body.Seam
import MarkdownTemplate.Proofs.Body.Printing
import MarkdownTemplate.Proofs.Error.Indentation
import MarkdownTemplate.Proofs.Values.Interchange
import MarkdownTemplate.Proofs.Json.StringText
import MarkdownTemplate.Proofs.Value.Coercion
import MarkdownTemplate.Proofs.Json.RoundTrip
import MarkdownTemplate.Proofs.Template.SchemaText
import MarkdownTemplate.Proofs.Error.Chaining
import MarkdownTemplate.Proofs.Body.Shortcut
