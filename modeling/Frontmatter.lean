import Frontmatter.Exposure.Config
import Frontmatter.Exposure.Process
import Frontmatter.Record.Json.Reader
import Frontmatter.Proofs.Exposure.Effect
import Frontmatter.Proofs.Exposure.Chain
import Frontmatter.Proofs.Number.Shortest
import Frontmatter.Proofs.Script.Numeral
import Frontmatter.Proofs.Script.Quoted
import Frontmatter.Proofs.Script.Lexeme
import Frontmatter.Proofs.Script.Reader
import Frontmatter.Proofs.Record.Distinct
import Frontmatter.Proofs.Record.Json
import Frontmatter.Proofs.Script.RoundTrip
import Frontmatter.Proofs.Readers
import Frontmatter.Proofs.Metadata.Distinct
import Frontmatter.Proofs.Metadata.Merge
import Frontmatter.Proofs.Script.Exportable
import Frontmatter.Proofs.Exposure.Agreement
import Frontmatter.Proofs.Exposure.NamedExport
import Frontmatter.Proofs.Exposure.Relevance
import Frontmatter.Proofs.Exposure.Settings
import Frontmatter.Proofs.Script.Signal
import Frontmatter.Proofs.Script.Canonical
import Frontmatter.Proofs.Exposure.Inserted
import Frontmatter.Proofs.Exposure.Loading
import Frontmatter.Proofs.Text.Line
import Frontmatter.Proofs.Script.SignalLine
import Frontmatter.Proofs.Text.Bytes
import Frontmatter.Proofs.Metadata.History
import Frontmatter.Proofs.Metadata.TomlBlock
import Frontmatter.Proofs.Exposure.EmptyBlock
import Frontmatter.Proofs.Exposure.SourceFault
import Frontmatter.Proofs.Exposure.Stored
import Frontmatter.Proofs.Number.Nearest
import Frontmatter.Proofs.Script.Delimited
import Frontmatter.Proofs.Script.WholeNumber
