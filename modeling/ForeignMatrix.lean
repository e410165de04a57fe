import ForeignMatrix.Journal.Record
import ForeignMatrix.Proofs.Derivation.Bounds
import ForeignMatrix.Proofs.Derivation.Copies
import ForeignMatrix.Proofs.Derivation.Cuts
import ForeignMatrix.Proofs.Derivation.Finality
import ForeignMatrix.Proofs.Derivation.Precision
import ForeignMatrix.Proofs.Derivation.Sharing
import ForeignMatrix.Proofs.Derivation.Vacancy
import ForeignMatrix.Proofs.ErrorHandles
import ForeignMatrix.Proofs.Failure
import ForeignMatrix.Proofs.Loading.Requests
import ForeignMatrix.Proofs.Naming
import ForeignMatrix.Proofs.Document.Json
import ForeignMatrix.Proofs.Settings.Records
import ForeignMatrix.Proofs.Ownership.SoleOwner
import ForeignMatrix.Scenario.LoadRun
import ForeignMatrix.Scenario.Run
import ForeignMatrix.Settings.Loader
import ForeignMatrix.Proofs.Document.Toml.Text
import ForeignMatrix.Proofs.Settings.Json
import ForeignMatrix.Proofs.Document.Toml.Lines
import ForeignMatrix.Proofs.Settings.Toml
import ForeignMatrix.Proofs.Document.Yaml.Blocks
import ForeignMatrix.Proofs.Document.Yaml.Layout
import ForeignMatrix.Proofs.Document.Yaml.Written
import ForeignMatrix.Proofs.Document.Yaml.Sections
import ForeignMatrix.Proofs.Document.Yaml.Nodes
import ForeignMatrix.Proofs.Settings.Yaml
import ForeignMatrix.Proofs.Settings.Saving
import ForeignMatrix.Proofs.Settings.Single
import ForeignMatrix.Proofs.Journal.Targets
import ForeignMatrix.Proofs.Settings.Precedence
import ForeignMatrix.Proofs.LayoutQueries
import ForeignMatrix.Proofs.Loading.Retention
import ForeignMatrix.Proofs.Journal.Sources
import ForeignMatrix.Proofs.Journal.Fields
import ForeignMatrix.Proofs.Derivation.Covering
