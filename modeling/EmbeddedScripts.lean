import EmbeddedScripts.Config.Read
import EmbeddedScripts.Extractor
import EmbeddedScripts.Proofs.Bounds
import EmbeddedScripts.Proofs.Coverage
import EmbeddedScripts.Proofs.DeclaredTypes
import EmbeddedScripts.Proofs.Extension
import EmbeddedScripts.Proofs.Extraction
import EmbeddedScripts.Proofs.Forests
import EmbeddedScripts.Proofs.Modes
import EmbeddedScripts.Proofs.Rejections
import EmbeddedScripts.Proofs.Shifts
import EmbeddedScripts.Proofs.Offsets
import EmbeddedScripts.Proofs.Redeclarations
import EmbeddedScripts.Proofs.Leaves
import EmbeddedScripts.Proofs.Agreement
import EmbeddedScripts.Proofs.PositionOrder
import EmbeddedScripts.Proofs.ColumnCounts
import EmbeddedScripts.Proofs.Attributes
import EmbeddedScripts.Proofs.Settings
