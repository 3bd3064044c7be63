import PortalConfig.Catalog.Composer
import PortalConfig.Main
import PortalConfig.Proofs.Menu.Parents
import PortalConfig.Proofs.Menu.Forest
import PortalConfig.Proofs.Menu.Placement
import PortalConfig.Proofs.Record
import PortalConfig.Proofs.Document
import PortalConfig.Proofs.Category
import PortalConfig.Proofs.Aggregation
import PortalConfig.Proofs.Layering.Override
import PortalConfig.Proofs.Visibility.Meaning
import PortalConfig.Proofs.Visibility.Acceptance
import PortalConfig.Proofs.Shell
import PortalConfig.Proofs.Visibility.Shown
import PortalConfig.Proofs.Pruning
import PortalConfig.Proofs.Layering.Declarations
import PortalConfig.Proofs.Layering.Plugins
import PortalConfig.Proofs.Visibility.Rereading
import PortalConfig.Proofs.Numeral
import PortalConfig.Proofs.Path.Brackets
import PortalConfig.Proofs.Path.Spelling
import PortalConfig.Proofs.Path.Composition
import PortalConfig.Proofs.Path.Quoting
import PortalConfig.Proofs.Readback
import PortalConfig.Proofs.Registration
import PortalConfig.Proofs.Time.Calendar
import PortalConfig.Proofs.Time.Reading
import PortalConfig.Proofs.Time.Written
import PortalConfig.Proofs.CreatedAt
import PortalConfig.Proofs.Columns.Composition
import PortalConfig.Proofs.Lint.Findings
import PortalConfig.Proofs.Lint.Ignored
import PortalConfig.Proofs.Lint.SignInPage
import PortalConfig.Proofs.Lint.Atoms
import PortalConfig.Proofs.Columns.Findings
import PortalConfig.Proofs.Menu.Precedence
import PortalConfig.Proofs.Menu.Order
import PortalConfig.Proofs.Menu.Scopes
import PortalConfig.Proofs.Menu.Termination
import PortalConfig.Proofs.Source.KeyOffset
import PortalConfig.Proofs.Visibility.WithoutList
import PortalConfig.Proofs.Menu.SharedNames
import PortalConfig.Proofs.Source.DistinctKeys
import PortalConfig.Proofs.Source.Extension
import PortalConfig.Proofs.Layering.Loading
import PortalConfig.Proofs.Layering.Regrouping
import PortalConfig.Proofs.Insertions
import PortalConfig.Proofs.LetterCase
import PortalConfig.Proofs.EntityRef
import PortalConfig.Proofs.EntityFields
import PortalConfig.Proofs.Recasing
import PortalConfig.Proofs.Settings.UnknownKeyReport
