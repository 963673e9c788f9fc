import Scaffold.Main
import Scaffold.Settings.Stored
import Scaffold.Proofs.BatchContainment
import Scaffold.Proofs.BatchRecords
import Scaffold.Proofs.CatalogCategories
import Scaffold.Proofs.CatalogCleanup
import Scaffold.Proofs.CatalogContainment
import Scaffold.Proofs.ConflictReport
import Scaffold.Proofs.DumpReading
import Scaffold.Proofs.GuardFailures
import Scaffold.Proofs.GuardShorthand
import Scaffold.Proofs.GuardedInsertion
import Scaffold.Proofs.ImportInsertion
import Scaffold.Proofs.IncludeClosure
import Scaffold.Proofs.InstallOrder
import Scaffold.Proofs.InstallRun
import Scaffold.Proofs.LineInsertion
import Scaffold.Proofs.LiteralEdits
import Scaffold.Proofs.LogIndependence
import Scaffold.Proofs.LogPruning
import Scaffold.Proofs.LogRefinement
import Scaffold.Proofs.PartialNames
import Scaffold.Proofs.PathConfinement
import Scaffold.Proofs.PatternAgreement
import Scaffold.Proofs.PresentationOrder
import Scaffold.Proofs.PropInsertion
import Scaffold.Proofs.RecordKeys
import Scaffold.Proofs.RecordLookup
import Scaffold.Proofs.SelectionAccount
import Scaffold.Proofs.ShownListing
import Scaffold.Proofs.TagScan
import Scaffold.Proofs.TemplateModules
