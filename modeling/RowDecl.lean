import RowDecl.Main
import RowDecl.Workbench
import RowDecl.Proofs.Balance
import RowDecl.Proofs.CatalogGrammar
import RowDecl.Proofs.RunAtomicity
import RowDecl.Proofs.UniqueReading
import RowDecl.Proofs.EmissionFaults
import RowDecl.Proofs.CatalogFaults
import RowDecl.Proofs.PropertyNames
import RowDecl.Proofs.WriteHistory
import RowDecl.Proofs.Selection
import RowDecl.Proofs.DeclarationNames
import RowDecl.Proofs.DeclaredOnce
import RowDecl.Proofs.Encoding
import RowDecl.Proofs.WriteRefusals
import RowDecl.Proofs.UnreportedFaults
import RowDecl.Proofs.RunReports
import RowDecl.Proofs.FieldFaults
import RowDecl.Proofs.NullableMarks
import RowDecl.Proofs.ReadObjects
import RowDecl.Proofs.SettingsOverlay
import RowDecl.Proofs.FlagsAsSettings
import RowDecl.Proofs.RunIndependence
import RowDecl.Proofs.Splitting
import RowDecl.Proofs.PathSegments
import RowDecl.Proofs.PathReading
import RowDecl.Proofs.FileLocation
import RowDecl.Proofs.CamelWords
import RowDecl.Proofs.TypeResolution
import RowDecl.Proofs.FieldNames
import RowDecl.Proofs.SettingsListing
import RowDecl.Proofs.SingleShape
import RowDecl.Proofs.ScanLocality
import RowDecl.Proofs.WorkbenchSessions
