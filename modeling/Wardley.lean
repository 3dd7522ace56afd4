import Wardley.Main
import Wardley.Proofs.Construct.PlaceLists
import Wardley.Proofs.Construct.UnendedLinks
import Wardley.Proofs.Construct.WrittenEvolutions
import Wardley.Proofs.Construct.WrittenRemarks
import Wardley.Proofs.Document.Exchange
import Wardley.Proofs.Document.MissingFields
import Wardley.Proofs.Document.SwitchDocuments
import Wardley.Proofs.Notation.BlockIntervals
import Wardley.Proofs.Notation.CommentOrder
import Wardley.Proofs.Notation.DecoratorGroups
import Wardley.Proofs.Notation.NumeralGrammar
import Wardley.Proofs.Parsing.BlankLines
import Wardley.Proofs.Parsing.BlockChildren
import Wardley.Proofs.Parsing.Consistency
import Wardley.Proofs.Parsing.Coverage
import Wardley.Proofs.Parsing.Diagnosed
import Wardley.Proofs.Parsing.Extents
import Wardley.Proofs.Parsing.Failures
import Wardley.Proofs.Parsing.Indentation
import Wardley.Proofs.Parsing.Layouts
import Wardley.Proofs.Parsing.LineKinds
import Wardley.Proofs.Parsing.RegionLines
import Wardley.Proofs.Parsing.Reordering
import Wardley.Proofs.Parsing.Spelling
import Wardley.Proofs.Parsing.SettingLines
import Wardley.Proofs.Parsing.Stability
import Wardley.Proofs.Parsing.Union
import Wardley.Proofs.Resolution.Accounting
import Wardley.Proofs.Resolution.FirstDeclared
import Wardley.Proofs.Resolution.Projections
import Wardley.Proofs.Resolution.Visibilities
import Wardley.Proofs.Sheet.Unify
import Wardley.Proofs.Sheet.Writing
import Wardley.Sheet.Edit
