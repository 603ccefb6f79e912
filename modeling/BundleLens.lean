import BundleLens.Reflection.FunctionBody
import BundleLens.Main
import BundleLens.Proofs.Inquiry
import BundleLens.Proofs.Built
import BundleLens.Proofs.Recipe
import BundleLens.Proofs.FreshTable
import BundleLens.Proofs.Settled
import BundleLens.Proofs.Memoization
import BundleLens.Proofs.History
import BundleLens.Proofs.Search
import BundleLens.Proofs.StatementExports
import BundleLens.Proofs.Wildcard
import BundleLens.Proofs.Unparen
import BundleLens.Proofs.Parentheses
import BundleLens.Proofs.ScopeTree
import BundleLens.Proofs.LexicalScoping
import BundleLens.Proofs.Draft
import BundleLens.Proofs.WrapperEmission
import BundleLens.Proofs.EnumEmission
import BundleLens.Proofs.FactoryCalls
import BundleLens.Proofs.ClassEdit
import BundleLens.Proofs.Metadata
import BundleLens.Proofs.MetadataForms
import BundleLens.Proofs.Registry
import BundleLens.Proofs.HostAgreement
import BundleLens.Proofs.WrittenParts
import BundleLens.Proofs.FileBindings
import BundleLens.Proofs.OwnNames
import BundleLens.Proofs.OwnExports
import BundleLens.Proofs.ExportPrecedence
import BundleLens.Proofs.BoundExports
import BundleLens.Proofs.FileBounds
import BundleLens.Proofs.ImportAgreement
import BundleLens.Proofs.ClassNames
import BundleLens.Proofs.ClassReports
import BundleLens.Proofs.IndexInvariant
import BundleLens.Proofs.TypingsTables
import BundleLens.Proofs.TypingsReexports
import BundleLens.Proofs.TableParts
import BundleLens.Proofs.ReexportChain
import BundleLens.Proofs.AssignedValues
import BundleLens.Proofs.AliasHops
import BundleLens.Proofs.AliasTrails
import BundleLens.Proofs.SynthesizedConstructors
import BundleLens.Proofs.ImportedHelpers
import BundleLens.Proofs.ExportSpellings
import BundleLens.Proofs.DefaultChecks
import BundleLens.Proofs.ParamRecords
import BundleLens.Proofs.ExportedClasses
import BundleLens.Proofs.ForwardingConstructors
import BundleLens.Proofs.MemberDecorators
import BundleLens.Proofs.ResolutionOrder
import BundleLens.Proofs.ParamPositions
import BundleLens.Proofs.PathTexts
import BundleLens.Proofs.TypingsExports
import BundleLens.Proofs.TypingsLookup
import BundleLens.Proofs.PathSpellings
import BundleLens.Proofs.ExportedEnums
import BundleLens.Proofs.HelperNames
import BundleLens.Proofs.IdentifierUses
