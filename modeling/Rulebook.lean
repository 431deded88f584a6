import Rulebook.Files.Memory
import Rulebook.Main
import Rulebook.Proofs.BoundedRun
import Rulebook.Proofs.ByteOrder
import Rulebook.Proofs.CheckInput
import Rulebook.Proofs.Construction
import Rulebook.Proofs.Delivery
import Rulebook.Proofs.Discovery
import Rulebook.Proofs.ExitStatus
import Rulebook.Proofs.Failures
import Rulebook.Proofs.FileMap
import Rulebook.Proofs.FindingPositions
import Rulebook.Proofs.GroupNames
import Rulebook.Proofs.Imports
import Rulebook.Proofs.JsonTexts
import Rulebook.Proofs.LoadHistory
import Rulebook.Proofs.Loading
import Rulebook.Proofs.Names
import Rulebook.Proofs.Overrides
import Rulebook.Proofs.PatternLists
import Rulebook.Proofs.PatternOrder
import Rulebook.Proofs.PolicyNames
import Rulebook.Proofs.Positions
import Rulebook.Proofs.Records
import Rulebook.Proofs.Registration
import Rulebook.Proofs.Resolution
import Rulebook.Proofs.RuleFaults
import Rulebook.Proofs.SeparateUnits
import Rulebook.Proofs.SkippedFiles
import Rulebook.Proofs.SortKeys
import Rulebook.Proofs.StoredFiles
import Rulebook.Proofs.Strictness
import Rulebook.Proofs.Templates
import Rulebook.Proofs.TraceGroups
import Rulebook.Proofs.Tracing
import Rulebook.Proofs.UndeclaredKeys
import Rulebook.Proofs.UnknownKeys
import Rulebook.Proofs.Variables
import Rulebook.Proofs.WellFormedRules
import Rulebook.Proofs.JsonReading
import Rulebook.Proofs.Dumps
import Rulebook.Proofs.ReportRecords
import Rulebook.Proofs.PatternReading
import Rulebook.Proofs.FoundFiles
import Rulebook.Proofs.LiteralPatterns
import Rulebook.Proofs.SameFiles
import Rulebook.Proofs.StableOrder
import Rulebook.Proofs.WrittenTemplates
import Rulebook.Proofs.Conditions
import Rulebook.Proofs.TrueMessages
import Rulebook.Proofs.Entries
import Rulebook.Proofs.PolicyLists
import Rulebook.Proofs.NodeIds
import Rulebook.Proofs.PatternLists
