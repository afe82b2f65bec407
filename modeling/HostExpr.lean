import HostExpr.Number.Text
import HostExpr.Text.Blank
import HostExpr.Text.Case
import HostExpr.Text.Letter
import HostExpr.Lexer
import HostExpr.Parser
import HostExpr.Eval
import HostExpr.Host.ListHost
import HostExpr.Host.TextHost
import HostExpr.Json.Reader
import HostExpr.CommandLine
import HostExpr.Main
import HostExpr.Proofs.Stateful
import HostExpr.Proofs.Grammar
import HostExpr.Proofs.Reading
import HostExpr.Proofs.Soundness
import HostExpr.Proofs.Spelling
import HostExpr.Proofs.Completeness
import HostExpr.Proofs.NumberText
import HostExpr.Proofs.Scanning
import HostExpr.Proofs.TokenSpelling
import HostExpr.Proofs.Stretches
import HostExpr.Proofs.Boundaries
import HostExpr.Proofs.TokenPrinting
import HostExpr.Proofs.Lockstep
import HostExpr.Proofs.NestingLimit
import HostExpr.Proofs.Locality
import HostExpr.Proofs.Remainder
import HostExpr.Proofs.Arithmetic
import HostExpr.Proofs.Alike
import HostExpr.Proofs.CallGate
import HostExpr.Proofs.Comparison
import HostExpr.Proofs.CallOrder
import HostExpr.Proofs.Guarded
import HostExpr.Proofs.HostTables
import HostExpr.Proofs.Confinement
import HostExpr.Proofs.Chains
import HostExpr.Proofs.RootNames
import HostExpr.Proofs.Unreached
import HostExpr.Proofs.Embedding
import HostExpr.Proofs.Regrouping
import HostExpr.Proofs.ClosedSum
import HostExpr.Proofs.JsonScalars
import HostExpr.Proofs.JsonRoundTrip
import HostExpr.Proofs.TokenBuffer
import HostExpr.Proofs.BufferReading
import HostExpr.Proofs.OrderedChoice
import HostExpr.Proofs.CallHistory
import HostExpr.Proofs.Respacing
import HostExpr.Proofs.Concatenation
import HostExpr.Proofs.SignBit
import HostExpr.Proofs.OperandEnds
import HostExpr.Proofs.MinusSigns
import HostExpr.Proofs.Completions
import HostExpr.Proofs.ViablePrefix
import HostExpr.Proofs.DoubleValue
import HostExpr.Proofs.ExactDoubles
import HostExpr.Proofs.IntegerPart
import HostExpr.Proofs.Binding
import HostExpr.Proofs.Subvalues
import HostExpr.Proofs.ValueEquality
import HostExpr.Proofs.ValueOrder
import HostExpr.Proofs.JsonConversion
import HostExpr.Proofs.DistinctKeys
import HostExpr.Proofs.FailureCauses
import HostExpr.Proofs.MapBuilding
import HostExpr.Proofs.EqualKeys
import HostExpr.Proofs.RoundedNaturals
import HostExpr.Proofs.Slices
import HostExpr.Proofs.Occurrences
import HostExpr.Proofs.ReadNumbers
import HostExpr.Proofs.ReadTrees
