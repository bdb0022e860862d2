import SafeOutput.Main
import SafeOutput.Proofs.AttributeValue
import SafeOutput.Proofs.FilterStability
import SafeOutput.Proofs.Frames
import SafeOutput.Proofs.NeverSafe
import SafeOutput.Proofs.ScriptData
import SafeOutput.Proofs.TagGrammar
import SafeOutput.Proofs.Numeral
import SafeOutput.Proofs.ScriptLiteral
import SafeOutput.Proofs.PathSegments
import SafeOutput.Proofs.AttributeReading
import SafeOutput.Proofs.StyleString
import SafeOutput.Proofs.PercentEncoding
import SafeOutput.Proofs.StyleValue
import SafeOutput.Proofs.NameFilter
import SafeOutput.Proofs.AsciiFilter
import SafeOutput.Proofs.StyleEmbedding
import SafeOutput.Proofs.RawText
import SafeOutput.Proofs.Spacing
import SafeOutput.Proofs.RawTextBody
import SafeOutput.Proofs.TagList
import SafeOutput.Proofs.ContentGate
import SafeOutput.Proofs.Normalization
import SafeOutput.Proofs.StyleDeclaration
import SafeOutput.Proofs.NumberLiteral
