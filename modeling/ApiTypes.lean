import ApiTypes.CommandLine.Outcome
import ApiTypes.Main
import ApiTypes.Vocabulary.Decode
import ApiTypes.Proofs.Traversal
import ApiTypes.Proofs.Component
import ApiTypes.Proofs.Operation
import ApiTypes.Proofs.Documentation
import ApiTypes.Proofs.Mistyped
import ApiTypes.Proofs.References
import ApiTypes.Proofs.Declaration
import ApiTypes.Proofs.Payload
import ApiTypes.Proofs.Unfolding
import ApiTypes.Proofs.Hoisting
import ApiTypes.Proofs.Inline
import ApiTypes.Proofs.Decoding
import ApiTypes.Proofs.Denotation
import ApiTypes.Proofs.Validity
import ApiTypes.Proofs.Declared
import ApiTypes.Proofs.Located
import ApiTypes.Proofs.Dump
import ApiTypes.Proofs.Capture
import ApiTypes.Proofs.Keys
import ApiTypes.Proofs.JsonDocument
import ApiTypes.Proofs.Blind
import ApiTypes.Proofs.BlindExpression
import ApiTypes.Proofs.BlindStatement
import ApiTypes.Proofs.LexedAlike
import ApiTypes.Proofs.InlineBody
import ApiTypes.Proofs.Writing
import ApiTypes.Proofs.AllOrNothing
import ApiTypes.Proofs.Identifier
import ApiTypes.Proofs.Loading
import ApiTypes.Proofs.Calling
import ApiTypes.Proofs.Placed
import ApiTypes.Proofs.Passing
import ApiTypes.Proofs.Muting
import ApiTypes.Proofs.Halting
import ApiTypes.Proofs.MutedComponents
import ApiTypes.Proofs.MutedOperations
import ApiTypes.Proofs.FreeText
import ApiTypes.Proofs.Grammar
import ApiTypes.Proofs.FirstRefusal
import ApiTypes.Proofs.Conformance
import ApiTypes.Proofs.Reordering
import ApiTypes.Proofs.Division
import ApiTypes.Proofs.SnakeWords
import ApiTypes.Proofs.Signature
import ApiTypes.Proofs.Imports
import ApiTypes.Proofs.WrittenDocumentation
import ApiTypes.Proofs.UsableName
import ApiTypes.Proofs.ArrayDepth
import ApiTypes.Proofs.Escaping
import ApiTypes.Proofs.LeastName
import ApiTypes.Proofs.SortedText
