import Lingo.Analysis
import Lingo.Binary64
import Lingo.Check.Rules
import Lingo.Check.Symbols
import Lingo.Code.Call
import Lingo.Code.Eval
import Lingo.Code.Primitive
import Lingo.Code.Render
import Lingo.Code.Reserved
import Lingo.Code.Syntax
import Lingo.Code.Value
import Lingo.Codec.Chinese
import Lingo.Codec.DomainName
import Lingo.Codec.Encode
import Lingo.Codec.Grid
import Lingo.Codec.Grids.Big5
import Lingo.Codec.Grids.Gbk
import Lingo.Codec.Grids.JisX0208
import Lingo.Codec.Grids.JisX0212
import Lingo.Codec.Grids.JisX0213
import Lingo.Codec.Grids.KsX1001
import Lingo.Codec.Iso2022
import Lingo.Codec.Japanese
import Lingo.Codec.Korean
import Lingo.Codec.Multibyte
import Lingo.Codec.Names
import Lingo.Codec.Punycode
import Lingo.Codec.Ranges
import Lingo.Codec.Tables
import Lingo.Codec.Unicode.Composition
import Lingo.Codec.Unicode.Decomposition
import Lingo.Codec.Unicode.Nameprep
import Lingo.Codec.Unicode.Normalize
import Lingo.Codec.Utf7
import Lingo.Compile
import Lingo.Datum.Arith
import Lingo.Datum.Basic
import Lingo.Decimal.Layout
import Lingo.Decimal.Reading
import Lingo.Decimal.Shortest
import Lingo.Emit.Context
import Lingo.Emit.Expr
import Lingo.Emit.Guards
import Lingo.Emit.Module
import Lingo.Emit.Translation
import Lingo.Error
import Lingo.Fold
import Lingo.Infer
import Lingo.Keyed
import Lingo.Scalar.Arith
import Lingo.Scalar.Basic
import Lingo.Text.CodePoint
import Lingo.Text.Digit
import Lingo.Text.Pointer
import Lingo.Text.Printable
import Lingo.Text.Quoted
import Lingo.Text.Space
import Lingo.Tree.Build
import Lingo.Tree.Memo
import Lingo.Tree.Node
import Lingo.Tree.Outline
import Lingo.Tree.Pos
import Lingo.Tree.Reposition
import Lingo.Ty
import Lingo.TypeMap
import Lingo.Typing
import Lingo.Proofs.Grammar
import Lingo.Proofs.Join
import Lingo.Proofs.Recording
import Lingo.Proofs.Inference
import Lingo.Proofs.SharedInference
import Lingo.Proofs.Running
import Lingo.Proofs.Guards
import Lingo.Proofs.Calling
import Lingo.Proofs.DeadCode
import Lingo.Proofs.Keys
import Lingo.Proofs.Tests
import Lingo.Proofs.Passes
import Lingo.Proofs.RuleChain
import Lingo.Proofs.FirstMatch
import Lingo.Proofs.ConflictLog
import Lingo.Proofs.FoldedTrees
import Lingo.Proofs.FoldFixedPoint
import Lingo.Proofs.KeyedLists
import Lingo.Proofs.Frame
import Lingo.Proofs.HelperUse
import Lingo.Proofs.SymbolEvents
import Lingo.Proofs.SymbolCheck
import Lingo.Proofs.ConflictFree
import Lingo.Proofs.VariableTypes
import Lingo.Proofs.TextRendering
import Lingo.Proofs.ModuleHelpers
import Lingo.Proofs.Tables
import Lingo.Proofs.DeclaredArguments
import Lingo.Proofs.Repositioning
import Lingo.Proofs.FirstMismatch
import Lingo.Proofs.OperatorMisuse
import Lingo.Proofs.ScalarLiterals
import Lingo.Proofs.AdmittedCode
import Lingo.Proofs.TableLoading
import Lingo.Proofs.Lines
import Lingo.Proofs.ErrorPointer
import Lingo.Proofs.TreeOutline
