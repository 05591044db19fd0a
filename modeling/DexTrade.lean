import DexTrade.Abi.Decode
import DexTrade.Abi.Encode
import DexTrade.Abi.Error
import DexTrade.Abi.Interface
import DexTrade.Abi.Layout
import DexTrade.Address
import DexTrade.Analysis.Dispatch
import DexTrade.Analysis.Failure
import DexTrade.Analysis.Universal
import DexTrade.Analysis.V2
import DexTrade.Analysis.V3
import DexTrade.Binary64.Basic
import DexTrade.Binary64.Shortest
import DexTrade.Binary64.Text
import DexTrade.Bytes
import DexTrade.Chain.Basic
import DexTrade.CommandLine.Arguments
import DexTrade.CommandLine.LogFilter
import DexTrade.CommandLine.Program
import DexTrade.Decimal.Basic
import DexTrade.Decimal.Division
import DexTrade.Decimal.OfBinary64
import DexTrade.Error
import DexTrade.Event.Basic
import DexTrade.Event.OfLog
import DexTrade.Inquiry
import DexTrade.Journal
import DexTrade.Json.Print
import DexTrade.Json.Read
import DexTrade.Json.Value
import DexTrade.Keccak
import DexTrade.Main
import DexTrade.Node.Member
import DexTrade.Node.Message
import DexTrade.Node.Receipt
import DexTrade.Node.Request
import DexTrade.Node.Response
import DexTrade.Node.Revert
import DexTrade.Node.Session
import DexTrade.Node.Transaction
import DexTrade.Node.Url
import DexTrade.Pool.Details
import DexTrade.Pool.Path
import DexTrade.Price
import DexTrade.Router.Builtin
import DexTrade.Router.OfToml
import DexTrade.Router.Table
import DexTrade.Settings.Basic
import DexTrade.Settings.EnvFile
import DexTrade.Swap.Call
import DexTrade.Swap.Command
import DexTrade.Swap.UniversalRouter
import DexTrade.Swap.V2Router
import DexTrade.Swap.V3Router
import DexTrade.Text.Alphanumeric
import DexTrade.Text.Blank
import DexTrade.Text.CaseData
import DexTrade.Text.Hex
import DexTrade.Text.Lowercase
import DexTrade.Text.PrintData
import DexTrade.Text.Quoted
import DexTrade.Text.Utf8
import DexTrade.Toml.Bare
import DexTrade.Toml.Document
import DexTrade.Toml.Quoted
import DexTrade.Toml.Table
import DexTrade.Toml.Value
import DexTrade.Trade.Basic
import DexTrade.Trade.Text
import DexTrade.TxHash
import DexTrade.Word
import DexTrade.Proofs.Abi.RoundTrip
import DexTrade.Proofs.Abi.Selector
import DexTrade.Proofs.Pool.Path
import DexTrade.Proofs.Pool.Codec
import DexTrade.Proofs.V3Router.Calldata
import DexTrade.Proofs.V3Router.Swaps
import DexTrade.Proofs.V3Router.Multicall
import DexTrade.Proofs.Analysis.Run
import DexTrade.Proofs.Trade.Gas
import DexTrade.Proofs.Analysis.Status
import DexTrade.Proofs.UniversalRouter.Calldata
import DexTrade.Proofs.Analysis.Executed
import DexTrade.Proofs.UniversalRouter.Operations
import DexTrade.Proofs.Analysis.SwapSet
import DexTrade.Proofs.V3Router.Agreement
import DexTrade.Proofs.Event.OfLog
import DexTrade.Proofs.Event.Padding
import DexTrade.Proofs.Event.Report
import DexTrade.Proofs.Analysis.Agreement
import DexTrade.Proofs.Swap.Shape
import DexTrade.Proofs.Analysis.Errors
import DexTrade.Proofs.Analysis.Reads
import DexTrade.Proofs.Analysis.FailedReads
import DexTrade.Proofs.Node.Work
import DexTrade.Proofs.Node.Calls
import DexTrade.Proofs.Node.Fresh
import DexTrade.Proofs.Node.Course
import DexTrade.Proofs.Node.TokenCache
import DexTrade.Proofs.Decimal.Division
import DexTrade.Proofs.Price
import DexTrade.Proofs.Analysis.Success
import DexTrade.Proofs.Analysis.Price
import DexTrade.Proofs.Analysis.Logs
import DexTrade.Proofs.Analysis.Route
import DexTrade.Proofs.Toml.Keys
import DexTrade.Proofs.Router.Table
import DexTrade.Proofs.Router.Loading
import DexTrade.Proofs.Analysis.Family
import DexTrade.Proofs.Analysis.Journal
import DexTrade.Proofs.Analysis.PoolTrade
import DexTrade.Proofs.Decimal.Overflow
import DexTrade.Proofs.Analysis.PairTrade
import DexTrade.Proofs.Text.Lowercase
import DexTrade.Proofs.Router.Spelling
import DexTrade.Proofs.V2Router.Calldata
import DexTrade.Proofs.V2Router.Agreement
import DexTrade.Proofs.Decimal.Accuracy
import DexTrade.Proofs.Price.Executed
import DexTrade.Proofs.Price.Reversed
import DexTrade.Proofs.Analysis.Guards
import DexTrade.Proofs.Trade.Cost
import DexTrade.Proofs.Router.Lookup
import DexTrade.Proofs.TxHash
import DexTrade.Proofs.V3Router.Depth
