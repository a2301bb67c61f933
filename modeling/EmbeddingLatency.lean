import EmbeddingLatency.Batches
import EmbeddingLatency.Bench.Backend
import EmbeddingLatency.Bench.Campaign
import EmbeddingLatency.Bench.Journal
import EmbeddingLatency.Bench.Observer
import EmbeddingLatency.Bench.Unit
import EmbeddingLatency.Catalog
import EmbeddingLatency.CommandLine.Grammar
import EmbeddingLatency.CommandLine.Latency
import EmbeddingLatency.CommandLine.Throughput
import EmbeddingLatency.CommandLine.Values
import EmbeddingLatency.Comparison
import EmbeddingLatency.Decimal.Binary
import EmbeddingLatency.Decimal.Fixed
import EmbeddingLatency.Decimal.Numeral
import EmbeddingLatency.Decimal.Rounding
import EmbeddingLatency.Decimal.Shortest
import EmbeddingLatency.Device
import EmbeddingLatency.Distinct
import EmbeddingLatency.Duration
import EmbeddingLatency.Fault
import EmbeddingLatency.Files.Basic
import EmbeddingLatency.Files.Tree
import EmbeddingLatency.Grouping
import EmbeddingLatency.Host.Account
import EmbeddingLatency.Host.Hardware
import EmbeddingLatency.Host.Probe
import EmbeddingLatency.Json.Reader
import EmbeddingLatency.Json.Token
import EmbeddingLatency.Json.Value
import EmbeddingLatency.Json.Writer
import EmbeddingLatency.Log
import EmbeddingLatency.Main
import EmbeddingLatency.Model.Config
import EmbeddingLatency.Model.Facts
import EmbeddingLatency.Onnx.Backend
import EmbeddingLatency.Onnx.Batch
import EmbeddingLatency.Onnx.Cache
import EmbeddingLatency.Onnx.Embedder
import EmbeddingLatency.Onnx.Graph
import EmbeddingLatency.Onnx.Pooling
import EmbeddingLatency.Onnx.Tokenizer
import EmbeddingLatency.Program.Host
import EmbeddingLatency.Program.Latency
import EmbeddingLatency.Program.RawThroughput
import EmbeddingLatency.Proofs.Bench.CallPlan
import EmbeddingLatency.Proofs.Bench.CampaignRuns
import EmbeddingLatency.Proofs.Bench.Isolation
import EmbeddingLatency.Proofs.Bench.Lifetimes
import EmbeddingLatency.Proofs.Bench.Recording
import EmbeddingLatency.Proofs.Bench.Successes
import EmbeddingLatency.Proofs.Bench.UnitRuns
import EmbeddingLatency.Proofs.CommandLine.Flags
import EmbeddingLatency.Proofs.Comparison.GroupOrder
import EmbeddingLatency.Proofs.Comparison.GroupSpeedups
import EmbeddingLatency.Proofs.Comparison.Groups
import EmbeddingLatency.Proofs.Comparison.Order
import EmbeddingLatency.Proofs.Comparison.Table
import EmbeddingLatency.Proofs.Decimal.ExactValues
import EmbeddingLatency.Proofs.Decimal.FixedPlaces
import EmbeddingLatency.Proofs.Decimal.FloatNumerals
import EmbeddingLatency.Proofs.Decimal.NearestDoubles
import EmbeddingLatency.Proofs.Decimal.Operations
import EmbeddingLatency.Proofs.Decimal.WholeNumbers
import EmbeddingLatency.Proofs.Host.GpuFields
import EmbeddingLatency.Proofs.Host.PhysicalCores
import EmbeddingLatency.Proofs.Json.Documents
import EmbeddingLatency.Proofs.Json.Doubles
import EmbeddingLatency.Proofs.Model.ConfigKeys
import EmbeddingLatency.Proofs.Onnx.Batching
import EmbeddingLatency.Proofs.Onnx.OutputShapes
import EmbeddingLatency.Proofs.Onnx.SparseFormula
import EmbeddingLatency.Proofs.Onnx.TokenLimits
import EmbeddingLatency.Proofs.Onnx.WordTokens
import EmbeddingLatency.Proofs.Onnx.WrittenBatches
import EmbeddingLatency.Proofs.Report.Alignment
import EmbeddingLatency.Proofs.Report.ArrivalOrder
import EmbeddingLatency.Proofs.Report.Columns
import EmbeddingLatency.Proofs.Report.Coverage
import EmbeddingLatency.Proofs.Report.CsvColumns
import EmbeddingLatency.Proofs.Report.CsvReading
import EmbeddingLatency.Proofs.Report.Exports
import EmbeddingLatency.Proofs.Report.JsonReading
import EmbeddingLatency.Proofs.Report.MarkdownTables
import EmbeddingLatency.Proofs.Report.ModelTable
import EmbeddingLatency.Proofs.Report.OneMoreResult
import EmbeddingLatency.Proofs.Report.PipeTables
import EmbeddingLatency.Proofs.Report.Renderings
import EmbeddingLatency.Proofs.Report.SizeBlocks
import EmbeddingLatency.Proofs.Report.Tenths
import EmbeddingLatency.Proofs.Report.Units
import EmbeddingLatency.Proofs.Settings.RoundTrip
import EmbeddingLatency.Proofs.Statistics.Arrangement
import EmbeddingLatency.Proofs.Statistics.CutPoints
import EmbeddingLatency.Proofs.Statistics.Percentiles
import EmbeddingLatency.Proofs.Text.ByteOrder
import EmbeddingLatency.Proofs.Text.Mentions
import EmbeddingLatency.Proofs.Throughput.Passes
import EmbeddingLatency.Query
import EmbeddingLatency.Rehearsal.Batches
import EmbeddingLatency.Rehearsal.Graph
import EmbeddingLatency.Rehearsal.Machine
import EmbeddingLatency.Rehearsal.Units
import EmbeddingLatency.Report.Cells
import EmbeddingLatency.Report.Console
import EmbeddingLatency.Report.Csv
import EmbeddingLatency.Report.Dataset
import EmbeddingLatency.Report.Export
import EmbeddingLatency.Report.Json
import EmbeddingLatency.Report.Markdown
import EmbeddingLatency.Results
import EmbeddingLatency.Series
import EmbeddingLatency.Settings.Basic
import EmbeddingLatency.Settings.Directories
import EmbeddingLatency.Settings.Json
import EmbeddingLatency.Settings.Toml
import EmbeddingLatency.Statistics
import EmbeddingLatency.Text.Blank
import EmbeddingLatency.Text.Layout
import EmbeddingLatency.Text.Lowercase
import EmbeddingLatency.Text.Quoted
import EmbeddingLatency.Text.Reader
import EmbeddingLatency.Text.Visible
import EmbeddingLatency.Throughput.Basic
import EmbeddingLatency.Timestamp
import EmbeddingLatency.Toml.Document
import EmbeddingLatency.Toml.Literal
import EmbeddingLatency.Toml.Value
