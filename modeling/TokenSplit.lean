import TokenSplit.Client
import TokenSplit.Json
import TokenSplit.Main
import TokenSplit.Session
import TokenSplit.Proofs.Allocation
import TokenSplit.Proofs.Allocation.Acceptance
import TokenSplit.Proofs.Client
import TokenSplit.Proofs.CommandLine.Distribute
import TokenSplit.Proofs.CommandLine.Failure
import TokenSplit.Proofs.CommandLine.MachineReadable
import TokenSplit.Proofs.Config
import TokenSplit.Proofs.FrontEnds
import TokenSplit.Proofs.Json.RoundTrip
import TokenSplit.Proofs.Loading
import TokenSplit.Proofs.Log
import TokenSplit.Proofs.CommandLine.Count
import TokenSplit.Proofs.Session
import TokenSplit.Proofs.Split.Alike
import TokenSplit.Proofs.Split.Requests
import TokenSplit.Proofs.Split.Rounding
import TokenSplit.Proofs.Usage
import TokenSplit.Proofs.Value
import TokenSplit.Proofs.Yaml
import TokenSplit.Proofs.Yaml.Refusal
import TokenSplit.Proofs.Text.Ascii
import TokenSplit.Proofs.Yaml.Word
import TokenSplit.Proofs.Yaml.Line
import TokenSplit.Proofs.Yaml.Block
import TokenSplit.Proofs.Yaml.Tree
import TokenSplit.Proofs.Yaml.Hexadecimal
import TokenSplit.Proofs.Yaml.Numeral
import TokenSplit.Proofs.Yaml.Outline
import TokenSplit.Proofs.Config.Threshold
import TokenSplit.Proofs.CommandLine.Verbose
import TokenSplit.Proofs.Split.Cycles
import TokenSplit.Proofs.Split.Growth
import TokenSplit.Proofs.Split.Raising
import TokenSplit.Proofs.Usage.Cache
import TokenSplit.Proofs.Config.Agreement
import TokenSplit.Proofs.Usage.Reading
import TokenSplit.Proofs.Config.Schema
import TokenSplit.Proofs.CommandLine.Note
import TokenSplit.Proofs.Decimal.Finite
import TokenSplit.Proofs.Value.Text
import TokenSplit.Proofs.Client.Records
import TokenSplit.Proofs.Decimal.Grouped
import TokenSplit.Proofs.CommandLine.Table
