import FaultWatch.BitNames
import FaultWatch.Catch.Channel
import FaultWatch.Catch.Decision
import FaultWatch.Catch.Ending
import FaultWatch.Catch.Loopback
import FaultWatch.Catch.PortUse
import FaultWatch.Catch.Race
import FaultWatch.Catch.Rehearsal
import FaultWatch.Catch.SafeguardStore
import FaultWatch.Catch.Safeguards
import FaultWatch.Catch.ScriptedPort
import FaultWatch.Catch.Settings
import FaultWatch.Catch.Tokens
import FaultWatch.Catch.Watch
import FaultWatch.Category
import FaultWatch.CommandLine.Directory
import FaultWatch.CommandLine.Outcome
import FaultWatch.CommandLine.Request
import FaultWatch.Decoder
import FaultWatch.Diagnosis
import FaultWatch.Family
import FaultWatch.Fault
import FaultWatch.Field
import FaultWatch.Field.Layout
import FaultWatch.Input
import FaultWatch.Input.Batch
import FaultWatch.Json
import FaultWatch.Json.Parse
import FaultWatch.Json.Read
import FaultWatch.Log
import FaultWatch.Main
import FaultWatch.Mask
import FaultWatch.Payload.Arithmetic
import FaultWatch.Payload.BadAccess
import FaultWatch.Payload.BadInstruction
import FaultWatch.Payload.Breakpoint
import FaultWatch.Payload.Corpse
import FaultWatch.Payload.Crash
import FaultWatch.Payload.Fields
import FaultWatch.Payload.Guard
import FaultWatch.Payload.Namespace
import FaultWatch.Payload.Resource
import FaultWatch.Payload.Software
import FaultWatch.Payload.Syscall
import FaultWatch.Proofs.BitNames
import FaultWatch.Proofs.CommandLine.Agreement
import FaultWatch.Proofs.CommandLine.Arguments
import FaultWatch.Proofs.CommandLine.Discipline
import FaultWatch.Proofs.CommandLine.Masks
import FaultWatch.Proofs.CommandLine.Placement
import FaultWatch.Proofs.Corpse
import FaultWatch.Proofs.Crash
import FaultWatch.Proofs.Decision
import FaultWatch.Proofs.Decoder
import FaultWatch.Proofs.Field
import FaultWatch.Proofs.Guard
import FaultWatch.Proofs.Input.Batch
import FaultWatch.Proofs.Input.Code
import FaultWatch.Proofs.Input.Line
import FaultWatch.Proofs.Input.Lines
import FaultWatch.Proofs.Input.Mask
import FaultWatch.Proofs.Input.Word
import FaultWatch.Proofs.Json.Payload
import FaultWatch.Proofs.Json.Read
import FaultWatch.Proofs.Json.Report
import FaultWatch.Proofs.Json.Settings
import FaultWatch.Proofs.Json.Text
import FaultWatch.Proofs.Layout
import FaultWatch.Proofs.Loopback
import FaultWatch.Proofs.Mask
import FaultWatch.Proofs.Origin
import FaultWatch.Proofs.Overlap
import FaultWatch.Proofs.PortUse.Delivery
import FaultWatch.Proofs.PortUse.Exclusive
import FaultWatch.Proofs.PortUse.Life
import FaultWatch.Proofs.PortUse.Move
import FaultWatch.Proofs.PortUse.Watches
import FaultWatch.Proofs.Race.Closing
import FaultWatch.Proofs.Race.Deed
import FaultWatch.Proofs.Race.Holders
import FaultWatch.Proofs.Race.Move
import FaultWatch.Proofs.Race.Provenance
import FaultWatch.Proofs.Race.Queue
import FaultWatch.Proofs.Race.Release
import FaultWatch.Proofs.Race.Script
import FaultWatch.Proofs.Race.Service
import FaultWatch.Proofs.Race.Sides
import FaultWatch.Proofs.Race.Stopping
import FaultWatch.Proofs.Race.Teardown
import FaultWatch.Proofs.Race.Window
import FaultWatch.Proofs.Race.Winner
import FaultWatch.Proofs.Recognition
import FaultWatch.Proofs.Refusal
import FaultWatch.Proofs.Report
import FaultWatch.Proofs.Resource
import FaultWatch.Proofs.SafeguardStore
import FaultWatch.Proofs.Slots
import FaultWatch.Proofs.StoreUse
import FaultWatch.Proofs.Term.Payload
import FaultWatch.Proofs.Term.Text
import FaultWatch.Proofs.Text.Digits
import FaultWatch.Proofs.Text.Numeral
import FaultWatch.Proofs.Text.Runs
import FaultWatch.Proofs.Text.Split
import FaultWatch.Proofs.Tokens
import FaultWatch.Proofs.Watch
import FaultWatch.Report
import FaultWatch.Term
import FaultWatch.Text.Blank
import FaultWatch.Text.Hyphenated
import FaultWatch.Text.Numeral
import FaultWatch.Text.Split
