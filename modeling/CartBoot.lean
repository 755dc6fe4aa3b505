import CartBoot.Main
import CartBoot.Proofs.ByteOrder.Layout
import CartBoot.Proofs.Profile.Outcome
import CartBoot.Proofs.Profile.OrderIndependence
import CartBoot.Proofs.Walk.Record
import CartBoot.Proofs.Instruction.Encoding
import CartBoot.Proofs.Stub.Constant
import CartBoot.Proofs.Walk.Straight
import CartBoot.Proofs.Stub.Idiom
import CartBoot.Proofs.Instruction.Grammar
import CartBoot.Proofs.Walk.Window
import CartBoot.Proofs.Header.Layout
import CartBoot.Proofs.Profile.Footprint
import CartBoot.Proofs.Text.Fields
import CartBoot.Proofs.Text.ShiftJis
import CartBoot.Proofs.Report.Terse
import CartBoot.Proofs.Ipl3.Division
import CartBoot.Proofs.Toolchain.Tally
import CartBoot.Proofs.Toolchain.Blocks
import CartBoot.Proofs.Toolchain.Returns
import CartBoot.Proofs.Profile.Consistency
import CartBoot.Proofs.CommandLine.Stream
import CartBoot.Proofs.CommandLine.Batch
import CartBoot.Proofs.Tracker.History
import CartBoot.Proofs.Walk.Selection
import CartBoot.Proofs.Ipl3.Burst
import CartBoot.Proofs.Toolchain.Directions
import CartBoot.Proofs.Walk.JumpAddress
import CartBoot.Proofs.Text.Tokens
import CartBoot.Proofs.Instruction.Text
import CartBoot.Proofs.Instruction.Target
import CartBoot.Proofs.Walk.Machine
import CartBoot.Proofs.Walk.Schedule
import CartBoot.Proofs.Walk.Reuse
import CartBoot.Proofs.ByteOrder.Permutation
import CartBoot.Proofs.Walk.DelaySlot
import CartBoot.Proofs.Walk.Reports
import CartBoot.Proofs.Profile.Warnings
import CartBoot.Proofs.Text.Lines
import CartBoot.Proofs.Report.Listing
import CartBoot.Proofs.Header.Format
