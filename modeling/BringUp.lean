import BringUp.Board.Basic
import BringUp.Bridge
import BringUp.Core
import BringUp.Dram.Init
import BringUp.Hooks
import BringUp.Iossm.Sequence.Lemmas
import BringUp.Proofs.Program.Footprint
import BringUp.Proofs.Iossm.Performs
import BringUp.Proofs.Program.Content
import BringUp.Proofs.Program.History
import BringUp.Proofs.Dram.Stages
import BringUp.Proofs.Iossm.Footprint
import BringUp.Proofs.Dram.Footprint
import BringUp.Proofs.DeviceTree.Footprint
import BringUp.Proofs.Iossm.Frame
import BringUp.Proofs.Iossm.Inventory
import BringUp.Proofs.Iossm.MemoryInit
import BringUp.Proofs.Dram.HangDetection
import BringUp.Proofs.Dram.Rehearsal
import BringUp.Proofs.Dram.Coverage
import BringUp.Proofs.Dram.Layout
import BringUp.Proofs.Dram.Inventory
import BringUp.Proofs.Dram.Faults
import BringUp.Proofs.Dram.Detection
import BringUp.Proofs.Dram.Verification
import BringUp.Proofs.Dram.EccContent
import BringUp.Proofs.Iossm.MailboxFailure
import BringUp.Proofs.Dram.Opening
import BringUp.Proofs.Dram.FailStop
import BringUp.Proofs.Dram.SecureMonitor
import BringUp.Proofs.Program.Polling
import BringUp.Proofs.Iossm.Calibration
import BringUp.Proofs.Dram.Calibration
import BringUp.Proofs.Iossm.Responder
import BringUp.Proofs.Iossm.Delivery
import BringUp.Proofs.Iossm.RequestCourse
import BringUp.Proofs.Iossm.Matching
import BringUp.Proofs.Dram.AddressSpace
import BringUp.Proofs.Dram.Retention
import BringUp.Proofs.Dram.Repetition
import BringUp.Proofs.DeviceTree.Settings
import BringUp.Proofs.Dram.Settings
import BringUp.Proofs.Iossm.Addressing
import BringUp.Proofs.Dram.Commands
import BringUp.Proofs.Iossm.Bookkeeping
import BringUp.Proofs.Dram.Bookkeeping
import BringUp.Proofs.Dram.Fabric
import BringUp.Proofs.Dram.Registers
import BringUp.Proofs.Iossm.Slots
import BringUp.Proofs.Iossm.Technology
import BringUp.Proofs.Iossm.Completion
import BringUp.Proofs.Iossm.CalibrationCheck
import BringUp.Proofs.Iossm.Attempts
import BringUp.Proofs.Iossm.Recalibration
import BringUp.Proofs.Iossm.Recheck
import BringUp.Proofs.Dram.Windows
import BringUp.Proofs.Dram.Chunks
import BringUp.Proofs.Dram.AddressWords
import BringUp.Proofs.Program.Services
import BringUp.Proofs.Dram.Accesses
import BringUp.Proofs.Dram.Agreement
import BringUp.Proofs.Bridge.Handshake
import BringUp.Proofs.Program.Modification
import BringUp.Proofs.Bridge.Protection
import BringUp.Proofs.DeviceTree.Extent
import BringUp.Proofs.Dram.Regions
import BringUp.Proofs.Program.ByteMemory
import BringUp.Proofs.DeviceTree.Meaning
import BringUp.Proofs.Dram.Filling
import BringUp.Proofs.Iossm.Discipline
import BringUp.Proofs.Iossm.Initialization
import BringUp.Proofs.Handoff.Reading
import BringUp.Proofs.Handoff.Truncation
import BringUp.Proofs.Iossm.Replies
import BringUp.Proofs.Iossm.Sizes
import BringUp.Proofs.Iossm.EccAgreement
import BringUp.Proofs.Program.Timer
import BringUp.Proofs.Hooks.Export
