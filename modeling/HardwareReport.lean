import HardwareReport.CommandLine
import HardwareReport.Kernel.FreeBsd
import HardwareReport.Kernel.Mac
import HardwareReport.Linux.Layer
import HardwareReport.Main
import HardwareReport.Processor.Recording
import HardwareReport.Processor.Session
import HardwareReport.Proofs.Processor.Interruption
import HardwareReport.Proofs.Processor.Turns
import HardwareReport.Proofs.Snapshot.Collect
import HardwareReport.Proofs.Usb.Records
import HardwareReport.Snapshot.Text
import HardwareReport.Windows.Layer
import HardwareReport.Proofs.Options.Precedence
import HardwareReport.Proofs.Processor.Samples
import HardwareReport.Proofs.Tree.Contraction
import HardwareReport.Proofs.Usb.Grounded
import HardwareReport.Proofs.Text.ByteOrder
import HardwareReport.Proofs.Linux.Usb
import HardwareReport.Proofs.Windows.Walk
import HardwareReport.Proofs.Windows.Usb
import HardwareReport.Proofs.Processor.Percentage
import HardwareReport.Proofs.Processor.NativeTicks
import HardwareReport.Proofs.Processor.Identifier
import HardwareReport.Proofs.Linux.CpuInfo
import HardwareReport.Proofs.Processor.ReadBack
import HardwareReport.Proofs.Usb.Cycles
import HardwareReport.Proofs.Usb.Order
import HardwareReport.Proofs.Options.WellFormed
import HardwareReport.Proofs.Enumeration.Order
import HardwareReport.Proofs.Snapshot.Cancelled
import HardwareReport.Proofs.Linux.CpuBlocks
import HardwareReport.Proofs.Linux.Displays
import HardwareReport.Proofs.Linux.Withheld
import HardwareReport.Proofs.Processor.Frequency
import HardwareReport.Proofs.Usb.Permutation
import HardwareReport.Proofs.Linux.Counters
import HardwareReport.Proofs.Processor.LeftmostFrequency
import HardwareReport.Proofs.Processor.IdentifierGrammar
import HardwareReport.Proofs.Linux.SoundList
import HardwareReport.Proofs.Linux.Fans
import HardwareReport.Proofs.Windows.Displays
import HardwareReport.Proofs.Options.Loading
import HardwareReport.Proofs.Snapshot.UsbOutline
import HardwareReport.Proofs.Options.Milliseconds
import HardwareReport.Proofs.Processor.Backwards
import HardwareReport.Proofs.Firmware
import HardwareReport.Proofs.Windows.UsbId
import HardwareReport.Proofs.Sensors
import HardwareReport.Proofs.Display
import HardwareReport.Proofs.Quantity
