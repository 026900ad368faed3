import AerialBridge.Bytes.Loop
import AerialBridge.Bytes.Memory
import AerialBridge.Slot.Extender
import AerialBridge.Indication.Messages
import AerialBridge.Indication.Decoders
import AerialBridge.RxThread.Safety
import AerialBridge.Indication.SlotPoints
import AerialBridge.RxThread.SlotPath
import AerialBridge.RxThread.Timeline
import AerialBridge.Indication.RxData
import AerialBridge.Indication.UciRoundTrip
import AerialBridge.Request.Writer
import AerialBridge.Bytes.Bump
import AerialBridge.Request.TxData
import AerialBridge.Request.TxDataRoundTrip
import AerialBridge.Request.TxDataIntegrity
import AerialBridge.Request.Messages
import AerialBridge.Request.PackedStructs
import AerialBridge.Request.DlPdus
import AerialBridge.Request.DlTti
import AerialBridge.Request.DlParser
import AerialBridge.Request.DlLossless
import AerialBridge.Request.UlPdus
import AerialBridge.Request.UlParser
import AerialBridge.Request.UlLossless
import AerialBridge.Bytes.Related
import AerialBridge.Indication.PerPdu
import AerialBridge.Indication.UciIsolation
import AerialBridge.Indication.RecordWire
import AerialBridge.Bytes.Truncated
import AerialBridge.Indication.RecordRoundTrip
import AerialBridge.Indication.Truncation
import AerialBridge.RxThread.DataBounds
import AerialBridge.Request.Encoding
import AerialBridge.Request.Capacity
import AerialBridge.Request.StaleBytes
import AerialBridge.Bytes.Records
import AerialBridge.Request.UlTrailer
import AerialBridge.Request.Pairing
import AerialBridge.Transition.Run
import AerialBridge.RxThread.RunLoop
import AerialBridge.RxThread.Shutdown
import AerialBridge.Sector.Startup
import AerialBridge.Indication.Traces
import AerialBridge.Request.TxDataPlacement
import AerialBridge.Runtime.Metrics
import AerialBridge.Sector.Tlv
import AerialBridge.Runtime.Events
import AerialBridge.Runtime.PayloadBytes
import AerialBridge.Text.Numerals
import AerialBridge.Text.Pattern
import AerialBridge.Text.Scanning
import AerialBridge.Assets.TvNames
import AerialBridge.Runtime.LogLines
import AerialBridge.Text.Tokens
import AerialBridge.Report.Regexes
import AerialBridge.Report.Characterize
import AerialBridge.Report.Signoff
import AerialBridge.Collections.Sampling
import AerialBridge.Runtime.LogGates
import AerialBridge.Report.L1Log
import AerialBridge.Report.UlRun
import AerialBridge.Report.UlLogs
import AerialBridge.Report.UlSanity
import AerialBridge.Transition.Ownership
import AerialBridge.Transition.Inevitably
import AerialBridge.Bytes.Pointers
import AerialBridge.Gateway.Requests
import AerialBridge.Gateway.Messages
import AerialBridge.Gateway.Interleaving
import AerialBridge.Gateway.Buffers
import AerialBridge.Gateway.Delivery
import AerialBridge.Gateway.Calls
import AerialBridge.Gateway.Reading
import AerialBridge.RxThread.Sequential
import AerialBridge.RxThread.Wakeup
import AerialBridge.RxThread.Uplink
import AerialBridge.Transition.Interleaving
import AerialBridge.Runtime.Threads
import AerialBridge.BridgeTest.Loop
import AerialBridge.BridgeTest.Answers
import AerialBridge.Assets.Yaml
import AerialBridge.Assets.Manifest
import AerialBridge.Assets.Loopback
import AerialBridge.Text.Replacement
import AerialBridge.Text.Lines
import AerialBridge.Report.Health
import AerialBridge.Collections.Edits
import AerialBridge.Patches.Scripts
import AerialBridge.Patches.Marks
import AerialBridge.Gdr.Stub
import AerialBridge.Gdr.PrivateBuffers
import AerialBridge.Sector.Registration
import AerialBridge.Plugin.Histories
