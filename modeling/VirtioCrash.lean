import VirtioCrash.Lib.StateProgram
import VirtioCrash.Lib.Run
import VirtioCrash.Lib.Bytes
import VirtioCrash.Lib.ByteMemory
import VirtioCrash.Lib.SplitRing
import VirtioCrash.Lib.CountedRing
import VirtioCrash.Lib.SlotTable
import VirtioCrash.Lib.DriverRing
import VirtioCrash.Harness.World
import VirtioCrash.Lib.BumpAllocator
import VirtioCrash.Harness.Pool
import VirtioCrash.Lib.BitClear
import VirtioCrash.Harness.Ring
import VirtioCrash.Harness.Common
import VirtioCrash.Harness.Steps
import VirtioCrash.Harness.PoolInvariant
import VirtioCrash.Harness.Layout
import VirtioCrash.Harness.Program
import VirtioCrash.Harness.Confined
import VirtioCrash.Harness.Request
import VirtioCrash.Harness.DeviceLatch
import VirtioCrash.Harness.Containment
import VirtioCrash.Harness.Chain
import VirtioCrash.Harness.DescriptorLinks
import VirtioCrash.Harness.AvailRing
import VirtioCrash.Blk.Harness
import VirtioCrash.Blk.Agreement
import VirtioCrash.Blk.Threads
import VirtioCrash.Blk.Containment
import VirtioCrash.Net.Harness
import VirtioCrash.Gpu.Harness
import VirtioCrash.Gpu.Submission
import VirtioCrash.Gpu.Threads
import VirtioCrash.Gpu.Slots
import VirtioCrash.Qtest.Calls
import VirtioCrash.Qtest.Client
import VirtioCrash.Qtest.Session
import VirtioCrash.Qtest.Events
import VirtioCrash.Scsi.Harness
import VirtioCrash.Scsi.RequestFormat
import VirtioCrash.Targets.BufferPool
import VirtioCrash.Targets.Channels
import VirtioCrash.Targets.QueueLayout
import VirtioCrash.Targets.QueueSizes
import VirtioCrash.Targets.RingArithmetic
import VirtioCrash.Targets.PublishedChains
import VirtioCrash.Fs.Backend
import VirtioCrash.Scsi.Lun
import VirtioCrash.Harness.Submission
import VirtioCrash.Scsi.CdbFormat
import VirtioCrash.Scsi.DataBuffer
import VirtioCrash.Snd.Harness
import VirtioCrash.Snd.ControlFormat
import VirtioCrash.Blk.RingEntries
import VirtioCrash.Blk.Schedule
import VirtioCrash.Harness.Repeatable
import VirtioCrash.Gpu.Repeatable
import VirtioCrash.Net.Repeatable
import VirtioCrash.Targets.Independence
import VirtioCrash.Targets.RingAgreement
import VirtioCrash.Targets.RingRuns
import VirtioCrash.Targets.RingContents
import VirtioCrash.Harness.Checked
import VirtioCrash.Net.Checked
import VirtioCrash.Net.ControlQueue
import VirtioCrash.Harness.AllOrNothing
import VirtioCrash.Net.Submissions
import VirtioCrash.Gpu.Outcome
import VirtioCrash.Targets.Submissions
import VirtioCrash.Harness.Buffers
import VirtioCrash.Harness.RingContents
import VirtioCrash.Harness.Message
import VirtioCrash.Harness.Reached
import VirtioCrash.Lib.Decoder
import VirtioCrash.Net.Payloads
import VirtioCrash.Net.VlanSlots
import VirtioCrash.Harness.Ids
import VirtioCrash.Net.Minting
import VirtioCrash.Net.PairsSet
import VirtioCrash.Harness.AllocCalls
import VirtioCrash.Net.UserIds
import VirtioCrash.Scsi.AllocFailure
import VirtioCrash.Harness.Plain
import VirtioCrash.Console.Harness
import VirtioCrash.Console.Ports
import VirtioCrash.Input.Harness
import VirtioCrash.Input.StatusEvents
import VirtioCrash.Vsock.Harness
import VirtioCrash.Vsock.PacketFormat
import VirtioCrash.Vsock.PacketStream
import VirtioCrash.Balloon.Harness
import VirtioCrash.Balloon.ListFormat
import VirtioCrash.Balloon.ListStream
import VirtioCrash.Fs.Harness
import VirtioCrash.Fs.RequestFormat
import VirtioCrash.Fs.ArgumentStructs
import VirtioCrash.Blk.RegisterWindow
import VirtioCrash.Targets.AbsoluteWrites
import VirtioCrash.Scsi.DescriptorRanges
import VirtioCrash.Corpus.EscapeBytes
import VirtioCrash.Lib.Draws
import VirtioCrash.Lib.TextFormat
import VirtioCrash.Corpus.Generator
import VirtioCrash.Corpus.Loadable
import VirtioCrash.Corpus.TailShuffle
import VirtioCrash.Corpus.Names
import VirtioCrash.Gpu.Fill
import VirtioCrash.Lib.Tiling
import VirtioCrash.Snd.ResponseSize
import VirtioCrash.Gpu.RequestFormat
import VirtioCrash.Gpu.SentRequest
import VirtioCrash.Gpu.Backing
import VirtioCrash.Gpu.History
import VirtioCrash.Gpu.ResourceIds
import VirtioCrash.Gpu.CommandHistory
import VirtioCrash.Lib.Ledger
import VirtioCrash.Fs.Descriptors
import VirtioCrash.Harness.Iteration
import VirtioCrash.Targets.Repeatable
import VirtioCrash.Targets.Replays
import VirtioCrash.Fuzz.Driver
import VirtioCrash.Targets.Requests
