import UsbTv.Lib.StepSystem
import UsbTv.Lib.Memory
import UsbTv.Lib.Custody
import UsbTv.Lib.Shutdown
import UsbTv.Lib.Access
import UsbTv.Lib.Unwinding
import UsbTv.Lib.CountedLoop
import UsbTv.Lib.ByteBuffer
import UsbTv.Definitions
import UsbTv.DeviceParams
import UsbTv.Driver.Assembly
import UsbTv.Driver.Weave
import UsbTv.Driver.Fields
import UsbTv.Driver.Progressive
import UsbTv.Driver.Steps
import UsbTv.Driver.Mixing
import UsbTv.Driver.Interleaved
import UsbTv.Driver.FieldFlags
import UsbTv.Driver.FieldEffects
import UsbTv.Driver.DueFrames
import UsbTv.Driver.Counters
import UsbTv.Device.Basic
import UsbTv.Device.Threads
import UsbTv.Device.StopDeadlock
import UsbTv.Device.UrbLifetime
import UsbTv.Device.SelfExit
import UsbTv.Device.Allocation
import UsbTv.Device.Urb
import UsbTv.Driver.Unpacking
import UsbTv.Device.Reap
import UsbTv.Device.BulkTransfer
import UsbTv.Device.BulkUrbs
import UsbTv.Device.ContinuousUrbs
import UsbTv.Device.BulkPool
import UsbTv.Device.SubUrbIndices
import UsbTv.Device.BulkSeries
import UsbTv.Driver.Streaming
import UsbTv.Driver.FramePool
import UsbTv.Driver.StartStop
import UsbTv.Driver.BufferBounds
import UsbTv.Driver.FrameIds
import UsbTv.Driver.Restart
import UsbTv.Driver.Lifetime
import UsbTv.Driver.InputSwitch
import UsbTv.Driver.Requests
import UsbTv.Flow.Basic
import UsbTv.Flow.Pointers
import UsbTv.Flow.Packets
import UsbTv.Flow.Ownership
import UsbTv.Flow.Release
import UsbTv.Flow.Free
import UsbTv.Flow.Leaks
import UsbTv.Flow.Drops
import UsbTv.Flow.Writes
import UsbTv.Flow.Urbs
import UsbTv.Flow.Handshake
import UsbTv.Flow.Startable
import UsbTv.Flow.FrameBuffer
import UsbTv.Handler.Native
import UsbTv.Handler.Basic
import UsbTv.Handler.View
import UsbTv.Handler.Instances
import UsbTv.Handler.Stray
import UsbTv.Handler.References
import UsbTv.Handler.Answers
import UsbTv.Handler.OpenFailures
import UsbTv.Lib.Crew
import UsbTv.Queue.Semaphore
import UsbTv.Queue.Producer
import UsbTv.Queue.Blocking
import UsbTv.Queue.Entries
import UsbTv.Queue.Consumer
import UsbTv.Driver.Wire
import UsbTv.Driver.Pictures
import UsbTv.Queue.Calls
import UsbTv.Queue.History
import UsbTv.Flow.Queued
import UsbTv.Flow.Ahead
import UsbTv.Flow.Simulation
import UsbTv.Flow.QueuedRuns
import UsbTv.Lib.Linked
import UsbTv.Queue.FreeList
import UsbTv.Lib.Stores
import UsbTv.Sample.ConvertYuyv
import UsbTv.Queue.BlockPool
