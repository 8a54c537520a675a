import GpuDriverLab.Rust.Slice
import GpuDriverLab.Machine.Trace
import GpuDriverLab.TypedGenericDriver
import GpuDriverLab.BufferIds
import GpuDriverLab.BufferHistory
import GpuDriverLab.Discard
import GpuDriverLab.Machine.Fifo
import GpuDriverLab.Machine.Ring
import GpuDriverLab.QueueRefinement
import GpuDriverLab.DriverRun
import GpuDriverLab.DriverSimulation
import GpuDriverLab.QueuedWork
import GpuDriverLab.TypedRun
import GpuDriverLab.Stacks
import GpuDriverLab.Lifecycle
import GpuDriverLab.Provenance
import GpuDriverLab.Atomicity
import GpuDriverLab.Mmio
import GpuDriverLab.Registers
import GpuDriverLab.Rust.Bits
import GpuDriverLab.Interrupts
import GpuDriverLab.RegisterFields
import GpuDriverLab.RegisterRun
import GpuDriverLab.ControlUpdates
import GpuDriverLab.Machine.Loop
import GpuDriverLab.Polling
import GpuDriverLab.PollingBudget
import GpuDriverLab.PollingSchedule
import GpuDriverLab.PollingDeadline
import GpuDriverLab.ControllerHistory
import GpuDriverLab.QueueHistory
import GpuDriverLab.RingInvariant
import GpuDriverLab.ActiveIds
import GpuDriverLab.SubmitDecision
import GpuDriverLab.InitializedLen
import GpuDriverLab.ChunkedUpload
import GpuDriverLab.BufferSafety
import GpuDriverLab.Machine.Unwinding
import GpuDriverLab.Backpressure
import GpuDriverLab.BytesUnseen
import GpuDriverLab.DriverProtocol
import GpuDriverLab.Replay
import GpuDriverLab.Hardware
import GpuDriverLab.PollingOutcome
import GpuDriverLab.BufferOwners
import GpuDriverLab.ByteStore
import GpuDriverLab.IndependentCalls
import GpuDriverLab.MmioMemory
import GpuDriverLab.InterruptSets
import GpuDriverLab.DriverAccounts
