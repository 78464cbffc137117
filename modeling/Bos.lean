import Bos.Lib.IntervalMap
import Bos.Lib.Kern
import Bos.Memory.Addr
import Bos.Memory.PhysicalMemory
import Bos.Memory.FrameAllocator
import Bos.Memory.UserVaddr
import Bos.Memory.Paging
import Bos.Memory.AddressSpace
import Bos.Syscall.Dispatch
import Bos.Task.UserTaskFromElf
import Bos.Task.ElfImage
import Bos.Task.SpawnFailure
import Bos.Memory.SharedBuf
import Bos.Syscall.UserPtr
import Bos.Task.Scheduler
import Bos.Ipc.Channel
import Bos.Lib.BoundedFifo
import Bos.Lib.RingBuffer
import Bos.Ipc.Fifo
import Bos.Syscall.Blocking
import Bos.Syscall.Memory
import Bos.Lib.ArrayOps
import Bos.Display.Compositor
import Bos.Display.ZOrder
import Bos.Display.Scene
import Bos.Display.Clipping
import Bos.Ulib.Surface
import Bos.Syscall.PageRun
import Bos.Syscall.Rollback
import Bos.Drivers.Keyboard
import Bos.Drivers.Mouse
import Bos.Task.UserTaskFromModule
import Bos.Task.Teardown
import Bos.Task.Lifecycle
import Bos.Syscall.Graphics
import Bos.Syscall.Service
import Bos.Lib.LittleEndian
import Bos.Lib.Elf
import Bos.Display.Protocol
