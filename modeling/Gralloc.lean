import Gralloc.CInt.Run
import Gralloc.CInt.Align
import Gralloc.CInt.Bytes
import Gralloc.CInt.Signed
import Gralloc.CInt.Fields
import Gralloc.Resource.Ledger
import Gralloc.Format.Usage
import Gralloc.Format.Info
import Gralloc.Format.Internal
import Gralloc.Format.Capabilities
import Gralloc.Format.Select
import Gralloc.Format.Cpu
import Gralloc.Format.DoubleBody
import Gralloc.Format.AfbcFeatures
import Gralloc.Format.Best
import Gralloc.Format.Compatible
import Gralloc.Format.Fallback
import Gralloc.Format.Repair
import Gralloc.Format.DataType
import Gralloc.Alloc.Type
import Gralloc.Alloc.Size
import Gralloc.Alloc.Derive
import Gralloc.Alloc.Exact
import Gralloc.Alloc.Checked
import Gralloc.Alloc.Sizing
import Gralloc.Alloc.Readings
import Gralloc.Alloc.Fresh
import Gralloc.Alloc.Alike
import Gralloc.Alloc.Handle
import Gralloc.Alloc.Overflow
import Gralloc.Alloc.Layout
import Gralloc.Alloc.Afbc
import Gralloc.Alloc.Layers
import Gralloc.Alloc.DivZero
import Gralloc.Alloc.Stride
import Gralloc.Alloc.Fixed
import Gralloc.Alloc.RowAligned
import Gralloc.Heap.Pick
import Gralloc.Heap.Uvm
import Gralloc.Heap.UvmRequest
import Gralloc.Heap.Allocate
import Gralloc.Heap.Batch
import Gralloc.Heap.Alike
import Gralloc.Heap.GfxLayers
import Gralloc.Mapper.Planes
import Gralloc.Mapper.Drm
import Gralloc.Mapper.Lock
import Gralloc.Transition.Reach
import Gralloc.Mapper.LockRun
import Gralloc.Mapper.Import
import Gralloc.Mapper.ImportFailure
import Gralloc.Mapper.SharedMetadata
import Gralloc.Mapper.Metadata
import Gralloc.Mapper.Payload
import Gralloc.Mapper.Crop
import Gralloc.Mapper.Scheme
import Gralloc.Aidl.Supported
import Gralloc.Idl.Descriptor
import Gralloc.Idl.Allocate
import Gralloc.Idl.Region
import Gralloc.Idl.Slot
import Gralloc.Idl.Siting
import Gralloc.Aidl.Allocate
import Gralloc.Idl.Owned
import Gralloc.Idl.AllOrNothing
import Gralloc.Hidl.FromDescriptor
import Gralloc.Idl.Entry
import Gralloc.Idl.Name
import Gralloc.Hidl.Agreement
import Gralloc.Hidl.Callbacks
import Gralloc.Hidl.LockRegion
import Gralloc.Aml.Ext
import Gralloc.Aml.Getters
import Gralloc.Aml.AfrcMask
import Gralloc.Aml.AfbcMask
import Gralloc.Stablec.Metadata
import Gralloc.Stablec.Dump
import Gralloc.Hwc.PlaneFds
import Gralloc.Transition.Trace
import Gralloc.Aml.Slots
import Gralloc.Resource.Owners
import Gralloc.Sharing.Process
import Gralloc.Sharing.Sound
import Gralloc.Sharing.Calls
import Gralloc.Sharing.RoundTrip
import Gralloc.Sharing.System
import Gralloc.Sharing.Metadata
import Gralloc.Resource.Attempts
import Gralloc.Ion.Heaps
import Gralloc.Ion.Allocate
import Gralloc.Layout.Grid
import Gralloc.Layout.Samples
import Gralloc.Layout.Ycbcr
import Gralloc.Format.CapabilityFiles
import Gralloc.Format.Private
import Gralloc.Format.Again
import Gralloc.Mapper.Pinned
import Gralloc.Hidl.ValidateSize
import Gralloc.Sharing.Requested
import Gralloc.Sharing.Composer
import Gralloc.Layout.Bits
import Gralloc.Sharing.Pixels
