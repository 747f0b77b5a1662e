import Gralloc.Format.Usage

/-!
# IP capabilities

The capabilities of an IP block are a list of features with permissions, read from a
configuration file of the platform. A feature is supported by a set of producers and a
set of consumers when each of them has it, the producers with write and the consumers
with read permission (`Gralloc.ipSupportFeature`); a block without a configuration poses
no restriction, except that the GPU has to have one.
-/

namespace Gralloc

/-- The features of an IP block. -/
inductive Feature where
  | formatR10G10B10A2
  | formatR10G10B10A10
  | formatR16G16B16A16Float
  | formatDepthStencil
  | yuvBl8
  | yuvBl10
  | afbc16x16
  | afbc32x8
  | afbc64x4
  | afbcBlockSplit
  | afbcTiledHeaders
  | afbcDoubleBody
  | afbcWriteNonSparse
  | afbcYuv
  | afbcFormatR16G16B16A16Float
  | afbcFormatY210
  | formatRgb16
  | afrcRotLayout
  | afrcScanLayout
  | disabled
  deriving DecidableEq, Repr

/-- What a block may do with a feature. -/
inductive Permission where
  | rw
  | ro
  | wo
  | no
  deriving DecidableEq, Repr

def Permission.readable : Permission → Bool
  | rw | ro => true
  | wo | no => false

def Permission.writeable : Permission → Bool
  | rw | wo => true
  | ro | no => false

/-- The capabilities of one block, in the order of its configuration. -/
abbrev IpCapabilities : Type := List (Feature × Permission)

/-- The permission of a feature: its first entry, and none without one. -/
def IpCapabilities.permission (caps : IpCapabilities) (feature : Feature) : Permission :=
  match caps.find? fun e => e.1 == feature with
  | some e => e.2
  | none => .no

/-- The configuration of a platform. The allocator aborts without one for the GPU. -/
structure Capabilities where
  gpu : IpCapabilities
  dpu : Option IpCapabilities
  dpuAeu : Option IpCapabilities
  vpu : Option IpCapabilities
  cam : Option IpCapabilities
  deriving DecidableEq, Repr

/-- A platform whose only block is a GPU without optional features. -/
def Capabilities.gpuOnly : Capabilities := ⟨[], none, none, none, none⟩

/-- The blocks that have a configuration, with it. -/
def Capabilities.handles (caps : Capabilities) : List (Ip × IpCapabilities) :=
  (Ip.gpu, caps.gpu) ::
    [(Ip.dpu, caps.dpu), (Ip.dpuAeu, caps.dpuAeu), (Ip.vpu, caps.vpu), (Ip.cam, caps.cam)].filterMap
      fun e => e.2.map fun c => (e.1, c)

/-- The features of the CPU. -/
def capsSupportsFeatureCpu : Feature → Bool
  | .formatR10G10B10A2 | .formatR10G10B10A10 | .formatR16G16B16A16Float | .formatRgb16
  | .formatDepthStencil => true
  | _ => false

/-- All the producers can write, and all the consumers read, with a feature. -/
def ipSupportFeature (caps : Capabilities) (producers consumers : Ip) (feature : Feature) : Bool :=
  if (producers.contains Ip.cpu || consumers.contains Ip.cpu) && !capsSupportsFeatureCpu feature
  then false
  else caps.handles.all fun e =>
    (!producers.contains e.1 || (e.2.permission feature).writeable) &&
      (!consumers.contains e.1 || (e.2.permission feature).readable)

/-- None of the blocks is marked as disabled, or lacks a configuration. -/
def ipPresent (caps : Capabilities) (ips : Ip) : Bool :=
  (List.range 32).all fun i =>
    !(ips.contains (1#32 <<< i) && ipSupportFeature caps (1#32 <<< i) (1#32 <<< i) .disabled)

end Gralloc
