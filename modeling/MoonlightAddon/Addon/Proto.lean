import MoonlightAddon.Core.Transport

/-!
# Protocol messages

The message shapes of `proto.rs` in both directions, and the binary body of a
FRAME message.  Their JSON form belongs to `serde_json`.
-/

namespace MoonlightAddon

namespace Proto

def kindControl : UInt8 := 0x01
def kindFrame : UInt8 := 0x02

def abi : UInt32 := 1

def maxFrameBytes : UInt32 := 32 * 1024 * 1024

/-- `ConnectDoc` with every default filled in. -/
structure ConnectDoc where
  host : Text
  httpPort : UInt16
  httpsPort : UInt16
  width : UInt16
  height : UInt16
  fps : UInt16
  bitrateKbps : UInt32
  useHevc : Bool
  clientUniqueId : Text
  clientCertPem : Text
  clientKeyPem : Text
deriving DecidableEq

structure Mods where
  ctrl : Bool
  alt : Bool
  shift : Bool
  metaKey : Bool
deriving DecidableEq

inductive InputMsg where
  | pointer (x y : UInt16) (buttons : UInt8)
  | wheel (x y : UInt16) (dx dy : Float32)
  | key (down : Bool) (code : Text) (ch : Option Text) (mods : Mods)
  | clipboard (text : Text)

inductive HostMsg where
  | hello (abi : UInt32) (hostVersion : Text)
  | connect (session : UInt32) (doc : ConnectDoc)
  | input (session : UInt32) (input : InputMsg)
  | resize (session : UInt32) (width height : UInt16)
  | frameAck (session : UInt32) (frameId : UInt32)
  | close (session : UInt32)
  | shutdown

inductive EventMsg where
  | serviceMessage (line : Text)
  | pairPrompt (pin url : Text)
  | pairFinished (error : Option Text)
  | identity (uniqueId certPem keyPem : Text)
deriving DecidableEq

inductive AddonMsg where
  | ready (addonVersion : Text) (provides : List Text)
  | sessionReady (session : UInt32) (width height : UInt16)
  | sessionClosed (session : UInt32) (error : Option Text)
  | event (session : UInt32) (event : EventMsg)
deriving DecidableEq

/-- The 26-byte header `Writer::frame` puts before the data. -/
def frameHeader (session : UInt32) (update : FrameUpdate) : Bytes :=
  LittleEndian.u32 session ++ LittleEndian.u32 update.frameId ++
    [update.codec.discriminant] ++ [if update.key then 1 else 0] ++
    [update.width, update.height, update.x, update.y, update.w, update.h,
      update.sx, update.sy].flatMap LittleEndian.u16

/-- The payload `Writer::frame` hands to `raw`. -/
def framePayload (session : UInt32) (update : FrameUpdate) : Bytes :=
  frameHeader session update ++ update.data

@[simp] theorem length_frameHeader (session : UInt32) (update : FrameUpdate) :
    (frameHeader session update).length = 26 := by
  simp [frameHeader]

@[simp] theorem length_framePayload (session : UInt32) (update : FrameUpdate) :
    (framePayload session update).length = 26 + update.data.length := by
  simp [framePayload]

end Proto

end MoonlightAddon
