import MoonlightAddon.LittleEndian
import MoonlightAddon.Text

/-!
# Frame and input vocabulary

`transport.rs`: the plain data the engine and the sidecar exchange.
-/

namespace MoonlightAddon

inductive FrameCodec where
  | raw | jpeg | png | copy | h264 | hevc
deriving DecidableEq, Repr

/-- `codec as u8`: the wire values of the FRAME header. -/
def FrameCodec.discriminant : FrameCodec → UInt8
  | .raw => 0
  | .jpeg => 1
  | .png => 2
  | .copy => 3
  | .h264 => 4
  | .hevc => 5

structure FrameUpdate where
  codec : FrameCodec
  frameId : UInt32
  width : UInt16
  height : UInt16
  x : UInt16
  y : UInt16
  w : UInt16
  h : UInt16
  key : Bool
  sx : UInt16
  sy : UInt16
  data : Bytes
deriving DecidableEq

structure KeyMods where
  ctrl : Bool
  alt : Bool
  shift : Bool
  metaKey : Bool
deriving DecidableEq

inductive RemoteInput where
  | pointer (x y : UInt16) (buttons : UInt8)
  | wheel (x y : UInt16) (dx dy : Float32)
  | key (down : Bool) (code : Text) (ch : Option Char) (mods : KeyMods)
  | clipboardText (text : Text)

end MoonlightAddon
