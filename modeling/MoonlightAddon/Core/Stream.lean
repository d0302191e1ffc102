import MoonlightAddon.Core.NvHttp

/-!
# The streaming bridge

`stream.rs`: starting and stopping the C core's connection around the
process-global sink, and the callback that turns decode units into video units.
-/

namespace MoonlightAddon

namespace Stream

structure StreamOptions where
  host : Text
  appVersion : Text
  gfeVersion : Text
  codecModeSupport : Int32
  width : Int32
  height : Int32
  fps : Int32
  bitrateKbps : Int32
  useHevc : Bool
  aesKey : Drawn 16
  aesIv : Drawn 16

/-- `CString::new`. -/
def cString (what text : Text) : Outcome Text :=
  if '\x00' ∈ text then .err (what ++ lit " has NUL") else .ok text

def streamCfgAuto : Int32 := 2
def audioConfigurationStereo : Int32 := 0x302CA
def videoFormatH264 : Int32 := 1
def videoFormatH265 : Int32 := 256
def colorspaceRec709 : Int32 := 1
def encflgAudio : Int32 := 1
def frameTypeIdr : Int32 := 1

def streamConfiguration (opts : StreamOptions) : StreamConfiguration where
  width := opts.width
  height := opts.height
  fps := opts.fps
  bitrate := opts.bitrateKbps
  packetSize := 1392
  streamingRemotely := streamCfgAuto
  audioConfiguration := audioConfigurationStereo
  supportedVideoFormats :=
    if opts.useHevc then videoFormatH265 else videoFormatH264
  clientRefreshRateX100 := opts.fps * 100
  colorSpace := colorspaceRec709
  colorRange := 0
  encryptionFlags := encflgAudio
  remoteInputAesKey := opts.aesKey.1.map UInt8.toInt8
  remoteInputAesIv := opts.aesIv.1.map UInt8.toInt8

/-- Install the caller's sender, reset `TERMINATED`, and run the handshake.
The sender stays installed when a string holds a NUL. -/
def startStream (opts : StreamOptions) : Rust Unit := do
  issue .storeSink
  issue (.storeTerminated false)
  let address ← lift (cString (lit "host") opts.host)
  let appVersion ← lift (cString (lit "appver") opts.appVersion)
  let gfeVersion ← lift (cString (lit "gfever") opts.gfeVersion)
  let server : ServerInformation := {
    address
    serverInfoAppVersion := appVersion
    serverInfoGfeVersion := gfeVersion
    serverCodecModeSupport := opts.codecModeSupport }
  issue (.beginStart server (streamConfiguration opts))
  let code ← issue .finishStart
  if code ≠ 0 then
    issue (.clearSink .worker)
    Effect.throw (lit "LiStartConnection failed (code " ++
      NvHttp.decimalInt code.toInt ++ lit ")")
  else
    return ()

/-- `LiStopConnection`, then drop whatever sender is installed. -/
def stopStream (caller : Caller) : Rust Unit := do
  issue (.beginStop caller)
  issue (.finishStop caller)
  issue (.clearSink caller)

def isTerminated : Rust Bool :=
  issue .loadTerminated

/-- `LENTRY`: the memory at `data`, `none` for a null pointer. -/
structure LEntry where
  data : Option Bytes
  length : Int32
deriving DecidableEq

/-- `DECODE_UNIT` with its buffer chain. -/
structure DecodeUnit where
  frameType : Int32
  bufferList : List LEntry
deriving DecidableEq

/-- What one chain entry appends: a null or non-positive buffer is skipped. -/
def LEntry.bytes (entry : LEntry) : Bytes :=
  match entry.data with
  | some memory => if 0 < entry.length then memory.take entry.length.toInt.toNat
      else []
  | none => []

def hasH265 (format : Int32) : Bool :=
  format &&& videoFormatH265 ≠ 0

/-- The unit `dr_submit` builds under the negotiated format. -/
def drSubmit (format : Int32) (unit : DecodeUnit) : VideoUnit where
  codec := if hasH265 format then .hevc else .h264
  keyFrame := unit.frameType == frameTypeIdr
  data := unit.bufferList.flatMap LEntry.bytes

end Stream

end MoonlightAddon
