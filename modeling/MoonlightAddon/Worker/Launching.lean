import MoonlightAddon.Worker.Footprint

/-!
# From the launch on

All that a thread does once it is done with pairing, and in every turn of its
frame loop.
-/

namespace MoonlightAddon

namespace Worker

open Effect NvHttp Session

/-- The commands of a thread that streams. -/
inductive Streaming (session : UInt32) (doc : MoonlightConnectDoc)
    (identity : MoonlightIdentity) : Command → Prop where
  | loadStop : Streaming session doc identity .loadStop
  | draw (count : Nat) : Streaming session doc identity (.randBytes count)
  | cancel (drawn : Bytes) :
      Streaming session doc identity (.request (.cancel doc.host doc.httpsPort
        identity.uniqueId (formatUuid drawn)))
  | line (text : Text) :
      Streaming session doc identity
        (.control (.event session (.serviceMessage text)))
  | ready :
      Streaming session doc identity (.control (.sessionReady session 0 0))
  | storeSink : Streaming session doc identity .storeSink
  | clearSink : Streaming session doc identity (.clearSink .worker)
  | storeTerminated :
      Streaming session doc identity (.storeTerminated false)
  | loadTerminated : Streaming session doc identity .loadTerminated
  | beginStart (server : ServerInformation) (config : StreamConfiguration) :
      Streaming session doc identity (.beginStart server config)
  | finishStart : Streaming session doc identity .finishStart
  | beginStop : Streaming session doc identity (.beginStop .worker)
  | finishStop : Streaming session doc identity (.finishStop .worker)
  | receive : Streaming session doc identity .receive
  | frame (unit : VideoUnit) :
      Streaming session doc identity (.frame session (frameUpdate doc unit))

/-- The commands of a thread that launches and streams. -/
inductive Launching (session : UInt32) (doc : MoonlightConnectDoc)
    (identity : MoonlightIdentity) : Command → Prop where
  | streaming {command : Command}
      (streams : Streaming session doc identity command) :
      Launching session doc identity command
  | appList (drawn : Bytes) :
      Launching session doc identity (.request (.appList doc.host doc.httpsPort
        identity.uniqueId (formatUuid drawn)))
  | launch (drawn : Bytes) (appId : UInt32) (aesKey : Bytes)
      (aesKeyId : Int32) :
      Launching session doc identity (.request (.launch doc.host doc.httpsPort
        identity.uniqueId (formatUuid drawn) appId doc.width.toUInt32
        doc.height.toUInt32 doc.fps.toUInt32 (toHex aesKey) aesKeyId))

/-- The frame loop of this session. -/
def OwnLoop (session : UInt32) (doc : MoonlightConnectDoc) (loop : LoopName) :
    Prop :=
  loop = .frameLoop session doc

section

variable {libraries : Libraries} {session : UInt32}
  {doc : MoonlightConnectDoc} {identity : MoonlightIdentity} {α : Type}

abbrev StreamsOnly (session : UInt32) (doc : MoonlightConnectDoc)
    (identity : MoonlightIdentity) (effect : Rust α) : Prop :=
  Bounded (Streaming session doc identity) (OwnLoop session doc) effect

abbrev LaunchesOnly (session : UInt32) (doc : MoonlightConnectDoc)
    (identity : MoonlightIdentity) (effect : Rust α) : Prop :=
  Bounded (Launching session doc identity) (OwnLoop session doc) effect

theorem streams_lift (outcome : Outcome α) :
    StreamsOnly session doc identity (lift outcome) :=
  (confined_lift outcome).bounded

theorem streams_issue {command : Command}
    (streaming : Streaming session doc identity command) :
    StreamsOnly session doc identity (issue command) :=
  Confined.bounded (confined_perform streaming fun _ => trivial)

theorem streams_line (text : Text) :
    StreamsOnly session doc identity (onServiceMessage session text) :=
  Confined.bounded (confined_send (.line text))

theorem streams_stopStream :
    StreamsOnly session doc identity (Stream.stopStream .worker) :=
  Confined.bounded (confined_stopStream .beginStop .finishStop .clearSink)

theorem streams_frameSink (unit : VideoUnit) :
    StreamsOnly session doc identity
      (frameSink session [frameUpdate doc unit]) := by
  apply bounded_bind (streams_issue (.frame unit))
  intro written
  cases written with
  | ok written => exact streams_lift (.ok ())
  | error error => exact streams_lift (.ok ())

theorem streams_frameLoop :
    StreamsOnly session doc identity (frameLoop session doc) :=
  bounded_loop rfl

theorem streams_frameLoopBody :
    StreamsOnly session doc identity (frameLoopBody session doc) := by
  apply bounded_bind (streams_issue .loadStop)
  intro stop
  cases stop with
  | true => exact streams_lift (.ok ())
  | false =>
      apply bounded_bind (streams_issue .loadTerminated)
      intro terminated
      cases terminated with
      | true =>
          apply bounded_bind streams_stopStream
          intro _
          exact streams_lift (.err _)
      | false =>
          apply bounded_bind (streams_issue .receive)
          intro received
          cases received with
          | unit unit =>
              apply bounded_bind (streams_frameSink unit)
              intro _
              exact streams_frameLoop
          | timeout => exact streams_frameLoop
          | disconnected => exact streams_lift (.ok ())

theorem streams_releaseHost :
    StreamsOnly session doc identity (releaseHost libraries doc identity) :=
  Confined.bounded (confined_releaseHost (.draw 16) .cancel)

theorem streams_streamSession {info : ServerInfo} {launched : LaunchSession} :
    StreamsOnly session doc identity
      (streamSession libraries session doc identity info launched) := by
  apply bounded_bind (Confined.bounded (confined_attempt
    (confined_startStream .storeSink .storeTerminated
      (fun _ server => .beginStart server _) .finishStart .clearSink)))
  intro result
  cases result with
  | error error =>
      apply bounded_bind streams_releaseHost
      intro _
      exact streams_lift (.err error)
  | ok started =>
      apply bounded_bind (Confined.bounded (confined_send .ready))
      intro _
      apply bounded_bind (streams_line _)
      intro _
      apply bounded_bind streams_frameLoop
      intro _
      apply bounded_bind streams_stopStream
      intro _
      exact streams_releaseHost

theorem StreamsOnly.launches {effect : Rust α}
    (streams : StreamsOnly session doc identity effect) :
    LaunchesOnly session doc identity effect :=
  streams.mono (fun _ => .streaming) fun _ => id

theorem launches_frameLoopBody :
    LaunchesOnly session doc identity (frameLoopBody session doc) :=
  streams_frameLoopBody.launches

theorem launches_launchSession {info : ServerInfo} :
    LaunchesOnly session doc identity
      (launchSession libraries session doc identity info) := by
  apply bounded_bind (streams_issue .loadStop).launches
  intro stop
  cases stop with
  | true => exact (streams_lift (.ok ())).launches
  | false =>
      apply bounded_bind
        (Confined.bounded (confined_appList (.streaming (.draw 16)) .appList))
      intro apps
      apply bounded_bind (streams_lift _).launches
      intro app
      apply bounded_bind (streams_line _).launches
      intro _
      apply bounded_bind (Confined.bounded (confined_launch
        (fun count => .streaming (.draw count))
        fun drawn aesKey aesKeyId => .launch drawn app.id aesKey aesKeyId))
      intro launched
      exact streams_streamSession.launches

end

end Worker

end MoonlightAddon
