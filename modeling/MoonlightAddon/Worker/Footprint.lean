import MoonlightAddon.Core.Requests
import MoonlightAddon.Worker.Phase

/-!
# What the parts of an engine thread do

Which commands the effects of the thread perform, in terms of any predicate
that admits them.
-/

namespace MoonlightAddon

namespace Worker

open Effect NvHttp PairingClient Session

variable {allowed : Command → Prop} {libraries : Libraries}
  {session : UInt32} {doc : MoonlightConnectDoc}
  {identity : MoonlightIdentity}

theorem confined_send {message : Proto.AddonMsg}
    (sends : allowed (.control message)) :
    Confined allowed (send message) fun _ => True := by
  apply confined_bind (confined_perform sends fun _ => trivial)
  intro reply _
  exact confined_pure trivial

theorem confined_frameSink
    (writes : ∀ update, allowed (.frame session update)) :
    ∀ updates, Confined allowed (frameSink session updates) fun _ => True
  | [] => confined_pure trivial
  | update :: rest => by
      apply confined_bind (confined_perform (writes update) fun _ => trivial)
      intro reply _
      cases reply with
      | ok written => exact confined_frameSink writes rest
      | error error => exact confined_pure trivial

theorem confined_stopStream {caller : Caller}
    (begins : allowed (.beginStop caller))
    (finishes : allowed (.finishStop caller))
    (clears : allowed (.clearSink caller)) :
    Confined allowed (Stream.stopStream caller) fun _ => True := by
  apply confined_bind (confined_perform begins fun _ => trivial)
  intro _ _
  apply confined_bind (confined_perform finishes fun _ => trivial)
  intro _ _
  exact confined_perform clears fun _ => trivial

theorem confined_cString {what text : Text} :
    Confined allowed (lift (Stream.cString what text))
      fun _ => '\x00' ∉ text := by
  apply confined_done
  intro value returned inside
  rw [Stream.cString, if_pos inside] at returned
  cases returned

theorem confined_startStream
    {opts : Stream.StreamOptions} (installs : allowed .storeSink)
    (resets : allowed (.storeTerminated false))
    (begins : '\x00' ∉ opts.host → ∀ server,
      allowed (.beginStart server (Stream.streamConfiguration opts)))
    (finishes : allowed .finishStart) (clears : allowed (.clearSink .worker)) :
    Confined allowed (Stream.startStream opts) fun _ => True := by
  apply confined_bind (confined_perform installs fun _ => trivial)
  intro _ _
  apply confined_bind (confined_perform resets fun _ => trivial)
  intro _ _
  apply confined_bind confined_cString
  intro address free
  apply confined_bind (confined_lift _)
  intro appVersion _
  apply confined_bind (confined_lift _)
  intro gfeVersion _
  apply confined_bind (confined_perform (begins free _) fun _ => trivial)
  intro _ _
  apply confined_bind (confined_perform finishes fun _ => trivial)
  intro code _
  apply Typestate.follows_if
  · intro refused
    apply confined_bind (confined_perform clears fun _ => trivial)
    intro _ _
    exact confined_done nofun
  · intro accepted
    exact confined_pure trivial

theorem confined_releaseHost
    (draws : allowed (.randBytes 16))
    (sends : ∀ drawn, allowed (.request (.cancel doc.host doc.httpsPort
      identity.uniqueId (formatUuid drawn)))) :
    Confined allowed (releaseHost libraries doc identity) fun _ => True := by
  apply confined_bind (confined_attempt (confined_cancel draws sends))
  intro result _
  exact confined_pure trivial

theorem confined_learnServerInfo
    (draws : allowed (.randBytes 16))
    (first : ∀ drawn, allowed (.request (.serverInfoHttps doc.host
      doc.httpsPort identity.uniqueId (formatUuid drawn))))
    (second : ∀ drawn, allowed (.request (.serverInfo doc.host doc.httpPort
      identity.uniqueId (formatUuid drawn)))) :
    Confined allowed (learnServerInfo libraries doc identity)
      fun _ => True := by
  apply confined_bind (confined_attempt (confined_serverInfoHttps draws first))
  intro result _
  cases result with
  | ok info => exact confined_pure trivial
  | error error => exact confined_serverInfo draws second

theorem confined_settleIdentity (generates : allowed .generateIdentity)
    (reports : ∀ uniqueId certPem keyPem,
      allowed (.control (.event session (.identity uniqueId certPem keyPem)))) :
    Confined allowed (settleIdentity session doc) fun _ => True := by
  unfold settleIdentity
  cases restoreIdentity doc with
  | some identity => exact confined_pure trivial
  | none =>
      apply confined_bind (confined_performResult generates fun _ _ _ => trivial)
      intro identity _
      apply confined_bind (confined_send (reports _ _ _))
      intro _ _
      exact confined_pure trivial

theorem confined_randomPin (draws : allowed (.randBytes 2)) :
    Confined allowed randomPin fun _ => True := by
  apply confined_bind (confined_drawOrZero draws)
  intro bytes _
  exact confined_pure trivial

theorem confined_pairWithHost
    (draws : ∀ count, allowed (.randBytes count))
    (reports : ∀ message, allowed (.control message))
    (sends : ∀ query,
      allowed (.request (.pair doc.host doc.httpPort query))) :
    Confined allowed (pairWithHost libraries session doc identity)
      fun _ => True := by
  apply confined_bind (confined_randomPin (draws 2))
  intro pin _
  apply confined_bind (confined_send (reports _))
  intro _ _
  apply confined_bind (confined_send (reports _))
  intro _ _
  apply confined_bind (confined_drawOrZero (draws 16))
  intro salt _
  apply confined_bind confined_newClient
  rintro _ rfl
  apply confined_bind
    (confined_attempt (confined_pair (draws 16) fun _ _ _ => sends _))
  intro result _
  cases result with
  | ok paired =>
      apply confined_bind (confined_send (reports _))
      intro _ _
      exact confined_send (reports _)
  | error error =>
      apply confined_bind (confined_send (reports _))
      intro _ _
      exact confined_done nofun

end Worker

end MoonlightAddon
