import MoonlightAddon.Addon.Writer
import MoonlightAddon.Layout

/-!
# The FRAME header

What `frame_sink` and `Writer::frame` put into the header, against a reader of
the table in `PROTOCOL.md`.
-/

namespace MoonlightAddon

namespace Proto

/-- The buffer `Writer::frame` fills. -/
def frameBuffer (session frameId : UInt32) (codec : UInt8) (key : Bool)
    (width height : UInt16) (rect : UInt16 × UInt16 × UInt16 × UInt16)
    (src : UInt16 × UInt16) (data : Bytes) : Bytes :=
  LittleEndian.u32 session ++ LittleEndian.u32 frameId ++ [codec] ++
    [if key then 1 else 0] ++
    [width, height, rect.1, rect.2.1, rect.2.2.1, rect.2.2.2, src.1,
      src.2].flatMap LittleEndian.u16 ++
    data

/-- What `frame_sink` has `Writer::frame` write for one update. -/
def sinkPayload (session : UInt32) : FrameUpdate → Bytes
  | { codec, frameId, width, height, x, y, w, h, key, sx, sy, data } =>
      frameBuffer session frameId codec.discriminant key width height
        (x, y, w, h) (sx, sy) data

/-- It is the payload of the call. -/
theorem message_frame (libraries : Libraries) (session : UInt32)
    (update : FrameUpdate) :
    (Writer.Call.frame session update).message libraries =
      .ok (kindFrame, sinkPayload session update) := rfl

/-- A FRAME message as the table of the protocol lists its fields. -/
structure FrameMessage where
  session : UInt32
  frameId : UInt32
  codec : UInt8
  flags : UInt8
  width : UInt16
  height : UInt16
  x : UInt16
  y : UInt16
  w : UInt16
  h : UInt16
  sx : UInt16
  sy : UInt16
  data : Bytes

namespace FrameMessage

open Layout in
/-- The rows of the table. -/
def table : Layout (UInt32 × UInt32 × UInt8 × UInt8 × (UInt16 × UInt16) ×
    (UInt16 × UInt16 × UInt16 × UInt16) × (UInt16 × UInt16)) :=
  u32.pair <| u32.pair <| u8.pair <| u8.pair <| (u16.pair u16).pair <|
    (u16.pair (u16.pair (u16.pair u16))).pair <| u16.pair u16

def read (payload : Bytes) : Option FrameMessage :=
  (table.decode payload).map
    fun ((session, frameId, codec, flags, (width, height), (x, y, w, h),
        (sx, sy)), _) =>
      { session, frameId, codec, flags, width, height, x, y, w, h, sx, sy,
        data := payload.drop 26 }

/-- The codec numbers of the table. -/
def codecNumbered : UInt8 → Option FrameCodec
  | 0 => some .raw
  | 1 => some .jpeg
  | 2 => some .png
  | 3 => some .copy
  | 4 => some .h264
  | 5 => some .hevc
  | _ => none

theorem codecNumbered_discriminant (codec : FrameCodec) :
    codecNumbered codec.discriminant = some codec := by
  cases codec <;> rfl

/-- The message carries this update of this session. -/
structure Carries (message : FrameMessage) (session : UInt32)
    (update : FrameUpdate) : Prop where
  session : message.session = session
  frameId : message.frameId = update.frameId
  codec : codecNumbered message.codec = some update.codec
  key : message.flags.toNat.testBit 0 = update.key
  otherFlags : ∀ bit, bit ≠ 0 → message.flags.toNat.testBit bit = false
  width : message.width = update.width
  height : message.height = update.height
  x : message.x = update.x
  y : message.y = update.y
  w : message.w = update.w
  h : message.h = update.h
  sx : message.sx = update.sx
  sy : message.sy = update.sy
  data : message.data = update.data

/-- The header of an update, row by row. -/
def rows (session : UInt32) (update : FrameUpdate) :=
  (session, update.frameId, update.codec.discriminant,
    (if update.key then 1 else 0 : UInt8), (update.width, update.height),
    (update.x, update.y, update.w, update.h), (update.sx, update.sy))

theorem sinkPayload_eq_rows (session : UInt32) (update : FrameUpdate) :
    sinkPayload session update =
      table.encode (rows session update) ++ update.data := by
  simp only [sinkPayload, frameBuffer, List.append_assoc, List.cons_append,
    List.nil_append, List.flatMap_cons, List.flatMap_nil, List.append_nil,
    table, Layout.pair, Layout.u32, Layout.u8, Layout.u16, rows]

theorem keyFlag_testBit (key : Bool) (bit : Nat) :
    (if key then 1 else 0 : UInt8).toNat.testBit bit =
      (key && decide (bit = 0)) := by
  cases key with
  | false => simp
  | true =>
      apply Bool.eq_iff_iff.mpr
      simp [Nat.testBit_one_eq_true_iff_self_eq_zero]

theorem read_sinkPayload (session : UInt32) (update : FrameUpdate) :
    ∃ message, read (sinkPayload session update) = some message ∧
      Carries message session update := by
  have data : (sinkPayload session update).drop 26 = update.data := by
    rw [sinkPayload_eq_rows]
    exact table.drop_encode _ _
  refine ⟨⟨session, update.frameId, update.codec.discriminant,
    if update.key then 1 else 0, update.width, update.height, update.x,
    update.y, update.w, update.h, update.sx, update.sy, update.data⟩, ?_, ?_⟩
  · rw [read, data, sinkPayload_eq_rows, table.decode_encode]
    rfl
  · constructor <;> try rfl
    · exact codecNumbered_discriminant update.codec
    · rw [keyFlag_testBit]
      simp
    · intro bit other
      rw [keyFlag_testBit]
      simp [other]

/-- A message carries at most one update. -/
theorem Carries.unique {message : FrameMessage} {session other : UInt32}
    {update more : FrameUpdate} (first : Carries message session update)
    (second : Carries message other more) :
    session = other ∧ update = more := by
  refine ⟨first.session.symm.trans second.session, ?_⟩
  have codec := Option.some.inj (first.codec.symm.trans second.codec)
  obtain ⟨_, _, _, _, _, _, _, _, _, _, _, _⟩ := update
  obtain ⟨_, _, _, _, _, _, _, _, _, _, _, _⟩ := more
  rw [FrameUpdate.mk.injEq]
  exact ⟨codec, first.frameId.symm.trans second.frameId,
    first.width.symm.trans second.width, first.height.symm.trans second.height,
    first.x.symm.trans second.x, first.y.symm.trans second.y,
    first.w.symm.trans second.w, first.h.symm.trans second.h,
    first.key.symm.trans second.key, first.sx.symm.trans second.sx,
    first.sy.symm.trans second.sy, first.data.symm.trans second.data⟩

/-- The header read by the table gives every field back in its own place, and
so no two updates share a payload. -/
theorem frame_header_round_trip (session : UInt32) (update : FrameUpdate) :
    (∃ message, read (sinkPayload session update) = some message ∧
      Carries message session update) ∧
    ∀ other more, sinkPayload session update = sinkPayload other more →
      session = other ∧ update = more := by
  refine ⟨read_sinkPayload session update, ?_⟩
  intro other more same
  obtain ⟨message, decoded, carries⟩ := read_sinkPayload session update
  obtain ⟨_, again, carriesMore⟩ := read_sinkPayload other more
  rw [same, again] at decoded
  obtain rfl := Option.some.inj decoded
  exact carries.unique carriesMore

end FrameMessage

end Proto

end MoonlightAddon
