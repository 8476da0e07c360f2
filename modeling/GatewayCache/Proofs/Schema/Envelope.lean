import GatewayCache.Proofs.Schema.Catalog

/-!
Events as documents: an object with the name of the dispatch under one key and the payload under
another, or an array of both.
-/
namespace GatewayCache

open Json (Object)

/-- Every event is made of its dispatch and a payload, and is written with the payload's codec. -/
theorem Event.exists_payload (e : Event) :
    ∃ p, e.dispatch.make p = e ∧ e.encodePayload = e.dispatch.form.codec.encode p := by
  cases e <;> exact ⟨_, rfl, rfl⟩

namespace Dispatch

theorem mem_all (d : Dispatch) : d ∈ all := by
  cases d <;> decide

theorem nodup_names : (all.map name).Nodup := by
  decide

theorem codec_read_name (d : Dispatch) (r : Reading) : codec.read r (.string d.name) = .ok d :=
  Codec.member_name nodup_names d.mem_all

theorem isObject_form (d : Dispatch) : d.form.isObject := by
  cases d <;> rfl

/--
How a payload is read and written: as its form, except that an entity that makes up the whole
payload is spread over it.
-/
def payload : (d : Dispatch) → Codec d.form.Value
  | messageCreate => Message.layout.alone.codec
  | channelCreate => Channel.layout.alone.codec
  | guildScheduledEventCreate => ScheduledEvent.layout.alone.codec
  | stageInstanceCreate => StageInstance.layout.alone.codec
  | guildMemberAdd => Member.layout.alone.codec
  | d => d.form.codec

/-- How an object is read as a payload: it is held when an entity is spread over it. -/
def reading : Dispatch → Reading → Reading
  | messageCreate, _ | channelCreate, _ | guildScheduledEventCreate, _ | stageInstanceCreate, _ |
    guildMemberAdd, _ => .held
  | _, r => r

theorem payload_read_object (d : Dispatch) (r : Reading) {o : Object}
    (readable : (Json.object o).isReadable) :
    d.payload.read r (.object o) = d.form.codec.read (d.reading r) (.object o) := by
  cases d
  case messageCreate | guildScheduledEventCreate | stageInstanceCreate | guildMemberAdd =>
    exact Layout.alone_read _ readable r
  case channelCreate =>
    have whole := Codec.whole_read Channel.layout.codec readable .held
    exact (Layout.alone_read _ readable r).trans whole.symm
  all_goals rfl

end Dispatch

namespace Event

variable {r : Reading} {o : Object} {d : Dispatch} {p : Json} {e : Event}

theorem readPayload_eq (r : Reading) (d : Dispatch) (p : Json) :
    readPayload r d p = (d.payload.read r p).map d.make := by
  cases d <;> rfl

/-- A payload is never `null`. -/
theorem ne_null_of_readPayload (h : readPayload r d p = .ok e) : p ≠ .null := by
  rintro rfl
  cases d <;> cases h

theorem envelope_read_eq_ok : envelope.read r o = .ok (d, p) ↔
    (∃ t, o.values "t" = [t] ∧ Dispatch.codec.read r t = .ok d) ∧ o.values "d" = [p] := by
  refine Layout.and_read_eq_ok.trans (and_congr (Field.read_eq_ok.trans ?_)
    (Field.read_eq_ok.trans ?_))
  · simp
  · simp [Codec.document]

/-- How the payload of an event is read: held if it comes before the dispatch. -/
def reading (r : Reading) (o : Object) : Reading :=
  match payloadReading o with
  | .direct => r
  | .held => .held

theorem codec_read_eq_error {cause : DecodeError} (h : envelope.read r o = .error cause) :
    codec.read r (.object o) = .error cause := by
  change readObject r o = .error cause
  simp [readObject, h, bind, Except.bind]

theorem codec_read (readable : (Json.object o).isReadable) {t : Json} (named : o.values "t" = [t])
    (dispatch : Dispatch.codec.read r t = .ok d) (payload : o.values "d" = [p]) :
    codec.read r (.object o) = readPayload (reading r o) d p := by
  have read : envelope.read r o = .ok (d, p) :=
    envelope_read_eq_ok.mpr ⟨⟨t, named, dispatch⟩, payload⟩
  have whole : p.isReadable := Json.readable_of_values readable payload
  change readObject r o = _
  simp only [readObject, read, bind, Except.bind, whole, if_true, reading]
  cases payloadReading o <;> rfl

/-- An object with both keys is an event if its payload has the form that the dispatch asks for. -/
theorem read_object (readable : (Json.object o).isReadable) {t : Json} (named : o.values "t" = [t])
    (dispatch : Dispatch.codec.read r t = .ok d) {po : Object}
    (payload : o.values "d" = [.object po]) : codec.read r (.object o) =
      (d.form.codec.read (d.reading (reading r o)) (.object po)).map d.make := by
  rw [codec_read readable named dispatch payload, readPayload_eq,
    d.payload_read_object _ (Json.readable_of_values readable payload)]

/-- Where an object is read as an event, both keys are there, once each. -/
theorem exists_of_read (readable : (Json.object o).isReadable)
    (h : codec.read r (.object o) = .ok e) : ∃ (t : Json) (d : Dispatch) (p : Json),
      o.values "t" = [t] ∧ Dispatch.codec.read r t = .ok d ∧ o.values "d" = [p] ∧
        readPayload (reading r o) d p = .ok e := by
  obtain ⟨⟨d, p⟩, read, -⟩ := bind_eq_ok.mp (show readObject r o = .ok e from h)
  obtain ⟨⟨t, named, dispatch⟩, payload⟩ := envelope_read_eq_ok.mp read
  rw [codec_read readable named dispatch payload] at h
  exact ⟨t, d, p, named, dispatch, payload, h⟩

/-- An array is read as an event when it is the name of a dispatch and a payload. -/
theorem readArray_eq_ok {items : List Json} : readArray r items = .ok e ↔
    ∃ t d p, items = [t, p] ∧ Dispatch.nameCodec.read r t = .ok d ∧ readPayload r d p = .ok e := by
  match items with
  | [] => simp [readArray]
  | [t] =>
    cases named : Dispatch.nameCodec.read r t <;> simp [readArray, named, bind, Except.bind]
  | t :: p :: behind =>
    cases named : Dispatch.nameCodec.read r t with
    | error cause => simp [readArray, named, bind, Except.bind]
    | ok d =>
      -- The payload is read before it shows that something stands behind it.
      cases read : readPayload r d p <;> cases behind <;>
        simp [readArray, named, read, bind, Except.bind]

/-- An item that is not there stands for what its key means when it is absent. -/
example : codec.decode (.array [.string "GUILD_DELETE", .array [.ofInt 4]]) =
    .ok (.guildDelete ⟨4, false, none⟩) := rfl

end Event

end GatewayCache
