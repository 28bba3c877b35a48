import Mathlib.Data.List.Forall2
import ChatGateway.Bus.Event
import ChatGateway.Proofs.Decode.Record

/-! # Messages and events read back as they were written

Attachments, messages and stamped bus events are written as JSON objects and read back by the
decoders of `ChatGateway.Message.Codec` and `ChatGateway.Bus.Event`. On the level of JSON
values, where integers and strings are carried exactly, the format is described by one relation
per record, `Attachment.Form`, `MessageForm` (the fields every message has) with
`InboundMessage.Form` and `OutboundMessage.Form`, and `StampedEvent.Form`:

* each field is held under its key, with no key repeated;
* an optional field (`media_type`, `file_name`, `reply_to`, `message_id`, `in_reply_to`) is there
  exactly when it is present, and then as a string, never as `null`;
* the attachments and the metadata may be left out when they are empty;
* an event names its variant under `kind`.

Writing gives a form (`form_toJson`), and reading accepts every form (`decode_of_form`); so
reading gives back what was written, and an object with only the required fields reads with the
defaults. `message_codec_round_trip` gathers these facts.
-/

namespace ChatGateway

open Json

/-! ## (1) Fields written only when present -/

/-- The written form of an optional string field: one field when present, none when absent. -/
theorem optionalField_eq (k : String) (o : Option String) :
    (o.map fun v => [(k, Json.str v)]).getD [] = o.toList.map fun v => (k, Json.str v) := by
  cases o <;> rfl

/-- The spec of a required string field accepts the string found under its name. -/
theorem need_string_check {j : Json} {k s : String} (h : j.get? k = some (.str s)) {v : Json}
    (hv : j.get? k = some v) : (FieldSpec.need k Decoder.string).check v = .ok () := by
  rw [h] at hv
  cases hv
  rfl

/-- The spec of an optional string field accepts what was written for a present value. -/
theorem maybe_string_check {j : Json} {k : String} {o : Option String}
    (h : j.get? k = o.map .str) {v : Json} (hv : j.get? k = some v) :
    (FieldSpec.maybe k (Decoder.option Decoder.string)).check v = .ok () := by
  rw [h] at hv
  cases o <;> cases hv
  rfl

/-- A required string field reads as the string found under its name. -/
theorem field_string {fs : List (String × Json)} {k s : String}
    (h : (Json.obj fs).get? k = some (.str s)) : Decoder.field fs k Decoder.string = .ok s := by
  simp only [Json.get?] at h
  simp [Decoder.field, h, Decoder.string]

/-- An optional string field reads as the value written for it, or as absent. -/
theorem fieldOpt_string {fs : List (String × Json)} {k : String} {o : Option String}
    (h : (Json.obj fs).get? k = o.map .str) : Decoder.fieldOpt fs k Decoder.string = .ok o := by
  simp only [Json.get?] at h
  cases o <;> simp [Decoder.fieldOpt, h, Decoder.option, Decoder.string, Except.map]

/-! ## (2) Attachments -/

namespace Attachment

/-- **A JSON form of an attachment:** an object with no repeated key that holds the URL, and the
media type and the file name exactly when they are present, as strings. -/
structure Form (a : Attachment) (j : Json) : Prop where
  distinct : ∃ fs, j = .obj fs ∧ (fs.map (·.1)).Nodup
  url : j.get? "url" = some (.str a.url)
  mediaType : j.get? "media_type" = a.mediaType.map .str
  fileName : j.get? "file_name" = a.fileName.map .str

theorem toJson_eq (a : Attachment) : a.toJson = Json.object ([("url", .str a.url)] ++
    a.mediaType.toList.map (fun v => ("media_type", Json.str v)) ++
    a.fileName.toList.map (fun v => ("file_name", Json.str v))) := by
  simp only [toJson, optionalField_eq]

/-- **Writing an attachment gives a form of it.** -/
theorem form_toJson (a : Attachment) : a.Form a.toJson := by
  rw [toJson_eq]
  obtain ⟨url, mediaType, fileName⟩ := a
  refine ⟨⟨_, rfl, nodup_objectFields _⟩, ?_, ?_, ?_⟩ <;>
    cases mediaType <;> cases fileName <;> simp [get?_object]

/-- **Reading accepts every form of an attachment.** -/
theorem decode_of_form {a : Attachment} {j : Json} (h : a.Form j) : decode j = .ok a := by
  obtain ⟨fs, rfl, hnodup⟩ := h.distinct
  have hrec : Decoder.record "struct MediaAttachment" fields (.obj fs) = .ok fs := by
    refine Decoder.record_ok _ hnodup (fun s hs v hv => ?_) (fun s hs hreq => ?_)
    · simp only [fields, List.mem_cons, List.not_mem_nil, or_false] at hs
      rcases hs with rfl | rfl | rfl
      · exact need_string_check h.url hv
      · exact maybe_string_check h.mediaType hv
      · exact maybe_string_check h.fileName hv
    · simp only [fields, List.mem_cons, List.not_mem_nil, or_false] at hs
      rcases hs with rfl | rfl | rfl
      · exact congrArg Option.isSome h.url
      all_goals simp [FieldSpec.maybe] at hreq
  rw [decode, hrec]
  simp only [bind, Except.bind, field_string h.url, fieldOpt_string h.mediaType,
    fieldOpt_string h.fileName]
  rfl

theorem decode_toJson (a : Attachment) : decode a.toJson = .ok a := decode_of_form (form_toJson a)

end Attachment

/-! ## (3) Messages -/

/-- **The JSON form of the fields every message has:** an object with no repeated key that holds
the channel, the chat and the content as strings; the attachments, each in a form of its own,
and the metadata, either of which may be left out when empty; and the reply target, the message
id and the replied-to id exactly when they are present, as strings. -/
structure MessageForm (channel chatId content : String) (media : List Attachment)
    (metadata : Metadata) (replyTo messageId inReplyTo : Option String) (j : Json) : Prop where
  distinct : ∃ fs, j = .obj fs ∧ (fs.map (·.1)).Nodup
  channel : j.get? "channel" = some (.str channel)
  chatId : j.get? "chat_id" = some (.str chatId)
  content : j.get? "content" = some (.str content)
  media : (∃ js, j.get? "media" = some (.arr js) ∧ List.Forall₂ Attachment.Form media js) ∨
    (j.get? "media" = none ∧ media = [])
  metadata : j.get? "metadata" = some (.obj metadata) ∨ (j.get? "metadata" = none ∧ metadata = [])
  replyTo : j.get? "reply_to" = replyTo.map .str
  messageId : j.get? "message_id" = messageId.map .str
  inReplyTo : j.get? "in_reply_to" = inReplyTo.map .str

namespace MessageForm

variable {channel chatId content : String} {media : List Attachment} {metadata : Metadata}
  {replyTo messageId inReplyTo : Option String} {fs : List (String × Json)}

/-- The attachments of a form read back. -/
theorem media_read
    (h : MessageForm channel chatId content media metadata replyTo messageId inReplyTo (.obj fs)) :
    Decoder.fieldOr fs "media" [] (Decoder.list Attachment.decode) = .ok media := by
  rcases h.media with ⟨js, hjs, hforms⟩ | ⟨hnone, rfl⟩
  · simp only [Json.get?] at hjs
    simp only [Decoder.fieldOr, hjs, Decoder.list]
    exact Decoder.items_forall₂ (fun _ _ hf => Attachment.decode_of_form hf) hforms
  · simp only [Json.get?] at hnone
    simp [Decoder.fieldOr, hnone]

/-- The metadata of a form reads back. -/
theorem metadata_read
    (h : MessageForm channel chatId content media metadata replyTo messageId inReplyTo (.obj fs)) :
    Decoder.fieldOr fs "metadata" [] Decoder.object = .ok metadata := by
  rcases h.metadata with hmeta | ⟨hnone, rfl⟩
  · simp only [Json.get?] at hmeta
    simp [Decoder.fieldOr, hmeta, Decoder.object]
  · simp only [Json.get?] at hnone
    simp [Decoder.fieldOr, hnone]

/-- The spec of the attachments accepts what a form holds under `media`. -/
theorem media_check
    (h : MessageForm channel chatId content media metadata replyTo messageId inReplyTo (.obj fs))
    {v : Json} (hv : (Json.obj fs).get? "media" = some v) :
    (FieldSpec.maybe "media" (Decoder.list Attachment.decode)).check v = .ok () := by
  rcases h.media with ⟨js, hjs, hforms⟩ | ⟨hnone, -⟩
  · rw [hjs] at hv
    cases hv
    simp [FieldSpec.maybe, Decoder.list, Decoder.items_forall₂ (fun _ _ hf => Attachment.decode_of_form hf) hforms,
      Except.map]
  · rw [hnone] at hv
    cases hv

/-- The spec of the metadata accepts what a form holds under `metadata`. -/
theorem metadata_check
    (h : MessageForm channel chatId content media metadata replyTo messageId inReplyTo (.obj fs))
    {v : Json} (hv : (Json.obj fs).get? "metadata" = some v) :
    (FieldSpec.maybe "metadata" Decoder.object).check v = .ok () := by
  rcases h.metadata with hmeta | ⟨hnone, -⟩
  · rw [hmeta] at hv
    cases hv
    rfl
  · rw [hnone] at hv
    cases hv

/-- **The specs of the fields every message has accept a form:** they are the specs of an
outbound message. -/
theorem check_ok
    (h : MessageForm channel chatId content media metadata replyTo messageId inReplyTo (.obj fs)) :
    ∀ s ∈ OutboundMessage.fields, ∀ v, lookupField s.name fs = some v → s.check v = .ok () := by
  intro s hs v hv
  simp only [OutboundMessage.fields, List.mem_cons, List.not_mem_nil, or_false] at hs
  rcases hs with rfl | rfl | rfl | rfl | rfl | rfl | rfl | rfl
  · exact need_string_check h.channel hv
  · exact need_string_check h.chatId hv
  · exact need_string_check h.content hv
  · exact h.media_check hv
  · exact h.metadata_check hv
  · exact maybe_string_check h.replyTo hv
  · exact maybe_string_check h.messageId hv
  · exact maybe_string_check h.inReplyTo hv

/-- A form holds every required field every message has. -/
theorem required_ok
    (h : MessageForm channel chatId content media metadata replyTo messageId inReplyTo (.obj fs)) :
    ∀ s ∈ OutboundMessage.fields, s.required = true → (lookupField s.name fs).isSome = true := by
  intro s hs hreq
  simp only [OutboundMessage.fields, List.mem_cons, List.not_mem_nil, or_false] at hs
  rcases hs with rfl | rfl | rfl | rfl | rfl | rfl | rfl | rfl
  · exact congrArg Option.isSome h.channel
  · exact congrArg Option.isSome h.chatId
  · exact congrArg Option.isSome h.content
  all_goals simp [FieldSpec.maybe] at hreq

end MessageForm

namespace InboundMessage

/-- **A JSON form of an inbound message:** the fields every message has, and the sender as a
string. -/
def Form (m : InboundMessage) (j : Json) : Prop :=
  MessageForm m.channel m.chatId m.content m.media m.metadata m.replyTo m.messageId m.inReplyTo j ∧
    j.get? "sender_id" = some (.str m.senderId)

theorem toJson_eq (m : InboundMessage) : m.toJson = Json.object ([("channel", .str m.channel),
    ("chat_id", .str m.chatId), ("sender_id", .str m.senderId), ("content", .str m.content),
    ("media", .arr (m.media.map Attachment.toJson)), ("metadata", .obj m.metadata)] ++
    m.replyTo.toList.map (fun v => ("reply_to", Json.str v)) ++
    m.messageId.toList.map (fun v => ("message_id", Json.str v)) ++
    m.inReplyTo.toList.map (fun v => ("in_reply_to", Json.str v))) := by
  simp only [toJson, optionalIds, optionalField_eq, List.append_assoc]

/-- **Writing an inbound message gives a form of it:** the attachments and the metadata always,
the optional ids only when present. -/
theorem form_toJson (m : InboundMessage) : m.Form m.toJson := by
  rw [toJson_eq]
  obtain ⟨channel, chatId, senderId, content, media, metadata, replyTo, messageId, inReplyTo⟩ := m
  have hmedia : List.Forall₂ Attachment.Form media (media.map Attachment.toJson) :=
    List.forall₂_map_right_iff.2 (List.forall₂_same.2 fun a _ => Attachment.form_toJson a)
  refine ⟨⟨⟨_, rfl, nodup_objectFields _⟩, ?_, ?_, ?_, .inl ⟨_, ?_, hmedia⟩,
    .inl ?_, ?_, ?_, ?_⟩, ?_⟩ <;>
    cases replyTo <;> cases messageId <;> cases inReplyTo <;> simp [get?_object]

/-- The specs of an inbound message: the sender's, and those of every message. -/
theorem mem_fields {s : FieldSpec} (hs : s ∈ fields) :
    s = .need "sender_id" Decoder.string ∨ s ∈ OutboundMessage.fields := by
  simp only [fields, OutboundMessage.fields, List.mem_cons, List.not_mem_nil, or_false] at hs ⊢
  rcases hs with h | h | h | h <;> simp [h]

/-- **Reading accepts every form of an inbound message.** -/
theorem decode_of_form {m : InboundMessage} {j : Json} (h : m.Form j) : decode j = .ok m := by
  obtain ⟨hm, hsender⟩ := h
  obtain ⟨fs, rfl, hnodup⟩ := hm.distinct
  have hrec : Decoder.record "struct InboundMessage" fields (.obj fs) = .ok fs := by
    refine Decoder.record_ok _ hnodup (fun s hs v hv => ?_) (fun s hs hreq => ?_)
    · rcases mem_fields hs with rfl | hs
      · exact need_string_check hsender hv
      · exact hm.check_ok s hs v hv
    · rcases mem_fields hs with rfl | hs
      · exact congrArg Option.isSome hsender
      · exact hm.required_ok s hs hreq
  rw [decode, hrec]
  simp only [bind, Except.bind, field_string hm.channel, field_string hm.chatId,
    field_string hsender, field_string hm.content, hm.media_read, hm.metadata_read,
    fieldOpt_string hm.replyTo, fieldOpt_string hm.messageId, fieldOpt_string hm.inReplyTo]
  rfl

theorem decode_toJson (m : InboundMessage) : decode m.toJson = .ok m :=
  decode_of_form (form_toJson m)

/-- **An object with the required fields only is a form of the message with the defaults:** no
attachments, empty metadata and none of the optional ids. -/
theorem form_required (channel chatId senderId content : String) :
    Form { channel, chatId, senderId, content } (Json.object [("channel", .str channel),
      ("chat_id", .str chatId), ("sender_id", .str senderId), ("content", .str content)]) := by
  refine ⟨⟨⟨_, rfl, nodup_objectFields _⟩, ?_, ?_, ?_, .inr ⟨?_, rfl⟩,
    .inr ⟨?_, rfl⟩, ?_, ?_, ?_⟩, ?_⟩ <;> simp [get?_object]

end InboundMessage

namespace OutboundMessage

/-- **A JSON form of an outbound message:** the fields every message has. -/
def Form (m : OutboundMessage) (j : Json) : Prop :=
  MessageForm m.channel m.chatId m.content m.media m.metadata m.replyTo m.messageId m.inReplyTo j

theorem toJson_eq (m : OutboundMessage) : m.toJson = Json.object ([("channel", .str m.channel),
    ("chat_id", .str m.chatId), ("content", .str m.content),
    ("media", .arr (m.media.map Attachment.toJson)), ("metadata", .obj m.metadata)] ++
    m.replyTo.toList.map (fun v => ("reply_to", Json.str v)) ++
    m.messageId.toList.map (fun v => ("message_id", Json.str v)) ++
    m.inReplyTo.toList.map (fun v => ("in_reply_to", Json.str v))) := by
  simp only [toJson, optionalIds, optionalField_eq, List.append_assoc]

/-- **Writing an outbound message gives a form of it:** the attachments and the metadata always,
the optional ids only when present. -/
theorem form_toJson (m : OutboundMessage) : m.Form m.toJson := by
  rw [toJson_eq]
  obtain ⟨channel, chatId, content, media, metadata, replyTo, messageId, inReplyTo⟩ := m
  have hmedia : List.Forall₂ Attachment.Form media (media.map Attachment.toJson) :=
    List.forall₂_map_right_iff.2 (List.forall₂_same.2 fun a _ => Attachment.form_toJson a)
  refine ⟨⟨_, rfl, nodup_objectFields _⟩, ?_, ?_, ?_, .inl ⟨_, ?_, hmedia⟩,
    .inl ?_, ?_, ?_, ?_⟩ <;>
    cases replyTo <;> cases messageId <;> cases inReplyTo <;> simp [get?_object]

/-- **Reading accepts every form of an outbound message.** -/
theorem decode_of_form {m : OutboundMessage} {j : Json} (h : m.Form j) : decode j = .ok m := by
  obtain ⟨fs, rfl, hnodup⟩ := h.distinct
  have hrec : Decoder.record "struct OutboundMessage" fields (.obj fs) = .ok fs :=
    Decoder.record_ok _ hnodup h.check_ok h.required_ok
  rw [decode, hrec]
  simp only [bind, Except.bind, field_string h.channel, field_string h.chatId,
    field_string h.content, h.media_read, h.metadata_read, fieldOpt_string h.replyTo,
    fieldOpt_string h.messageId, fieldOpt_string h.inReplyTo]
  rfl

theorem decode_toJson (m : OutboundMessage) : decode m.toJson = .ok m :=
  decode_of_form (form_toJson m)

/-- **An object with the required fields only is a form of the message with the defaults:** no
attachments, empty metadata and none of the optional ids. -/
theorem form_required (channel chatId content : String) :
    Form { channel, chatId, content } (Json.object [("channel", .str channel),
      ("chat_id", .str chatId), ("content", .str content)]) := by
  refine ⟨⟨_, rfl, nodup_objectFields _⟩, ?_, ?_, ?_, .inr ⟨?_, rfl⟩,
    .inr ⟨?_, rfl⟩, ?_, ?_, ?_⟩ <;> simp [get?_object]

end OutboundMessage

/-! ## (4) Stamped events -/

namespace BusEvent

/-- The name of an event's variant, as written under `kind`. -/
def tag : BusEvent → String
  | .inbound _ => "inbound"
  | .outbound _ => "outbound"

/-- A JSON value is a form of the message an event carries. -/
def Carries : BusEvent → Json → Prop
  | .inbound m, v => m.Form v
  | .outbound m, v => m.Form v

end BusEvent

namespace StampedEvent

/-- **A JSON form of a stamped event:** an object with no repeated key that names the event's
variant under `kind`, holds a form of its message under `message`, and under `timestamp` a text
that reads as its instant. -/
structure Form (e : StampedEvent) (j : Json) : Prop where
  distinct : ∃ fs, j = .obj fs ∧ (fs.map (·.1)).Nodup
  kind : j.get? "kind" = some (.str e.event.tag)
  message : ∃ v, j.get? "message" = some v ∧ e.event.Carries v
  timestamp : ∃ text, j.get? "timestamp" = some (.str text) ∧ Timestamp.parse text = .ok e.timestamp

/-- **Writing a stamped event gives a form of it,** when its instant reads back from its RFC 3339
text. -/
theorem form_toJson (e : StampedEvent) (hts : Timestamp.parse e.timestamp.render = .ok e.timestamp) :
    e.Form e.toJson := by
  obtain ⟨event, t⟩ := e
  cases event with
  | inbound m =>
    exact ⟨⟨_, rfl, nodup_objectFields _⟩, by simp [toJson, get?_object, BusEvent.jsonFields,
      BusEvent.tag], ⟨m.toJson, by simp [toJson, get?_object, BusEvent.jsonFields],
      InboundMessage.form_toJson m⟩, ⟨_, by simp [toJson, get?_object, BusEvent.jsonFields], hts⟩⟩
  | outbound m =>
    exact ⟨⟨_, rfl, nodup_objectFields _⟩, by simp [toJson, get?_object, BusEvent.jsonFields,
      BusEvent.tag], ⟨m.toJson, by simp [toJson, get?_object, BusEvent.jsonFields],
      OutboundMessage.form_toJson m⟩, ⟨_, by simp [toJson, get?_object, BusEvent.jsonFields], hts⟩⟩

/-- The fields of a variant, once `kind` is taken out: the message, read by `decodeMessage`, and
the instant. -/
theorem record_variant {α : Type} (name : String) (decodeMessage : Decoder α) {x : α}
    {t : Timestamp} {fs : List (String × Json)} (hnodup : (fs.map (·.1)).Nodup) {v : Json}
    (hv : lookupField "message" fs = some v) (hmsg : decodeMessage v = .ok x) {text : String}
    (htext : lookupField "timestamp" fs = some (.str text)) (hts : Timestamp.parse text = .ok t) :
    Decoder.record name [.need "message" decodeMessage, .need "timestamp" decodeTimestamp]
        (.obj (eraseField "kind" fs)) = .ok (eraseField "kind" fs) ∧
      Decoder.field (eraseField "kind" fs) "message" decodeMessage = .ok x ∧
      Decoder.field (eraseField "kind" fs) "timestamp" decodeTimestamp = .ok t := by
  have hmsgkey : "message" ≠ "kind" := by decide
  have htskey : "timestamp" ≠ "kind" := by decide
  have hv' := (lookupField_eraseField_of_ne hmsgkey fs).trans hv
  have htext' := (lookupField_eraseField_of_ne htskey fs).trans htext
  have hread : decodeTimestamp (.str text) = .ok t := by simp [decodeTimestamp, hts, Except.mapError]
  refine ⟨Decoder.record_ok _ (hnodup.sublist ((eraseField_sublist _ _).map _)) ?_ ?_,
    by simp [Decoder.field, hv', hmsg], by simp [Decoder.field, htext', hread]⟩
  · intro s hs w hw
    simp only [List.mem_cons, List.not_mem_nil, or_false] at hs
    rcases hs with rfl | rfl
    · cases Option.some.inj (hv'.symm.trans hw)
      simp [FieldSpec.need, hmsg, Except.map]
    · cases Option.some.inj (htext'.symm.trans hw)
      simp [FieldSpec.need, hread, Except.map]
  · intro s hs _
    simp only [List.mem_cons, List.not_mem_nil, or_false] at hs
    rcases hs with rfl | rfl
    · simp [FieldSpec.need, hv']
    · simp [FieldSpec.need, htext']

/-- **Reading accepts every form of a stamped event.** -/
theorem decode_of_form {e : StampedEvent} {j : Json} (h : e.Form j) : decode j = .ok e := by
  obtain ⟨fs, rfl, hnodup⟩ := h.distinct
  obtain ⟨v, hv, hcarries⟩ := h.message
  obtain ⟨text, htext, hts⟩ := h.timestamp
  have hkind := h.kind
  simp only [Json.get?] at hv htext hkind
  obtain ⟨event, t⟩ := e
  cases event with
  | inbound m =>
    obtain ⟨hrec, hmsg, hstamp⟩ :=
      record_variant "struct variant BusEvent::Inbound" InboundMessage.decode hnodup hv
        (InboundMessage.decode_of_form hcarries) htext hts
    simp only [decode, hkind, BusEvent.tag, decodeTag]
    simp [hrec, hmsg, hstamp, bind, Except.bind, pure, Except.pure]
  | outbound m =>
    obtain ⟨hrec, hmsg, hstamp⟩ :=
      record_variant "struct variant BusEvent::Outbound" OutboundMessage.decode hnodup hv
        (OutboundMessage.decode_of_form hcarries) htext hts
    simp only [decode, hkind, BusEvent.tag, decodeTag]
    simp [hrec, hmsg, hstamp, bind, Except.bind, pure, Except.pure]

end StampedEvent

/-! ## (5) The round trip -/

/-- **Messages and events read back as they were written.** Writing an attachment, an inbound or
an outbound message gives an object in the format's form: each field under its key with no key
repeated, and the optional fields only when present, as strings, never `null`. Reading accepts
every object of that form, so it gives back what was written, and an object with only the
required fields reads with no attachments, empty metadata and none of the optional fields. A
stamped event whose instant reads back from its RFC 3339 text is written with its variant under
`kind`, its message and its instant, and reads back as it was. -/
theorem message_codec_round_trip :
    (∀ a : Attachment, a.Form a.toJson ∧ Attachment.decode a.toJson = .ok a ∧
      ∀ j, a.Form j → Attachment.decode j = .ok a) ∧
    (∀ m : InboundMessage, m.Form m.toJson ∧ InboundMessage.decode m.toJson = .ok m ∧
      ∀ j, m.Form j → InboundMessage.decode j = .ok m) ∧
    (∀ m : OutboundMessage, m.Form m.toJson ∧ OutboundMessage.decode m.toJson = .ok m ∧
      ∀ j, m.Form j → OutboundMessage.decode j = .ok m) ∧
    (∀ e : StampedEvent, Timestamp.parse e.timestamp.render = .ok e.timestamp →
      e.Form e.toJson ∧ StampedEvent.decode e.toJson = .ok e) ∧
    (∀ url : String, Attachment.decode (Json.object [("url", .str url)]) = .ok { url }) ∧
    (∀ channel chatId senderId content : String,
      InboundMessage.decode (Json.object [("channel", .str channel), ("chat_id", .str chatId),
        ("sender_id", .str senderId), ("content", .str content)]) =
          .ok { channel, chatId, senderId, content }) ∧
    (∀ channel chatId content : String,
      OutboundMessage.decode (Json.object [("channel", .str channel), ("chat_id", .str chatId),
        ("content", .str content)]) = .ok { channel, chatId, content }) := by
  refine ⟨fun a => ⟨a.form_toJson, a.decode_toJson, fun _ => Attachment.decode_of_form⟩,
    fun m => ⟨m.form_toJson, m.decode_toJson, fun _ => InboundMessage.decode_of_form⟩,
    fun m => ⟨m.form_toJson, m.decode_toJson, fun _ => OutboundMessage.decode_of_form⟩,
    fun e hts => ⟨e.form_toJson hts, StampedEvent.decode_of_form (e.form_toJson hts)⟩,
    fun url => Attachment.decode_of_form ?_,
    fun channel chatId senderId content =>
      InboundMessage.decode_of_form (InboundMessage.form_required channel chatId senderId content),
    fun channel chatId content =>
      OutboundMessage.decode_of_form (OutboundMessage.form_required channel chatId content)⟩
  exact ⟨⟨_, rfl, nodup_objectFields _⟩, by simp [get?_object], by simp [get?_object],
    by simp [get?_object]⟩

/-- The round trip of an inbound event from a chat, stamped half a second past noon on
2024-01-01. -/
theorem message_codec_round_trip_stamped :
    Timestamp.parse (Timestamp.render ⟨19723, 43200, 500000000⟩) = .ok ⟨19723, 43200, 500000000⟩ ∧
      StampedEvent.decode (StampedEvent.toJson ⟨.inbound
        { channel := "telegram", chatId := "42", senderId := "u1", content := "hi" },
        ⟨19723, 43200, 500000000⟩⟩) = .ok ⟨.inbound
        { channel := "telegram", chatId := "42", senderId := "u1", content := "hi" },
        ⟨19723, 43200, 500000000⟩⟩ :=
  ⟨by rfl, (message_codec_round_trip.2.2.2.1 _ (by rfl)).2⟩

end ChatGateway
