import DebugClient.Wire.Event
import DebugClient.Proofs.Wire.Traces
/-!
# Events — an event that was read is written as itself

Every record an event is made of is lawful because its fields are, and an
event's own form is the record of its method and parameters. What is left
is that the method written is the one the parameters belong to.
-/

namespace DebugClient

open Codec

/-! ## The parts of an event -/

section Words

instance : Lawful ValueType.codec := lawful_enumeration (by intro a; cases a <;> rfl)

instance : Lawful Subtype.codec := lawful_enumeration (by intro a; cases a <;> rfl)

instance : Lawful ScopeKind.codec := lawful_enumeration (by intro a; cases a <;> rfl)

instance : Lawful PauseReason.codec := lawful_enumeration (by intro a; cases a <;> rfl)

instance : Lawful ScriptLanguage.codec := lawful_enumeration (by intro a; cases a <;> rfl)

theorem Wire.Event.Method.spelled : Spelled Wire.Event.Method.all Wire.Event.Method.spelling := by
  intro m
  cases m <;> rfl

end Words

namespace Wire

section Records

instance : Lawful PropertyPreview.codec := lawful_record (by decide) fun _ => rfl

instance : Lawful ObjectPreview.codec := lawful_record (by decide) fun _ => rfl

instance : Lawful RemoteObject.codec := lawful_record (by decide) fun _ => rfl

instance : Lawful ExceptionDetails.codec := lawful_record (by decide) fun _ => rfl

instance : Lawful Location.codec := lawful_record (by decide) fun _ => rfl

instance : Lawful Scope.codec := lawful_record (by decide) fun _ => rfl

instance : Lawful CallFrame.codec := lawful_record (by decide) fun _ => rfl

instance : Field.Lawful (.defaulted "length" .nat32 0) := Field.lawful_defaulted _ rfl

instance : Field.Lawful (.defaulted "scriptLanguage" ScriptLanguage.codec .javaScript) :=
  Field.lawful_defaulted _ rfl

instance : Lawful ScriptReport.codec := lawful_record (by decide) fun _ => rfl

instance : Lawful PauseReport.codec := lawful_record (by decide) fun _ => rfl

instance : Lawful Resolution.codec := lawful_record (by decide) fun _ => rfl

instance : Lawful ContextReport.codec := lawful_record (by decide) fun _ => rfl

instance : Lawful ContextGone.codec := lawful_record (by decide) fun _ => rfl

instance : Lawful Thrown.codec := lawful_record (by decide) fun _ => rfl

instance : Lawful Revoked.codec := lawful_record (by decide) fun _ => rfl

instance : Lawful ConsoleCall.codec := lawful_record (by decide) fun _ => rfl

instance : Lawful nothing := lawful_record (by decide) fun _ => rfl

instance {α : Type} (name : String) (c : Codec α) [Lawful c] : Lawful (single name c) :=
  lawful_record (List.nodup_singleton name) fun _ => rfl

end Records

namespace Event

variable {m : Method} {params : Json} {e : Event}

instance : Lawful Method.codec := lawful_enumeration Method.spelled

instance : Fields.Lawful fields :=
  inferInstanceAs (Fields.Lawful (.cons (.required "method" Method.codec) <|
    .cons (.required "params" .json) .nil))

theorem fields_distinct : (fields.layout.map (·.1)).Nodup := by decide

/-- The fields of an event reread, whatever its parameters are. -/
theorem fields_rereads (m : Method) (params : Json) : fields.Rereads (m, params, ()) :=
  Fields.rereads_cons (rereads_enumeration Method.spelled m) <|
    Fields.rereads_cons rfl fun _ _ => rfl

/-- Parameters that read as an event are written, by its method, so that
they read as that event again. -/
theorem ofParams?_params (h : ofParams? m params = some e) :
    ofParams? e.method e.params = some e := by
  -- Each method has a codec of its own, and every one of them is lawful.
  cases m <;>
    · obtain ⟨a, read, rfl⟩ := Option.map_eq_some_iff.mp h
      have again := Lawful.stable _ a read
      simp only [Event.method, Event.params, ofParams?]
      rw [again]
      rfl

/-- **An event that was read is written as itself**: what is written reads
as that event again, and names the method of the event. -/
theorem codec_rereads {j : Json} (h : codec.read j = some e) :
    codec.read (codec.write e) = some e ∧
      (codec.write e).member? "method" = some (.str e.method.spelling) := by
  obtain ⟨⟨m, params, _⟩, -, made⟩ := Option.bind_eq_some_iff.mp h
  constructor
  · have whole : (record fields id id).read (codec.write e) = some (e.method, e.params, ()) :=
      rereads_record fields_distinct rfl (fields_rereads e.method e.params)
    change ((record fields id id).read (codec.write e)).bind _ = some e
    rw [whole]
    exact ofParams?_params made
  · change ((record fields id id).write (e.method, e.params, ())).member? "method" = _
    exact record_write_member fields_distinct List.mem_cons_self

/-- A stop with everything in it that nests: a scope whose object has a
preview, a chain of two traces, free data, a reason and a kind of object
that have no name here, fields that are null, and a location given as an
array. -/
def nestedPause : Json :=
  .obj
    [("method", .str "Debugger.paused"),
      ("params", .obj
        [("asyncStackTrace", .obj
          [("callFrames", .arr []), ("description", .null),
            ("parent", .obj
              [("callFrames", .arr [.arr [.str "run", .str "7", .str "", .int 3, .int 0]]),
                ("description", .str "timer")])]),
          ("callFrames", .arr [.obj
            [("callFrameId", .str "0"), ("functionName", .str "f"),
              ("location", .arr [.str "7", .int 2, .null]),
              ("scopeChain", .arr [.obj
                [("object", .obj
                  [("objectId", .str "o1"),
                    ("preview", .obj
                      [("overflow", .bool true),
                        ("properties", .arr [.obj [("name", .str "x"), ("value", .str "1")]]),
                        ("type", .str "object")]),
                    ("subtype", .str "tuple"), ("type", .str "object"), ("value", .null)]),
                  ("type", .str "local")]]),
              ("this", .obj [("type", .str "undefined")])]]),
          ("data", .obj [("uncaught", .bool true)]),
          ("reason", .str "heapLimit")])]

theorem codec_rereads_nestedPause :
    ∃ e, codec.read nestedPause = some e ∧ codec.read (codec.write e) = some e ∧
      (codec.write e).member? "method" = some (.str e.method.spelling) := by
  have reads : (codec.read nestedPause).isSome = true := by decide
  obtain ⟨e, h⟩ := Option.isSome_iff_exists.mp reads
  exact ⟨e, h, codec_rereads h⟩

end Event

end Wire

end DebugClient
