import ProbeGateway.Backend.Query
import ProbeGateway.Proofs.Json.Written

/-!
# Envelopes as they are written

The client reads the result of a query in normal form. `Query.written?` reads the same envelope and
leaves the result as it is written.

1. Both read the same bodies, and the same of them but for the result, of which the client has the
   normal form (`Query.written_envelope`).
2. Every value whose numbers are integers, and that nests no deeper than an envelope allows, is the
   result in the text of some envelope (`Query.written?_answer`).
-/

namespace ProbeGateway.Query

open Json (Alike Fills NormalWithin Takes)

/-! ## Reading an envelope as it is written -/

/-- The fields of data, with the result as it is written. -/
def writtenDataFields (levels : Nat) : List (Json.Field DataDraft) :=
  (dataFields levels).set 1 (.of "result" (·.result.isSome) (Json.writtenValue levels)
    (fun x d => { d with result := some x }) true)

/-- Reads data, with the result as it is written. -/
def writtenData (levels : Nat) : Json.Reader Data :=
  (Json.readRecord levels "QueryData" writtenDataFields {}).complete DataDraft.finish

/-- The fields of an envelope, with the result as it is written. -/
def writtenFields (levels : Nat) : List (Json.Field Draft) :=
  (fields levels).set 1 (.of "data" (·.data.isSome) (Json.readOptional (writtenData levels))
    (fun x d => { d with data := some x }) true)

/-- Reads an envelope, with the result as it is written. -/
def writtenEnvelope (levels : Nat) : Json.Reader Envelope :=
  (Json.readRecord levels "Envelope" writtenFields {}).complete Draft.finish

/-- The envelope in the body of an answer, with the result as it is written. -/
def written? (body : Bytes) : Option Envelope :=
  (Json.parseWith (writtenEnvelope Json.maxLevels) body).toOption

/-! ## What the client reads of it -/

variable {levels : Nat}

/-- The second data has the normal form of the result of the first, which nests at most so deep. -/
structure Data.NormalOf (levels : Nat) (d d' : Data) : Prop where
  resultType : d.resultType = d'.resultType
  result : NormalWithin levels d.result d'.result

/-- Drafts of such data. -/
structure DataDraft.NormalOf (levels : Nat) (d d' : DataDraft) : Prop where
  resultType : d.resultType = d'.resultType
  result : Option.Rel (NormalWithin levels) d.result d'.result

/-- The second envelope has the normal form of the result of the first. -/
structure Envelope.NormalOf (levels : Nat) (e e' : Envelope) : Prop where
  status : e.status = e'.status
  data : Option.Rel (Data.NormalOf levels) e.data e'.data
  errorType : e.errorType = e'.errorType
  error : e.error = e'.error
  warnings : e.warnings = e'.warnings

/-- Drafts of such envelopes. -/
structure Draft.NormalOf (levels : Nat) (d d' : Draft) : Prop where
  status : d.status = d'.status
  data : Option.Rel (Option.Rel (Data.NormalOf levels)) d.data d'.data
  errorType : d.errorType = d'.errorType
  error : d.error = d'.error
  warnings : d.warnings = d'.warnings

theorem alike_dataFields (levels : Nat) :
    List.Forall₂ (Json.Field.Alike (DataDraft.NormalOf levels)) (writtenDataFields levels)
      (dataFields levels) := by
  refine .cons ?_ (.cons ?_ .nil)
  · refine (Alike.refl Json.readText).field _ (fun s t h => by rw [h.resultType]) ?_ true
    rintro x _ s t rfl h
    exact ⟨rfl, h.result⟩
  · refine (Json.alike_writtenValue levels).field _ (fun s t h => isSome_related h.result) ?_ true
    exact fun x y s t hxy h => ⟨h.resultType, .some hxy⟩

theorem alike_writtenData (levels : Nat) :
    Alike (Data.NormalOf levels) (writtenData (levels + 1)) (readData (levels + 1)) := by
  have hempty : DataDraft.NormalOf levels {} {} := ⟨rfl, .none⟩
  have hnull : NormalWithin levels .null .null := ⟨rfl, .null levels⟩
  refine (Alike.record (alike_dataFields levels) _ hempty).complete fun s t h => .some ⟨?_, ?_⟩
  · exact congrArg (·.getD "") h.resultType
  · exact rel_getD h.result hnull

theorem alike_fields (levels : Nat) :
    List.Forall₂ (Json.Field.Alike (Draft.NormalOf levels)) (writtenFields (levels + 1))
      (fields (levels + 1)) := by
  refine .cons ?_ (.cons ?_ (.cons ?_ (.cons ?_ (.cons ?_ .nil))))
  · refine (Alike.refl Json.readText).field _ (fun s t h => by rw [h.status]) ?_ false
    rintro x _ s t rfl h
    exact ⟨rfl, h.data, h.errorType, h.error, h.warnings⟩
  · refine (alike_writtenData levels).optional.field _ (fun s t h => isSome_related h.data) ?_ true
    exact fun x y s t hxy h => ⟨h.status, .some hxy, h.errorType, h.error, h.warnings⟩
  · refine (Alike.refl _).field _ (fun s t h => by rw [h.errorType]) ?_ true
    rintro x _ s t rfl h
    exact ⟨h.status, h.data, rfl, h.error, h.warnings⟩
  · refine (Alike.refl _).field _ (fun s t h => by rw [h.error]) ?_ true
    rintro x _ s t rfl h
    exact ⟨h.status, h.data, h.errorType, rfl, h.warnings⟩
  · refine (Alike.refl _).field _ (fun s t h => by rw [h.warnings]) ?_ true
    rintro x _ s t rfl h
    exact ⟨h.status, h.data, h.errorType, h.error, rfl⟩

theorem Draft.NormalOf.finish {s t : Draft} (h : Draft.NormalOf levels s t) :
    Option.Rel (Envelope.NormalOf levels) s.finish t.finish := by
  unfold Draft.finish
  rw [← h.status]
  cases s.status with
  | none => exact .none
  | some status =>
    refine .some ⟨rfl, rel_getD h.data .none, ?_, ?_, ?_⟩
    · exact congrArg (·.getD none) h.errorType
    · exact congrArg (·.getD none) h.error
    · exact congrArg (·.getD []) h.warnings

theorem alike_writtenEnvelope (levels : Nat) :
    Alike (Envelope.NormalOf levels) (writtenEnvelope (levels + 2)) (readEnvelope (levels + 2)) :=
  have hempty : Draft.NormalOf levels {} {} := ⟨rfl, .none, rfl, rfl, rfl⟩
  (Alike.record (alike_fields levels) _ hempty).complete fun _ _ => Draft.NormalOf.finish

/-- **The client reads the envelope that is written**, and of its result the normal form. -/
theorem written_envelope (body : Bytes) :
    Option.Rel (Envelope.NormalOf 125) (written? body) (envelope? body) :=
  (alike_writtenEnvelope 125).parseWith body

/-! ## Every result is written in some envelope -/

/-- An envelope of success. -/
def answer (kind : String) (result : Json) : Json :=
  .object [("status", .text "success"),
    ("data", .object [("resultType", .text kind), ("result", result)])]

theorem takes_answer (kind : String) {v : Json} (h : Takes (Json.writtenValue levels) v v) :
    Takes (writtenEnvelope (levels + 2)) (answer kind v)
      ⟨"success", some ⟨kind, v⟩, none, none, []⟩ := by
  have hmembers : Fills (Json.readField (writtenDataFields levels)) {}
      [("resultType", .text kind), ("result", v)] ⟨some kind, some v⟩ :=
    .field rfl rfl (Json.takes_readText kind) (.field rfl rfl h (.nil _))
  have hdata : Takes (writtenData (levels + 1))
      (.object [("resultType", .text kind), ("result", v)]) ⟨kind, v⟩ :=
    (Takes.record hmembers rfl "QueryData").complete rfl
  have hpresent := hdata.optional (by rw [Json.body_object, List.head?_cons]; decide)
  have hfills : Fills (Json.readField (writtenFields (levels + 1))) {}
      [("status", .text "success"), ("data", .object [("resultType", .text kind), ("result", v)])]
      ⟨some "success", some (some ⟨kind, v⟩), none, none, none⟩ :=
    .field rfl rfl (Json.takes_readText "success") (.field rfl rfl hpresent (.nil _))
  exact (Takes.record hfills rfl "Envelope").complete rfl

/-- **A result is in the text of an envelope**, whatever it is. -/
theorem written?_answer {v : Json} (h : Json.Within 125 v) (hintegral : Json.Integral v)
    (kind : String) :
    written? (answer kind v).body = some ⟨"success", some ⟨kind, v⟩, none, none, []⟩ := by
  have htakes := takes_answer kind (Json.takes_writtenValue h hintegral)
  exact congrArg Except.toOption htakes.parseWith

end ProbeGateway.Query
