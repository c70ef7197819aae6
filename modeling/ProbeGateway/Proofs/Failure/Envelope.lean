import ProbeGateway.Http.Message

/-!
# What a client is told of a failure

The body of a failure is its `envelope`: the code of its kind and its message, as one JSON object.
The code can be read off the text (`kind_eq_of_envelope_eq`). The statuses of kinds report failures,
and the kind that stands for a status is never the one whose details are for the log.
-/

namespace ProbeGateway

/-! ## Kinds and statuses -/

namespace ErrorKind

theorem isFailure_httpStatus (k : ErrorKind) : Http.isFailure k.httpStatus = true := by
  cases k <;> rfl

theorem name_injective {j k : ErrorKind} (h : j.name = k.name) : j = k := by
  have := ofName?_name j
  rw [h, ofName?_name] at this
  exact (Option.some.inj this).symm

/-- The codes that a client sees go from one to sixteen. -/
theorem code_mem_range {k : ErrorKind} (h : k ≠ internalOnly) : 1 ≤ k.code ∧ k.code ≤ 16 := by
  cases k <;> first | exact absurd rfl h | decide

theorem clientFacing_of_ne {k : ErrorKind} (h : k ≠ internalOnly) : k.clientFacing = k := by
  cases k <;> first | exact absurd rfl h | rfl

theorem ofStatus_ne_internalOnly (status : Nat) : ofStatus status ≠ internalOnly := by
  unfold ofStatus
  repeat' split
  all_goals decide

/-- A status that reports a failure has a kind of its own. -/
theorem ofStatus_ne_unknown {status : Nat} (h : Http.isFailure status = true) :
    ofStatus status ≠ unknown := by
  obtain ⟨hlow, hhigh⟩ := Http.isFailure_iff.mp h
  unfold ofStatus
  split
  all_goals try decide
  split
  · decide
  · rw [if_pos (by omega)]
    decide

end ErrorKind

/-! ## The text of a failure -/

/-- The text that tells a client of a kind of failure and its message. -/
def envelopeText (kind : ErrorKind) (message : String) : List Char :=
  "\x7b\"code\":".toList ++ decimalDigits kind.code ++
    ",\"message\":".toList ++ Json.writeText message ++ ['\x7d']

/-- The octets of that text. -/
def envelope (kind : ErrorKind) (message : String) : Bytes :=
  Utf8.encodeList (envelopeText kind message)

theorem Failure.body_eq_envelope (e : Failure) : e.json.body = envelope e.kind e.message := by
  have hc : Json.writeText "code" = "\"code\"".toList := by decide +kernel
  have hm : Json.writeText "message" = "\"message\"".toList := by decide +kernel
  unfold Failure.json Json.body envelope envelopeText Json.nat
  simp [Json.write, Json.writeMembers, Json.writeNumber, hc, hm]

/-! ## Reading the code off the text -/

/-- The digits behind the name of the code. -/
def codeDigits (text : List Char) : List Char := (text.drop 8).takeWhile Char.isDigit

theorem codeDigits_envelopeText (kind : ErrorKind) (message : String) :
    codeDigits (envelopeText kind message) = decimalDigits kind.code := by
  unfold codeDigits envelopeText
  rw [List.append_assoc, List.append_assoc, List.append_assoc,
    show (8 : Nat) = "\x7b\"code\":".toList.length from rfl, List.drop_left,
    List.takeWhile_append_of_pos fun c hc => isDigit_of_mem_decimalDigits hc]
  exact List.append_nil _

theorem encodeList_injective {s t : List Char} (h : Utf8.encodeList s = Utf8.encodeList t) :
    s = t := by
  have hs := Utf8.decodeList?_encodeList s
  rw [h, Utf8.decodeList?_encodeList] at hs
  exact (Option.some.inj hs).symm

/-- Different kinds are told apart by the body. -/
theorem kind_eq_of_envelope_eq {j k : ErrorKind} {m n : String}
    (h : envelope j m = envelope k n) : j = k := by
  have htext : envelopeText j m = envelopeText k n := encodeList_injective h
  have hdigits : decimalDigits j.code = decimalDigits k.code := by
    rw [← codeDigits_envelopeText j m, htext, codeDigits_envelopeText]
  exact ErrorKind.code_injective (decimalDigits_injective hdigits)

end ProbeGateway
