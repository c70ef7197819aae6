import ProbeGateway.Pipeline.Layers
import ProbeGateway.Proofs.Failure.Envelope
import ProbeGateway.Proofs.Http.Headers

/-!
# What stays of a response that is replaced

A response that is replaced by a failure takes over status, body and failure. Of its headers just
two are said anew: the media type, which is that of the failure, and the length, which is left to
the server.

1. Under each name a replaced response has what it had, except under these two (`values_replace`).
2. No name comes in but the media type, and none is lost but the length
   (`has_replace_iff`).
3. These are the headers that putting the old ones in one by one leaves, so that a name that stands
   there many times keeps all its values in order (`replace_keeps_rest`).
-/

namespace ProbeGateway.Layer

variable (r : Response) (e : Failure)

/-- The headers of a response without what they say of its body. -/
def keptHeaders (r : Response) : Headers := (r.headers.remove contentType).remove contentLength

theorem values_keptHeaders_of_ne {name : String} (htype : name ≠ contentType)
    (hlength : name ≠ contentLength) : (keptHeaders r).values name = r.headers.values name := by
  rw [keptHeaders, Headers.values_remove_of_ne _ hlength, Headers.values_remove_of_ne _ htype]

theorem values_keptHeaders_contentType : (keptHeaders r).values contentType = [] := by
  rw [keptHeaders, Headers.values_remove_of_ne _ (by decide +kernel), Headers.values_remove_self]

theorem values_keptHeaders_contentLength : (keptHeaders r).values contentLength = [] :=
  Headers.values_remove_self _ _

theorem values_response_of_ne {name : String} (htype : name ≠ contentType) :
    e.response.headers.values name = [] := by
  show Headers.values name [(contentType, jsonType)] = []
  rw [Headers.values_cons_of_ne (Ne.symm htype), Headers.values_nil]

theorem values_replace (name : String) :
    (replace r e).headers.values name =
      if name = contentType then [jsonType]
      else if name = contentLength then [] else r.headers.values name := by
  show (e.response.headers.merge (keptHeaders r)).values name = _
  by_cases htype : name = contentType
  · rw [if_pos htype, htype,
      Headers.values_merge_of_other_eq_nil _ (values_keptHeaders_contentType r)]
    exact Headers.values_cons_self _ _ _
  · rw [if_neg htype, Headers.values_merge_of_values_eq_nil _ (values_response_of_ne e htype)]
    by_cases hlength : name = contentLength
    · rw [if_pos hlength, hlength, values_keptHeaders_contentLength]
    · rw [if_neg hlength, values_keptHeaders_of_ne r htype hlength]

theorem has_replace_iff (name : String) :
    (replace r e).headers.has name = true ↔
      name = contentType ∨ name ≠ contentLength ∧ r.headers.has name = true := by
  rw [Headers.has_iff_values_ne_nil, Headers.has_iff_values_ne_nil, values_replace]
  by_cases htype : name = contentType
  · simp [htype]
  · by_cases hlength : name = contentLength
    · simp [hlength]
    · simp [htype, hlength]

/-- **Replacing a response replaces its body and nothing else.** It has the status, the body and the
media type of the failure and carries it, and no length is left. Under every other name it has the
values it had, in order, with no name more or less; they are the values that are left if what is
kept is put in one by one. -/
theorem replace_keeps_rest (r : Response) (e : Failure) :
    let replaced := replace r e
    (replaced.status = e.kind.httpStatus ∧ replaced.body = envelope e.kind e.message ∧
      replaced.failure = some e) ∧
    (replaced.headers.values contentType = [jsonType] ∧
      replaced.headers.values contentLength = []) ∧
    (∀ name, name ≠ contentType → name ≠ contentLength →
      replaced.headers.values name = r.headers.values name) ∧
    (∀ name, replaced.headers.has name = true ↔
      name = contentType ∨ name ≠ contentLength ∧ r.headers.has name = true) ∧
    (∀ name, replaced.headers.values name =
      (e.response.headers.putIn [] (keptHeaders r)).values name) := by
  intro replaced
  refine ⟨⟨rfl, e.body_eq_envelope, rfl⟩, ⟨?_, ?_⟩, fun name htype hlength => ?_,
    has_replace_iff r e, fun name => (Headers.values_putIn name _ _).symm⟩
  · rw [values_replace, if_pos rfl]
  · rw [values_replace, if_neg (by decide +kernel), if_pos rfl]
  · rw [values_replace, if_neg htype, if_neg hlength]

/-- A response with two values for one name and two for the other, among them what is said of its
body, keeps just the four. -/
theorem replace_keeps_rest_repeated :
    let r : Response := {
      status := 418
      headers := [("vary", "origin"), (contentType, "text/plain"), ("set-cookie", "a=1"),
        (contentLength, "3"), ("vary", "accept"), (contentType, "text/html"), ("set-cookie", "b=2")]
      body := []
      failure := none }
    let replaced := replace r (.internal "lost")
    replaced.status = 500 ∧ replaced.headers.values contentType = [jsonType] ∧
      replaced.headers.values contentLength = [] ∧
      replaced.headers.values "vary" = ["origin", "accept"] ∧
      replaced.headers.values "set-cookie" = ["a=1", "b=2"] ∧
      replaced.headers.has "etag" = false := by
  intro r replaced
  obtain ⟨⟨hstatus, -, -⟩, ⟨htype, hlength⟩, hkept, hnames, -⟩ :=
    replace_keeps_rest r (.internal "lost")
  have hvary := hkept "vary" (by decide +kernel) (by decide +kernel)
  have hcookie := hkept "set-cookie" (by decide +kernel) (by decide +kernel)
  refine ⟨hstatus, htype, hlength, hvary.trans (by decide +kernel), hcookie.trans (by decide +kernel),
    ?_⟩
  rw [Bool.eq_false_iff, ne_eq, hnames]
  decide +kernel

end ProbeGateway.Layer
