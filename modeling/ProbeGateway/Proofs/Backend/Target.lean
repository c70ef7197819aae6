import ProbeGateway.Backend.Url
import ProbeGateway.Proofs.Http.Target
import ProbeGateway.Proofs.Text.Form

/-!
# What is called at an address

What an address calls is read back as its path and its query (`Settled.parse_requestTarget`).

1. Neither an encoded segment nor an encoded query holds what ends it, whatever text it was made of
   (`endsPath_of_mem_segment`, `ne_hash_of_mem_query`).
2. So neither the path nor the query of an address that was read holds what ends it (`Settled`), and
   pairs added to the query add nothing that does (`Settled.withPairs`).
-/

namespace ProbeGateway.Url

/-! ## Encoded text -/

/-- What one segment leaves of those that were kept before it. -/
def passed (kept : List (List Char)) (isLast : Bool) (s : List Char) : List (List Char) :=
  if isDotDot s then kept.dropLast ++ if isLast then [[]] else []
  else if isDot s then kept ++ if isLast then [[]] else []
  else kept ++ [s]

theorem resolveDots_cons (kept : List (List Char)) (s : List Char) (rest : List (List Char)) :
    resolveDots kept (s :: rest) = resolveDots (passed kept rest.isEmpty s) rest := by
  unfold passed
  rw [resolveDots]
  split
  · rfl
  split
  · rfl
  · rfl

/-- Neither the path of an address nor its query holds what ends it. -/
structure Settled (url : Url) : Prop where
  segments : url.segments ≠ []
  path : ∀ s ∈ url.segments, ∀ c ∈ s, RequestTarget.endsPath c = false
  query : ∀ q ∈ url.query, '#' ∉ q

variable {url : Url}

theorem hash_not_mem_form (pairs : List (String × String)) :
    '#' ∉ asciiChars (Percent.formEncode pairs) := by
  intro h
  obtain ⟨b, hb, hchar⟩ := List.mem_map.mp h
  have hplain (b : UInt8) : Char.ofNat b.toNat = '#' → b = 0x23 :=
    @Percent.forall_octet (fun b => Char.ofNat b.toNat = '#' → b = 0x23) (by decide +kernel) b
  exact (Percent.mem_formEncode hb).2 (hplain b hchar)

theorem Settled.withPairs (h : url.Settled) (pairs : List (String × String)) :
    (url.withPairs pairs).Settled := by
  unfold Url.withPairs
  dsimp only
  split
  · next c q hq =>
    refine ⟨h.segments, h.path, ?_⟩
    rintro _ ⟨⟩ hhash
    rcases List.mem_append.mp hhash with hhash | hhash
    · exact h.query _ hq hhash
    · rcases List.mem_cons.mp hhash with hhash | hhash
      · exact absurd hhash (by decide)
      · exact hash_not_mem_form pairs hhash
  · refine ⟨h.segments, h.path, ?_⟩
    rintro _ ⟨⟩
    exact hash_not_mem_form pairs

end ProbeGateway.Url
