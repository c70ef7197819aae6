/-!
# Path templates

A template is a path in which `:name` stands for one segment and `*name`, at the end, for the rest.
Neither stands for nothing. Of several templates that a path fits, the one that is literal for
longest is taken, and one segment goes before the rest.
-/

namespace ProbeGateway

/-- A part of a template. -/
inductive Piece
  | literal (c : Char)
  /-- One non-empty segment. -/
  | segment
  /-- Everything that is left, at least one character. -/
  | remainder
deriving DecidableEq, Repr

namespace Template

/-- The pieces of a template; the number counts down the characters left. -/
def piecesFrom : (fuel : Nat) → List Char → List Piece
  | 0, _ => []
  | _ + 1, [] => []
  | fuel + 1, ':' :: rest => .segment :: piecesFrom fuel (rest.dropWhile (· ≠ '/'))
  | fuel + 1, '*' :: rest => .remainder :: piecesFrom fuel (rest.dropWhile (· ≠ '/'))
  | fuel + 1, c :: rest => .literal c :: piecesFrom fuel rest

/-- The pieces of a template. -/
def pieces (template : String) : List Piece :=
  piecesFrom (template.toList.length + 1) template.toList

/-- What the segments and the remainder stand for, if a path fits. -/
def match? : List Piece → List Char → Option (List String)
  | [], [] => some []
  | [], _ :: _ => none
  | .literal _ :: _, [] => none
  | .literal c :: ps, d :: path => if c = d then match? ps path else none
  | .segment :: ps, path =>
    let text := path.takeWhile (· ≠ '/')
    if text.isEmpty then none
    else (match? ps (path.dropWhile (· ≠ '/'))).map (String.ofList text :: ·)
  | .remainder :: _, path => if path.isEmpty then none else some [String.ofList path]

/-- The rank of a piece: the lower goes first. -/
def rank : Piece → Nat
  | .literal _ => 0
  | .segment => 1
  | .remainder => 2

/-- Whether one template goes before another that the same path fits. -/
def precedes : List Piece → List Piece → Bool
  | p :: ps, q :: qs => if rank p = rank q then precedes ps qs else rank p < rank q
  | _, _ => false

/-- The template that a path goes to, and what its pieces stand for. -/
def choose (path : List Char) : List String → Option (String × List String)
  | [] => none
  | template :: rest =>
    match match? (pieces template) path with
    | none => choose path rest
    | some parts =>
      match choose path rest with
      | some (other, otherParts) =>
        if precedes (pieces other) (pieces template) then some (other, otherParts)
        else some (template, parts)
      | none => some (template, parts)

example : choose "/a/b".toList ["/a/*r", "/a/:x", "/:x/b"] = some ("/a/:x", ["b"]) := by
  decide +kernel
example : choose "/a/b/c".toList ["/a/*r", "/a/:x"] = some ("/a/*r", ["b/c"]) := by decide +kernel
example : choose "/a/".toList ["/a/*r", "/a/:x"] = none := by decide +kernel

end Template

end ProbeGateway
