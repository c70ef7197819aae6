import ProbeGateway.Http.Message

/-!
# Request targets

The target of a request is a path with an optional query, with or without a scheme and a host before
it. The path is kept as it is written; a fragment is dropped.
-/

namespace ProbeGateway

/-- The parts of a target that requests are told apart by. -/
structure RequestTarget where
  path : String
  query : Option String
deriving DecidableEq, Repr

namespace RequestTarget

/-- What follows a scheme and the two slashes behind it. -/
def behindScheme? : List Char → Option (List Char)
  | ':' :: '/' :: '/' :: rest => some rest
  | c :: rest => if c.isAlphanum || c = '+' || c = '-' || c = '.' then behindScheme? rest else none
  | [] => none

/-- Whether a character ends a host or a path. -/
def endsPath (c : Char) : Bool := c = '?' || c = '#'

/-- The path and query that a text without scheme and host holds. -/
def ofPathAndQuery (s : List Char) : RequestTarget where
  path := String.ofList (s.takeWhile fun c => !endsPath c)
  query := match s.dropWhile fun c => !endsPath c with
    | '?' :: q => some (String.ofList (q.takeWhile (· ≠ '#')))
    | _ => none

/-- Reads a target. Behind a host the path is a slash at least; a host alone has no path. -/
def parse (s : String) : RequestTarget :=
  match s.toList with
  | '/' :: rest => ofPathAndQuery ('/' :: rest)
  | ['*'] => ⟨"*", none⟩
  | cs =>
    match behindScheme? cs with
    | some rest =>
      match rest.dropWhile fun c => c ≠ '/' ∧ !endsPath c with
      | '/' :: r => ofPathAndQuery ('/' :: r)
      | r => ofPathAndQuery ('/' :: r)
    | none => ⟨"", none⟩

example : parse "/a/b?x=1#f" = ⟨"/a/b", some "x=1"⟩ := by decide +kernel
example : parse "http://h:1?x" = ⟨"/", some "x"⟩ ∧ parse "h:1" = ⟨"", none⟩ := by decide +kernel

end RequestTarget

end ProbeGateway
