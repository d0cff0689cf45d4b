import TableGateway.Sql.Error
import TableGateway.Sql.Collation

/-!
# Patterns

Patterns of two kinds: one has a character for any text, one for any character, and may have one
that takes the meaning from the next; the other has sets of characters instead. Patterns and texts are
lists of codes, which a NUL ends.
-/

namespace TableGateway.Sql

/-- What the characters of a pattern mean. -/
structure PatternStyle where
  /-- Stands for any text. -/
  many : Option Nat
  /-- Stands for any character. -/
  one : Option Nat
  /-- Takes the meaning from the next character. -/
  escape : Option Nat := none
  /-- Whether a bracket starts a set of characters. -/
  sets : Bool
  /-- Whether ASCII letters have no case. -/
  folded : Bool

namespace Pattern

/-- The code of a character. -/
def code (c : Char) : Nat := c.toNat

/-- The percent sign and the underscore; letters have no case. -/
def percent : PatternStyle := ⟨some (code '%'), some (code '_'), none, false, true⟩

/-- The asterisk, the question mark and sets of characters. -/
def star : PatternStyle := ⟨some (code '*'), some (code '?'), none, true, false⟩

/-- The percent sign and the underscore with a character that takes the meaning from them. -/
def percentWith (escape : Nat) : PatternStyle :=
  let keep (c : Char) : Option Nat := if code c = escape then none else some (code c)
  ⟨keep '%', keep '_', some escape, false, true⟩

/-- An ASCII letter in lower case. -/
def folded (c : Nat) : Nat :=
  if code 'A' ≤ c ∧ c ≤ code 'Z' then c + 32 else c

/-- Whether two characters are the same in a style. -/
def same (s : PatternStyle) (c d : Nat) : Bool :=
  c == d || (s.folded && c < 0x80 && d < 0x80 && folded c == folded d)

/-- Whether a character is in the rest of a set, and what follows the set; nothing where the set
does not end. `previous` is the character before, which may start a range. -/
def inSet? (c : Nat) : (previous : Nat) → (seen : Bool) → List Nat → Option (Bool × List Nat)
  | _, _, [] => none
  | previous, seen, d :: ds =>
    if d = code ']' then some (seen, ds)
    else
      match ds with
      | high :: rest =>
        if d = code '-' ∧ high ≠ code ']' ∧ 0 < previous then
          inSet? c 0 (seen || (previous ≤ c && c ≤ high)) rest
        else inSet? c d (seen || c == d) (high :: rest)
      | [] => none

/-- Whether a character is in a set after its bracket, and what follows the set. -/
def set? (c : Nat) (pattern : List Nat) : Option (Bool × List Nat) :=
  let (inverted, pattern) := match pattern with
    | d :: ds => if d = code '^' then (true, ds) else (false, d :: ds)
    | [] => (false, [])
  let (seen, pattern) := match pattern with
    | d :: ds => if d = code ']' then (c == d, ds) else (false, d :: ds)
    | [] => (false, [])
  (inSet? c 0 seen pattern).map fun (seen, rest) => (seen != inverted, rest)

/-- The characters with which all texts that match a pattern begin, and the rest of the pattern.
They end before a character that is not `plain`. -/
def literal (s : PatternStyle) (plain : Nat → Bool) : List Nat → List Nat × List Nat
  | [] => ([], [])
  | c :: cs =>
    if s.many == some c || s.one == some c || (s.sets && c == code '[') then ([], c :: cs)
    else if s.escape == some c then
      match cs with
      | d :: ds =>
        if d < 0x80 then ((literal s plain ds).map (d :: ·) id)
        else literal s plain (d :: ds)
      | [] => ([], [])
    else if c < 0x80 || plain c then (literal s plain cs).map (c :: ·) id
    else ([], c :: cs)

/-- Whether a text matches a pattern; `fuel` is greater than the sum of their lengths. -/
def matchFrom (s : PatternStyle) : (fuel : Nat) → List Nat → List Nat → Bool
  | 0, _, _ => false
  | _ + 1, [], text => text.isEmpty
  | fuel + 1, p :: ps, text =>
    if s.many = some p then
      matchFrom s fuel ps text ||
        match text with
        | [] => false
        | _ :: rest => matchFrom s fuel (p :: ps) rest
    else if s.escape = some p then
      match ps, text with
      | q :: qs, c :: rest => same s q c && matchFrom s fuel qs rest
      | _, _ => false
    else if s.sets && p = code '[' then
      match text with
      | [] => false
      | c :: rest =>
        match set? c ps with
        | some (true, after) => matchFrom s fuel after rest
        | _ => false
    else
      match text with
      | [] => false
      | c :: rest => (same s p c || s.one == some p) && matchFrom s fuel ps rest

/-- The codes of a text up to a NUL. -/
def codesOf (utf8 : Bytes) : List Nat :=
  Encoding.codes (utf8.takeWhile (· != 0))

/-- Whether a text matches a pattern. -/
def isMatch (s : PatternStyle) (pattern text : Bytes) : Bool :=
  let p := codesOf pattern
  let t := codesOf text
  matchFrom s (p.length + t.length + 1) p t

/-- The greatest number of bytes of a pattern. -/
def maxLength : Nat := 50000

/-- The style of patterns with an escape, which must be a single character. -/
def escaped (escape : Bytes) : Result PatternStyle :=
  match codesOf escape with
  | [c] => .ok (percentWith c)
  | _ => fail "ESCAPE expression must be a single character"

end Pattern

end TableGateway.Sql
