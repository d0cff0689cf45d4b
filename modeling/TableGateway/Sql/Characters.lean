import TableGateway.Sql.Pattern

/-!
# Characters of texts

Texts in UTF-8 as groups of bytes, one for each character, and what is found, replaced and cut there.
Bytes that are no character stand alone.
-/

namespace TableGateway.Sql.Characters

/-- The characters of a text in UTF-8 as groups of bytes. A byte that starts a longer character
takes all bytes that continue it. -/
def characters : Bytes → List Bytes
  | [] => []
  | b :: bs =>
    match characters bs with
    | [] => [[b]]
    | c :: cs =>
      let continued := c.head?.any Encoding.continues
      if 0xC0 ≤ b && continued then (b :: c) :: cs
      else if Encoding.continues b && continued then (b :: c) :: cs
      else [b] :: c :: cs

/-- Groups of bytes, where those that continue nothing stand alone. -/
def loose (c : Bytes) : List Bytes :=
  if c.head?.any Encoding.continues then c.map ([·]) else [c]

/-- The characters of a text up to its first NUL. -/
def ofText (utf8 : Bytes) : List Bytes :=
  (characters (utf8.takeWhile (· != 0))).flatMap loose

/-- The place of a list of bytes in another one, from 1 on; `fuel` is greater than the length. -/
def find? (isText : Bool) (needle : Bytes) : (fuel : Nat) → (place : Nat) → Bytes → Option Nat
  | 0, _, _ => none
  | fuel + 1, place, hay =>
    if needle.isPrefixOf hay then some place
    else
      match hay with
      | [] => none
      | _ :: rest =>
        let rest := if isText then rest.dropWhile Encoding.continues else rest
        find? isText needle fuel (place + 1) rest

/-- A text with all places of another one replaced; `fuel` is greater than the length. -/
def replaced (pattern by_ : Bytes) : (fuel : Nat) → Bytes → Bytes
  | 0, bs => bs
  | fuel + 1, bs =>
    if pattern.isPrefixOf bs then by_ ++ replaced pattern by_ fuel (bs.drop pattern.length)
    else
      match bs with
      | [] => []
      | b :: rest => b :: replaced pattern by_ fuel rest

/-- A text without some characters at its start; `fuel` is greater than the length. -/
def trimmedStart (set : List Bytes) : (fuel : Nat) → Bytes → Bytes
  | 0, bs => bs
  | fuel + 1, bs =>
    match set.find? fun c => !c.isEmpty && c.isPrefixOf bs with
    | some c => trimmedStart set fuel (bs.drop c.length)
    | none => bs

/-- A text without some characters at either end. -/
def trimmed (left right : Bool) (set : List Bytes) (bs : Bytes) : Bytes :=
  let bs := if left then trimmedStart set (bs.length + 1) bs else bs
  if right then (trimmedStart (set.map List.reverse) (bs.length + 1) bs.reverse).reverse else bs

/-- A part of a list: from a place on, which counts from the end where it is negative, and as many
items as said, to the left of it where that is negative. -/
def slice {α : Type} (items : List α) (start : Int) (count : Int) : List α :=
  let (start, count) :=
    if start < 0 then
      let s := start + items.length
      if s < 0 then (0, if count < 0 then 0 else count + s) else (s, count)
    else if 0 < start then (start - 1, count)
    else (0, if 0 < count then count - 1 else count)
  let (start, count) :=
    if count < 0 then
      let n := if count < -start then start else -count
      (start - n, n)
    else (start, count)
  (items.drop start.toNat).take count.toNat

end TableGateway.Sql.Characters
