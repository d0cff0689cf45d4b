import TableGateway.Sql.Simplify.Replacement

/-!
# Pools of selects

The selects of a statement, each with its number, so that those inside of a select come before it.
What is changed about a select in a pool keeps that order, and so does the copying of selects.
-/

namespace TableGateway.Sql

/-- The selects of a statement. -/
structure Pool where
  /-- Each select comes after those inside of it. -/
  selects : List (Nat × BoundSelect)
  /-- A number that no select has, and no greater one. -/
  next : Nat

namespace Pool

/-- The pool of selects that have their places as numbers. -/
def ofList (selects : List BoundSelect) : Pool :=
  { selects := selects.zipIdx.map fun (s, n) => (n, s), next := selects.length }

/-- The select with a number. -/
def get? (p : Pool) (number : Nat) : Option BoundSelect :=
  p.selects.lookup number

/-- Change the select with a number. -/
def modify (p : Pool) (number : Nat) (f : BoundSelect → BoundSelect) : Pool :=
  { p with selects := p.selects.map fun (n, s) => if n = number then (n, f s) else (n, s) }

/-- Leave out the select with a number. -/
def erase (p : Pool) (number : Nat) : Pool :=
  { p with selects := p.selects.filter fun s => s.1 != number }

/-- The numbers of selects with those of all that are inside of them. -/
def below (p : Pool) (roots : List Nat) : List Nat :=
  p.selects.reverse.foldl
    (fun known (n, s) => if known.contains n then known ++ s.children else known) roots

/-- Put something in for columns in some selects and in those inside of them. -/
def replace (p : Pool) (roots : List Nat) (r : Replacement) : Pool :=
  let numbers := p.below roots
  { p with selects := p.selects.map fun (n, s) =>
      if numbers.contains n then (n, s.replace r) else (n, s) }

/-- Numbers for copies of selects. -/
def renumbering (p : Pool) (numbers : List Nat) : List (Nat × Nat) :=
  numbers.eraseDups.zipIdx.map fun (n, i) => (n, p.next + i)

/-- What puts copies in for selects. -/
def copies (numbers : List (Nat × Nat)) : Replacement :=
  { query := fun n => (numbers.lookup n).getD n }

/-- Copy some selects with those inside of them. Each copy comes right behind what it is a copy of, or
all come before the select with a number. -/
def copy (p : Pool) (roots : List Nat) (before : Option Nat) : Pool × Replacement :=
  let numbers := p.renumbering (p.below roots)
  let r := copies numbers
  let copyOf (s : Nat × BoundSelect) : List (Nat × BoundSelect) :=
    ((numbers.lookup s.1).map fun m => (m, s.2.replace r)).toList
  let selects := match before with
    | none => p.selects.flatMap fun s => s :: copyOf s
    | some n =>
      let all := p.selects.flatMap copyOf
      p.selects.flatMap fun s => if s.1 = n then all ++ [s] else [s]
  ({ selects, next := p.next + numbers.length }, r)

end Pool

end TableGateway.Sql
