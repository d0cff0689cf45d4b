import TableGateway.Sql.Ast

/-!
# Windows as they are written

A window can extend one that has a name: it takes over the partition of that, and its order, if it
has one. `WindowDraft.extended` says what comes of that, and why something cannot be extended.
-/

namespace TableGateway.Sql

/-- Whether a frame ends before it starts by the kinds of its ends. -/
def WindowFrame.isReversed {α : Type} (f : WindowFrame α) : Bool :=
  match f.start, f.stop with
  | .currentRow, .preceding _ | .following _, .preceding _ | .following _, .currentRow => true
  | _, _ => false

/-- The frame of a window that says nothing about it. -/
def WindowFrame.usual {α : Type} : WindowFrame α :=
  ⟨.range, .unbounded, .currentRow, none⟩

namespace WindowDraft

/-- The last one of some windows that has a name. Names between quotes are compared with their
quotes. -/
def named? (windows : List (String × WindowDraft)) (name : String) : Option WindowDraft :=
  (windows.reverse.find? fun (n, _) => sameName n name).map Prod.snd

/-- The window with a name, or the error that there is none. -/
def named (windows : List (String × WindowDraft)) (name : String) : Result WindowDraft :=
  match named? windows name with
  | some w => .ok w
  | none => fail ("no such window: " ++ name)

/-- What a window says that the one it extends has said already. -/
def conflict? (base w : WindowDraft) : Option String :=
  if !w.partition.isEmpty then some "PARTITION clause"
  else if !base.order.isEmpty && !w.order.isEmpty then some "ORDER BY clause"
  else if base.frame.isSome then some "frame specification"
  else none

/-- A window together with the one that it extends. -/
def extended (windows : List (String × WindowDraft)) (w : WindowDraft) : Result WindowDraft :=
  match w.base with
  | none => .ok w
  | some name => do
    let base ← named windows name
    match conflict? base w with
    | some what => fail ("cannot override " ++ what ++ " of window: " ++ name)
    | none =>
      return { w with
        base := none
        partition := base.partition
        order := if base.order.isEmpty then w.order else base.order }

end WindowDraft

end TableGateway.Sql
