import TableGateway.Sql.Ast
import TableGateway.Sql.Function

/-!
# Constants

Expressions that are the same for all rows by the way they are written: they read no column and ask
no query, and each function in them gives equal results for equal arguments.
-/

namespace TableGateway.Sql.Expr

/-- Whether the function with a name and a number of arguments gives equal results for equal
arguments. -/
def isSettledFunction (name : String) (arity : Nat) : Bool :=
  ((Function.named name).any fun f =>
    f.least ≤ arity && arity ≤ f.most && f.function.isPure && f.function != .loadExtension) ||
  (Chooser.named? name arity).isSome

mutual

/-- Whether an expression is the same for all rows. -/
def isConstant : Expr → Bool
  | .null _ | .text .. | .integer .. | .float .. | .blob .. | .param .. => true
  | .name n false false => sameName n.name "true" || sameName n.name "false"
  | .unary _ a | .cast a _ | .collate a _ => isConstant a
  | .binary _ a b => isConstant a && isConstant b
  | .between a b c => isConstant a && isConstant b && isConstant c
  | .inList a es => isConstant a && areConstant es
  | .row es => areConstant es
  | .cases base arms otherwise =>
    optionIsConstant base && armsAreConstant arms && optionIsConstant otherwise
  | .call c => callIsConstant c
  | _ => false

/-- Whether the call of a function is the same for all rows. -/
def callIsConstant : Call → Bool
  | ⟨function, args, _, _, _, _, none, none⟩ =>
    isSettledFunction function.name args.length && areConstant args
  | _ => false

/-- Whether all of some expressions are constant. -/
def areConstant : List Expr → Bool
  | [] => true
  | e :: es => isConstant e && areConstant es

/-- Whether the arms of a choice are constant. -/
def armsAreConstant : List (Expr × Expr) → Bool
  | [] => true
  | (a, r) :: arms => isConstant a && isConstant r && armsAreConstant arms

/-- Whether an expression that may be missing is constant. -/
def optionIsConstant : Option Expr → Bool
  | none => true
  | some e => isConstant e

end

end TableGateway.Sql.Expr
