import TableGateway.Sql.Ast

/-!
# Mentions

What a statement names before any name is looked up: the tables that it reads, with the names of
their schemas, and parameters. A definition may name only what its own schema has.
-/

namespace TableGateway.Sql

/-- Something that is named. -/
inductive Mention where
  | table (schema : Option String) (name : String)
  | param
  deriving DecidableEq, Repr

mutual

/-- What an expression mentions. -/
def Expr.mentions : Expr → List Mention
  | .param .. => [.param]
  | .unary _ a | .cast a _ | .collate a _ => a.mentions
  | .binary _ a b => a.mentions ++ b.mentions
  | .between a b c => a.mentions ++ b.mentions ++ c.mentions
  | .inList a es => a.mentions ++ mentionsOfAll es
  | .inSelect a s => a.mentions ++ Select.mentions s
  | .inTable a schema table => a.mentions ++ [.table schema table]
  | .exists_ s | .scalar s => Select.mentions s
  | .row es => mentionsOfAll es
  | .cases base arms otherwise =>
    mentionsOfOption base ++ mentionsOfArms arms ++ mentionsOfOption otherwise
  | .call c => Call.mentions c
  | .raise _ message => mentionsOfOption message
  | _ => []

/-- What the call of a function mentions. -/
def Call.mentions : Call → List Mention
  | ⟨_, args, _, _, _, order, filter, window⟩ =>
    mentionsOfOrder order ++ mentionsOfAll args ++ mentionsOfOver window ++ mentionsOfOption filter

/-- What the window of a call mentions. -/
def mentionsOfOver : Option Over → List Mention
  | some (.window w) => WindowDraft.mentions w
  | _ => []

/-- What a window mentions. -/
def WindowDraft.mentions : WindowDraft → List Mention
  | ⟨_, partition, order, frame⟩ =>
    mentionsOfOrder order ++ mentionsOfAll partition ++ mentionsOfFrame frame

/-- What the frame of a window mentions. -/
def mentionsOfFrame : Option (WindowFrame Expr) → List Mention
  | some ⟨_, start, stop, _⟩ => mentionsOfEdge start ++ mentionsOfEdge stop
  | none => []

/-- What an end of a frame mentions. -/
def mentionsOfEdge : FrameEdge Expr → List Mention
  | .preceding e | .following e => e.mentions
  | _ => []

/-- What windows with names mention. -/
def mentionsOfWindows : List (String × WindowDraft) → List Mention
  | [] => []
  | (_, w) :: ws => WindowDraft.mentions w ++ mentionsOfWindows ws

/-- What some expressions mention. -/
def mentionsOfAll : List Expr → List Mention
  | [] => []
  | e :: es => e.mentions ++ mentionsOfAll es

/-- What the arms of a choice mention. -/
def mentionsOfArms : List (Expr × Expr) → List Mention
  | [] => []
  | (a, r) :: arms => a.mentions ++ r.mentions ++ mentionsOfArms arms

/-- What an expression mentions that may be missing. -/
def mentionsOfOption : Option Expr → List Mention
  | none => []
  | some e => e.mentions

/-- What the terms of an order mention. -/
def mentionsOfOrder : List OrderTerm → List Mention
  | [] => []
  | ⟨e, _, _⟩ :: ts => e.mentions ++ mentionsOfOrder ts

/-- What a select mentions. -/
def Select.mentions : Select → List Mention
  | ⟨common, _, first, more⟩ =>
    mentionsOfCommons common ++ Core.mentions first ++ mentionsOfMore more

/-- What the selects mention that follow the first. -/
def mentionsOfMore : List (CompoundOp × Core) → List Mention
  | [] => []
  | (_, c) :: cs => Core.mentions c ++ mentionsOfMore cs

/-- What named queries mention. -/
def mentionsOfCommons : List Common → List Mention
  | [] => []
  | ⟨_, _, body, _⟩ :: cs => Select.mentions body ++ mentionsOfCommons cs

/-- What a single select mentions. -/
def Core.mentions : Core → List Mention
  | ⟨rows, _, columns, sources, filter, group, having, windows, order, limit, offset⟩ =>
    mentionsOfRows rows ++ mentionsOfResults columns ++ mentionsOfSources sources ++
      mentionsOfOption filter ++ mentionsOfAll group ++ mentionsOfOption having ++
      mentionsOfOrder order ++ mentionsOfOption limit ++ mentionsOfOption offset ++
      mentionsOfWindows windows

/-- What the rows of a `VALUES` mention. -/
def mentionsOfRows : List (List Expr) → List Mention
  | [] => []
  | row :: rows => mentionsOfAll row ++ mentionsOfRows rows

/-- What the columns of a result mention. -/
def mentionsOfResults : List ResultColumn → List Mention
  | [] => []
  | .expr e _ _ :: cs => e.mentions ++ mentionsOfResults cs
  | _ :: cs => mentionsOfResults cs

/-- What sources mention. -/
def mentionsOfSources : List Source → List Mention
  | [] => []
  | ⟨body, _, _, _, on, _⟩ :: ss =>
    SourceBody.mentions body ++ mentionsOfOption on ++ mentionsOfSources ss

/-- What the body of a source mentions. -/
def SourceBody.mentions : SourceBody → List Mention
  | .table schema name none => [.table (schema.map Ident.name) name.name]
  | .table schema name (some args) =>
    .table (schema.map Ident.name) name.name :: mentionsOfAll args
  | .select s => Select.mentions s
  | .joined sources => mentionsOfSources sources

end

/-- What an upsert mentions. -/
def Upsert.mentions (u : Upsert) : List Mention :=
  let target := match u.target with
    | some (terms, filter) =>
      mentionsOfAll (terms.map IndexTerm.e) ++ mentionsOfOption filter
    | none => []
  let changes := match u.changes with
    | some (changes, filter) =>
      mentionsOfAll (changes.map Assignment.value) ++ mentionsOfOption filter
    | none => []
  target ++ changes

/-- What a statement of a trigger mentions. -/
def TriggerStep.mentions : TriggerStep → List Mention
  | .insert _ _ _ rows upserts => rows.mentions ++ upserts.flatMap Upsert.mentions
  | .update _ _ changes sources filter =>
    mentionsOfAll (changes.map Assignment.value) ++ mentionsOfSources sources ++
      mentionsOfOption filter
  | .delete _ filter => mentionsOfOption filter
  | .select s => s.mentions

/-- What a trigger mentions, apart from its table. -/
def TriggerRule.mentions (r : TriggerRule) : List Mention :=
  r.steps.flatMap TriggerStep.mentions ++ mentionsOfOption r.condition

/-- Why what is mentioned cannot stand in a definition of a schema. -/
def mentionFault? (kind : String) (name : Ident) (schema : String) (ms : List Mention) :
    Option String :=
  ms.findSome? fun m =>
    match m with
    | .param => some (kind ++ " cannot use variables")
    | .table (some s) _ =>
      if sameName s schema then none
      else some (kind ++ " " ++ name.raw ++ " cannot reference objects in database " ++ s)
    | .table none _ => none

end TableGateway.Sql
