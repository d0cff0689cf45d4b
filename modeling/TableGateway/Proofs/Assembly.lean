import Mathlib.Data.List.Basic
import Mathlib.Data.List.Induction
import TableGateway.Clause

/-!
# Clauses and the order in which they are built

A clause is built by calls in any order. What it says of one kind depends on the calls of that kind
alone: joins are collected, and of everything else the last call counts. So calls of different kinds
may be interleaved in any way (`assembly_of_calls`), and the text has the kinds in one fixed order.
-/

namespace TableGateway

/-- A call that builds a clause. -/
inductive ClauseCall where
  | join (direction : JoinKind) (join : Join)
  | filterBy (condition : Condition)
  | groupBy (columns : List String)
  | havingBy (condition : Condition)
  | orderBy (order : Order)
  | limit (n : UInt64)
  | limitRange (first second : UInt64)
  | skip (n : UInt64)
  deriving DecidableEq, Repr

/-- The kind of the joins of a direction. -/
def JoinKind.clauseKind : JoinKind → ClauseKind
  | left => .joinLeft
  | inner => .joinInner
  | right => .joinRight

namespace ClauseCall

/-- The kind that a call builds. -/
def kind : ClauseCall → ClauseKind
  | join direction _ => direction.clauseKind
  | filterBy _ => .filter
  | groupBy _ => .group
  | havingBy _ => .having
  | orderBy _ => .order
  | limit _ | limitRange .. => .limit
  | skip _ => .offset

/-- The clause after one more call. -/
def apply (c : Clause) : ClauseCall → Clause
  | join direction j => c.addJoin direction j
  | filterBy condition => c.filterBy condition
  | groupBy columns => c.groupBy columns
  | havingBy condition => c.havingBy condition
  | orderBy order => c.orderBy order
  | limit n => c.limitTo (.count n)
  | limitRange first second => c.limitTo (.range first second)
  | skip n => c.skip n

/-- The clause that calls build. -/
def build (calls : List ClauseCall) : Clause :=
  calls.foldl apply .empty

/-! ### What calls say of a kind -/

def join? (direction : JoinKind) : ClauseCall → Option Join
  | join d j => if d = direction then some j else none
  | _ => none

def filter? : ClauseCall → Option Condition
  | filterBy condition => some condition
  | _ => none

def group? : ClauseCall → Option (List String)
  | groupBy columns => some columns
  | _ => none

def having? : ClauseCall → Option Condition
  | havingBy condition => some condition
  | _ => none

def order? : ClauseCall → Option Order
  | orderBy order => some order
  | _ => none

def limit? : ClauseCall → Option Limit
  | limit n => some (.count n)
  | limitRange first second => some (.range first second)
  | _ => none

def offset? : ClauseCall → Option UInt64
  | skip n => some n
  | _ => none

variable {α : Type}

/-- What the last call says that says anything. -/
def last? (pick : ClauseCall → Option α) (calls : List ClauseCall) : Option α :=
  (calls.filterMap pick).getLast?

/-- The joins of a direction, in the order of their calls. -/
def joins (direction : JoinKind) (calls : List ClauseCall) : List Join :=
  calls.filterMap (join? direction)

/-- The clause that has the collected joins, and of everything else what was said last. -/
def summary (calls : List ClauseCall) : Clause where
  joinLeft := joins .left calls
  joinInner := joins .inner calls
  joinRight := joins .right calls
  filter := last? filter? calls
  group := (last? group? calls).getD []
  having := last? having? calls
  order := last? order? calls
  limit := last? limit? calls
  offset := last? offset? calls

theorem last?_concat (pick : ClauseCall → Option α) (calls : List ClauseCall) (call : ClauseCall) :
    last? pick (calls ++ [call]) = (pick call).or (last? pick calls) := by
  unfold last?
  rw [List.filterMap_append]
  cases h : pick call <;> simp [h]

theorem joins_concat (direction : JoinKind) (calls : List ClauseCall) (call : ClauseCall) :
    joins direction (calls ++ [call]) = joins direction calls ++ (join? direction call).toList := by
  unfold joins
  rw [List.filterMap_append]
  cases h : join? direction call <;> simp [h]

/-- One more call changes the summary as it changes the clause. -/
theorem summary_concat (calls : List ClauseCall) (call : ClauseCall) :
    summary (calls ++ [call]) = apply (summary calls) call := by
  unfold summary
  simp only [last?_concat, joins_concat]
  cases call with
  | join direction j =>
    cases direction <;>
      simp [apply, Clause.addJoin, join?, filter?, group?, having?, order?, limit?, offset?]
  | filterBy | groupBy | havingBy | orderBy | limit | limitRange | skip =>
    simp [apply, Clause.filterBy, Clause.groupBy, Clause.havingBy, Clause.orderBy, Clause.limitTo,
      Clause.skip, join?, filter?, group?, having?, order?, limit?, offset?]

theorem build_eq_summary (calls : List ClauseCall) : build calls = summary calls := by
  -- from the back, for the last call is the one that counts
  induction calls using List.reverseRecOn with
  | nil => rfl
  | append_singleton calls call ih =>
    rw [summary_concat, ← ih, build, build, List.foldl_append]
    rfl

/-! ### Calls of one kind -/

/-- What is said by calls of one kind depends on them alone. -/
theorem filterMap_of_kind {pick : ClauseCall → Option α} {k : ClauseKind}
    (hs : ∀ call, (pick call).isSome = true → call.kind = k) (calls : List ClauseCall) :
    (calls.filter (·.kind = k)).filterMap pick = calls.filterMap pick := by
  rw [List.filterMap_filter]
  refine List.filterMap_congr fun call _ => ?_
  by_cases hk : call.kind = k
  · simp [hk]
  · have hn : pick call = none := by
      cases h : pick call with
      | none => rfl
      | some a => exact absurd (hs call (by rw [h]; rfl)) hk
    simp [hk, hn]

theorem kind_of_join? {direction : JoinKind} {call : ClauseCall}
    (h : (join? direction call).isSome = true) : call.kind = direction.clauseKind := by
  cases call with
  | join d j =>
    by_cases hd : d = direction
    · rw [hd, kind]
    · simp [join?, hd] at h
  | _ => cases h

theorem summary_congr {calls calls' : List ClauseCall}
    (h : ∀ k : ClauseKind, calls.filter (·.kind = k) = calls'.filter (·.kind = k)) :
    summary calls = summary calls' := by
  have same : ∀ {α : Type} (pick : ClauseCall → Option α) (k : ClauseKind),
      (∀ call, (pick call).isSome = true → call.kind = k) →
      calls.filterMap pick = calls'.filterMap pick := by
    intro α pick k hs
    rw [← filterMap_of_kind hs calls, h k, filterMap_of_kind hs calls']
  have hj : ∀ direction, joins direction calls = joins direction calls' := fun direction =>
    same _ direction.clauseKind fun call hc => kind_of_join? hc
  unfold summary last?
  rw [hj, hj, hj, same filter? .filter, same group? .group, same having? .having,
    same order? .order, same limit? .limit, same offset? .offset]
  all_goals
    intro call hc
    cases call <;> first | rfl | cases hc

/-! ### Text -/

/-- The joins of a direction as text. -/
def joinsText (word tablePrefix : String) (list : List Join) : String :=
  String.join (list.map fun j =>
    " " ++ word ++ " JOIN " ++ Table.prefixed tablePrefix j.table ++ " ON " ++ j.on)

/-- A predicate after its keyword, unless it is empty. -/
def conditionText (keyword : String) : Option Condition → String
  | none => ""
  | some c => if c.compile = "" then "" else " " ++ keyword ++ " " ++ c.compile

def groupText : Option (List String) → String
  | none | some [] => ""
  | some columns => " GROUP BY " ++ ",".intercalate columns

/-- A column to order by, with its direction in upper case if it has one. -/
def itemText : OrderItem → String
  | .column name => name
  | .directed name direction => name ++ " " ++ Text.upper direction

def orderText : Option Order → String
  | none | some (.items []) => ""
  | some (.raw text) => if text = "" then "" else " ORDER BY " ++ text
  | some (.items list) => " ORDER BY " ++ ",".intercalate (list.map itemText)

def limitText : Option Limit → String
  | none => ""
  | some (.count n) => " LIMIT " ++ Numeral.ofNat n.toNat
  | some (.range first second) =>
    " LIMIT " ++ Numeral.ofNat first.toNat ++ "," ++ Numeral.ofNat second.toNat

def offsetText : Option UInt64 → String
  | none => ""
  | some n => " OFFSET " ++ Numeral.ofNat n.toNat

/-- The text that calls lead to: the kinds in their order, the joins in the order of their calls, and
of everything else what was said last. -/
def text (tablePrefix : String) (calls : List ClauseCall) : String :=
  joinsText "LEFT" tablePrefix (joins .left calls) ++
    joinsText "INNER" tablePrefix (joins .inner calls) ++
    joinsText "RIGHT" tablePrefix (joins .right calls) ++
    conditionText "WHERE" (last? filter? calls) ++
    groupText (last? group? calls) ++
    conditionText "HAVING" (last? having? calls) ++
    orderText (last? order? calls) ++
    limitText (last? limit? calls) ++
    offsetText (last? offset? calls)

/-- A part of a clause with the blank in front. -/
def led (part : Option String) : String :=
  (part.map (" " ++ ·)).getD ""

theorem join_filterMap (ks : List ClauseKind) (part : ClauseKind → Option String) :
    String.join ((ks.filterMap part).map (" " ++ ·)) = String.join (ks.map fun k => led (part k)) := by
  induction ks with
  | nil => rfl
  | cons k ks ih =>
    rw [List.filterMap_cons, List.map_cons, String.join_cons, ← ih]
    cases part k with
    | none => simp [led]
    | some t => simp [led, String.join_cons]

theorem blank_intercalate {texts : List String} (h : texts ≠ []) :
    " " ++ " ".intercalate texts = String.join (texts.map (" " ++ ·)) := by
  induction texts with
  | nil => exact absurd rfl h
  | cons t texts ih =>
    cases texts with
    | nil => simp
    | cons t' texts =>
      rw [List.map_cons, String.join_cons, ← ih (List.cons_ne_nil _ _),
        String.intercalate_cons_cons]
      simp only [String.append_assoc]

theorem led_joinsText? (direction : JoinKind) (tablePrefix : String) (list : List Join) :
    led (Clause.joinsText? direction tablePrefix list) =
      joinsText direction.keyword tablePrefix list := by
  cases list with
  | nil => rfl
  | cons j list =>
    refine (blank_intercalate (List.cons_ne_nil _ _)).trans ?_
    simp only [joinsText, List.map_cons, List.map_map, Function.comp_def, Clause.joinText,
      String.append_assoc]

theorem led_conditionText? (keyword : String) (c : Option Condition) :
    led (c.bind (Clause.conditionText? keyword)) = conditionText keyword c := by
  cases c with
  | none => rfl
  | some c =>
    by_cases hc : c.compile = "" <;>
      simp [led, conditionText, Clause.conditionText?, Condition.isEmpty, hc, String.append_assoc]

theorem led_groupText? (columns : Option (List String)) :
    led (Clause.groupText? (columns.getD [])) = groupText columns := by
  rcases columns with _ | _ | ⟨column, columns⟩
  · rfl
  · rfl
  · simp [led, groupText, Clause.groupText?, ← String.append_assoc]

theorem orderItemText_eq : Clause.orderItemText = itemText := by
  funext item
  cases item <;> rfl

theorem led_orderText? (order : Option Order) :
    led (order.bind Clause.orderText?) = orderText order := by
  rcases order with _ | text | _ | ⟨item, list⟩
  · rfl
  · by_cases ht : text = "" <;>
      simp [led, orderText, Clause.orderText?, Order.isEmpty, Clause.orderBody, ht,
        ← String.append_assoc]
  · rfl
  · simp [led, orderText, Clause.orderText?, Order.isEmpty, Clause.orderBody, orderItemText_eq,
      ← String.append_assoc]

theorem led_limitText (limit : Option Limit) :
    led (limit.map Clause.limitText) = limitText limit := by
  rcases limit with _ | n | ⟨first, second⟩
  · rfl
  · simp [led, limitText, Clause.limitText, ← String.append_assoc]
  · simp [led, limitText, Clause.limitText, ← String.append_assoc]

theorem led_offsetText (offset : Option UInt64) :
    led (offset.map Clause.offsetText) = offsetText offset := by
  cases offset <;> simp [led, offsetText, Clause.offsetText, ← String.append_assoc]

theorem assemble_summary (calls : List ClauseCall) (tablePrefix : String) :
    (summary calls).assemble tablePrefix = text tablePrefix calls := by
  rw [Clause.assemble, join_filterMap]
  simp only [ClauseKind.all, List.map_cons, List.map_nil, String.join_cons, String.join_nil,
    Clause.fragment?, summary, led_joinsText?, led_conditionText?, led_groupText?, led_orderText?,
    led_limitText, led_offsetText, JoinKind.keyword, String.append_empty]
  simp only [text, String.append_assoc]

/-- Calls that agree kind by kind build the same clause, with the same text under every prefix. The
text has the kinds in their order: joins in the order of their calls, of everything else what was
said last, and nothing of a kind that is absent or empty. -/
theorem assembly_of_calls {calls calls' : List ClauseCall}
    (h : ∀ k : ClauseKind, calls.filter (·.kind = k) = calls'.filter (·.kind = k)) :
    build calls = build calls' ∧ ∀ tablePrefix,
      (build calls).assemble tablePrefix = (build calls').assemble tablePrefix ∧
      (build calls).assemble tablePrefix = text tablePrefix calls := by
  have hb : build calls = build calls' := by
    rw [build_eq_summary, build_eq_summary, summary_congr h]
  refine ⟨hb, fun tablePrefix => ⟨by rw [hb], ?_⟩⟩
  rw [build_eq_summary, assemble_summary]

namespace Interleaved

def bySections : List ClauseCall :=
  [.join .left ⟨"users", "u = 1"⟩, .join .left ⟨"tags", "t = 2"⟩, .join .right ⟨"logs", "l = 3"⟩,
    .filterBy (.raw "old"), .filterBy (.raw "a = 1"), .groupBy [], .limit 7, .limitRange 5 10]

def mixed : List ClauseCall :=
  [.limit 7, .filterBy (.raw "old"), .join .right ⟨"logs", "l = 3"⟩, .join .left ⟨"users", "u = 1"⟩,
    .limitRange 5 10, .groupBy [], .join .left ⟨"tags", "t = 2"⟩, .filterBy (.raw "a = 1")]

theorem assembly_of_calls_interleaved :
    (∀ k : ClauseKind, bySections.filter (·.kind = k) = mixed.filter (·.kind = k)) ∧
    build bySections = build mixed ∧
    (build mixed).assemble "blog_" = " LEFT JOIN blog_users ON u = 1 LEFT JOIN blog_tags ON t = 2" ++
      " RIGHT JOIN blog_logs ON l = 3 WHERE a = 1 LIMIT 5,10" := by
  have h : ∀ k : ClauseKind, bySections.filter (·.kind = k) = mixed.filter (·.kind = k) := by
    intro k
    cases k <;> rfl
  obtain ⟨hb, ht⟩ := assembly_of_calls h
  refine ⟨h, hb, ?_⟩
  rw [← (ht "blog_").1, (ht "blog_").2]
  rfl

end Interleaved
end ClauseCall
end TableGateway
