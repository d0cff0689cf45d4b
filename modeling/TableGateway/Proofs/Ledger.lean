import Mathlib.Algebra.BigOperators.Group.Multiset.Basic
import Mathlib.Algebra.Group.Int.Defs
import Mathlib.Algebra.Group.Nat.Even
import TableGateway.Proofs.Assignment

/-!
# What adjustments add up to

A `Ledger` is a database that executes an update at once, on the current values of its rows and in
exact arithmetic. Adjustments that are made one after the other change a value by the changes of
those that are about it when they are made (`Ledger.value_foldl`), and what the changes come to does
not depend on their order (`Change.Adds`). Where the rows that the adjustments select do not depend
on the columns that change, it is known from the start which adjustments these are
(`Ledger.changes_of_independent`).
-/

namespace TableGateway
open Gateway (Adjustment Change)

/-! ### Databases that keep integers -/

/-- What tables hold: an integer in each of their columns `κ` for each of their rows `ρ`, and whatever
else conditions depend on. -/
structure Contents (ρ κ R : Type) where
  value : ρ → κ → Int
  rest : R

namespace Contents
variable {ρ κ R : Type}

/-- Give a column of the selected rows what a function makes of them. -/
def assign [DecidableEq κ] (x : Contents ρ κ R) (column : κ) (selected : ρ → Bool)
    (f : (κ → Int) → Int) : Contents ρ κ R where
  value r k := if selected r = true ∧ k = column then f (x.value r) else x.value r k
  rest := x.rest

/-- Two contents that differ in some columns only. -/
structure AgreeOff (columns : κ → Prop) (x y : Contents ρ κ R) : Prop where
  value : ∀ r k, ¬ columns k → x.value r k = y.value r k
  rest : x.rest = y.rest

theorem AgreeOff.refl (columns : κ → Prop) (x : Contents ρ κ R) : AgreeOff columns x x :=
  ⟨fun _ _ _ => rfl, rfl⟩

theorem AgreeOff.trans {columns : κ → Prop} {x y z : Contents ρ κ R} (h : AgreeOff columns x y)
    (h' : AgreeOff columns y z) : AgreeOff columns x z :=
  ⟨fun r k hk => (h.value r k hk).trans (h'.value r k hk), h.rest.trans h'.rest⟩

end Contents

/-- A database that executes each update of the tables `t` at once, on the current values of the rows
and in exact arithmetic, or refuses it and changes nothing. -/
structure Ledger {W C τ : Type} (engine : Engine W C) (t : τ → Table) (ρ κ R : Type)
    [DecidableEq κ] where
  /-- The column that a name stands for in a table. -/
  column : τ → List String → κ
  contents : C → W → Contents ρ κ R
  /-- The rows that an update of a table selects, unless it is refused. -/
  rows? : τ → Update → List Value → Contents ρ κ R → Option (ρ → Bool)
  executes : ∀ {j : τ} {sql : String} {u : Update} {params : List Value} {c : C} {w : W}
    {selected : ρ → Bool}, Update.read? (t j) sql = some u →
    rows? j u params (contents c w) = some selected →
    ∃ n c' w', engine.run sql params c w = (.ok ([], n), c', w') ∧
      contents c' w' = (contents c w).assign (column j u.column) selected
        fun row => u.term.eval fun name => row (column j name)
  refuses : ∀ {j : τ} {sql : String} {u : Update} {params : List Value} {c : C} {w : W},
    Update.read? (t j) sql = some u → rows? j u params (contents c w) = none →
    ∃ text c' w', engine.run sql params c w = (.error text, c', w') ∧ contents c' w' = contents c w

namespace Ledger
variable {W C τ ρ κ R : Type} [DecidableEq κ] {engine : Engine W C} {t : τ → Table}
  (l : Ledger engine t ρ κ R)

/-- The contents after an update of a table. -/
def apply (j : τ) (u : Update) (params : List Value) (x : Contents ρ κ R) : Contents ρ κ R :=
  match l.rows? j u params x with
  | none => x
  | some selected => x.assign (l.column j u.column) selected
    fun row => u.term.eval fun name => row (l.column j name)

/-- The contents after an adjustment. -/
def serve (x : Contents ρ κ R) (a : Adjustment τ) : Contents ρ κ R :=
  match a.update? with
  | none => x
  | some u => l.apply a.table u a.params x

/-- Whether an adjustment is about the value of a row in a column. -/
def hits (x : Contents ρ κ R) (r : ρ) (k : κ) (a : Adjustment τ) : Bool :=
  match a.update? with
  | none => false
  | some u => l.column a.table u.column = k && (l.rows? a.table u a.params x).any (· r)

theorem value_serve (x : Contents ρ κ R) (a : Adjustment τ) (r : ρ) (k : κ) :
    (l.serve x a).value r k =
      if l.hits x r k a then a.change.apply (x.value r k) else x.value r k := by
  unfold serve hits
  cases ha : a.update? with
  | none => simp
  | some u =>
    simp only [apply]
    split
    · next hr => simp [hr]
    · next selected hr =>
      by_cases hk : l.column a.table u.column = k
      · subst hk
        cases hs : selected r with
        | false => simp [Contents.assign, hr, hs]
        | true => simp [Contents.assign, hr, hs, Adjustment.eval_of_update? ha]
      · simp [Contents.assign, hk, Ne.symm hk]

theorem rest_serve (x : Contents ρ κ R) (a : Adjustment τ) : (l.serve x a).rest = x.rest := by
  unfold serve apply
  split
  · rfl
  · split <;> rfl

end Ledger

/-! ### Changes of one value -/

namespace Gateway.Change

/-- What a change adds to a value. -/
def amount : Change → Int
  | move amount => amount.toInt
  | toggle => 0

/-- What changes of a value come to, in whatever order they are made: what it moves by adds up, and
a truth value is toggled as often as there are toggles. -/
structure Adds (cs : Multiset Change) (v v' : Int) : Prop where
  moves : toggle ∉ cs → v' = v + (cs.map amount).sum
  toggles : (∀ c ∈ cs, c = toggle) → v = 0 ∨ v = 1 → v' = if Even cs.card then v else 1 - v

theorem Adds.cons {c : Change} {cs : List Change} {v v' : Int} (h : Adds cs (c.apply v) v') :
    Adds (c :: cs : List Change) v v' := by
  constructor
  · intro hc
    rw [Multiset.mem_coe, List.mem_cons, not_or] at hc
    have hv := h.moves hc.2
    cases c with
    | move n => simpa [apply, amount, add_assoc] using hv
    | toggle => exact absurd rfl hc.1
  · intro hc hv
    obtain rfl : c = toggle := hc c (by simp)
    have hv' := h.toggles (fun c hm => hc c (List.mem_cons_of_mem _ hm))
    rw [Multiset.coe_card] at hv' ⊢
    rcases hv with rfl | rfl
    · by_cases hn : Even cs.length <;> simpa [apply, Nat.even_add_one, hn] using hv'
    · by_cases hn : Even cs.length <;> simpa [apply, Nat.even_add_one, hn] using hv'

theorem adds_foldl (cs : List Change) (v : Int) : Adds cs v (cs.foldl (fun v c => c.apply v) v) := by
  induction cs generalizing v with
  | nil => exact ⟨fun _ => (add_zero v).symm, fun _ _ => rfl⟩
  | cons c cs ih => exact (ih (c.apply v)).cons

end Gateway.Change

/-! ### Adjustments one after the other -/

namespace Ledger
variable {W C τ ρ κ R : Type} [DecidableEq κ] {engine : Engine W C} {t : τ → Table}

/-- The changes that adjustments make to the value of a row in a column: those of the adjustments
that are about it by the time they are made. -/
def changes (l : Ledger engine t ρ κ R) (r : ρ) (k : κ) :
    Contents ρ κ R → List (Adjustment τ) → List Change
  | _, [] => []
  | x, a :: as => (if l.hits x r k a then [a.change] else []) ++ changes l r k (l.serve x a) as

theorem value_foldl (l : Ledger engine t ρ κ R) (r : ρ) (k : κ) (as : List (Adjustment τ))
    (x : Contents ρ κ R) : (as.foldl l.serve x).value r k =
      (l.changes r k x as).foldl (fun v c => c.apply v) (x.value r k) := by
  induction as generalizing x with
  | nil => rfl
  | cons a as ih =>
    rw [List.foldl_cons, ih, changes, List.foldl_append, value_serve]
    split <;> rfl

/-- The changes that adjustments make to a value add up, whatever else the adjustments change. -/
theorem adds_changes (l : Ledger engine t ρ κ R) (r : ρ) (k : κ) (as : List (Adjustment τ))
    (x : Contents ρ κ R) :
    Change.Adds (l.changes r k x as) (x.value r k) ((as.foldl l.serve x).value r k) := by
  rw [value_foldl]
  exact Change.adds_foldl _ _

/-- An adjustment changes a column. -/
def Touches (l : Ledger engine t ρ κ R) (a : Adjustment τ) (k : κ) : Prop :=
  ∃ u, a.update? = some u ∧ l.column a.table u.column = k

/-- The rows that an adjustment selects do not depend on what some columns hold. -/
def Independent (l : Ledger engine t ρ κ R) (columns : κ → Prop) (a : Adjustment τ) : Prop :=
  ∀ u, a.update? = some u → ∀ x y, Contents.AgreeOff columns x y →
    l.rows? a.table u a.params x = l.rows? a.table u a.params y

variable {l : Ledger engine t ρ κ R} {columns : κ → Prop} {x x₀ : Contents ρ κ R} {a : Adjustment τ}
  {as : List (Adjustment τ)} {r : ρ} {k : κ}

theorem touches_of_hits (h : l.hits x r k a = true) : l.Touches a k := by
  unfold hits at h
  split at h
  · cases h
  · next u hu => exact ⟨u, hu, by simpa using (Bool.and_eq_true_iff.mp h).1⟩

theorem agreeOff_serve (h : ∀ k, l.Touches a k → columns k) : (l.serve x a).AgreeOff columns x := by
  refine ⟨fun r k hk => ?_, l.rest_serve x a⟩
  have hn : l.hits x r k a = false := Bool.eq_false_iff.mpr fun hh => hk (h k (touches_of_hits hh))
  rw [value_serve, hn]
  rfl

/-- An adjustment that is independent of the columns that change is about the same rows all along. -/
theorem hits_eq (h : l.Touches a k → l.Independent columns a) (hx : x.AgreeOff columns x₀) (r : ρ) :
    l.hits x r k a = l.hits x₀ r k a := by
  unfold hits
  cases hu : a.update? with
  | none => rfl
  | some u =>
    by_cases hc : l.column a.table u.column = k
    · simp only [h ⟨u, hu, hc⟩ u hu x x₀ hx]
    · simp [hc]

theorem changes_of_agree (ht : ∀ a ∈ as, ∀ k, l.Touches a k → columns k)
    (hi : ∀ a ∈ as, l.Touches a k → l.Independent columns a) (hx : x.AgreeOff columns x₀) (r : ρ) :
    l.changes r k x as = (as.filter (l.hits x₀ r k)).map (·.change) := by
  induction as generalizing x with
  | nil => rfl
  | cons a as ih =>
    rw [List.forall_mem_cons] at ht hi
    rw [changes, hits_eq hi.1 hx, ih ht.2 hi.2 ((agreeOff_serve ht.1).trans hx), List.filter_cons]
    split <;> rfl

/-- Where the rows do not depend on the columns that change, the changes to a value are those of the
adjustments that are about it at first. -/
theorem changes_of_independent (ht : ∀ a ∈ as, ∀ k, l.Touches a k → columns k)
    (hi : ∀ a ∈ as, l.Touches a k → l.Independent columns a) (x : Contents ρ κ R) (r : ρ) :
    l.changes r k x as = (as.filter (l.hits x r k)).map (·.change) :=
  changes_of_agree ht hi (.refl columns x) r

end Ledger
end TableGateway
