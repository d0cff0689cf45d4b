import Mathlib.Data.List.Induction
import TableGateway.Proofs.Connection
import TableGateway.Proofs.Traverse
import TableGateway.Registry

/-!
# The first configuration wins

A run of a registry is any sequence of requests for drivers and for gateways, mixed with calls through
the handles that were given out. `Desk.Keeps` says what a run leaves: every kind has one handle of its
own, and the driver behind it is the one that the first configuration of the kind made, as the calls
through its handle have changed it since. Each request and each call keeps that.
-/

namespace TableGateway

namespace Registry
variable {K S : Type} [DecidableEq K] {make : K → DriverConfig → S} {d : Driver S}
  {r : Registry K S} {kind : K} {n : Nat}

theorem ask_of_known {s : S} (hk : r.handle? kind = some n) (hs : r.driver? n = some s)
    (config : DriverConfig) : r.ask make d kind config =
      ⟨n, if d.config s = config then [] else [.configIgnored], r⟩ := by
  simp [ask, hk, hs]

theorem ask_of_unknown (hk : r.handle? kind = none) (config : DriverConfig) :
    r.ask make d kind config = ⟨r.drivers.length, [],
      ⟨r.drivers ++ [make kind config], r.handles.put kind r.drivers.length⟩⟩ := by
  simp [ask, hk]

/-- A gateway is one to the table that was asked for, and talks to the driver of the kind. -/
def Serves (r : Registry K S) (asked : K × Table) (t : SharedTable) : Prop :=
  t.table = asked.2 ∧ r.handle? asked.1 = some t.handle

/-- The drivers that a registry has once kinds were asked for and calls were made to them. -/
structure Follows (make : K → DriverConfig → S) (d : Driver S) (asked : Entries K DriverConfig)
    (calls : K → List Call) (r : Registry K S) : Prop where
  known : ∀ kind, (r.handle? kind).isSome = (asked.find? kind).isSome
  apart : ∀ {kind kind' n}, r.handle? kind = some n → r.handle? kind' = some n → kind = kind'
  driver : ∀ {kind n first}, r.handle? kind = some n → asked.find? kind = some first →
    r.driver? n = some (d.afterAll (calls kind) (make kind first))
  silent : ∀ {kind}, asked.find? kind = none → calls kind = []

namespace Follows
variable {asked : Entries K DriverConfig} {calls : K → List Call}

theorem exists_driver (h : Follows make d asked calls r) (hk : r.handle? kind = some n) :
    ∃ first, asked.find? kind = some first ∧
      r.driver? n = some (d.afterAll (calls kind) (make kind first)) := by
  have hs : (asked.find? kind).isSome := by rw [← h.known, hk]; rfl
  obtain ⟨first, hf⟩ := Option.isSome_iff_exists.mp hs
  exact ⟨first, hf, h.driver hk hf⟩

theorem lt (h : Follows make d asked calls r) (hk : r.handle? kind = some n) :
    n < r.drivers.length := by
  obtain ⟨first, -, hd⟩ := h.exists_driver hk
  exact (List.getElem?_eq_some_iff.mp hd).1

theorem unknown_iff (h : Follows make d asked calls r) :
    r.handle? kind = none ↔ asked.find? kind = none := by
  rw [← Option.isNone_iff_eq_none, ← Option.isNone_iff_eq_none, ← Option.not_isSome,
    ← Option.not_isSome, h.known]

/-- A request for a kind that has a driver only answers with its handle. -/
theorem ask_again (h : Follows make d asked calls r) {first : DriverConfig}
    (hf : asked.find? kind = some first) (config : DriverConfig) :
    ∃ n, r.handle? kind = some n ∧ r.ask make d kind config =
      ⟨n, if d.config (d.afterAll (calls kind) (make kind first)) = config then []
        else [.configIgnored], r⟩ := by
  obtain ⟨n, hk⟩ : ∃ n, r.handle? kind = some n := by
    rw [← Option.isSome_iff_exists, h.known kind, hf]
    rfl
  exact ⟨n, hk, ask_of_known hk (h.driver hk hf) config⟩

theorem ask (h : Follows make d asked calls r) (kind : K) (config : DriverConfig) :
    Follows make d (asked ++ [(kind, config)]) calls (r.ask make d kind config).state := by
  cases hr : r.handle? kind with
  | some n =>
    obtain ⟨first, hf, hd⟩ := h.exists_driver hr
    rw [ask_of_known hr hd]
    have hsame (k : K) : (asked ++ [(kind, config)]).find? k = asked.find? k := by
      rw [Entries.find?_append]
      by_cases he : kind = k
      · rw [← he, hf, Option.some_or]
      · simp [Entries.find?, he]
    refine ⟨fun k => ?_, h.apart, fun hk hk' => ?_, fun hk => ?_⟩
    · rw [hsame]
      exact h.known k
    · rw [hsame] at hk'
      exact h.driver hk hk'
    · rw [hsame] at hk
      exact h.silent hk
  | none =>
    have hf := h.unknown_iff.mp hr
    rw [ask_of_unknown hr]
    have hhandle (k : K) : (Registry.mk (r.drivers ++ [make kind config])
        (r.handles.put kind r.drivers.length)).handle? k =
          if kind = k then some r.drivers.length else r.handle? k :=
      Entries.find?_put kind k r.drivers.length r.handles
    have hfind (k : K) : (asked ++ [(kind, config)]).find? k =
        if kind = k then some config else asked.find? k := by
      rw [Entries.find?_append]
      by_cases he : kind = k
      · rw [← he, hf]
        simp [Entries.find?]
      · simp [Entries.find?, he]
    refine ⟨fun k => ?_, fun hk hk' => ?_, fun hk hk' => ?_, fun hk => ?_⟩
    · rw [hhandle, hfind]
      split
      · rfl
      · exact h.known k
    · rw [hhandle] at hk hk'
      split at hk <;> split at hk'
      · next he he' => exact he.symm.trans he'
      · cases hk
        exact absurd (h.lt hk') (Nat.lt_irrefl _)
      · cases hk'
        exact absurd (h.lt hk) (Nat.lt_irrefl _)
      · exact h.apart hk hk'
    · rw [hhandle] at hk
      rw [hfind] at hk'
      split at hk
      · next he =>
        rw [if_pos he] at hk'
        cases hk
        cases hk'
        rw [← he, h.silent hf]
        exact List.getElem?_concat_length
      · next he =>
        rw [if_neg he] at hk'
        exact (List.getElem?_append_left (h.lt hk)).trans (h.driver hk hk')
    · rw [hfind] at hk
      split at hk
      · cases hk
      · exact h.silent hk

theorem use (h : Follows make d asked calls r) (hk : r.handle? kind = some n) {s : S}
    (hs : r.driver? n = some s) (call : Call) :
    Follows make d asked (fun k => if k = kind then calls k ++ [call] else calls k)
      (r.set n (d.after call s)) := by
  have hlt := h.lt hk
  refine ⟨h.known, h.apart, ?_, ?_⟩
  · intro k m first hm hf
    by_cases he : k = kind
    · subst he
      obtain rfl : n = m := Option.some.inj (hk.symm.trans hm)
      obtain rfl : s = _ := Option.some.inj (hs.symm.trans (h.driver hm hf))
      rw [if_pos rfl, Driver.afterAll_append]
      simp only [driver?, Registry.set, List.getElem?_set_self hlt]
      rfl
    · have hne : n ≠ m := fun heq => he (h.apart hm (heq ▸ hk))
      rw [if_neg he]
      simp only [driver?, Registry.set, List.getElem?_set_ne hne]
      exact h.driver hm hf
  · intro k hf
    have hne : k ≠ kind := by
      rintro rfl
      rw [h.unknown_iff.mpr hf] at hk
      cases hk
    rw [if_neg hne]
    exact h.silent hf

end Follows

theorem handle?_ask (kind : K) (config : DriverConfig) :
    (r.ask make d kind config).state.handle? kind = some (r.ask make d kind config).value := by
  cases hr : r.handle? kind with
  | some n => simp [ask, hr]
  | none =>
    rw [ask_of_unknown hr, handle?, Entries.find?_put, if_pos rfl]

/-- A request for a driver leaves the handles alone that there are. -/
theorem handle?_ask_of_some (hk : r.handle? kind = some n) (k : K) (config : DriverConfig) :
    (r.ask make d k config).state.handle? kind = some n := by
  cases hr : r.handle? k with
  | some m => simpa [ask, hr] using hk
  | none =>
    rw [ask_of_unknown hr, handle?, Entries.find?_put]
    split
    · next he => simp [← he, hr] at hk
    · exact hk

end Registry

/-- What is asked of a registry: a driver, a gateway, or a call through the handle that an earlier
request was given. -/
inductive Request (K : Type) where
  | driver (kind : K) (config : DriverConfig)
  | table (kind : K) (name : String) (config : DriverConfig)
  | use (asked : Nat) (call : Call)

namespace Request
variable {K : Type} [DecidableEq K]

/-- The kind of driver that a request is for, and its configuration. -/
def asked? : Request K → Option (K × DriverConfig)
  | driver kind config | table kind _ config => some (kind, config)
  | use .. => none

/-- The kinds that requests are for, each with its configuration, in order. -/
def asked (requests : List (Request K)) : Entries K DriverConfig :=
  requests.filterMap asked?

/-- The table of a gateway that is asked for. -/
def table? : Request K → Option (K × Table)
  | table kind name config => some (kind, ⟨name, config.tablePrefix⟩)
  | driver .. | use .. => none

/-- The calls of requests through the handles of a kind, where `kinds` were asked for before. -/
def callsOn (kind : K) : (kinds : List K) → List (Request K) → List Call
  | _, [] => []
  | kinds, use i call :: requests =>
    if kinds[i]? = some kind then call :: callsOn kind kinds requests
    else callsOn kind kinds requests
  | kinds, driver k _ :: requests | kinds, table k _ _ :: requests =>
    callsOn kind (kinds ++ [k]) requests

/-- The calls through the handles of each kind once there is another request. -/
theorem callsOn_concat (kind : K) (requests : List (Request K)) (request : Request K) (kinds : List K) :
    callsOn kind kinds (requests ++ [request]) = callsOn kind kinds requests ++
      callsOn kind (kinds ++ (asked requests).keys) [request] := by
  induction requests generalizing kinds with
  | nil => simp [callsOn, asked, Entries.keys]
  | cons r requests ih =>
    cases r with
    | driver k config | table k name config =>
      simp only [List.cons_append, callsOn, ih]
      simp [asked, asked?, Entries.keys]
    | use i call =>
      simp only [List.cons_append, callsOn, ih]
      split
      · rfl
      · rfl

omit [DecidableEq K] in
theorem asked_concat (requests : List (Request K)) (request : Request K) :
    asked (requests ++ [request]) = asked requests ++ request.asked?.toList := by
  cases request <;> simp [asked, asked?]

end Request

/-- A registry with what it has given out: the handles, one for each driver or gateway that was asked
for, and the gateways. -/
structure Desk (K S : Type) where
  registry : Registry K S
  handles : List Nat
  tables : List SharedTable

namespace Desk
open Request
variable {K S : Type} [DecidableEq K]

def empty : Desk K S := ⟨.empty, [], []⟩

/-- Serve a request. A call through a handle goes to the driver behind it. -/
def serve (make : K → DriverConfig → S) (d : Driver S) (desk : Desk K S) : Request K → Desk K S
  | .driver kind config =>
    let r := desk.registry.ask make d kind config
    { desk with registry := r.state, handles := desk.handles ++ [r.value] }
  | .table kind name config =>
    let r := desk.registry.askTable make d kind name config
    { registry := r.state
      handles := desk.handles ++ [r.value.handle]
      tables := desk.tables ++ [r.value] }
  | .use i call =>
    match desk.handles[i]? with
    | none => desk
    | some n =>
      match desk.registry.driver? n with
      | none => desk
      | some s => { desk with registry := desk.registry.set n (d.after call s) }

/-- Serve requests, one after the other. -/
def run (make : K → DriverConfig → S) (d : Driver S) (requests : List (Request K)) : Desk K S :=
  requests.foldl (serve make d) empty

/-- What requests leave: the drivers, and who was given which. -/
structure Keeps (make : K → DriverConfig → S) (d : Driver S) (requests : List (Request K))
    (desk : Desk K S) : Prop where
  drivers : desk.registry.Follows make d (asked requests) fun kind => callsOn kind [] requests
  handles : List.Forall₂ (fun kind n => desk.registry.handle? kind = some n)
    (asked requests).keys desk.handles
  tables : List.Forall₂ desk.registry.Serves (requests.filterMap table?) desk.tables

theorem keeps_empty (make : K → DriverConfig → S) (d : Driver S) :
    Keeps make d [] (empty : Desk K S) :=
  ⟨⟨fun _ => rfl, nofun, nofun, fun _ => rfl⟩, .nil, .nil⟩

variable {make : K → DriverConfig → S} {d : Driver S} {requests : List (Request K)} {desk : Desk K S}

theorem callsOn_of_asked {request : Request K} (h : request.asked?.isSome = true)
    (requests : List (Request K)) (kind : K) :
    callsOn kind [] (requests ++ [request]) = callsOn kind [] requests := by
  rw [callsOn_concat]
  cases request with
  | driver | table => simp [callsOn]
  | use => cases h

/-- Whoever was given a handle still has it after a request for a driver. -/
theorem Keeps.ask (h : Keeps make d requests desk) (kind : K) (config : DriverConfig) :
    let r := desk.registry.ask make d kind config
    List.Forall₂ (fun kind n => r.state.handle? kind = some n)
        ((asked requests).keys ++ [kind]) (desk.handles ++ [r.value]) ∧
      List.Forall₂ r.state.Serves (requests.filterMap table?) desk.tables := by
  intro r
  constructor
  · refine List.rel_append ?_ (.cons (Registry.handle?_ask kind config) .nil)
    exact h.handles.imp fun _ _ hk => Registry.handle?_ask_of_some hk kind config
  · exact h.tables.imp fun _ _ ht => ⟨ht.1, Registry.handle?_ask_of_some ht.2 kind config⟩

theorem Keeps.serve (h : Keeps make d requests desk) (request : Request K) :
    Keeps make d (requests ++ [request]) (desk.serve make d request) := by
  have hcalls (hr : request.asked?.isSome = true) :
      (fun kind => callsOn kind [] (requests ++ [request])) =
        fun kind => callsOn kind [] requests :=
    funext fun kind => callsOn_of_asked hr requests kind
  have hkeys : (asked (requests ++ [request])).keys =
      (asked requests).keys ++ request.asked?.toList.map Prod.fst := by
    rw [asked_concat]
    exact List.map_append
  cases request with
  | driver kind config =>
    obtain ⟨hh, ht⟩ := h.ask kind config
    refine ⟨?_, ?_, ?_⟩
    · rw [asked_concat, hcalls rfl]
      exact h.drivers.ask kind config
    · rw [hkeys]
      exact hh
    · rw [List.filterMap_append, List.filterMap_cons_none rfl, List.filterMap_nil, List.append_nil]
      exact ht
  | table kind name config =>
    obtain ⟨hh, ht⟩ := h.ask kind config
    refine ⟨?_, ?_, ?_⟩
    · rw [asked_concat, hcalls rfl]
      exact h.drivers.ask kind config
    · rw [hkeys]
      exact hh
    · rw [List.filterMap_append]
      exact List.rel_append ht (.cons ⟨rfl, Registry.handle?_ask kind config⟩ .nil)
  | use i call =>
    have hasked : asked (requests ++ [use i call]) = asked requests := by
      rw [asked_concat, asked?, Option.toList_none, List.append_nil]
    have htables : (requests ++ [use i call]).filterMap table? = requests.filterMap table? := by
      rw [List.filterMap_append, List.filterMap_cons_none rfl, List.filterMap_nil, List.append_nil]
    have hcalls (kind : K) : callsOn kind [] (requests ++ [use i call]) =
        callsOn kind [] requests ++
          if (asked requests).keys[i]? = some kind then [call] else [] := by
      rw [callsOn_concat]
      rfl
    have hi := getElem?_rel h.handles i
    simp only [Desk.serve]
    revert hi hcalls
    generalize (asked requests).keys[i]? = kind?
    generalize desk.handles[i]? = handle?
    intro hcalls hi
    cases hi with
    | none =>
      refine ⟨?_, ?_, ?_⟩
      · rw [hasked]
        simpa [hcalls] using h.drivers
      · rw [hasked]
        exact h.handles
      · rw [htables]
        exact h.tables
    | @some kind n hk =>
      obtain ⟨first, -, hd⟩ := h.drivers.exists_driver hk
      simp only [hd]
      refine ⟨?_, ?_, ?_⟩
      · rw [hasked]
        have heach : (fun k => callsOn k [] (requests ++ [use i call])) = fun k =>
            if k = kind then callsOn k [] requests ++ [call] else callsOn k [] requests := by
          funext k
          rw [hcalls]
          by_cases he : k = kind
          · rw [if_pos he, if_pos (congrArg some he.symm)]
          · rw [if_neg he, if_neg fun hs => he (Option.some.inj hs).symm, List.append_nil]
        rw [heach]
        exact h.drivers.use hk hd call
      · rw [hasked]
        exact h.handles
      · rw [htables]
        exact h.tables

/-- Two requests were given the same handle just if they are for the same kind. -/
theorem Keeps.handles_eq_iff (h : Keeps make d requests desk) (i j : Nat) :
    desk.handles[i]? = desk.handles[j]? ↔ (asked requests).keys[i]? = (asked requests).keys[j]? := by
  have hi := getElem?_rel h.handles i
  have hj := getElem?_rel h.handles j
  generalize (asked requests).keys[i]? = kind₁ at hi ⊢
  generalize (asked requests).keys[j]? = kind₂ at hj ⊢
  generalize desk.handles[i]? = handle₁ at hi ⊢
  generalize desk.handles[j]? = handle₂ at hj ⊢
  cases hi with
  | none =>
    cases hj with
    | none => exact ⟨fun _ => rfl, fun _ => rfl⟩
    | some => exact ⟨nofun, nofun⟩
  | some hk₁ =>
    cases hj with
    | none => exact ⟨nofun, nofun⟩
    | some hk₂ =>
      constructor
      · rintro ⟨⟩
        exact congrArg some (h.drivers.apart hk₁ hk₂)
      · rintro ⟨⟩
        exact hk₁.symm.trans hk₂

/-- Every request for a kind was given the handle of the kind. -/
theorem Keeps.given (h : Keeps make d requests desk) {i : Nat} {kind : K} {config : DriverConfig}
    (hi : (asked requests)[i]? = some (kind, config)) :
    ∃ n, desk.handles[i]? = some n ∧ desk.registry.handle? kind = some n := by
  have hkey : (asked requests).keys[i]? = some kind := by
    rw [Entries.keys, List.getElem?_map, hi]
    rfl
  have hrel := getElem?_rel h.handles i
  rw [hkey] at hrel
  generalize desk.handles[i]? = handle? at hrel ⊢
  cases hrel with
  | @some _ n hk => exact ⟨n, rfl, hk⟩

/-- Every gateway is one to the table that was asked for. -/
theorem Keeps.gateway (h : Keeps make d requests desk) {i : Nat} {kind : K} {table : Table}
    (hi : (requests.filterMap table?)[i]? = some (kind, table)) :
    ∃ n, desk.tables[i]? = some ⟨table, n⟩ ∧ desk.registry.handle? kind = some n := by
  have hrel := getElem?_rel h.tables i
  rw [hi] at hrel
  generalize desk.tables[i]? = t? at hrel ⊢
  cases hrel with
  | @some _ t ht =>
    obtain ⟨rfl, hk⟩ := ht
    exact ⟨t.handle, rfl, hk⟩

theorem keeps_run (make : K → DriverConfig → S) (d : Driver S) (requests : List (Request K)) :
    Keeps make d requests (run make d requests) := by
  induction requests using List.reverseRecOn with
  | nil => exact keeps_empty make d
  | append_singleton requests request ih =>
    rw [run, List.foldl_append]
    exact ih.serve request

/-- The first configuration wins. After any requests and calls, every request for a kind has been
given the one handle of the kind, and requests for different kinds different handles. The driver behind
it was made by the first configuration that the kind was asked for with, and only the calls through
the handle have changed it since. A further request for the kind changes nothing, and is reported just
when its configuration differs from the one that the driver has by then; the first request for a kind
makes a new driver. A gateway has the prefix of its own configuration. -/
theorem first_config_wins (make : K → DriverConfig → S) (d : Driver S) (requests : List (Request K)) :
    let desk := run make d requests
    let asked := Request.asked requests
    (∀ (i : Nat) (kind : K) (config : DriverConfig), asked[i]? = some (kind, config) → ∃ n first,
      desk.handles[i]? = some n ∧ desk.registry.handle? kind = some n ∧
        asked.find? kind = some first ∧
        desk.registry.driver? n = some (d.afterAll (callsOn kind [] requests) (make kind first))) ∧
    (∀ i j : Nat, desk.handles[i]? = desk.handles[j]? ↔ asked.keys[i]? = asked.keys[j]?) ∧
    (∀ (kind : K) (config : DriverConfig),
      let r := desk.registry.ask make d kind config
      match asked.find? kind with
      | some first =>
        desk.registry.handle? kind = some r.value ∧ r.state = desk.registry ∧
          r.events =
            if d.config (d.afterAll (callsOn kind [] requests) (make kind first)) = config then []
            else [.configIgnored]
      | none =>
        r.value = desk.registry.drivers.length ∧
          r.state.drivers = desk.registry.drivers ++ [make kind config] ∧ r.events = []) ∧
    (∀ (i : Nat) (kind : K) (table : Table),
      (requests.filterMap table?)[i]? = some (kind, table) → ∃ n,
        desk.tables[i]? = some (SharedTable.mk table n) ∧ desk.registry.handle? kind = some n) := by
  intro desk asked
  have h : Keeps make d requests desk := keeps_run make d requests
  refine ⟨?_, h.handles_eq_iff, ?_, fun _ _ _ => h.gateway⟩
  · intro i kind config hi
    obtain ⟨n, hn, hk⟩ := h.given hi
    obtain ⟨first, hf, hd⟩ := h.drivers.exists_driver hk
    exact ⟨n, first, hn, hk, hf, hd⟩
  · intro kind config r
    split
    · next first hf =>
      obtain ⟨n, hk, hr⟩ := h.drivers.ask_again hf config
      have hr : r = _ := hr
      rw [hr]
      exact ⟨hk, rfl, rfl⟩
    · next hf =>
      have hr : r = _ := Registry.ask_of_unknown (h.drivers.unknown_iff.mpr hf) config
      rw [hr]
      exact ⟨rfl, rfl, rfl⟩

end Desk
end TableGateway
