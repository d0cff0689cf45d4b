import TableGateway.Proofs.Conversation
import TableGateway.Proofs.Traverse
import TableGateway.Sql.Engine

/-!
# Host, port and credentials

An engine that opens databases by their name and encoding makes nothing of the rest of a
configuration: the host, the port, the user, the password and the prefix. `Handle.Alike` relates
handles of two runs that differ in the rest. A run is about any number of handles on one world; every
step keeps the handles alike (`Cast.Alike.act`) and shows the same in both runs but for the host in the
report of a connection (`sights_of_agree`). What is left is the configuration itself, which shows of a
password only whether it is empty (`Handle.Alike.shown`).
-/

namespace TableGateway

/-- Two configurations of the same database in the same encoding. -/
structure DriverConfig.Agree (a b : DriverConfig) : Prop where
  database : a.database = b.database
  encoding : a.encoding = b.encoding

theorem DriverConfig.maskedPassword_congr {p q : String} (h : p = "" ↔ q = "") :
    maskedPassword p = maskedPassword q := by
  unfold maskedPassword
  by_cases hp : p = ""
  · rw [if_pos hp, if_pos (h.mp hp)]
  · rw [if_neg hp, if_neg (mt h.mpr hp)]

/-- A database is opened by its name and its encoding, whatever else its configuration says. -/
def Engine.OpensByName {W C : Type} (engine : Engine W C) : Prop :=
  ∀ (a b : DriverConfig) (w : W), a.Agree b → engine.openDatabase a w = engine.openDatabase b w

theorem Sql.engine_opensByName : Sql.engine.OpensByName := by
  intro a b files hab
  simp only [Sql.engine, Sql.FileLink.openDatabase, hab.database, hab.encoding]

/-- An event, without the host of a connection. -/
def Event.withoutHost : Event → Event
  | connected database _ => connected database ""
  | event => event

/-! ### Handles that are alike -/

namespace Handle
variable {W C α : Type} {engine : Engine W C} {h h₁ h₂ : Handle W C}

/-- Two handles that are the same but for the rest of their configurations. -/
inductive Alike : Handle W C → Handle W C → Prop where
  | intro (h : Handle W C) {config : DriverConfig} (hc : h.config.Agree config) :
    Alike h { h with config }

/-- Two replies that are the same but for the rest of the configurations. -/
structure AlikeReply (r₁ r₂ : Reply (Handle W C) α) : Prop where
  value : r₁.value = r₂.value
  events : r₁.events.map Event.withoutHost = r₂.events.map Event.withoutHost
  state : Alike r₁.state r₂.state

theorem Alike.of_start {config₁ config₂ : DriverConfig} (hc : config₁.Agree config₂)
    (logger : SqlLogger) (world : W) :
    Alike (ofConfig config₁ logger world : Handle W C) (ofConfig config₂ logger world) :=
  .intro (ofConfig config₁ logger world) hc

theorem Alike.reconnect (hl : engine.OpensByName) (ha : Alike h₁ h₂) :
    AlikeReply (reconnect engine h₁) (reconnect engine h₂) := by
  obtain ⟨hc⟩ := ha
  unfold Handle.reconnect
  dsimp only
  rw [← hl _ _ h₁.world hc]
  split
  · refine ⟨rfl, ?_, .intro _ hc⟩
    simp only [List.map_cons, List.map_nil, Event.withoutHost, hc.database]
  · exact ⟨rfl, rfl, .intro _ hc⟩

theorem Alike.connect (hl : engine.OpensByName) (ha : Alike h₁ h₂) {config₁ config₂ : DriverConfig}
    (hc : config₁.Agree config₂) :
    AlikeReply (connect engine config₁ h₁) (connect engine config₂ h₂) := by
  cases ha
  exact reconnect hl (.intro { h₁ with config := config₁ } hc)

theorem Alike.runOn (ha : Alike h₁ h₂) (c : C) (sql : String) (params : List Value) :
    AlikeReply (runOn engine c sql params h₁) (runOn engine c sql params h₂) := by
  obtain ⟨hc⟩ := ha
  unfold Handle.runOn
  dsimp only
  split
  · exact ⟨rfl, rfl, .intro _ hc⟩
  · exact ⟨rfl, rfl, .intro _ hc⟩

theorem Alike.executeNow (ha : Alike h₁ h₂) (sql : String) (params : List Value) :
    AlikeReply (executeNow engine sql params h₁) (executeNow engine sql params h₂) := by
  obtain ⟨hc⟩ := ha
  unfold Handle.executeNow
  dsimp only
  split
  · next c _ => exact runOn (.intro h₁ hc) c sql params
  · exact ⟨rfl, rfl, .intro _ hc⟩

theorem Alike.execute (hl : engine.OpensByName) (ha : Alike h₁ h₂) (sql : String)
    (params : List Value) :
    AlikeReply (execute engine sql params h₁) (execute engine sql params h₂) := by
  have hr := ha.reconnect hl
  have hif : (h₂.connection.isNone && h₂.link == .unconnected) =
      (h₁.connection.isNone && h₁.link == .unconnected) := by
    cases ha
    rfl
  unfold Handle.execute
  rw [hif]
  split
  · dsimp only
    rw [← hr.value]
    split
    · have hs : AlikeReply (Handle.executeNow engine sql params (Handle.reconnect engine h₁).state)
          (Handle.executeNow engine sql params (Handle.reconnect engine h₂).state) :=
        hr.state.executeNow sql params
      refine ⟨hs.value, ?_, hs.state⟩
      rw [List.map_append, List.map_append, hr.events, hs.events]
    · exact ⟨rfl, hr.events, hr.state⟩
  · exact ha.executeNow sql params

theorem Alike.recordError (ha : Alike h₁ h₂) (message : String) :
    Alike (h₁.recordError message) (h₂.recordError message) := by
  obtain ⟨hc⟩ := ha
  exact .intro (h₁.recordError message) hc

theorem Alike.rowCount (ha : Alike h₁ h₂) : h₁.rowCount = h₂.rowCount := by
  cases ha
  rfl

theorem Alike.lastInsertId (ha : Alike h₁ h₂) :
    h₁.lastInsertId engine = h₂.lastInsertId engine := by
  cases ha
  rfl

theorem Alike.world (ha : Alike h₁ h₂) : h₁.world = h₂.world := by
  cases ha
  rfl

/-! ### Scripts -/

/-- A script comes to the same with handles that are alike. -/
theorem Alike.run (hl : engine.OpensByName) (script : Script α) (ha : Alike h₁ h₂) :
    AlikeReply (script.run engine.driver h₁) (script.run engine.driver h₂) := by
  induction script generalizing h₁ h₂ with
  | done a => exact ⟨rfl, rfl, ha⟩
  | execute sql params next ih =>
    have hx := ha.execute hl sql params
    have hrest := ih (engine.driver.execute sql params h₁).value hx.state
    have hv : (engine.driver.execute sql params h₂).value =
        (engine.driver.execute sql params h₁).value := hx.value.symm
    simp only [Script.run, hv]
    refine ⟨hrest.value, ?_, hrest.state⟩
    rw [List.map_append, List.map_append]
    exact congrArg₂ (· ++ ·) hx.events hrest.events
  | lastInsertId next ih =>
    have hid : engine.driver.lastInsertId h₂ = engine.driver.lastInsertId h₁ :=
      ha.lastInsertId.symm
    simp only [Script.run, hid]
    exact ih _ ha
  | rowCount next ih =>
    have hn : engine.driver.rowCount h₂ = engine.driver.rowCount h₁ := ha.rowCount.symm
    simp only [Script.run, hn]
    exact ih _ ha
  | recordError message next ih => exact ih (ha.recordError message)
  | report event next ih =>
    have hrest := ih ha
    exact ⟨hrest.value, congrArg (event.withoutHost :: ·) hrest.events, hrest.state⟩

theorem Alike.talk (hl : engine.OpensByName) (script : Script α) (ha : Alike h₁ h₂) :
    script.talk engine.driver h₁ = script.talk engine.driver h₂ := by
  induction script generalizing h₁ h₂ with
  | done a => rfl
  | execute sql params next ih =>
    have hx := ha.execute hl sql params
    have hv : (engine.driver.execute sql params h₂).value =
        (engine.driver.execute sql params h₁).value := hx.value.symm
    simp only [Script.talk, hv]
    exact congrArg (_ :: ·) (ih _ hx.state)
  | lastInsertId next ih =>
    have hid : engine.driver.lastInsertId h₂ = engine.driver.lastInsertId h₁ :=
      ha.lastInsertId.symm
    simp only [Script.talk, hid]
    exact congrArg (_ :: ·) (ih _ ha)
  | rowCount next ih =>
    have hn : engine.driver.rowCount h₂ = engine.driver.rowCount h₁ := ha.rowCount.symm
    simp only [Script.talk, hn]
    exact congrArg (_ :: ·) (ih _ ha)
  | recordError message next ih => exact congrArg (_ :: ·) (ih (ha.recordError message))
  | report event next ih => exact ih ha

/-- Handles that are alike show themselves alike where their configurations do. Of a password that
is whether there is one. -/
theorem Alike.shown (ha : Alike h₁ h₂) (hhost : h₁.config.host = h₂.config.host)
    (hport : h₁.config.port = h₂.config.port) (huser : h₁.config.user = h₂.config.user)
    (hpre : h₁.config.tablePrefix = h₂.config.tablePrefix)
    (hpassword : h₁.config.password = "" ↔ h₂.config.password = "") : h₁.shown = h₂.shown := by
  obtain ⟨hc⟩ := ha
  have hmasked := DriverConfig.maskedPassword_congr hpassword
  unfold Handle.shown DriverConfig.shown
  rw [hhost, hport, huser, hpre, hmasked, hc.database, hc.encoding]

end Handle

/-! ### Runs -/

/-- A new handle, with the reports on the way. -/
def Start.reply {W C : Type} (start : Start) (engine : Engine W C) (config : DriverConfig)
    (logger : SqlLogger) (world : W) : Reply (Handle W C) Unit where
  value := ()
  events := match start with
    | waiting => []
    | atOnce => (Handle.opened engine config logger world).events
  state := start.handle engine config logger world

theorem Start.reply_alike {W C : Type} {engine : Engine W C} (hl : engine.OpensByName)
    (start : Start) {config₁ config₂ : DriverConfig} (hc : config₁.Agree config₂)
    (logger : SqlLogger) (world : W) :
    Handle.AlikeReply (start.reply engine config₁ logger world)
      (start.reply engine config₂ logger world) := by
  have ha := Handle.Alike.of_start (C := C) hc logger world
  cases start with
  | waiting => exact ⟨rfl, rfl, ha⟩
  | atOnce =>
    have hr := ha.reconnect hl
    exact ⟨rfl, hr.events, hr.state⟩

/-- What is done with handles: one comes about, is connected anew, or a script talks to it. Handles
are known by the order in which they came about. -/
inductive Act where
  | start (start : Start) (config : DriverConfig) (logger : SqlLogger)
  | connect (handle : Nat) (config : DriverConfig)
  | operate (handle : Nat) {Answer : Type} (script : Script Answer)

/-- Two acts that are the same but for the rest of a configuration. -/
inductive Act.Agree : Act → Act → Prop where
  | start (start : Start) {a b : DriverConfig} (logger : SqlLogger) : a.Agree b →
    Agree (.start start a logger) (.start start b logger)
  | connect (handle : Nat) {a b : DriverConfig} : a.Agree b →
    Agree (.connect handle a) (.connect handle b)
  | operate (handle : Nat) {Answer : Type} (script : Script Answer) :
    Agree (.operate handle script) (.operate handle script)

/-- What can be seen of an act, and of its handle after it. -/
structure Sight where
  {Answer : Type}
  answer : Answer
  talk : List Exchange
  events : List Event
  link : LinkState
  lastError : Option String
  rowCount : Nat
  lastInsertId : Int64

namespace Sight
variable {W C α : Type} {engine : Engine W C}

def of (engine : Engine W C) (r : Reply (Handle W C) α) (talk : List Exchange) : Sight where
  answer := r.value
  talk
  events := r.events
  link := r.state.link
  lastError := r.state.lastError
  rowCount := r.state.rowCount
  lastInsertId := r.state.lastInsertId engine

/-- What can be seen, without the host of a connection. -/
def withoutHost (s : Sight) : Sight :=
  { s with events := s.events.map Event.withoutHost }

theorem of_alike {r₁ r₂ : Reply (Handle W C) α} (hr : Handle.AlikeReply r₁ r₂)
    (talk : List Exchange) :
    (of engine r₁ talk).withoutHost = (of engine r₂ talk).withoutHost := by
  obtain ⟨v₁, e₁, h₁⟩ := r₁
  obtain ⟨v₂, e₂, h₂⟩ := r₂
  obtain ⟨rfl, he, ha⟩ := hr
  cases ha
  exact congrArg (fun events => { of engine ⟨v₁, e₁, h₁⟩ talk with events }) he

end Sight

/-- Handles on one world: what one of them writes, the others find. -/
structure Cast (W C : Type) where
  handles : List (Handle W C)
  world : W

namespace Cast
variable {W C α : Type} {engine : Engine W C}

/-- A handle, on the world as it is by now. -/
def handle? (c : Cast W C) (i : Nat) : Option (Handle W C) :=
  c.handles[i]?.map fun h => { h with world := c.world }

/-- What a handle shows and does, if it is there. -/
def ask (engine : Engine W C) (c : Cast W C) (i : Nat)
    (reply : Handle W C → Reply (Handle W C) α) (talk : Handle W C → List Exchange) :
    Option Sight × Cast W C :=
  match c.handle? i with
  | none => (none, c)
  | some h =>
    let r := reply h
    (some (.of engine r (talk h)), ⟨c.handles.set i r.state, r.state.world⟩)

/-- What an act shows, and the handles after it. -/
def act (engine : Engine W C) (c : Cast W C) : Act → Option Sight × Cast W C
  | .start start config logger =>
    let r := start.reply engine config logger c.world
    (some (.of engine r []), ⟨c.handles ++ [r.state], r.state.world⟩)
  | .connect i config => c.ask engine i (Handle.connect engine config) fun _ => []
  | .operate i script =>
    c.ask engine i (script.run engine.driver) (script.talk engine.driver)

/-- The handles after acts, one after the other. -/
def afterAll (engine : Engine W C) (acts : List Act) (c : Cast W C) : Cast W C :=
  acts.foldl (fun c act => (c.act engine act).2) c

/-- What acts show, one after the other. -/
def sights (engine : Engine W C) : List Act → Cast W C → List (Option Sight)
  | [], _ => []
  | act :: acts, c => (c.act engine act).1 :: sights engine acts (c.act engine act).2

/-- The same handles, but for the rest of their configurations. -/
structure Alike (c₁ c₂ : Cast W C) : Prop where
  handles : List.Forall₂ Handle.Alike c₁.handles c₂.handles
  world : c₁.world = c₂.world

variable {c₁ c₂ : Cast W C} {act₁ act₂ : Act} {acts₁ acts₂ : List Act}

theorem Alike.handle? (hc : c₁.Alike c₂) (i : Nat) :
    Option.Rel Handle.Alike (c₁.handle? i) (c₂.handle? i) := by
  have hi := getElem?_rel hc.handles i
  unfold Cast.handle?
  rw [hc.world]
  generalize c₁.handles[i]? = h₁ at hi ⊢
  generalize c₂.handles[i]? = h₂ at hi ⊢
  cases hi with
  | none => exact .none
  | some ha =>
    obtain ⟨hconfig⟩ := ha
    exact .some (.intro _ hconfig)

/-- Handles that are alike show the same where they give the same replies. -/
theorem Alike.ask (hc : c₁.Alike c₂) (i : Nat)
    {reply₁ reply₂ : Handle W C → Reply (Handle W C) α} {talk : Handle W C → List Exchange}
    (hr : ∀ {h₁ h₂ : Handle W C}, h₁.Alike h₂ →
      Handle.AlikeReply (reply₁ h₁) (reply₂ h₂) ∧ talk h₁ = talk h₂) :
    let r₁ := c₁.ask engine i reply₁ talk
    let r₂ := c₂.ask engine i reply₂ talk
    r₁.1.map Sight.withoutHost = r₂.1.map Sight.withoutHost ∧ r₁.2.Alike r₂.2 := by
  have hi := hc.handle? i
  unfold Cast.ask
  generalize c₁.handle? i = h₁ at hi ⊢
  generalize c₂.handle? i = h₂ at hi ⊢
  cases hi with
  | none => exact ⟨rfl, hc⟩
  | @some h₁ h₂ ha =>
    obtain ⟨hreply, htalk⟩ := hr ha
    refine ⟨?_, ?_, hreply.state.world⟩
    · rw [Option.map_some, Option.map_some, ← htalk, Sight.of_alike hreply]
    · exact set_rel hc.handles i hreply.state

theorem Alike.act (hl : engine.OpensByName) (hact : act₁.Agree act₂) (hc : c₁.Alike c₂) :
    (c₁.act engine act₁).1.map Sight.withoutHost = (c₂.act engine act₂).1.map Sight.withoutHost ∧
      (c₁.act engine act₁).2.Alike (c₂.act engine act₂).2 := by
  cases hact with
  | start start logger hconfig =>
    have hr := start.reply_alike hl hconfig logger c₁.world
    simp only [Cast.act, ← hc.world]
    refine ⟨congrArg some (Sight.of_alike hr []), ?_, hr.state.world⟩
    exact List.rel_append hc.handles (.cons hr.state .nil)
  | connect i hconfig => exact hc.ask i fun ha => ⟨ha.connect hl hconfig, rfl⟩
  | operate i script => exact hc.ask i fun ha => ⟨ha.run hl script, ha.talk hl script⟩

theorem Alike.sights (hl : engine.OpensByName) (hacts : List.Forall₂ Act.Agree acts₁ acts₂)
    (hc : c₁.Alike c₂) :
    (c₁.sights engine acts₁).map (·.map Sight.withoutHost) =
        (c₂.sights engine acts₂).map (·.map Sight.withoutHost) ∧
      (c₁.afterAll engine acts₁).Alike (c₂.afterAll engine acts₂) := by
  induction hacts generalizing c₁ c₂ with
  | nil => exact ⟨rfl, hc⟩
  | cons hact _ ih =>
    obtain ⟨hs, hn⟩ := hc.act hl hact
    obtain ⟨hrest, hend⟩ := ih hn
    refine ⟨?_, hend⟩
    rw [Cast.sights, Cast.sights, List.map_cons, List.map_cons, hs, hrest]

end Cast

/-- Two runs of the same acts whose configurations agree in database and encoding show the same but
for the host in the report of a connection. They end in the same world, and in handles that are the
same but for the rest of their configurations. The databases of this library are opened by their
names. Of a password, a handle shows whether there is one. -/
theorem sights_of_agree :
    (∀ {W C : Type} (engine : Engine W C), engine.OpensByName →
      ∀ (acts₁ acts₂ : List Act), List.Forall₂ Act.Agree acts₁ acts₂ → ∀ world : W,
        let start : Cast W C := ⟨[], world⟩
        (start.sights engine acts₁).map (·.map Sight.withoutHost) =
            (start.sights engine acts₂).map (·.map Sight.withoutHost) ∧
          (start.afterAll engine acts₁).Alike (start.afterAll engine acts₂)) ∧
    Sql.engine.OpensByName ∧
    (∀ {W C : Type} (h₁ h₂ : Handle W C), h₁.Alike h₂ →
      h₁.config.host = h₂.config.host → h₁.config.port = h₂.config.port →
      h₁.config.user = h₂.config.user → h₁.config.tablePrefix = h₂.config.tablePrefix →
      (h₁.config.password = "" ↔ h₂.config.password = "") → h₁.shown = h₂.shown) := by
  refine ⟨?_, Sql.engine_opensByName, fun _ _ ha => ha.shown⟩
  intro W C engine hl acts₁ acts₂ hacts world start
  exact Cast.Alike.sights hl hacts ⟨.nil, rfl⟩

/-- Two runs over two handles, with other hosts, ports and credentials at the start and on the way. -/
theorem sights_of_other_credentials :
    let here : DriverConfig := { host := "db1", user := "ann", password := "secret" }
    let there : DriverConfig := { host := "db2", port := 5432, user := "bob" }
    let acts (a b : DriverConfig) : List Act :=
      [.start .atOnce a {}, .start .waiting b {}, .operate 1 (.execute "SELECT 1" [] .done),
        .connect 0 b]
    let start : Cast (Directory Sql.Database) Sql.FileLink := ⟨[], .empty⟩
    (start.sights Sql.engine (acts here there)).map (·.map Sight.withoutHost) =
      (start.sights Sql.engine (acts there here)).map (·.map Sight.withoutHost) := by
  intro here there acts start
  have hacts : List.Forall₂ Act.Agree (acts here there) (acts there here) :=
    .cons (.start _ _ ⟨rfl, rfl⟩) (.cons (.start _ _ ⟨rfl, rfl⟩)
      (.cons (.operate _ _) (.cons (.connect _ ⟨rfl, rfl⟩) .nil)))
  exact (sights_of_agree.1 Sql.engine sights_of_agree.2.1 _ _ hacts .empty).1

end TableGateway
