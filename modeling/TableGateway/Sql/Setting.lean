import TableGateway.Text.Numeral
import TableGateway.Sql.Collation

/-!
# Settings

A connection has settings with names, most of which are numbers; those that are on or off are 1 or
0. What they are at first stands in a table. `get_set` says that a setting is what it has been set to.
-/

namespace TableGateway.Sql

/-! ### Words for values -/

/-- The value of the digits that a text starts with, if it fits into 31 bits and a sign. -/
def smallNumber? (negative : Bool) (text : List Char) : Option Int :=
  let digits := (text.dropWhile (· == '0')).takeWhile Char.isDigit
  let n : Int := Numeral.value digits
  let n := if negative then -n else n
  if !(text.head?.any Char.isDigit) || 10 < digits.length then none
  else if n < -0x80000000 || 0x80000000 ≤ n then none
  else some n

/-- The number that a text starts with, if it is small enough. -/
def settingNumber? (text : String) : Option Int :=
  match text.toList with
  | '-' :: cs => smallNumber? true cs
  | '+' :: cs => smallNumber? false cs
  | '0' :: x :: cs =>
    let digits := (cs.dropWhile (· == '0')).takeWhile fun c => (Numeral.hexDigit? c).isSome
    let n := digits.foldl (fun n c => 16 * n + (Numeral.hexDigit? c).getD 0) 0
    if (x == 'x' || x == 'X') && cs.head?.any fun c => (Numeral.hexDigit? c).isSome then
      (if 8 < digits.length || 0x80000000 ≤ n then none else some n)
    else smallNumber? false ('0' :: x :: cs)
  | cs => smallNumber? false cs

/-- The number that a text starts with; other texts are zero. -/
def settingNumber (text : String) : Int :=
  (settingNumber? text).getD 0

/-- The levels that words stand for. -/
def levelWords : List (String × Int) :=
  [("on", 1), ("yes", 1), ("true", 1), ("off", 0), ("no", 0), ("false", 0), ("extra", 3),
    ("full", 2)]

/-- The level that a text stands for. -/
def settingLevel (otherwise : Int) (text : String) : Int :=
  if text.toList.head?.any Char.isDigit then settingNumber text % 256
  else (levelWords.lookup text.toLower).getD otherwise

/-- Whether a text switches something on. -/
def isOnWord (text : String) : Bool :=
  if text.toList.head?.any Char.isDigit then settingNumber text % 256 != 0
  else (levelWords.lookup text.toLower) == some 1

/-! ### Kinds of settings -/

/-- How a setting is changed. -/
inductive SettingKind where
  /-- It is on or off. -/
  | switch
  | number
  /-- It is a number, which a change gives back. -/
  | echoed
  /-- It cannot be changed. -/
  | fixed
  deriving DecidableEq, Repr

/-- A setting. -/
structure SettingEntry where
  name : String
  kind : SettingKind
  initial : Int
  /-- The name of its column, where that is another one. -/
  label : Option String := none

/-- The settings of a connection. -/
def settingEntries : List SettingEntry :=
  [⟨"analysis_limit", .echoed, 0, none⟩, ⟨"auto_vacuum", .fixed, 0, none⟩,
    ⟨"automatic_index", .switch, 1, none⟩, ⟨"busy_timeout", .echoed, 5000, some "timeout"⟩,
    ⟨"cache_size", .number, -2000, none⟩, ⟨"cache_spill", .fixed, 483, none⟩,
    ⟨"cell_size_check", .switch, 0, none⟩, ⟨"checkpoint_fullfsync", .switch, 0, none⟩,
    ⟨"count_changes", .switch, 0, none⟩, ⟨"data_version", .echoed, 1, none⟩,
    ⟨"defer_foreign_keys", .switch, 0, none⟩,
    ⟨"empty_result_callbacks", .switch, 0, none⟩, ⟨"foreign_keys", .switch, 1, none⟩,
    ⟨"full_column_names", .switch, 0, none⟩, ⟨"fullfsync", .switch, 0, none⟩,
    ⟨"hard_heap_limit", .echoed, 0, none⟩, ⟨"ignore_check_constraints", .switch, 0, none⟩,
    ⟨"journal_size_limit", .echoed, -1, none⟩, ⟨"legacy_alter_table", .switch, 0, none⟩,
    ⟨"legacy_file_format", .fixed, 0, none⟩, ⟨"max_page_count", .echoed, 4294967294, none⟩,
    ⟨"page_size", .fixed, 4096, none⟩, ⟨"query_only", .switch, 0, none⟩,
    ⟨"read_uncommitted", .switch, 0, none⟩, ⟨"recursive_triggers", .switch, 0, none⟩,
    ⟨"reverse_unordered_selects", .switch, 0, none⟩, ⟨"secure_delete", .echoed, 0, none⟩,
    ⟨"short_column_names", .switch, 1, none⟩, ⟨"soft_heap_limit", .echoed, 0, none⟩,
    ⟨"synchronous", .number, 2, none⟩, ⟨"temp_store", .number, 0, none⟩,
    ⟨"threads", .echoed, 0, none⟩, ⟨"trusted_schema", .switch, 1, none⟩,
    ⟨"wal_autocheckpoint", .echoed, 1000, none⟩, ⟨"writable_schema", .switch, 0, none⟩]

/-- The setting with a name. -/
def SettingEntry.named? (name : String) : Option SettingEntry :=
  settingEntries.find? fun s => sameName s.name name

/-- The name of the column of a setting. -/
def SettingEntry.column (s : SettingEntry) : String :=
  s.label.getD s.name

/-- What a setting becomes that is a number. -/
def SettingEntry.numberOf (s : SettingEntry) (text : String) : Int :=
  match s.name with
  | "synchronous" =>
    let level := (settingLevel 1 text + 1) % 8
    if level = 0 then 0 else level - 1
  | "temp_store" =>
    match text.toLower.toList with
    | c :: _ =>
      if '0' ≤ c && c ≤ '2' then (c.toNat : Int) - 48
      else if text.toLower == "file" then 1
      else if text.toLower == "memory" then 2
      else 0
    | [] => 0
  | "secure_delete" =>
    if text.toLower == "fast" then 2 else if isOnWord text then 1 else 0
  | "busy_timeout" | "wal_autocheckpoint" => max 0 (settingNumber text)
  | "threads" => min 8 (settingNumber text)
  | "data_version" => s.initial
  | _ => settingNumber text

/-- The ways in which a journal can be kept. -/
def journalModes : List String :=
  ["delete", "persist", "off", "truncate", "memory", "wal"]

/-! ### The settings of a connection -/

/-- The settings that have been changed. -/
structure Settings where
  changed : List (String × Int) := []
  /-- The settings that are words. -/
  words : List (String × String) := []
  deriving Inhabited

namespace Settings

/-- What a setting is. -/
def get (s : Settings) (name : String) : Int :=
  (s.changed.lookup name).getD (((SettingEntry.named? name).map SettingEntry.initial).getD 0)

/-- Change a setting. -/
def set (s : Settings) (name : String) (value : Int) : Settings :=
  { s with changed := (name, value) :: s.changed }

/-- What a setting is that is a word. -/
def word (s : Settings) (name initial : String) : String :=
  (s.words.lookup name).getD initial

/-- Change a setting that is a word. -/
def setWord (s : Settings) (name value : String) : Settings :=
  { s with words := (name, value) :: s.words }

/-- Whether a setting is on. -/
def isOn (s : Settings) (name : String) : Bool :=
  s.get name != 0

theorem get_set (s : Settings) (name : String) (value : Int) :
    (s.set name value).get name = value := by
  simp [get, set]

end Settings

end TableGateway.Sql
