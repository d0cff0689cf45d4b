import TableGateway.Proofs.JsonText
import TableGateway.Proofs.RowObject

/-!
# The JSON text of a row

A row is written with all its columns. A reader of the text keeps the last value of a name that comes
more than once, where the object of the row, like the look-up of a column, has the first one; and it
makes numbers that are not whole from their digits (`Value.readBack`). So the text is read as the object of
the row just if the last column of each name is read as the JSON of the first one
(`Row.read?_jsonText`). Where no name is repeated and the numbers are short it is.
-/

namespace TableGateway

/-! ### Values -/

namespace Value

/-- A value is written as its JSON is. -/
theorem jsonText_eq (v : Value) : v.jsonText = v.toJson.text := by
  cases v with
  | null | int | text => rfl
  | bool b => cases b <;> rfl
  | real x =>
    rw [jsonText, toJson]
    cases hx : x.isFinite
    · rw [Json.realText, hx]
      rfl
    · rfl
  | blob bytes =>
    have hbytes : (bytes.map fun b => Numeral.digits b.toNat) =
        (bytes.map fun b => Json.int b.toNat).map Json.text := by
      rw [List.map_map]
      exact List.map_congr_left fun b _ => (String.toList_ofList).symm
    rw [jsonText, toJson, Json.text, Json.itemTexts_eq_map, hbytes]

theorem readable_toJson (depth : Nat) (v : Value) : Json.Readable (depth + 1) v.toJson := by
  cases v with
  | null => exact .null
  | bool b => exact .bool b
  | int n =>
    have hhigh := n.toInt_lt
    exact .int n.le_toInt (by omega)
  | real x =>
    rw [toJson]
    split
    · exact .real x
    · exact .null
  | text s => exact .str s
  | blob bytes =>
    refine .arr fun v hv => ?_
    obtain ⟨b, -, rfl⟩ := List.mem_map.mp hv
    have hb := b.toNat_lt
    exact .int (by omega) (by omega)

/-- What the text of a value is read as: its JSON, but that a number is made from its digits. -/
def readBack : Value → Json
  | real x => if x.isFinite then .real x.reread else .null
  | v => v.toJson

theorem held_toJson (v : Value) : v.toJson.held = v.readBack := by
  cases v with
  | null | bool | int | text => rfl
  | real x =>
    rw [toJson, readBack]
    cases hx : x.isFinite
    · rfl
    · rw [if_pos rfl, if_pos rfl, Json.held, hx, if_pos rfl]
  | blob bytes =>
    rw [toJson, Json.held, Json.heldItems_eq_map, List.map_map]
    rfl

theorem readBack_eq_toJson_iff {v : Value} :
    v.readBack = v.toJson ↔ ∀ x, v = real x → x.isFinite = true → x.reread = x := by
  cases v with
  | null | bool | int | text | blob => exact ⟨fun _ => nofun, fun _ => rfl⟩
  | real x => cases hx : x.isFinite <;> simp [readBack, toJson, hx]

end Value

/-! ### Rows -/

namespace Row

/-- The entries that are read from the text of a row: of columns with one name, the last. -/
def readEntries (r : Row) : List (String × Json) :=
  r.fields.foldl (fun es f => Entries.put f.1 f.2.readBack es) []

theorem keys_readEntries (r : Row) : Entries.keys r.readEntries = r.columns.eraseDups :=
  Entries.keys_foldl (fun es (f : String × Value) => Entries.keys_put f.1 f.2.readBack es) r.fields

theorem find?_readEntries (r : Row) (column : String) :
    Entries.find? column r.readEntries =
      (Entries.find? column r.fields.reverse).map Value.readBack := by
  rw [readEntries, Entries.find?_foldl_put Value.readBack, Entries.find?_nil, Option.or_none]

theorem jsonText_eq (r : Row) :
    r.jsonText = (Json.obj (r.fields.map fun f => (f.1, f.2.toJson))).text := by
  have htexts : (r.fields.map fun f => Json.strText f.1 ++ ':' :: f.2.jsonText) =
      (r.fields.map fun f => (f.1, f.2.toJson)).map fun e =>
        Json.strText e.1 ++ ':' :: Json.text e.2 := by
    rw [List.map_map]
    exact List.map_congr_left fun f _ => by rw [Value.jsonText_eq]; rfl
  rw [jsonText, Json.text, Json.entryTexts_eq_map, htexts]

theorem read?_eq_readEntries (r : Row) :
    Json.read? (String.ofList r.jsonText) = some (.obj r.readEntries) := by
  have hread : Json.Readable Json.depthLimit (.obj (r.fields.map fun f => (f.1, f.2.toJson))) := by
    rw [show Json.depthLimit = 126 + 1 from rfl]
    refine .obj fun e he => ?_
    obtain ⟨f, -, rfl⟩ := List.mem_map.mp he
    exact f.2.readable_toJson 125
  have hheld : (Json.obj (r.fields.map fun f => (f.1, f.2.toJson))).held = .obj r.readEntries := by
    rw [Json.held, Json.heldEntries_eq_map, List.map_map, List.foldl_map, readEntries]
    congr 2
    funext es f
    exact congrArg (Entries.put f.1 · es) f.2.held_toJson
  rw [jsonText_eq]
  exact (Json.read?_write hread).trans (congrArg some hheld)

theorem readEntries_eq_iff (r : Row) : r.readEntries = r.jsonEntries ↔
    ∀ column, (Entries.find? column r.fields.reverse).map Value.readBack =
      (r.get? column).map Value.toJson := by
  constructor
  · intro h column
    rw [← find?_readEntries, h, find?_jsonEntries]
  · intro h
    have hkeys : Entries.keys r.readEntries = Entries.keys r.jsonEntries :=
      r.keys_readEntries.trans r.keys_jsonEntries.symm
    refine Entries.ext_find? hkeys (hkeys ▸ r.nodup_keys_jsonEntries) fun column => ?_
    rw [find?_readEntries, find?_jsonEntries, h column]

/-- Without repeated names it is the values alone that decide. -/
theorem readEntries_eq_iff_of_nodup {r : Row} (hnodup : r.columns.Nodup) :
    r.readEntries = r.jsonEntries ↔ ∀ f ∈ r.fields, f.2.readBack = f.2.toJson := by
  rw [readEntries_eq_iff]
  have hfind : ∀ column v, r.get? column = some v ↔ (column, v) ∈ r.fields :=
    fun column v => Entries.find?_eq_some_iff hnodup
  constructor
  · intro h f hf
    have hcolumn := h f.1
    rw [Entries.find?_reverse hnodup, ← get?, (hfind f.1 f.2).mpr hf] at hcolumn
    exact Option.some.inj hcolumn
  · intro h column
    rw [Entries.find?_reverse hnodup, ← get?]
    cases hv : r.get? column with
    | none => rfl
    | some v => exact congrArg some (h (column, v) ((hfind column v).mp hv))

/-- The text of a row is read as an object with the names of the object of the row, in the same order,
but with what the last column of each is read as, where that has the JSON of the first. So they are equal
just if the last column of every name is read as the JSON of the first. Without repeated names that is so
just if every finite number is read as itself, as short ones are. -/
theorem read?_jsonText (r : Row) :
    ∃ entries, Json.read? (String.ofList r.jsonText) = some (.obj entries) ∧
      Entries.keys entries = Entries.keys r.jsonEntries ∧
      (∀ column, Entries.find? column entries =
        (Entries.find? column r.fields.reverse).map Value.readBack) ∧
      (∀ column, Entries.find? column r.jsonEntries =
        (Entries.find? column r.fields).map Value.toJson) ∧
      (Json.read? (String.ofList r.jsonText) = some r.toJson ↔
        ∀ column, (Entries.find? column r.fields.reverse).map Value.readBack =
          (Entries.find? column r.fields).map Value.toJson) ∧
      (r.columns.Nodup → (Json.read? (String.ofList r.jsonText) = some r.toJson ↔
        ∀ f ∈ r.fields, ∀ x, f.2 = .real x → x.isFinite = true → x.reread = x)) ∧
      (r.columns.Nodup → (∀ f ∈ r.fields, ∀ x, f.2 = .real x → x.Short) →
        Json.read? (String.ofList r.jsonText) = some r.toJson) := by
  have hobject : Json.read? (String.ofList r.jsonText) = some r.toJson ↔
      r.readEntries = r.jsonEntries := by
    rw [read?_eq_readEntries, toJson, Option.some_inj, Json.obj.injEq]
  have hvalues : r.columns.Nodup → (Json.read? (String.ofList r.jsonText) = some r.toJson ↔
      ∀ f ∈ r.fields, ∀ x, f.2 = .real x → x.isFinite = true → x.reread = x) := fun hnodup => by
    rw [hobject, readEntries_eq_iff_of_nodup hnodup]
    exact forall₂_congr fun f _ => Value.readBack_eq_toJson_iff
  refine ⟨_, r.read?_eq_readEntries, r.keys_readEntries.trans r.keys_jsonEntries.symm,
    r.find?_readEntries, r.find?_jsonEntries, hobject.trans r.readEntries_eq_iff, hvalues,
    fun hnodup hshort => (hvalues hnodup).mpr fun f hf x hx _ => (hshort f hf x hx).reread_eq⟩

namespace Repeated

/-- A row with two columns of one name. -/
def row : Row := ⟨[("id", .int 1), ("id", .int 2)]⟩

/-- The row is written with both of them. The text is read with the second one, the object has the
first. -/
theorem read?_jsonText_row :
    String.ofList row.jsonText = "\x7b\"id\":1,\"id\":2\x7d" ∧
    Json.read? (String.ofList row.jsonText) = some (.obj [("id", .int 2)]) ∧
    row.toJson = .obj [("id", .int 1)] ∧
    Json.read? (String.ofList row.jsonText) ≠ some row.toJson := by
  have hread : Json.read? (String.ofList row.jsonText) = some (.obj [("id", .int 2)]) := rfl
  have hobject : row.toJson = .obj [("id", .int 1)] := rfl
  refine ⟨by decide +kernel, hread, hobject, ?_⟩
  rw [hread, hobject]
  simp

end Repeated

end Row
end TableGateway
