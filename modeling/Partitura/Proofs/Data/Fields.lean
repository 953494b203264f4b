import Mathlib.Data.List.Nodup
import Partitura.Data
import Partitura.Proofs.Outcome
/-!
# Proofs.Data.Fields — the fields of a record come back

A record is written with some of its fields left out, and read with a default for each of them.  A field comes back if
the value for which it is left out is its default (`defaulting_eq_some`), whatever the other fields are.
-/
namespace Partitura
namespace Reading

/-- The fields of a record as they are read. -/
def fieldsOf (fields : List (String × Data)) : List (String × Reading) :=
  fields.map fun field => (field.1, ofData field.2)

theorem ofItems_eq_map : ∀ items : List Data, ofItems items = items.map ofData
  | [] => rfl
  | item :: items => by rw [ofItems, ofItems_eq_map items, List.map_cons]

theorem ofFields_eq_map : ∀ fields : List (String × Data),
    ofFields fields = (fieldsOf fields).map fun field => (some field.1, field.2)
  | [] => rfl
  | (name, value) :: fields => by rw [ofFields, ofFields_eq_map fields]; rfl

theorem lookup_fieldsOf (name : String) : ∀ fields : List (String × Data),
    (fieldsOf fields).lookup name = (fields.lookup name).map ofData
  | [] => rfl
  | (key, value) :: fields => by
    have ih := lookup_fieldsOf name fields
    rw [fieldsOf, List.map_cons, List.lookup_cons, List.lookup_cons]
    cases name == key with
    | true => rfl
    | false => exact ih

/-- **The fields of a record** are read as they were written, if their names are known and in order. -/
theorem fields?_ofData {known : List String} {fields : List (String × Data)} (hknown : known.Nodup)
    (hnames : (fields.map Prod.fst).Sublist known) :
    fields? known (ofData (.record fields)) = some (fieldsOf fields) := by
  have hnames' : (fieldsOf fields).map Prod.fst = fields.map Prod.fst := by
    rw [fieldsOf, List.map_map]
    rfl
  have hkeys : ((fieldsOf fields).map fun field => (some field.1, field.2)).mapM
      (fun entry : Option String × Reading => entry.1.map (·, entry.2)) = some (fieldsOf fields) :=
    mapM_map_pure fun _ _ => rfl
  have hkept : (fieldsOf fields).filter (fun field => known.contains field.1) = fieldsOf fields := by
    rw [List.filter_eq_self]
    intro field hfield
    rw [List.contains_iff_mem]
    exact hnames.subset (hnames' ▸ List.mem_map_of_mem hfield)
  have hdistinct : ((fieldsOf fields).map Prod.fst).Nodup := hnames' ▸ hknown.sublist hnames
  rw [ofData, ofFields_eq_map, fields?]
  simp only [hkeys, Option.bind_eq_bind, Option.bind_some, hkept, if_pos hdistinct]

variable {α : Type} {fields : List (String × Data)} {name : String} {value : Data} {read : Reading → Option α} {a : α}

theorem required_eq_some (hwritten : fields.lookup name = some value) (hread : read (ofData value) = some a) :
    required (fieldsOf fields) name read = some a := by
  rw [required, lookup_fieldsOf, hwritten]
  exact hread

/-- **A field that is left out for one value** comes back if that value is the default of the field. -/
theorem defaulting_eq_some {usual : Bool} {default : α}
    (hwritten : fields.lookup name = if usual then none else some value)
    (hread : usual = false → read (ofData value) = some a) (hdefault : usual = true → a = default) :
    defaulting (fieldsOf fields) name default read = some a := by
  rw [defaulting, lookup_fieldsOf, hwritten]
  cases usual with
  | true => rw [hdefault rfl]; rfl
  | false => exact hread rfl

/-! ## Lists -/

theorem items?_ofData (items : List Data) : (ofData (.list items)).items? = some (items.map ofData) := by
  rw [ofData, ofItems_eq_map]
  rfl

/-- **Items come back** if each of them does. -/
theorem items?_bind_mapM {item : Reading → Option α} {write : α → Data} {as : List α}
    (h : ∀ a ∈ as, item (ofData (write a)) = some a) :
    ((ofData (.list (as.map write))).items? >>= List.mapM item) = some as := by
  rw [items?_ofData, List.map_map]
  exact mapM_map_pure h

theorem texts?_ofData (labels : List String) : (ofData (.texts labels)).texts? = some labels :=
  items?_bind_mapM fun _ _ => rfl

theorem words?_ofData (labels : List String) : (ofData (.texts labels)).words? = some labels := by
  rw [Data.texts, ofData, ofItems_eq_map, List.map_map]
  exact mapM_map_pure fun _ _ => rfl

end Reading

end Partitura
