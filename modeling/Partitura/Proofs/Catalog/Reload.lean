import Partitura.Catalog.Text
import Partitura.Data.Equality
import Partitura.Proofs.Data.Fields
import Partitura.Proofs.Files.Saved
import Partitura.Yaml.Reading
/-!
# Proofs.Catalog.Reload — a catalog comes back from its text

Every field of a definition is left out for one value at most, and that value is its default on reading; a kind that is
a word is never taken for a list of words.  So a catalog comes back from its tree (`Catalog.ofReading?_toData`), and
from a text or a file as far as the encoding brings back the tree (`Catalog.decode_encode`).
-/
namespace Partitura

@[simp] theorem lookup_fieldUnless_self (usual : Bool) (name : String) (value : Data) :
    (fieldUnless usual name value).lookup name = if usual then none else some value := by
  cases usual <;> simp [fieldUnless]

@[simp] theorem lookup_fieldUnless_ne (usual : Bool) {name key : String} (value : Data) (h : key ≠ name) :
    (fieldUnless usual name value).lookup key = none := by
  cases usual <;> simp [fieldUnless, List.lookup_cons, beq_eq_false_iff_ne.2 h]

theorem names_fieldUnless (usual : Bool) (name : String) (value : Data) :
    ((fieldUnless usual name value).map Prod.fst).Sublist [name] := by
  cases usual <;> simp [fieldUnless]

theorem KindDefinition.ofReading?_toData (kind : KindDefinition) :
    KindDefinition.ofReading? (.ofData kind.toData) = some kind := by
  cases kind with
  | label text => rfl
  | categories labels =>
    have hword : (Reading.ofData (.texts labels)).word? = none := rfl
    rw [toData, ofReading?, hword, Reading.words?_ofData]
    rfl

namespace ParameterDefinition

theorem names_fields (p : ParameterDefinition) : (p.fields.map Prod.fst).Sublist ["name", "kind", "optional"] := by
  rw [fields, List.map_append]
  exact (List.Sublist.refl ["name", "kind"]).append (names_fieldUnless _ _ _)

/-- **A parameter comes back from its record.** -/
theorem ofReading?_toData (p : ParameterDefinition) : ofReading? (.ofData p.toData) = some p := by
  have hname : Reading.required (Reading.fieldsOf p.fields) "name" Reading.text? = some p.name :=
    Reading.required_eq_some rfl rfl
  have hkind : Reading.required (Reading.fieldsOf p.fields) "kind" KindDefinition.ofReading? = some p.kind :=
    Reading.required_eq_some rfl p.kind.ofReading?_toData
  have hwritten : p.fields.lookup "optional" = if !p.optional then none else some (.flag p.optional) := by
    rw [fields, List.lookup_append, lookup_fieldUnless_self]
    rfl
  have hoptional : Reading.defaulting (Reading.fieldsOf p.fields) "optional" false Reading.flag? = some p.optional :=
    Reading.defaulting_eq_some hwritten (fun _ => rfl) (by simp)
  rw [toData, ofReading?, Reading.fields?_ofData (by decide) p.names_fields]
  simp only [Option.bind_eq_bind, Option.bind_some, hname, hkind, hoptional]
  rfl

end ParameterDefinition

namespace Definition

@[simp] theorem lookup_contentField_self (content : Option (List String)) :
    (contentField content).lookup "content" = content.map Data.texts := by
  cases content <;> rfl

@[simp] theorem lookup_contentField_ne (content : Option (List String)) {key : String} (h : key ≠ "content") :
    (contentField content).lookup key = none := by
  cases content <;> simp [contentField, List.lookup_cons, beq_eq_false_iff_ne.2 h]

theorem names_contentField (content : Option (List String)) :
    ((contentField content).map Prod.fst).Sublist ["content"] := by
  cases content <;> simp [contentField]

theorem names_fields (d : Definition) : (d.fields.map Prod.fst).Sublist fieldNames := by
  simp only [fields, List.map_append]
  exact (((((List.Sublist.refl ["name", "tag", "categories"]).append (names_fieldUnless _ "parameters" _)).append
    (names_contentField _)).append (names_fieldUnless _ "inline" _)).append
    (names_fieldUnless _ "delimiter_open" _)).append (names_fieldUnless _ "delimiter_close" _)

theorem lookup_parameters (d : Definition) : d.fields.lookup "parameters" =
    if d.parameters.isEmpty then none else some (.list (d.parameters.map ParameterDefinition.toData)) := by
  simp [fields, List.lookup_append, List.lookup_cons]

theorem lookup_content (d : Definition) : d.fields.lookup "content" =
    if d.content.isNone then none else some (.texts (d.content.getD [])) := by
  cases h : d.content <;> simp [fields, List.lookup_append, List.lookup_cons, h]

theorem lookup_inline (d : Definition) :
    d.fields.lookup "inline" = if !d.inline then none else some (.flag d.inline) := by
  simp [fields, List.lookup_append, List.lookup_cons]

theorem lookup_opening (d : Definition) : d.fields.lookup "delimiter_open" =
    if d.opening == Rule.defaultOpening then none else some (.text d.opening) := by
  simp [fields, List.lookup_append, List.lookup_cons]

theorem lookup_closing (d : Definition) : d.fields.lookup "delimiter_close" =
    if d.closing == Rule.defaultClosing then none else some (.text d.closing) := by
  simp [fields, List.lookup_append, List.lookup_cons]

/-- **A definition comes back from its record.** -/
theorem ofReading?_toData (d : Definition) : ofReading? (.ofData d.toData) = some d := by
  have hname : Reading.required (Reading.fieldsOf d.fields) "name" Reading.text? = some d.name :=
    Reading.required_eq_some rfl rfl
  have htag : Reading.required (Reading.fieldsOf d.fields) "tag" Reading.text? = some d.tag :=
    Reading.required_eq_some rfl rfl
  have hcategories : Reading.required (Reading.fieldsOf d.fields) "categories" Reading.texts? = some d.categories :=
    Reading.required_eq_some rfl (Reading.texts?_ofData d.categories)
  have hparameters : Reading.defaulting (Reading.fieldsOf d.fields) "parameters" []
      (fun r => r.items? >>= List.mapM ParameterDefinition.ofReading?) = some d.parameters :=
    Reading.defaulting_eq_some d.lookup_parameters
      (fun _ => Reading.items?_bind_mapM fun p _ => p.ofReading?_toData) (by simp)
  -- The content is left out when there is none; an empty list of labels is written like any other.
  have hcontent : Reading.defaulting (Reading.fieldsOf d.fields) "content" none contentOfReading? = some d.content := by
    refine Reading.defaulting_eq_some d.lookup_content (fun hsome => ?_) (by simp)
    obtain ⟨labels, hlabels⟩ := Option.isSome_iff_exists.1 (Option.isNone_eq_false_iff.1 hsome)
    rw [hlabels, Option.getD_some, contentOfReading?, Reading.texts?_ofData]
    rfl
  have hinline : Reading.defaulting (Reading.fieldsOf d.fields) "inline" false Reading.flag? = some d.inline :=
    Reading.defaulting_eq_some d.lookup_inline (fun _ => rfl) (by simp)
  have hopening : Reading.defaulting (Reading.fieldsOf d.fields) "delimiter_open" Rule.defaultOpening Reading.text? =
      some d.opening :=
    Reading.defaulting_eq_some d.lookup_opening (fun _ => rfl) (by simp)
  have hclosing : Reading.defaulting (Reading.fieldsOf d.fields) "delimiter_close" Rule.defaultClosing Reading.text? =
      some d.closing :=
    Reading.defaulting_eq_some d.lookup_closing (fun _ => rfl) (by simp)
  rw [toData, ofReading?, Reading.fields?_ofData (by decide) d.names_fields]
  simp only [Option.bind_eq_bind, Option.bind_some] at hparameters ⊢
  simp only [hname, htag, hcategories, hparameters, hcontent, hinline, hopening, hclosing, Option.bind_some]
  rfl

end Definition

/-- **The tree comes back from its text.** -/
def Data.Encoding.Keeps (y : Data.Encoding) (d : Data) : Prop := y.read? (y.write d) = some (.ofData d)

namespace Catalog

theorem ofReading?_toData (c : Catalog) : ofReading? (.ofData c.toData) = some c := by
  have hfields : Reading.fields? ["version", "elements"] (.ofData c.toData) = some (Reading.fieldsOf c.fields) :=
    Reading.fields?_ofData (by decide) (List.Sublist.refl _)
  have hversion : Reading.required (Reading.fieldsOf c.fields) "version" Reading.text? = some c.version :=
    Reading.required_eq_some rfl rfl
  have hwritten : c.fields.lookup "elements" =
      if false then none else some (.list (c.elements.map Definition.toData)) := rfl
  have helements : Reading.defaulting (Reading.fieldsOf c.fields) "elements" []
      (fun r => r.items? >>= List.mapM Definition.ofReading?) = some c.elements :=
    Reading.defaulting_eq_some hwritten (fun _ => Reading.items?_bind_mapM fun d _ => d.ofReading?_toData) nofun
  rw [ofReading?, hfields]
  simp only [Option.bind_eq_bind, Option.bind_some] at helements ⊢
  simp only [hversion, helements, Option.bind_some]
  rfl

/-- The text of a catalog is read as the catalog, as far as its version can be read. -/
theorem decode_encode {y : Data.Encoding} {c : Catalog} (hy : y.Keeps c.toData) :
    decode y (c.encode y) = checked c := by
  rw [decode, encode, ofTree, hy]
  simp only [Option.bind_eq_bind, Option.bind_some, ofReading?_toData]

/-- **Writing and reading a catalog loses nothing**: with an encoding that brings back its tree, a catalog of a version
that can be read comes back from its text; and wherever a file can be written at all it can be saved, and is loaded
again as it was. -/
theorem encode_lossless (y : Data.Encoding) (c : Catalog) (hy : y.Keeps c.toData)
    (hversion : isSupported c.version = true) :
    decode y (c.encode y) = .ok c ∧
    ∀ (files files' : Files) (path text : String), files.write path text = .ok files' →
      ∃ saved, files.write path (c.encode y) = .ok saved ∧ load y (saved.read path) = .ok c := by
  have hdecode : decode y (c.encode y) = .ok c := by rw [decode_encode hy, checked, if_pos hversion]
  refine ⟨hdecode, fun files files' path text hwrite => ?_⟩
  obtain ⟨saved, hsaved⟩ := Files.write_of_write hwrite (c.encode y)
  refine ⟨saved, hsaved, ?_⟩
  rw [Files.read_of_write hsaved]
  exact hdecode

/-- Words that could be taken for something else, an empty content, and fields that are left out. -/
def sample : Catalog where
  version := "1"
  elements := [
    { name := "true", tag := "", categories := []
      parameters := [⟨"a", .label "[]", true⟩, ⟨"b", .categories [], false⟩]
      content := some [], inline := false, opening := Rule.defaultOpening, closing := Rule.defaultClosing }]

theorem encode_lossless_sample :
    let y := Yaml.encoding
    y.Keeps sample.toData ∧ isSupported sample.version = true ∧ decode y (sample.encode y) = .ok sample ∧
    ∃ saved, Files.empty.write "a" (sample.encode y) = .ok saved ∧ load y (saved.read "a") = .ok sample := by
  intro y
  have hy : y.Keeps sample.toData := by
    have hwritten : Yaml.write sample.toData = String.ofList (Yaml.blockFields sample.fields 0 true) := rfl
    simp only [y, Data.Encoding.Keeps, Yaml.encoding, hwritten, Yaml.read?, Yaml.tokens?, Yaml.placed?,
      String.toList_ofList]
    decide +kernel
  have hversion : isSupported sample.version = true := by decide +kernel
  have hparts : Path.parts "a" = ["a"] := by
    have hstep : "a".splitOnAux "/" 0 0 0 [] = "a".splitOnAux "/" 0 ⟨1⟩ 0 [] := by
      rw [String.splitOnAux]
      rfl
    have hend : "a".splitOnAux "/" 0 ⟨1⟩ 0 [] = ["a"] := by
      rw [String.splitOnAux]
      rfl
    exact hstep.trans hend
  have hplace : Files.empty.resolve "a" = .ok ["a"] := by
    rw [Files.resolve, hparts]
    rfl
  have hwrite : Files.empty.write "a" "" = .ok ⟨[], [(["a"], "")]⟩ :=
    Files.write_eq_ok_iff.2 ⟨by decide +kernel, ["a"], hplace, rfl, rfl⟩
  obtain ⟨htext, hfile⟩ := encode_lossless y sample hy hversion
  exact ⟨hy, hversion, htext, hfile .empty _ "a" "" hwrite⟩

end Catalog
end Partitura
