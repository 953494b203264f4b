import Partitura.Catalog.Source
import Partitura.Proofs.Registry.Growth
import Partitura.Yaml.Reading
/-!
# Proofs.Catalog.Order — catalogs in any order

A catalog that is registered takes in the rules that its definitions stand for; a source does so with the rules of the
catalog that it loads, whatever the encoding of catalogs.  So the order of catalogs, or of catalog files, decides about
the order of the names, and about nothing else: neither whether all of them can be registered nor what a name means then.
-/
namespace Partitura

/-- Registers catalogs, each under its origin, one after the other up to the first error. -/
def Catalog.registerEach (catalogs : List (Catalog × String)) (g : Registry) : Except CatalogError Registry :=
  catalogs.foldlM (fun g c => c.1.register c.2 g) g

/-- What a definition gives to a registry. -/
def Definition.Gives (d : Definition) (rules : List Rule) : Prop := ∃ r, d.toRule = .ok r ∧ rules = [r]

/-- What a catalog gives: the rules of its definitions. -/
def Catalog.Gives (c : Catalog) (rules : List Rule) : Prop :=
  ∃ lists, List.Forall₂ Definition.Gives c.elements lists ∧ rules = lists.flatten

def Source.Gives (y : Data.Encoding) (read : ReadFile) (s : Source) (rules : List Rule) : Prop :=
  ∃ c, s.load y read = .ok c ∧ c.Gives rules

/-- **Two outcomes that differ in the order of the rules only**: a registry in both or in none, and then of the same
rules. -/
def AgreeUpToOrder {ε : Type} (x y : Except ε Registry) : Prop :=
  ((∃ g, x = .ok g) ↔ ∃ g, y = .ok g) ∧ ∀ g g', x = .ok g → y = .ok g' → g.SameRules g'

theorem Definition.takesIn_register (d : Definition) : Registry.TakesIn (fun g => d.toRule >>= g.register) d.Gives := by
  intro g g' h
  rw [bind_eq_ok_iff]
  constructor
  · rintro ⟨r, hr, hregister⟩
    obtain ⟨-, rfl, hentered⟩ := (Registry.takesIn_register r g g' h).1 hregister
    exact ⟨[r], ⟨r, hr, rfl⟩, hentered⟩
  · rintro ⟨-, ⟨r, hr, rfl⟩, hentered⟩
    exact ⟨r, hr, (Registry.takesIn_register r g g' h).2 ⟨[r], rfl, hentered⟩⟩

namespace Catalog

theorem registerAll_eq_none_iff : ∀ {ds : List Definition} {g g' : Registry},
    registerAll g ds = (g', none) ↔ ds.foldlM (fun g d => d.toRule >>= g.register) g = .ok g'
  | [], g, g' => by simp [registerAll]
  | d :: ds, g, g' => by
    rw [registerAll, List.foldlM_cons]
    cases hd : d.toRule >>= g.register with
    | error e => simp
    | ok reached =>
      rw [ok_bind]
      exact registerAll_eq_none_iff

theorem register_eq_ok_iff {c : Catalog} {origin : String} {g g' : Registry} :
    c.register origin g = .ok g' ↔ c.elements.foldlM (fun g d => d.toRule >>= g.register) g = .ok g' := by
  rw [← registerAll_eq_none_iff, register, registration, registerInto]
  cases registerAll g c.elements with
  | mk reached fault =>
    cases fault <;> simp

theorem takesIn_register (c : Catalog) (origin : String) : Registry.TakesIn (c.register origin) c.Gives := by
  intro g g' h
  rw [register_eq_ok_iff]
  exact Registry.TakesIn.chain Definition.takesIn_register c.elements g g' h

end Catalog

namespace Source

variable (y : Data.Encoding) (read : ReadFile)

theorem registerAll_eq_foldlM : ∀ (ss : List Source) (g : Registry),
    registerAll y read g ss = ss.foldlM (fun g s => s.registerInto y read g) g
  | [], _ => rfl
  | s :: ss, g => by
    rw [registerAll, List.foldlM_cons]
    exact bind_congr fun reached => registerAll_eq_foldlM ss reached

theorem takesIn_registerInto (s : Source) : Registry.TakesIn (s.registerInto y read) (s.Gives y read) := by
  intro g g' h
  rw [registerInto, bind_eq_ok_iff]
  constructor
  · rintro ⟨c, hload, hregister⟩
    obtain ⟨rules, hgives, hentered⟩ := (c.takesIn_register s.origin g g' h).1 hregister
    exact ⟨rules, ⟨c, hload, hgives⟩, hentered⟩
  · rintro ⟨rules, ⟨c, hload, hgives⟩, hentered⟩
    exact ⟨c, hload, (c.takesIn_register s.origin g g' h).2 ⟨rules, hgives, hentered⟩⟩

end Source

theorem Sources.toList_perm {withStandard : Bool} {files files' : List String} (hperm : files.Perm files') :
    (Sources.mk withStandard files).toList.Perm (Sources.mk withStandard files').toList :=
  (hperm.map Source.file).append_left _

/-- A chain of steps that take rules in has outcomes that agree, in whatever order its items come. -/
theorem Registry.TakesIn.agreeUpToOrder {ε α : Type} {step : Registry → α → Except ε Registry}
    {Gives : α → List Rule → Prop} (hstep : ∀ item, TakesIn (step · item) (Gives item)) {items items' : List α}
    (hperm : items.Perm items') {g : Registry} (h : g.Indexed) :
    AgreeUpToOrder (items.foldlM step g) (items'.foldlM step g) := by
  refine ⟨⟨?_, ?_⟩, fun g₁ g₂ hok hok' => ?_⟩
  · rintro ⟨g₁, hok⟩
    obtain ⟨g₂, hok', -⟩ := exists_of_perm hstep hperm h hok
    exact ⟨g₂, hok'⟩
  · rintro ⟨g₂, hok'⟩
    obtain ⟨g₁, hok, -⟩ := exists_of_perm hstep hperm.symm h hok'
    exact ⟨g₁, hok⟩
  · obtain ⟨reached, hreached, hsame⟩ := exists_of_perm hstep hperm h hok
    cases hreached.symm.trans hok'
    exact hsame

/-- **The order of catalogs decides about the order of names only.**  Catalogs that are registered one after the other,
in a registry of any run, are accepted in every order or in none; if they are accepted, the registries have the same
rules, and every name means the same.  The same holds of the files that a registry is built from, whatever is in
them and however catalogs are encoded. -/
theorem catalog_order_irrelevant :
    (∀ (calls : List Registration) (catalogs catalogs' : List (Catalog × String)), catalogs.Perm catalogs' →
      AgreeUpToOrder (Catalog.registerEach catalogs (Registry.empty.afterAll calls))
        (Catalog.registerEach catalogs' (Registry.empty.afterAll calls))) ∧
    ∀ (y : Data.Encoding) (read : ReadFile) (withStandard : Bool) (files files' : List String), files.Perm files' →
      AgreeUpToOrder (Sources.build y read ⟨withStandard, files⟩) (Sources.build y read ⟨withStandard, files'⟩) := by
  constructor
  · intro calls catalogs catalogs' hperm
    have hindexed := (Registry.sound_afterAll calls Registry.sound_empty).indexed
    exact Registry.TakesIn.agreeUpToOrder (fun c => c.1.takesIn_register c.2) hperm hindexed
  · intro y read withStandard files files' hperm
    rw [Sources.build, Sources.build, Source.registerAll_eq_foldlM, Source.registerAll_eq_foldlM]
    exact Registry.TakesIn.agreeUpToOrder (Source.takesIn_registerInto y read) (Sources.toList_perm hperm)
      Registry.indexed_empty

/-- A loud and a soft catalog behind a rule that is there, and two YAML files with such catalogs. -/
theorem catalog_order_irrelevant_dynamics :
    let loud : Catalog × String := (⟨"1.0", [.ofRule (.command "f" "\\f" .empty)]⟩, "loud")
    let soft : Catalog × String := (⟨"1.2", [.ofRule (.command "p" "\\p" .empty)]⟩, "soft")
    let g := Registry.empty.afterAll [.rule (.command "mf" "\\mf" .empty)]
    let y := Yaml.encoding
    let read : ReadFile := fun path =>
      .ok ("\x7bversion: 1, elements: [\x7bname: " ++ path ++ ", tag: dynamic, categories: []\x7d]\x7d")
    (∃ g₁ g₂, Catalog.registerEach [loud, soft] g = .ok g₁ ∧ Catalog.registerEach [soft, loud] g = .ok g₂ ∧
      g₁.SameRules g₂ ∧ g₁.names = ["mf", "f", "p"] ∧ g₂.names = ["mf", "p", "f"]) ∧
    ∃ g₁ g₂, Sources.build y read ⟨false, ["f", "p"]⟩ = .ok g₁ ∧ Sources.build y read ⟨false, ["p", "f"]⟩ = .ok g₂ ∧
      g₁.SameRules g₂ ∧ g₁.names = ["f", "p"] ∧ g₂.names = ["p", "f"] := by
  intro loud soft g y read
  obtain ⟨hcatalogs, hfiles⟩ := catalog_order_irrelevant
  constructor
  · obtain ⟨g₁, hok, hnames₁⟩ := map_eq_ok_iff.1 (show Registry.names <$> Catalog.registerEach [loud, soft] g =
      .ok ["mf", "f", "p"] by decide +kernel)
    obtain ⟨g₂, hok', hnames₂⟩ := map_eq_ok_iff.1 (show Registry.names <$> Catalog.registerEach [soft, loud] g =
      .ok ["mf", "p", "f"] by decide +kernel)
    exact ⟨g₁, g₂, hok, hok', (hcatalogs _ _ _ (.swap soft loud [])).2 g₁ g₂ hok hok', hnames₁, hnames₂⟩
  · obtain ⟨g₁, hok, hnames₁⟩ := map_eq_ok_iff.1 (show Registry.names <$> Sources.build y read ⟨false, ["f", "p"]⟩ =
      .ok ["f", "p"] by decide +kernel)
    obtain ⟨g₂, hok', hnames₂⟩ := map_eq_ok_iff.1 (show Registry.names <$> Sources.build y read ⟨false, ["p", "f"]⟩ =
      .ok ["p", "f"] by decide +kernel)
    exact ⟨g₁, g₂, hok, hok', (hfiles y read false _ _ (.swap "p" "f" [])).2 g₁ g₂ hok hok', hnames₁, hnames₂⟩

end Partitura
