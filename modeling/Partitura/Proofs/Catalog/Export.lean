import Partitura.Proofs.Catalog.Order
import Partitura.Proofs.Catalog.Words
/-!
# Proofs.Catalog.Export — a registry comes back from its catalog

A catalog takes in the rules of its definitions, and every rule comes back from its words.  The rules of a registry on
any run may enter an empty one, so its own catalog fills an empty one with the same rules.
-/
namespace Partitura
namespace Catalog

/-- **Rules in words** are registered behind those that are there, if the registry admits them. -/
theorem registerAll_ofRules {g : Registry} (h : g.Indexed) {rules : List Rule} (hadmits : g.Admits rules) :
    registerAll g (rules.map .ofRule) = (g.addAll rules, none) := by
  rw [registerAll_eq_none_iff]
  refine (Registry.TakesIn.chain Definition.takesIn_register _ g _ h).2 ⟨rules, ⟨rules.map ([·]), ?_, ?_⟩, hadmits, rfl⟩
  · rw [List.forall₂_map_left_iff, List.forall₂_map_right_iff, List.forall₂_same]
    exact fun r _ => ⟨r, Definition.toRule_ofRule r, rfl⟩
  · rw [← List.flatMap_def, List.flatMap_singleton']

theorem registration_ofRegistry {g : Registry} (h : g.Sound) (origin : String) :
    (ofRegistry g).registration origin .empty = (g, .ok g.size) := by
  have hall := registerAll_ofRules Registry.indexed_empty ⟨h.wellFormed, h.indexed.distinct⟩
  have hlength : (g.rules.map Definition.ofRule).length = g.size := List.length_map _
  rw [registration, registerInto, ofRegistry]
  dsimp only
  rw [hall, h.grown, hlength]

/-- **Export and reload rebuild the registry**: whatever rules and catalogs were registered before, or refused, the
catalog of the registry is accepted by an empty one as a whole, and gives the same rules in the same order. -/
theorem registration_of_run (calls : List Registration) (origin : String) :
    (ofRegistry (Registry.empty.afterAll calls)).registration origin .empty =
      (Registry.empty.afterAll calls, .ok (Registry.empty.afterAll calls).size) :=
  registration_ofRegistry (Registry.sound_afterAll calls Registry.sound_empty) origin

/-- A rule that is refused for its name, a rule that is there, and a catalog that is taken in up to its last definition;
the rules have no content, an empty one and one with a category. -/
theorem registration_of_run_scores :
    let staff := { Rule.container "staff" "\\staff" (.single .music) (.single .music) with
      parameters := [⟨"label", .leaf .string, true⟩] }
    let blank := Rule.container "blank" "" (.single .music) .empty
    let rest := Rule.command "rest" "r" (.single .music)
    let calls : List Registration := [
      .rule rest, .rule (.command "2" "" .empty), .rule (.command "rest" "s" .empty),
      .catalog ⟨currentVersion, [.ofRule staff, .ofRule blank, .ofRule rest]⟩ "score"]
    let g := Registry.empty.afterAll calls
    g.rules = [rest, staff, blank] ∧
    (ofRegistry g).elements.map Definition.content = [none, some ["music"], some []] ∧
    (ofRegistry g).registration "again" .empty = (g, .ok 3) := by
  intro staff blank rest calls g
  have hrules : g.rules = [rest, staff, blank] := by decide +kernel
  have hsize : g.size = 3 := congrArg List.length hrules
  refine ⟨hrules, ?_, ?_⟩
  · rw [ofRegistry, hrules]
    decide
  · rw [← hsize]
    exact registration_of_run calls "again"

end Catalog
end Partitura
