import Partitura.Command
import Partitura.Json.Writer
import Partitura.Proofs.Catalog.Order
/-!
# Proofs.Command.Checking — checking catalogs is building with them

The command that checks catalog files loads and registers them in a loop of its own, behind the registry that its
options ask for.  That loop and the one that builds a registry agree step by step, whatever the encoding of catalogs:
the first has the registry of the second, and has counted the definitions by which it grew (`stepsAgree`).  So the
command answers exactly where the registry of all these sources can be built, and otherwise complains about the source
where building stops, and of the same fault.
-/
namespace Partitura

theorem Registry.size_of_register {g g' : Registry} {r : Rule} (h : g.register r = .ok g') : g'.size = g.size + 1 := by
  obtain ⟨⟨⟩, -, hentered⟩ := bind_eq_ok_iff.1 h
  split at hentered
  · cases hentered
  · cases hentered
    exact List.length_append

namespace Catalog

/-- A catalog that is accepted adds as many rules as it has definitions. -/
theorem size_of_register {c : Catalog} {origin : String} {g g' : Registry} (h : c.register origin g = .ok g') :
    g'.size = g.size + c.elements.length := by
  have hgrows : ∀ (ds : List Definition) {g : Registry},
      ds.foldlM (fun g d => d.toRule >>= g.register) g = .ok g' → g'.size = g.size + ds.length := by
    intro ds
    induction ds with
    | nil =>
      intro g h
      cases h
      rfl
    | cons d ds ih =>
      intro g h
      rw [List.foldlM_cons] at h
      obtain ⟨reached, hd, hrest⟩ := bind_eq_ok_iff.1 h
      obtain ⟨r, -, hr⟩ := bind_eq_ok_iff.1 hd
      have hsize := Registry.size_of_register hr
      rw [ih hrest, List.length_cons]
      omega
  exact hgrows c.elements (register_eq_ok_iff.1 h)

theorem origin_of_register {c : Catalog} {origin origin' : String} {g : Registry} {fault : RuleError}
    (h : c.register origin g = .error (.invalidDefinition origin' fault)) : origin' = origin := by
  simp only [register, registration] at h
  split at h
  · cases h
  · rename_i hregistration
    split at hregistration
    · cases hregistration
    · cases hregistration
      cases h
      rfl

/-- What a registry refuses, it refuses when the catalog has been loaded. -/
theorem checked_ne_refused (c : Catalog) (origin : String) (fault : RuleError) :
    c.checked ≠ .error (.invalidDefinition origin fault) := by
  unfold checked
  split <;> simp

theorem load_ne_refused (y : Data.Encoding) (content : Except FileError String) (origin : String) (fault : RuleError) :
    load y content ≠ .error (.invalidDefinition origin fault) := by
  have htree : ∀ tree, ofTree tree ≠ .error (.invalidDefinition origin fault) := by
    intro tree
    unfold ofTree
    split
    · exact checked_ne_refused _ origin fault
    · simp
  unfold load
  split
  · exact htree _
  all_goals simp

end Catalog

section
variable (y : Data.Encoding) (read : ReadFile)

theorem Source.load_ne_refused (origin : String) (fault : RuleError) : ∀ s : Source,
    s.load y read ≠ .error (.invalidDefinition origin fault)
  | .standard => Catalog.checked_ne_refused .standard origin fault
  | .file path => Catalog.load_ne_refused y (read path) origin fault

/-- **Where building stops**: at the source of this number. -/
def Sources.StopsAt (s : Sources) (i : Nat) (e : CatalogError) : Prop :=
  Partitura.StopsAt (fun g source => Source.registerInto y read source g) .empty s.toList i e

theorem Sources.build_eq_foldlM (s : Sources) :
    s.build y read = s.toList.foldlM (fun g source => source.registerInto y read g) .empty :=
  Source.registerAll_eq_foldlM y read s.toList .empty

/-- Sources with more files behind them. -/
def Sources.followedBy (s : Sources) (paths : List String) : Sources := ⟨s.withStandard, s.files ++ paths⟩

theorem Sources.toList_followedBy (s : Sources) (paths : List String) :
    (s.followedBy paths).toList = s.toList ++ paths.map .file := by
  rw [toList, toList, followedBy, List.map_append, List.append_assoc]

theorem Sources.build_followedBy (s : Sources) (paths : List String) :
    (s.followedBy paths).build y read =
      s.build y read >>= paths.foldlM fun g path => (Source.file path).registerInto y read g := by
  rw [build_eq_foldlM, build_eq_foldlM, toList_followedBy, List.foldlM_append]
  exact bind_congr fun g => List.foldlM_map

variable {y read}

theorem Sources.stopsAt_followedBy {s : Sources} {paths : List String} {i : Nat} {e : CatalogError} :
    (s.followedBy paths).StopsAt y read i e ↔ s.StopsAt y read i e ∨
      ∃ g j, s.build y read = .ok g ∧ i = s.toList.length + j ∧
        Partitura.StopsAt (fun g path => (Source.file path).registerInto y read g) g paths j e := by
  rw [StopsAt, toList_followedBy, stopsAt_append_iff, StopsAt]
  simp only [stopsAt_map_iff, ← build_eq_foldlM]

end

namespace Command

@[simp] theorem failing_ok {ε α : Type} (wrap : ε → CommandError) (a : α) : failing wrap (.ok a) = .ok a := rfl

@[simp] theorem failing_error {ε α : Type} (wrap : ε → CommandError) (e : ε) :
    failing (α := α) wrap (.error e) = .error (wrap e) := rfl

/-- **The report of a check** of so many files that define so many elements, with so many registered then: a sentence
that says the numbers, or a record that has them in its fields. -/
def Encodings.reportText (x : Encodings) (files elements total : Nat) (format : Format) : String :=
  let record : Data := .record [("files", .count files), ("elements", .count elements), ("total", .count total)]
  match format with
  | .table =>
    "Checked " ++ files.repr ++ " catalog file(s) defining " ++ elements.repr ++ " element(s); " ++ total.repr ++
      " element(s) registered in total." ++ "\n"
  | .json => x.json record ++ "\n"
  | .yaml => x.yaml.write record ++ "\n"

/-- What is wrong with the catalog that a command complains about. -/
def CommandError.cause? : CommandError → Option CatalogError
  | .catalog e | .input _ e => some e
  | _ => none

/-- **A complaint about a source**: what is wrong with it is said, a refused definition together with the source, and if
a file is named it is the source. -/
structure CommandError.Reports (reported : CommandError) (source : Source) (e : CatalogError) : Prop where
  cause : reported.cause? = some e
  refused : ∀ origin fault, e = .invalidDefinition origin fault → origin = source.origin ∧ reported = .catalog e
  named : ∀ path e', reported = .input path e' → source = .file path

/-- Checks one file: the registry then, and the number of definitions up to here. -/
def checkStep (y : Data.Encoding) (read : ReadFile) (reached : Registry × Nat) (path : String) :
    Except CommandError (Registry × Nat) := do
  let c ← failing (.input path) (Catalog.load y (read path))
  let g ← failing .catalog (c.register path reached.1)
  return (g, reached.2 + c.elements.length)

/-- **Where checking stops**: at one of the sources of the registry, or behind them at a file that is to be checked. -/
inductive CheckStopsAt (y : Data.Encoding) (read : ReadFile) (s : Sources) (paths : List String) :
    Nat → CommandError → Prop
  | building {i : Nat} {e : CatalogError} (h : s.StopsAt y read i e) : CheckStopsAt y read s paths i (.catalog e)
  | checking {g : Registry} {i : Nat} {reported : CommandError} (hbuilt : s.build y read = .ok g)
    (h : StopsAt (checkStep y read) (g, 0) paths i reported) :
    CheckStopsAt y read s paths (s.toList.length + i) reported

/-- The registry that is reached by checking, and the count of definitions, beside the one that is built. -/
def Counted (start built : Registry) (reached : Registry × Nat) : Prop :=
  reached.1 = built ∧ start.size + reached.2 = built.size

theorem checkEach_eq_foldlM (y : Data.Encoding) (read : ReadFile) : ∀ (paths : List String) (g : Registry) (n : Nat),
    checkEach y read g n paths = paths.foldlM (checkStep y read) (g, n)
  | [], _, _ => rfl
  | path :: paths, g, n => by
    rw [checkEach, List.foldlM_cons, checkStep, bind_assoc]
    refine bind_congr fun c => ?_
    rw [bind_assoc]
    exact bind_congr fun reached => checkEach_eq_foldlM y read paths reached _

/-- **One step of building is one step of checking.** -/
theorem stepsAgree (y : Data.Encoding) (read : ReadFile) (start : Registry) :
    StepsAgree (fun g path => (Source.file path).registerInto y read g) (checkStep y read) (Counted start)
      (fun path e reported => reported.Reports (.file path) e) where
  answers := by
    rintro _ ⟨g, n⟩ path g' ⟨rfl, hcount⟩ hok
    obtain ⟨c, hload, hregister⟩ := bind_eq_ok_iff.1 hok
    have hloaded : Catalog.load y (read path) = .ok c := hload
    have hregistered : c.register path g = .ok g' := hregister
    refine ⟨(g', n + c.elements.length), ?_, rfl, ?_⟩
    · simp [checkStep, hloaded, hregistered]
    · have hsize := Catalog.size_of_register hregistered
      dsimp only at hcount ⊢
      omega
  fails := by
    rintro _ ⟨g, n⟩ path e ⟨rfl, -⟩ hfails
    -- A file that cannot be loaded is complained about by its path, a refused definition by the origin.
    cases hload : Catalog.load y (read path) with
    | error e' =>
      have hsame : (Source.file path).registerInto y read g = .error e' := by
        rw [Source.registerInto, Source.load, hload, error_bind]
      cases hsame.symm.trans hfails
      refine ⟨.input path e, by simp [checkStep, hload], rfl, fun origin fault he => ?_, fun path' e' hinput => ?_⟩
      · exact absurd (he ▸ hload) (Catalog.load_ne_refused y _ origin fault)
      · cases hinput
        rfl
    | ok c =>
      have hregister : c.register path g = .error e := by
        rw [Source.registerInto, Source.load, hload, ok_bind] at hfails
        exact hfails
      refine ⟨.catalog e, by simp [checkStep, hload, hregister], rfl, fun origin fault he => ⟨?_, rfl⟩,
        fun path' e' hinput => ?_⟩
      · exact Catalog.origin_of_register (he ▸ hregister)
      · cases hinput

/-- A complaint while the registry is built is about the source that cannot be registered. -/
theorem reports_of_registerInto {y : Data.Encoding} {read : ReadFile} {source : Source} {g : Registry}
    {e : CatalogError} (h : source.registerInto y read g = .error e) : (CommandError.catalog e).Reports source e := by
  refine ⟨rfl, fun origin fault he => ⟨?_, rfl⟩, nofun⟩
  subst he
  rw [Source.registerInto] at h
  cases hload : source.load y read with
  | error e' =>
    rw [hload, error_bind] at h
    cases h
    exact absurd hload (Source.load_ne_refused y read origin fault source)
  | ok c =>
    rw [hload, ok_bind] at h
    exact Catalog.origin_of_register h

theorem check_eq (x : Encodings) (read : ReadFile) (g : Registry) (format : Format) (paths : List String) :
    check x read g format paths =
      (fun r => .print (x.reportText r.files r.elements r.total format)) <$> report x.yaml read g paths := by
  rw [check]
  cases report x.yaml read g paths with
  | error e => rfl
  | ok r => cases format <;> rfl

theorem answer_check (x : Encodings) (read : ReadFile) (sources : Sources) (format : Format) (paths : List String) :
    Options.answer x ⟨sources, format, .check paths⟩ read = (do
      let start ← failing .catalog (sources.build x.yaml read)
      let reached ← paths.foldlM (checkStep x.yaml read) (start, 0)
      return .print (x.reportText paths.length reached.2 reached.1.size format)) := by
  rw [Options.answer]
  refine bind_congr fun start => ?_
  dsimp only
  rw [check_eq, report, checkEach_eq_foldlM]
  cases paths.foldlM (checkStep x.yaml read) (start, 0) <;> rfl

variable {y : Data.Encoding} {read : ReadFile} {s : Sources} {paths : List String}

/-- **Where building with the files stops**, checking stops, with a complaint about that source. -/
theorem checkStopsAt_of_stopsAt {i : Nat} {e : CatalogError} (h : (s.followedBy paths).StopsAt y read i e) :
    ∃ source reported, (s.followedBy paths).toList[i]? = some source ∧ CheckStopsAt y read s paths i reported ∧
      reported.Reports source e := by
  rw [Sources.toList_followedBy]
  rcases Sources.stopsAt_followedBy.1 h with hbuilding | ⟨start, j, hbuilt, rfl, hchecking⟩
  · obtain ⟨source, g, hsource, -, hfails⟩ := id hbuilding
    have hi : i < s.toList.length := hbuilding.lt_length
    refine ⟨source, .catalog e, ?_, .building hbuilding, reports_of_registerInto hfails⟩
    rw [List.getElem?_append_left hi, hsource]
  · obtain ⟨path, reported, hpath, hstops, hreports⟩ :=
      (stepsAgree y read start).stopsAt (show Counted start start (start, 0) from ⟨rfl, rfl⟩) hchecking
    refine ⟨.file path, reported, ?_, .checking hbuilt hstops, hreports⟩
    rw [List.getElem?_append_right (Nat.le_add_right _ j), Nat.add_sub_cancel_left, List.getElem?_map, hpath,
      Option.map_some]

theorem CheckStopsAt.answer {x : Encodings} {i : Nat} {reported : CommandError}
    (h : CheckStopsAt x.yaml read s paths i reported) (format : Format) :
    Options.answer x ⟨s, format, .check paths⟩ read = .error reported := by
  rw [answer_check]
  cases h with
  | building hstops =>
    have hfails : s.build x.yaml read = .error _ :=
      (s.build_eq_foldlM x.yaml read).trans (foldlM_eq_error_iff.2 ⟨i, hstops⟩)
    rw [hfails, failing_error, error_bind]
  | checking hbuilt hstops =>
    rw [hbuilt, failing_ok, ok_bind, foldlM_eq_error_iff.2 ⟨_, hstops⟩, error_bind]

theorem CheckStopsAt.unique {i j : Nat} {reported reported' : CommandError} (h : CheckStopsAt y read s paths i reported)
    (h' : CheckStopsAt y read s paths j reported') : i = j := by
  have hexclusive : ∀ {i e g}, s.StopsAt y read i e → s.build y read ≠ .ok g := fun hstops hbuilt => by
    rw [s.build_eq_foldlM y read, foldlM_eq_error_iff.2 ⟨_, hstops⟩] at hbuilt
    cases hbuilt
  cases h with
  | building hstops =>
    cases h' with
    | building hstops' => exact (Partitura.StopsAt.unique hstops hstops').1
    | checking hbuilt' => exact absurd hbuilt' (hexclusive hstops)
  | checking hbuilt hstops =>
    cases h' with
    | building hstops' => exact absurd hbuilt (hexclusive hstops')
    | checking hbuilt' hstops' =>
      cases hbuilt.symm.trans hbuilt'
      rw [(Partitura.StopsAt.unique hstops hstops').1]

/-- **If the registry with the files can be built**, the command reports on it. -/
theorem answer_check_of_build {x : Encodings} {g : Registry} (hbuild : (s.followedBy paths).build x.yaml read = .ok g)
    (format : Format) :
    ∃ start, s.build x.yaml read = .ok start ∧ start.size ≤ g.size ∧
      Options.answer x ⟨s, format, .check paths⟩ read =
        .ok (.print (x.reportText paths.length (g.size - start.size) g.size format)) := by
  rw [Sources.build_followedBy] at hbuild
  obtain ⟨start, hstart, hpaths⟩ := bind_eq_ok_iff.1 hbuild
  obtain ⟨⟨reached, n⟩, hchecked, hreached, hcount⟩ :=
    (stepsAgree x.yaml read start).foldlM_ok (show Counted start start (start, 0) from ⟨rfl, rfl⟩) hpaths
  dsimp only at hreached hcount
  subst hreached
  refine ⟨start, hstart, by omega, ?_⟩
  have hn : reached.size - start.size = n := by omega
  rw [answer_check, hstart, failing_ok, ok_bind, hchecked, hn]
  rfl

/-- **Checking catalogs agrees with building the registry with them.**  Whatever the options and the encodings are, and
whatever is in the files: the command answers exactly if the registry of its sources with the files behind them can be
built.  Then it reports the number of files, by how many rules that registry is larger than the registry without the
files, and the number of its rules.  If both fail, they stop at the same source, and the command complains about that
source and its fault; a refused definition is reported with the same origin and error. -/
theorem check_agrees_with_building (x : Encodings) (read : ReadFile) (sources : Sources) (format : Format)
    (paths : List String) :
    let together := sources.followedBy paths
    let answer := Options.answer x ⟨sources, format, .check paths⟩ read
    ((∃ a, answer = .ok a) ↔ ∃ g, together.build x.yaml read = .ok g) ∧
    (∀ g, together.build x.yaml read = .ok g →
      ∃ start, sources.build x.yaml read = .ok start ∧ start.size ≤ g.size ∧
        answer = .ok (.print (x.reportText paths.length (g.size - start.size) g.size format))) ∧
    ∀ e reported, together.build x.yaml read = .error e → answer = .error reported →
      ∃ i source, together.toList[i]? = some source ∧ (∀ j, together.StopsAt x.yaml read j e ↔ j = i) ∧
        (∀ j, CheckStopsAt x.yaml read sources paths j reported ↔ j = i) ∧ reported.Reports source e := by
  intro together answer
  cases hbuild : together.build x.yaml read with
  | ok g =>
    obtain ⟨start, hstart, hsize, hanswer⟩ := answer_check_of_build hbuild format
    refine ⟨⟨fun _ => ⟨g, rfl⟩, fun _ => ⟨_, hanswer⟩⟩, fun g' hg' => ?_, fun e reported hfails _ => ?_⟩
    · cases hg'
      exact ⟨start, hstart, hsize, hanswer⟩
    · cases hfails
  | error e =>
    obtain ⟨i, hstops⟩ := foldlM_eq_error_iff.1 ((together.build_eq_foldlM x.yaml read).symm.trans hbuild)
    obtain ⟨source, reported, hsource, hchecking, hreports⟩ := checkStopsAt_of_stopsAt hstops
    have hanswer : answer = .error reported := hchecking.answer format
    refine ⟨⟨fun ⟨a, ha⟩ => ?_, fun ⟨g, hg⟩ => ?_⟩, fun g hg => ?_, fun e' reported' hfails hreported => ?_⟩
    · cases hanswer.symm.trans ha
    · cases hg
    · cases hg
    · cases hfails
      cases hanswer.symm.trans hreported
      refine ⟨i, source, hsource, fun j => ⟨fun h => ?_, ?_⟩, fun j => ⟨fun h => ?_, ?_⟩, hreports⟩
      · exact (Partitura.StopsAt.unique h hstops).1
      · rintro rfl
        exact hstops
      · exact h.unique hchecking
      · rintro rfl
        exact hchecking

/-- A YAML file behind another one, reported in every format, and a file that is checked although the registry has
it. -/
theorem check_agrees_with_building_dynamics :
    let x : Encodings := ⟨Yaml.encoding, Json.write⟩
    let read : ReadFile := fun path =>
      .ok ("\x7bversion: 1, elements: [\x7bname: " ++ path ++ ", tag: dynamic, categories: []\x7d]\x7d")
    let sources : Sources := ⟨false, ["f"]⟩
    let twice : CatalogError := .invalidDefinition "f" (.duplicateElement "f")
    let report := fun format => Options.answer x ⟨sources, format, .check ["p"]⟩ read
    (∃ g, (sources.followedBy ["p"]).build x.yaml read = .ok g ∧ g.names = ["f", "p"] ∧
      report .table = .ok (.print
        "Checked 1 catalog file(s) defining 1 element(s); 2 element(s) registered in total.\n") ∧
      report .json = .ok (.print "\x7b\n  \"files\": 1,\n  \"elements\": 1,\n  \"total\": 2\n\x7d\n") ∧
      report .yaml = .ok (.print "files: 1\nelements: 1\ntotal: 2\n\n")) ∧
    (sources.followedBy ["p", "f"]).build x.yaml read = .error twice ∧
    Options.answer x ⟨sources, .table, .check ["p", "f"]⟩ read = .error (.catalog twice) ∧
    ∃ i source, (sources.followedBy ["p", "f"]).toList[i]? = some source ∧
      (sources.followedBy ["p", "f"]).StopsAt x.yaml read i twice ∧
      CheckStopsAt x.yaml read sources ["p", "f"] i (.catalog twice) ∧
      (CommandError.catalog twice).Reports source twice := by
  intro x read sources twice report
  obtain ⟨-, -, hstop⟩ := check_agrees_with_building x read sources .table ["p", "f"]
  obtain ⟨g, hg, hnames⟩ := map_eq_ok_iff.1 (show Registry.names <$> (sources.followedBy ["p"]).build x.yaml read =
    .ok ["f", "p"] by decide +kernel)
  obtain ⟨start, hstart, hnames'⟩ := map_eq_ok_iff.1 (show Registry.names <$> sources.build x.yaml read = .ok ["f"] by
    decide +kernel)
  have hfails : (sources.followedBy ["p", "f"]).build x.yaml read = .error twice :=
    map_eq_error_iff.1 (show Registry.names <$> (sources.followedBy ["p", "f"]).build x.yaml read = .error twice by
      decide +kernel)
  have hanswer : Options.answer x ⟨sources, .table, .check ["p", "f"]⟩ read = .error (.catalog twice) := by
    decide +kernel
  have hreport : ∀ format, report format = .ok (.print (x.reportText 1 1 2 format)) := by
    intro format
    obtain ⟨start', hstart', -, hok⟩ := (check_agrees_with_building x read sources format ["p"]).2.1 g hg
    cases hstart.symm.trans hstart'
    have hsize : g.size = 2 := by rw [← Registry.length_names, hnames]; rfl
    have hsize' : start.size = 1 := by rw [← Registry.length_names, hnames']; rfl
    rwa [hsize, hsize'] at hok
  obtain ⟨i, source, hsource, hbuilding, hchecking, hreports⟩ := hstop twice _ hfails hanswer
  refine ⟨⟨g, hg, hnames, (hreport .table).trans ?_, (hreport .json).trans ?_, (hreport .yaml).trans ?_⟩, hfails,
    hanswer, i, source, hsource, (hbuilding i).2 rfl, (hchecking i).2 rfl, hreports⟩
  all_goals decide +kernel

end Command
end Partitura
