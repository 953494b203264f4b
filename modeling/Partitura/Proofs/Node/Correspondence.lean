import Partitura.Proofs.Node.Built
/-!
# Proofs.Node.Correspondence — every argument has one slot, and every filled slot one argument

The filled slots, each under its name, are a rearrangement of the values given: those by name under their own names, and
those by position under names found for them.  Every pass of binding keeps this (`bindAll_filled`, `fill_filled`,
`bindPositional_filled`), and the checks let the values into the node as they are.  It holds for every rule, also for
one that is not well-formed.
-/
namespace Partitura

/-- All values that are given. -/
def Arguments.values (args : Arguments) : List Argument := args.positional ++ args.named.map Prod.snd

/-- The sequences among them, one that is named as the content included. -/
def Arguments.sequences (args : Arguments) : List (List Element) := args.values.filterMap Argument.items?

/-- The slots that a rule has besides its parameters, as far as they are filled. -/
def implicitSlots (position : Option Argument) (content : Option (List Element)) : List (String × Argument) :=
  position.toList.map (Rule.positionSlot, ·) ++ content.toList.map fun items => (Rule.contentSlot, .sequence items)

open scoped List

namespace Slots

variable {r : Rule} {s s' : Slots}

/-- The filled ones among the places of some parameters. -/
def filledPlaces : List Parameter → List (Option Argument) → List (String × Argument)
  | p :: ps, some value :: places => (p.name, value) :: filledPlaces ps places
  | _ :: ps, none :: places => filledPlaces ps places
  | _, _ => []

/-- **The filled slots**, each under its name. -/
def filled (r : Rule) (s : Slots) : List (String × Argument) :=
  filledPlaces r.parameters s.parameters ++ implicitSlots s.position s.content

/-! ## The named values -/

theorem filledPlaces_set {p : Parameter} (value : Argument) : ∀ (ps : List Parameter)
    (places : List (Option Argument)) {i : Nat}, ps[i]? = some p → places[i]? = some none →
      (filledPlaces ps (places.set i (some value))).Perm ((p.name, value) :: filledPlaces ps places)
  | q :: ps, none :: places, 0, hp, _ => by
    cases hp
    exact .refl _
  | q :: ps, none :: places, i + 1, hp, hopen => filledPlaces_set value ps places hp hopen
  | q :: ps, some held :: places, i + 1, hp, hopen =>
    ((filledPlaces_set value ps places hp hopen).cons _).trans (.swap _ _ _)

theorem filledPlaces_vacant : ∀ ps : List Parameter, filledPlaces ps (ps.map fun _ => none) = []
  | [] => rfl
  | _ :: ps => filledPlaces_vacant ps

theorem filled_vacant (r : Rule) : filled r (vacant r) = [] := by
  rw [filled, vacant, filledPlaces_vacant]
  rfl

theorem filled_content {items : List Element} (hopen : s.content = none) :
    filled r { s with content := some items } = filled r s ++ [(Rule.contentSlot, .sequence items)] := by
  rw [filled, filled, implicitSlots, implicitSlots, hopen, ← List.append_assoc, ← List.append_assoc,
    Option.toList_none, List.map_nil, List.append_nil]
  rfl

/-- **A named value** is one more filled slot, under its own name. -/
theorem Placed.filled_perm {name : String} {value : Argument} (h : Placed r s name value s') :
    (filled r s').Perm ((name, value) :: filled r s) := by
  cases h with
  | parameter hi hopen =>
    obtain ⟨hlt, hname, -⟩ := List.findIdx?_eq_some_iff_getElem.1 hi
    have hset := filledPlaces_set value _ _ (List.getElem?_eq_getElem hlt) hopen
    rw [beq_iff_eq.1 hname] at hset
    exact hset.append_right _
  | position hother hname ha hopen =>
    rw [filled, filled, hopen, hname]
    exact List.perm_middle
  | content hother hname hc hvalue hopen =>
    rw [filled_content hopen, hname, hvalue]
    exact List.perm_append_singleton _ _

theorem bindAll_filled : ∀ {named : List (String × Argument)} {s s' : Slots},
    s.parameters.length = r.parameters.length → bindAll r s named = .ok s' →
      (filled r s').Perm (filled r s ++ named)
  | [], s, s', _, h => by
    cases h
    rw [List.append_nil]
  | (name, value) :: named, s, s', hlength, h => by
    obtain ⟨t, ht, hrest⟩ := bind_eq_ok_iff.1 h
    have hplaced := placed_of_bindNamed hlength ht
    have ih := bindAll_filled (hplaced.length.trans hlength) hrest
    exact ih.trans ((hplaced.filled_perm.append_right named).trans List.perm_middle.symm)

/-! ## The positional values -/

/-- **Filling** takes values from the front, in the order of the places. -/
theorem fill_filled : ∀ (ps : List Parameter) (places : List (Option Argument)) (values : List Argument),
    places.length = ps.length → ∃ given : List (String × Argument),
      values = given.map Prod.snd ++ (fill places values).2 ∧
      (filledPlaces ps (fill places values).1).Perm (filledPlaces ps places ++ given) ∧
      given.Sublist (filledPlaces ps (fill places values).1)
  | [], [], values, _ => ⟨[], rfl, .refl _, .refl _⟩
  | p :: ps, some held :: places, values, hlength => by
    obtain ⟨given, hvalues, hperm, hsub⟩ := fill_filled ps places values (Nat.succ.inj hlength)
    exact ⟨given, hvalues, hperm.cons _, hsub.cons _⟩
  | p :: ps, none :: places, [], hlength => ⟨[], rfl, by rw [List.append_nil]; rfl, List.nil_sublist _⟩
  | p :: ps, none :: places, value :: values, hlength => by
    obtain ⟨given, hvalues, hperm, hsub⟩ := fill_filled ps places values (Nat.succ.inj hlength)
    refine ⟨(p.name, value) :: given, ?_, (hperm.cons _).trans List.perm_middle.symm, hsub.cons_cons _⟩
    exact congrArg (value :: ·) hvalues

theorem fillPosition_filled (r : Rule) (held : Option Argument) (values : List Argument) :
    ∃ given : List (String × Argument), values = given.map Prod.snd ++ (fillPosition r held values).2 ∧
      (fillPosition r held values).1.toList.map (Rule.positionSlot, ·) =
        held.toList.map (Rule.positionSlot, ·) ++ given := by
  unfold fillPosition
  split
  · split
    · exact ⟨[(Rule.positionSlot, _)], rfl, rfl⟩
    · exact ⟨[], rfl, rfl⟩
  · exact ⟨[], rfl, by rw [List.append_nil]⟩

/-- The slots after the parameters and the position were filled. -/
def filling (r : Rule) (s : Slots) (values : List Argument) : Slots :=
  { s with
    parameters := (fill s.parameters values).1
    position := (fillPosition r s.position (fill s.parameters values).2).1 }

theorem filling_filled {values : List Argument} (hlength : s.parameters.length = r.parameters.length)
    (hrest : (fillPosition r s.position (fill s.parameters values).2).2 = []) : ∃ given : List (String × Argument),
      given.map Prod.snd = values ∧ (filled r (filling r s values)).Perm (filled r s ++ given) ∧
      given.Sublist (filled r (filling r s values)) := by
  obtain ⟨first, hvalues, hfirst, hfirstSub⟩ := fill_filled r.parameters s.parameters values hlength
  obtain ⟨second, hleft, hsecond⟩ := fillPosition_filled r s.position (fill s.parameters values).2
  have hfilled : filled r (filling r s values) = filledPlaces r.parameters (fill s.parameters values).1 ++
      (s.position.toList.map (Rule.positionSlot, ·) ++ second ++
        s.content.toList.map fun items => (Rule.contentSlot, .sequence items)) := by
    rw [filled, implicitSlots, ← hsecond]
    rfl
  refine ⟨first ++ second, ?_, ?_, ?_⟩
  · rw [hrest, List.append_nil] at hleft
    rw [List.map_append, ← hleft, ← hvalues]
  · rw [hfilled, filled, implicitSlots]
    generalize filledPlaces r.parameters s.parameters = places at hfirst ⊢
    generalize s.position.toList.map (Rule.positionSlot, ·) = position
    generalize s.content.toList.map (fun items => (Rule.contentSlot, Argument.sequence items)) = content
    calc
      _ ~ places ++ first ++ (position ++ second ++ content) := hfirst.append_right _
      _ = places ++ (first ++ (position ++ (second ++ content))) := by rw [List.append_assoc, List.append_assoc]
      _ ~ places ++ (first ++ (position ++ (content ++ second))) :=
        ((List.perm_append_comm.append_left position).append_left first).append_left places
      _ = places ++ (first ++ ((position ++ content) ++ second)) := by rw [List.append_assoc]
      _ ~ places ++ ((position ++ content) ++ (first ++ second)) :=
        (List.perm_append_comm_assoc first _ second).append_left places
      _ = places ++ (position ++ content) ++ (first ++ second) := by rw [← List.append_assoc]
  · rw [hfilled]
    refine hfirstSub.append ?_
    rw [List.append_assoc]
    exact (List.sublist_append_left second _).trans (List.sublist_append_right _ _)

/-- **The positional values**, if none is left over, are the other filled slots; those that are no sequence keep their
order. -/
theorem bindPositional_filled {values : List Argument} (hlength : s.parameters.length = r.parameters.length)
    (hrest : (bindPositional r s values).2 = []) : ∃ given : List (String × Argument),
      given.map Prod.snd = values ∧
      (filled r (bindPositional r s values).1).Perm (filled r s ++ given) ∧
      (given.filter fun entry => entry.2.items?.isNone).Sublist (filled r (bindPositional r s values).1) := by
  have hslots : (bindPositional r s values).1 = filling r (takeContent r s values).1 (takeContent r s values).2 := rfl
  rw [hslots]
  rcases takeContent_cases r s values with htake | ⟨before, items, after, rfl, hopen, hc, htake⟩
  · simp only [bindPositional, htake] at hrest
    obtain ⟨given, hvalues, hperm, hsub⟩ := filling_filled hlength hrest
    rw [htake]
    exact ⟨given, hvalues, hperm, List.filter_sublist.trans hsub⟩
  · simp only [bindPositional, htake] at hrest
    obtain ⟨given, hvalues, hperm, hsub⟩ := filling_filled (s := { s with content := some items }) hlength hrest
    rw [htake]
    -- The sequence comes back where it was taken out, under the name of the content.
    obtain ⟨front, back, rfl, rfl, rfl⟩ := List.map_eq_append_iff.1 hvalues
    refine ⟨front ++ (Rule.contentSlot, .sequence items) :: back, ?_, ?_, ?_⟩
    · rw [List.map_append, List.map_cons]
    · refine hperm.trans ?_
      rw [filled_content hopen, List.append_assoc, List.singleton_append]
      exact List.perm_middle.symm.append_left _
    · rw [List.filter_append, List.filter_cons_of_neg (by simp [Argument.items?]), ← List.filter_append]
      exact List.filter_sublist.trans hsub

theorem isContainer_of_bound {named : List (String × Argument)} (values : List Argument) (items : List Element)
    (hnamed : bindAll r (vacant r) named = .ok s) (hcontent : (bindPositional r s values).1.content = some items) :
    r.isContainer = true := by
  have hkept : s.content ≠ none → r.isContainer = true := by
    refine bindAll_induction (P := fun t => t.content ≠ none → r.isContainer = true) (length_vacant r) ?_
      (fun hsome => absurd rfl hsome) hnamed
    intro t u entry hentry hplaced ht hu
    rcases hplaced.content_eq with heq | ⟨hc, -⟩
    · exact ht (heq ▸ hu)
    · exact hc
  have hslots : (bindPositional r s values).1.content = (takeContent r s values).1.content := rfl
  rw [hslots] at hcontent
  rcases takeContent_cases r s values with htake | ⟨before, items, after, -, -, hc, -⟩
  · rw [htake] at hcontent
    refine hkept ?_
    rw [hcontent]
    exact Option.some_ne_none items
  · exact hc

end Slots

/-! ## The node -/

theorem filledPlaces_of_checkParameters {element : String} : ∀ (ps : List Parameter) (places : List (Option Argument))
    {vs : List (String × Value)}, checkParameters element ps places = .ok vs →
      Slots.filledPlaces ps places = vs.map fun entry => (entry.1, entry.2.argument)
  | [], _, _, h => by cases h; rfl
  | _ :: _, [], _, h => by cases h; rfl
  | _ :: ps, none :: places, _, h => filledPlaces_of_checkParameters ps places h
  | p :: ps, some value :: places, vs, h => by
    obtain ⟨v, hv, hrest⟩ := bind_eq_ok_iff.1 h
    obtain ⟨vs', hvs, heq⟩ := bind_eq_ok_iff.1 hrest
    cases heq
    have hargument := Value.argument_of_value? (Parameter.value?_of_take? (check_eq_ok_iff.1 hv))
    rw [Slots.filledPlaces, filledPlaces_of_checkParameters ps places hvs, List.map_cons, hargument]

namespace Node

/-- The filled slots of a node, each under its name: its parameters, what its position is read from, and its content. -/
def filled (n : Node) (position : Option Argument) (content : Option (List Element)) : List (String × Argument) :=
  n.parameters.map (fun entry => (entry.1, entry.2.argument)) ++ implicitSlots position content

/-- **Where all in a node came from.**  Its parameters are some of the rule, in their order; the position is read from
the argument for it, and the children are the sequence that was given.  The values given are the filled slots of the
node, one for one: each named value under its own name, and the positional ones under the names `given`, in the order of
the slots but for the sequence. -/
structure Accounts (n : Node) (args : Arguments) (position : Option Argument) (content : Option (List Element))
    (given : List (String × Argument)) : Prop where
  declared : (n.parameters.map Prod.fst).Sublist (n.rule.parameters.map (·.name))
  parsed : ∀ value, position = some value → value.position? = some n.position
  unset : position = none → n.position = .unset
  children : ∀ items, content = some items → n.rule.isContainer = true ∧ n.children = some items
  childless : content = none → n.children = n.rule.content.map fun _ => []
  positional : given.map Prod.snd = args.positional
  supplied : (n.filled position content).Perm (given ++ args.named)
  ordered : (given.filter fun entry => entry.2.items?.isNone).Sublist (n.filled position content)

theorem position_of_checkPosition {r : Rule} {held : Option Argument} {p : Position}
    (h : r.checkPosition held = .ok p) :
    (∀ value, held = some value → value.position? = some p) ∧ (held = none → p = .unset) := by
  unfold Rule.checkPosition at h
  split at h
  · cases h
    exact ⟨nofun, fun _ => rfl⟩
  · split at h
    · rename_i hread
      cases h
      exact ⟨fun value heq => Option.some.inj heq ▸ hread, nofun⟩
    · cases h

theorem accounts_of_ofArguments {r : Rule} {args : Arguments} {n : Node} (h : Node.ofArguments r args = .ok n) :
    n.rule = r ∧ ∃ position content given, n.Accounts args position content given := by
  obtain ⟨named, hnamed, hrest, -, rfl, hparameters, hchildren, hposition⟩ := ofArguments_ok h
  obtain ⟨given, hvalues, hperm, hsub⟩ := Slots.bindPositional_filled (Slots.length_of_bindAll hnamed) hrest
  have hnames := Slots.bindAll_filled (Slots.length_vacant n.rule) hnamed
  have hcontainer := fun items => Slots.isContainer_of_bound args.positional items hnamed
  generalize (named.bindPositional n.rule args.positional).1 = slots at *
  have hfilled : Slots.filled n.rule slots = n.filled slots.position slots.content := by
    rw [Slots.filled, filledPlaces_of_checkParameters _ _ hparameters]
    rfl
  rw [hfilled] at hperm hsub
  rw [Slots.filled_vacant, List.nil_append] at hnames
  obtain ⟨hdeclared, -, -⟩ := checkParameters_ok _ _ _ hparameters
  obtain ⟨hparsed, hunset⟩ := position_of_checkPosition hposition
  obtain ⟨hkept, -⟩ := resolveContent_ok hchildren
  refine ⟨rfl, slots.position, slots.content, given, ?_⟩
  exact {
    declared := hdeclared
    parsed := hparsed
    unset := hunset
    children := by
      intro items hitems
      have hc := hcontainer items hitems
      obtain ⟨allowed, hallowed⟩ := Option.isSome_iff_exists.1 hc
      rw [hkept, hallowed, hitems]
      exact ⟨hc, rfl⟩
    childless := fun hnone => by rw [hkept, hnone]; rfl
    positional := hvalues
    supplied := hperm.trans ((hnames.append_right given).trans List.perm_append_comm)
    ordered := hsub }

/-- The sequences given are the content: there is one, or there is none. -/
theorem Accounts.sequences_eq {n : Node} {args : Arguments} {position : Option Argument}
    {content : Option (List Element)} {given : List (String × Argument)}
    (h : n.Accounts args position content given) : args.sequences = content.toList := by
  have hvalues : args.values = (given ++ args.named).map Prod.snd := by
    rw [Arguments.values, List.map_append, h.positional]
  have hparameters : (n.parameters.map fun entry => (entry.1, entry.2.argument)).filterMap
      (Argument.items? ∘ Prod.snd) = [] := by
    rw [List.filterMap_eq_nil_iff]
    intro entry hentry
    obtain ⟨⟨name, v⟩, -, rfl⟩ := List.mem_map.1 hentry
    cases v <;> rfl
  have hposition : (position.toList.map (Rule.positionSlot, ·)).filterMap (Argument.items? ∘ Prod.snd) = [] := by
    cases position with
    | none => rfl
    | some value =>
      have hparsed := h.parsed value rfl
      cases value with
      | sequence items => cases hparsed
      | _ => rfl
  have hcontent : (content.toList.map fun items => (Rule.contentSlot, Argument.sequence items)).filterMap
      (Argument.items? ∘ Prod.snd) = content.toList := by
    cases content <;> rfl
  have hperm : args.sequences.Perm content.toList := by
    rw [Arguments.sequences, hvalues, List.filterMap_map]
    refine (h.supplied.symm.filterMap _).trans ?_
    rw [filled, implicitSlots, List.filterMap_append, List.filterMap_append, hparameters, hposition, hcontent]
    rfl
  cases content with
  | none => exact List.perm_nil.1 hperm
  | some items => exact List.perm_singleton.1 hperm

/-- **No argument is lost, doubled or misplaced**, whatever the rule: when a node is built, all in it is accounted for by
the arguments, and all of them by it.  So no node is built of a command that is given a sequence, or of a container that
is given more than one. -/
theorem arguments_correspond (r : Rule) (args : Arguments) :
    (∀ n, Node.ofArguments r args = .ok n →
      n.rule = r ∧ ∃ position content given, n.Accounts args position content given) ∧
    (r.isContainer = false → args.sequences ≠ [] → ∃ e, Node.ofArguments r args = .error e) ∧
    (r.isContainer = true → 1 < args.sequences.length → ∃ e, Node.ofArguments r args = .error e) := by
  refine ⟨fun n hn => accounts_of_ofArguments hn, fun hcommand hsome => ?_, fun _ hmany => ?_⟩
  · cases hn : Node.ofArguments r args with
    | error e => exact ⟨e, rfl⟩
    | ok n =>
      obtain ⟨rfl, position, content, given, h⟩ := accounts_of_ofArguments hn
      rw [h.sequences_eq] at hsome
      obtain ⟨items, hitems⟩ := Option.ne_none_iff_exists'.1 fun hnone : content = none => hsome (hnone ▸ rfl)
      rw [(h.children items hitems).1] at hcommand
      cases hcommand
  · cases hn : Node.ofArguments r args with
    | error e => exact ⟨e, rfl⟩
    | ok n =>
      obtain ⟨-, position, content, given, h⟩ := accounts_of_ofArguments hn
      rw [h.sequences_eq] at hmany
      cases content <;> simp at hmany

/-- A rule that is not well-formed, for two of its parameters share a name. -/
def doubledRule : Rule :=
  { Rule.container "doubled" "\\doubled" (.ofList [.markup, .attachment]) (.ofList [.markup]) with
    parameters := [⟨"part", .any, false⟩, ⟨"part", .any, true⟩] }

/-- The name goes to the first of the two, and the other gets a value by position. -/
def doubledArguments : Arguments where
  positional := [.element (.comment "x"), .sequence [.text "dolce"], .leaf (.string "up")]
  named := [("part", .leaf (.signedInt 3))]

theorem arguments_correspond_doubled :
    let n : Node := ⟨doubledRule, .up, [("part", .leaf (.signedInt 3)), ("part", .element (.comment "x"))],
      some [.text "dolce"]⟩
    Node.ofArguments doubledRule doubledArguments = .ok n ∧
    (∃ position content given, n.Accounts doubledArguments position content given) ∧
    (∃ e, Node.ofArguments doubledRule ⟨.sequence [] :: doubledArguments.positional, []⟩ = .error e) ∧
    ∃ e, Node.ofArguments (.command "f" "\\f" (.ofList [.attachment])) (.ofList [.sequence []]) = .error e := by
  intro n
  have hn : Node.ofArguments doubledRule doubledArguments = .ok n := rfl
  exact ⟨hn, ((arguments_correspond _ _).1 n hn).2, (arguments_correspond _ _).2.2 (by decide) (by decide),
    (arguments_correspond _ _).2.1 (by decide) (List.cons_ne_nil _ _)⟩

end Node
end Partitura
