import Partitura.Proofs.Node.ListCalls
import Partitura.Proofs.Node.Raised
import Partitura.Rule.HelpPage
/-!
# Proofs.Rule.HelpPage — the help page tells the truth

The usage line of a help page has one word for each slot, and the word is the bare name exactly for the parameters whose
absence is an error.  The page lists an error if building an element raises it, and each error of building that it lists
is raised.  It lists the error of list operations exactly if every one of them raises it.
-/
namespace Partitura

/-- What a help page calls an error. -/
def ScoreError.heading : ScoreError → String
  | unknownElement _ => "UnknownElement"
  | missingArgument _ _ => "MissingArgument"
  | tooManyArguments _ _ => "TooManyArguments"
  | invalidArgument _ => "InvalidArgument"
  | invalidContent _ _ _ => "InvalidContent"
  | notAContainer _ => "NotAContainer"
  | indexOutOfRange _ _ _ => "IndexOutOfRange"
  | childNotFound _ => "ChildNotFound"
  | invalidPitch _ => "InvalidPitch"
  | invalidOctave _ => "InvalidOctave"
  | invalidDuration _ => "InvalidDuration"

namespace Rule

/-- The errors that the help page lists. -/
def listed (r : Rule) : List String := r.errorTexts.map Prod.fst

def usageLine (r : Rule) : String := "Usage: " ++ r.name ++ "(" ++ ", ".intercalate r.usage ++ ")"

def errorLines (r : Rule) : List String :=
  r.errorTexts.map fun (heading, text) => "  " ++ Text.padRight 16 heading ++ "  " ++ text

/-- **The help page, line by line**: a headline, the usage, the slots and the errors. -/
theorem helpPage_eq (r : Rule) : r.helpPage = String.join
    (([displayName r.name ++ " (`" ++ r.tag ++ "`) " ++ r.shape ++ ".", "", r.usageLine, ""] ++ r.slotLines ++
      ["", "Errors:"] ++ r.errorLines).map (· ++ "\n")) := by
  have hlines : ∀ (lines : List String) (line : String),
      "\n".intercalate (line :: lines) ++ "\n" = String.join ((line :: lines).map (· ++ "\n")) := by
    intro lines
    induction lines with
    | nil => intro line; simp
    | cons next lines ih =>
      intro line
      rw [String.intercalate_cons_cons, List.map_cons, String.join_cons, ← ih next, String.append_assoc,
        String.append_assoc]
  exact hlines _ _

theorem mem_listed {r : Rule} {heading : String} : heading ∈ r.listed ↔
    heading = "TooManyArguments" ∨ (heading = "MissingArgument" ∧ ∃ p ∈ r.parameters, p.optional = false) ∨
      heading = "InvalidArgument" ∨ (heading = "InvalidContent" ∧ r.isContainer = true) ∨
      (heading = "NotAContainer" ∧ r.isContainer = false) := by
  have hrequired : r.parameters.any (!·.optional) = true ↔ ∃ p ∈ r.parameters, p.optional = false := by
    simp
  rw [← hrequired, listed, errorTexts]
  cases r.parameters.any (!·.optional) <;> cases r.isContainer <;> simp

/-! ## The usage line -/

/-- **A word of the usage line says of a slot** that it may be left out, or else that this is an error. -/
structure Says (r : Rule) (word slot : String) : Prop where
  shown : word = slot ∨ word = "[" ++ slot ++ "]"
  required : word = slot → ∃ args : Arguments, (∀ e ∈ args.elements, e.Made) ∧
    Node.ofArguments r args = .error (.missingArgument r.name slot)
  optional : ∀ args, Node.ofArguments r args = .error (.missingArgument r.name slot) → word = slot

theorem bracketed_ne (slot : String) : "[" ++ slot ++ "]" ≠ slot := by
  intro heq
  have hlength := congrArg String.length heq
  simp only [String.length_append] at hlength
  have hbrackets : "[".length = 1 ∧ "]".length = 1 := by decide
  omega

section Slots

variable {r : Rule} (hs : r.slotNames.Nodup)
include hs

theorem required_of_missing {args : Arguments} {slot : String}
    (h : Node.ofArguments r args = .error (.missingArgument r.name slot)) :
    ∃ p ∈ r.parameters, p.optional = false ∧ p.name = slot := by
  have hraised := Binding.canRaise_of_fault? ((Binding.ofArguments_eq_error_iff hs).1 h)
  cases hraised with
  | @missing p hp hrequired => exact ⟨p, hp, hrequired, rfl⟩

/-- A slot in brackets is never missed, if it is no required parameter. -/
theorem says_bracketed {slot : String} (h : ∀ p ∈ r.parameters, p.optional = false → p.name ≠ slot) :
    r.Says ("[" ++ slot ++ "]") slot where
  shown := .inr rfl
  required heq := absurd heq (bracketed_ne slot)
  optional args herror := by
    obtain ⟨p, hp, hrequired, hname⟩ := required_of_missing hs herror
    exact absurd hname (h p hp hrequired)

theorem says_parameter {p : Parameter} (hp : p ∈ r.parameters) :
    r.Says (if p.optional then "[" ++ p.name ++ "]" else p.name) p.name := by
  cases hoptional : p.optional with
  | true =>
    refine says_bracketed hs fun q hq hrequired hname => ?_
    obtain rfl := List.inj_on_of_nodup_map (Slots.parameters_nodup hs) hq hp hname
    rw [hoptional] at hrequired
    cases hrequired
  | false => exact ⟨.inl rfl, fun _ => Binding.exists_missing hs hp hoptional, fun _ _ => rfl⟩

/-- **The usage line has a word for each slot**, in their order, and says the truth of each. -/
theorem usage_says : List.Forall₂ r.Says r.usage r.slotNames := by
  have hparameters : List.Forall₂ r.Says
      (r.parameters.map fun p => if p.optional then "[" ++ p.name ++ "]" else p.name) (r.parameters.map (·.name)) := by
    rw [List.forall₂_map_left_iff, List.forall₂_map_right_iff, List.forall₂_same]
    exact fun p hp => says_parameter hs hp
  have hposition : List.Forall₂ r.Says (if r.isAttachment then ["[" ++ positionSlot ++ "]"] else [])
      (if r.isAttachment then [positionSlot] else []) := by
    split
    · rename_i ha
      refine .cons (says_bracketed hs fun p hp _ hname => ?_) .nil
      exact Slots.isAttachment_of_slotNames hs ha (List.mem_map.2 ⟨p, hp, hname⟩)
    · exact .nil
  have hcontent : List.Forall₂ r.Says (if r.isContainer then ["[" ++ contentSlot ++ "]"] else [])
      (if r.isContainer then [contentSlot] else []) := by
    split
    · rename_i hc
      refine .cons (says_bracketed hs fun p hp _ hname => ?_) .nil
      exact Slots.isContainer_of_slotNames hs hc (List.mem_map.2 ⟨p, hp, hname⟩)
    · exact .nil
  exact List.rel_append (List.rel_append hparameters hposition) hcontent

/-! ## The errors -/

theorem listed_of_ofArguments {args : Arguments} {e : ScoreError} (h : Node.ofArguments r args = .error e) :
    e.heading ∈ r.listed := by
  rw [mem_listed]
  cases Binding.canRaise_of_fault? ((Binding.ofArguments_eq_error_iff hs).1 h) with
  | tooMany value => exact .inl rfl
  | missing hp hrequired => exact .inr (.inl ⟨rfl, _, hp, hrequired⟩)
  | argument fault => exact .inr (.inr (.inl rfl))
  | content hallowed actual => exact .inr (.inr (.inr (.inl ⟨rfl, isContainer_of_content hallowed⟩)))

/-- **Each error of building that is listed is raised**, if every required parameter takes some value. -/
theorem raised_of_listed (htakes : ∀ p ∈ r.parameters, p.optional = false → p.kind ≠ .node .empty) {heading : String}
    (hheading : heading ≠ "NotAContainer") (h : heading ∈ r.listed) :
    ∃ args e, (∀ e ∈ args.elements, e.Made) ∧ Node.ofArguments r args = .error e ∧ e.heading = heading := by
  rcases mem_listed.1 h with rfl | ⟨rfl, p, hp, hrequired⟩ | rfl | ⟨rfl, hc⟩ | ⟨rfl, -⟩
  · obtain ⟨args, value, hmade, herror⟩ := Binding.exists_tooMany hs
    exact ⟨args, _, hmade, herror, rfl⟩
  · obtain ⟨args, hmade, herror⟩ := Binding.exists_missing hs hp hrequired
    exact ⟨args, _, hmade, herror, rfl⟩
  · obtain ⟨args, fault, hmade, herror⟩ := Binding.exists_invalidArgument hs
    exact ⟨args, _, hmade, herror, rfl⟩
  · obtain ⟨allowed, hallowed⟩ := Option.isSome_iff_exists.1 hc
    obtain ⟨args, hmade, herror⟩ := Binding.exists_invalidContent hs hallowed htakes
    exact ⟨args, _, hmade, herror, rfl⟩
  · exact absurd rfl hheading

end Slots

/-- **The help page tells the truth about an element** whose slots have names of their own.  The page has a usage line
with one word for each slot in binding order, bare exactly if leaving the slot out can be the error of building.  Under
the heading of errors it lists every kind of error that building raises; each of the four kinds that it lists is raised
by some arguments, unless a required parameter takes nothing.  If it lists the error of list operations, each of them
raises it on every node of the rule; otherwise none ever does. -/
theorem help_page_truthful {r : Rule} (hs : r.slotNames.Nodup) :
    r.helpPage = String.join
      (([displayName r.name ++ " (`" ++ r.tag ++ "`) " ++ r.shape ++ ".", "", r.usageLine, ""] ++ r.slotLines ++
        ["", "Errors:"] ++ r.errorLines).map (· ++ "\n")) ∧
    List.Forall₂ r.Says r.usage r.slotNames ∧
    (∀ args e, Node.ofArguments r args = .error e → e.heading ∈ r.listed) ∧
    ((∀ p ∈ r.parameters, p.optional = false → p.kind ≠ .node .empty) →
      ∀ heading ∈ ["TooManyArguments", "MissingArgument", "InvalidArgument", "InvalidContent"], heading ∈ r.listed →
        ∃ args e, (∀ e ∈ args.elements, e.Made) ∧ Node.ofArguments r args = .error e ∧ e.heading = heading) ∧
    ∀ n, Node.Obtained r n →
      ("NotAContainer" ∈ r.listed →
        (∀ c : Call, c.isOnChildren = true → c.result n = .error (.notAContainer r.name)) ∧
        ∀ e, n.count e = .error (.notAContainer r.name) ∧ n.indexOf e = .error (.notAContainer r.name)) ∧
      ("NotAContainer" ∉ r.listed →
        (∀ c : Call, HasChildren (c.result n)) ∧ ∀ e, HasChildren (n.count e) ∧ HasChildren (n.indexOf e)) := by
  refine ⟨helpPage_eq r, usage_says hs, fun args e => listed_of_ofArguments hs, fun htakes heading hheading => ?_,
    fun n hn => ?_⟩
  · refine raised_of_listed hs htakes fun heq => ?_
    rw [heq] at hheading
    exact absurd hheading (by decide)
  · have hlisted : "NotAContainer" ∈ r.listed ↔ r.isContainer = false := by
      simp [mem_listed]
    rw [hlisted, Bool.not_eq_false]
    exact ⟨hn.shaped.refused, hn.shaped.hasChildren⟩

/-- A command with a required and an optional parameter, and a node of it. -/
theorem help_page_truthful_tempo :
    let r : Rule := { command "tempo" "\\tempo" (.ofList [.attachment]) with
      parameters := [⟨"text", .leaf .string, false⟩, ⟨"beat", .any, true⟩] }
    r.slotNames.Nodup ∧ r.usage = ["text", "[beat]", "[position]"] ∧
    (∃ args, Node.ofArguments r args = .error (.missingArgument "tempo" "text")) ∧
    (∀ args, Node.ofArguments r args ≠ .error (.missingArgument "tempo" "beat")) ∧
    (∃ args e, Node.ofArguments r args = .error e ∧ e.heading = "TooManyArguments") ∧
    ∃ n, Node.ofArguments r (.ofList [.leaf (.string "Allegro")]) = .ok n ∧
      (Call.append (.text "vivace")).result n = .error (.notAContainer "tempo") := by
  intro r
  have hs : r.slotNames.Nodup := by decide
  obtain ⟨-, husage, -, hraised, hnodes⟩ := help_page_truthful hs
  have hwords : r.usage = ["text", "[beat]", "[position]"] := by decide
  have hslots : r.slotNames = ["text", "beat", "position"] := by decide
  rw [hwords, hslots, List.forall₂_cons, List.forall₂_cons] at husage
  obtain ⟨htext, hbeat, -⟩ := husage
  obtain ⟨args, -, hmissing⟩ := htext.required rfl
  obtain ⟨surplus, e, -, herror, hheading⟩ := hraised (by decide) "TooManyArguments" (by decide) (by decide)
  have hbuilt : Node.ofArguments r (.ofList [.leaf (.string "Allegro")]) =
      .ok ⟨r, .unset, [("text", .leaf (.string "Allegro"))], none⟩ := rfl
  have hrefused := ((hnodes _ (.built hbuilt)).1 (by decide)).1 (.append (.text "vivace")) rfl
  refine ⟨hs, hwords, ⟨args, hmissing⟩, fun args herror => ?_, ⟨surplus, e, herror, hheading⟩, _, hbuilt, hrefused⟩
  exact absurd (hbeat.optional args herror) (by decide)

end Rule
end Partitura
