import Partitura.Node.Resolution
/-!
# Proofs.Acceptance — what a parameter takes

A parameter takes literals and elements; whether it takes one of them is a question for its kind.  Its check answers
with the value it takes (`check_eq`).
-/
namespace Partitura

/-- The literal or element that an argument is. -/
def Argument.value? : Argument → Option Value
  | leaf v => some (.leaf v)
  | element e => some (.element e)
  | sequence _ | position _ => none

/-- The sequence that an argument is. -/
def Argument.items? : Argument → Option (List Element)
  | sequence items => some items
  | _ => none

/-- A value as the argument that it came from. -/
def Value.argument : Value → Argument
  | leaf v => .leaf v
  | element e => .element e

@[simp] theorem Value.value?_argument (v : Value) : v.argument.value? = some v := by
  cases v <;> rfl

theorem Value.argument_of_value? {value : Argument} {v : Value} (h : value.value? = some v) : v.argument = value := by
  cases value <;> cases h <;> rfl

/-- **Does a kind accept a value?**  Anything fits the first kind; a literal has to be of an accepted kind, an element
has to share a category. -/
def ParameterKind.accepts : ParameterKind → Value → Bool
  | any, _ => true
  | leaf kind, .leaf v => kind.accepts v.kind
  | node categories, .element e => categories.intersects e.categories
  | leaf _, .element _ | node _, .leaf _ => false

namespace Parameter

/-- The value that a parameter takes from an argument. -/
def take? (p : Parameter) (value : Argument) : Option Value := value.value?.filter p.kind.accepts

/-- The error of an argument that the parameter does not take. -/
def refusal (element : String) (p : Parameter) (value : Argument) : ScoreError :=
  .invalidArgument (.wrongKind p.name element p.kind value.describe)

/-- What is wrong with an argument, if the parameter does not take it. -/
def fault? (element : String) (p : Parameter) (value : Argument) : Option ScoreError :=
  if (p.take? value).isNone then some (p.refusal element value) else none

/-- **The check of a parameter** hands out what the parameter takes, or its refusal. -/
theorem check_eq (element : String) (p : Parameter) (value : Argument) :
    p.check element value = match p.take? value with
      | some v => .ok v
      | none => .error (p.refusal element value) := by
  obtain ⟨name, kind, optional⟩ := p
  cases kind with
  | any => cases value <;> rfl
  | leaf kind =>
    cases value with
    | leaf v =>
      by_cases h : kind.accepts v.kind <;>
        simp [check, take?, Argument.value?, Option.filter, ParameterKind.accepts, h, refusal]
    | _ => rfl
  | node categories =>
    cases value with
    | element e =>
      by_cases h : categories.intersects e.categories <;>
        simp [check, take?, Argument.value?, Option.filter, ParameterKind.accepts, h, refusal]
    | _ => rfl

theorem accepts_of_take? {p : Parameter} {value : Argument} {v : Value} (h : p.take? value = some v) :
    p.kind.accepts v = true :=
  (Option.filter_eq_some_iff.1 h).2

theorem value?_of_take? {p : Parameter} {value : Argument} {v : Value} (h : p.take? value = some v) :
    value.value? = some v :=
  (Option.filter_eq_some_iff.1 h).1

end Parameter
end Partitura
