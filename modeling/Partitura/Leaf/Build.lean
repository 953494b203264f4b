import Partitura.Leaf
/-!
# Leaf.Build — values from what a caller supplies

A value is checked once, when it is made.  Members are values already, so only the outermost demand is left to check.
-/
namespace Partitura
namespace Leaf

/-- An integer that may not be below zero. -/
def ofUnsigned (z : Int) : Except ScoreError Leaf :=
  if z < 0 then .error (.invalidArgument (.negative z.repr)) else .ok (unsignedInt z.toNat)

/-- A finite number, the two zeros being one. -/
def finite (x : Binary64) : Except ScoreError Binary64 :=
  if x.isFinite then .ok x.unsignedZero else .error (.invalidArgument (.notFinite x.text))

def ofFloat (x : Binary64) : Except ScoreError Leaf := signedFloat <$> finite x

/-- A finite number that may not be below zero. -/
def ofUnsignedFloat (x : Binary64) : Except ScoreError Leaf := do
  let x ← finite x
  if x.isNegative then .error (.invalidArgument (.negative x.text)) else .ok (unsignedFloat x)

def ofSymbol (name : String) : Except ScoreError Leaf :=
  if h : isSymbol name.toList = true then .ok (symbol ⟨name, h⟩) else .error (.invalidArgument (.notSymbol name))

/-- A direction by its token. -/
def ofDirection (token : String) : Except ScoreError Leaf := direction <$> Direction.ofToken token

/-- An axis by its token. -/
def ofAxis (token : String) : Except ScoreError Leaf := axis <$> Axis.ofToken token

/-- A color by its name. -/
def ofColor (name : String) : Except ScoreError Leaf := color <$> Color.ofName name

/-- A pair of exactly two members. -/
def ofPair : List Leaf → Except ScoreError Leaf
  | [first, second] => .ok (pair first second)
  | items => .error (.invalidArgument (.pairLength items.length))

/-- The entries of an association list, which have to be pairs. -/
def entries : List Leaf → Except ScoreError (List (Leaf × Leaf))
  | [] => .ok []
  | pair key value :: items => ((key, value) :: ·) <$> entries items
  | item :: _ => .error (.invalidArgument (.memberNotPair item.nested))

/-- An association list, whose members have to be pairs. -/
def ofEntries (items : List Leaf) : Except ScoreError Leaf := associationList <$> entries items

/-- A procedure: the blanks around its text are dropped, and its parentheses have to match. -/
def ofProcedure (text : String) : Except ScoreError Leaf :=
  let cs := Text.trim text.toList
  if hempty : cs = [] then .error (.invalidArgument .emptyProcedure)
  else if hclosed : balanced cs = true then
    .ok (procedure {
      expression := String.ofList cs
      trimmed := by simp [cs, Text.trim_trim]
      nonempty := by simpa using hempty
      closed := by simpa using hclosed })
  else .error (.invalidArgument (.unbalancedProcedure (String.ofList cs)))

end Leaf
end Partitura
