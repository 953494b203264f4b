/-!
# Text — characters, literals and columns

The alphabets that names are made of, white space, the string literals of a score, and texts one below the other.
-/
namespace Partitura
namespace Text

/-! ## Letters and digits

Only the twenty-six letters and ten digits of ASCII count here. -/

def isLetter (c : Char) : Bool := ('a' ≤ c && c ≤ 'z') || ('A' ≤ c && c ≤ 'Z')

def isDigit (c : Char) : Bool := '0' ≤ c && c ≤ '9'

def isWordChar (c : Char) : Bool := isLetter c || isDigit c || c == '_'

/-! ## White space

The characters with the White_Space property.  Markup words with a blank in them are quoted, and procedure texts lose
the blanks around them. -/

/-- **White space**: the tab to the carriage return, the space, and the separators beyond ASCII. -/
def isBlank (c : Char) : Bool :=
  let n := c.toNat
  (0x09 ≤ n && n ≤ 0x0D) || n == 0x20 || n == 0x85 || n == 0xA0 || n == 0x1680 ||
    (0x2000 ≤ n && n ≤ 0x200A) || n == 0x2028 || n == 0x2029 || n == 0x202F || n == 0x205F || n == 0x3000

/-- The characters without the blanks before the first and after the last of the others. -/
def trim (cs : List Char) : List Char :=
  ((cs.dropWhile isBlank).reverse.dropWhile isBlank).reverse

theorem dropWhile_dropWhile {α : Type} (p : α → Bool) :
    ∀ xs : List α, (xs.dropWhile p).dropWhile p = xs.dropWhile p
  | [] => rfl
  | x :: xs => by
    by_cases h : p x = true
    · simpa [List.dropWhile_cons, h] using dropWhile_dropWhile p xs
    · simp [h]

/-- What begins a list whose first member is kept is kept, too. -/
theorem dropWhile_eq_self_of_append {α : Type} (p : α → Bool) {xs ys : List α}
    (h : (xs ++ ys).dropWhile p = xs ++ ys) : xs.dropWhile p = xs := by
  cases xs with
  | nil => rfl
  | cons x xs =>
    by_cases hx : p x = true
    · have hl := congrArg List.length h
      have hs := (List.dropWhile_sublist (p := p) (l := xs ++ ys)).length_le
      simp only [List.cons_append, List.dropWhile_cons, hx, if_true, List.length_cons] at hl
      omega
    · simp [hx]

theorem trim_trim (cs : List Char) : trim (trim cs) = trim cs := by
  have hsuffix := List.dropWhile_suffix (p := isBlank) (l := (cs.dropWhile isBlank).reverse)
  obtain ⟨front, hfront⟩ := hsuffix
  have happ : trim cs ++ front.reverse = cs.dropWhile isBlank := by
    have := congrArg List.reverse hfront
    simpa [trim] using this
  have hkept : (trim cs ++ front.reverse).dropWhile isBlank = trim cs ++ front.reverse := by
    rw [happ, dropWhile_dropWhile]
  have hhead : (trim cs).dropWhile isBlank = trim cs := dropWhile_eq_self_of_append isBlank hkept
  have hlast : (trim cs).reverse.dropWhile isBlank = (trim cs).reverse := by
    simp [trim, dropWhile_dropWhile]
  rw [trim, hhead, hlast, List.reverse_reverse]

/-! ## Literals

A literal stands between double quotes.  Inside it a quote, a backslash and a line feed are written with a backslash;
every other character stands for itself, so a literal never spans two lines at a line feed. -/

def quotedChar (c : Char) : List Char :=
  if c = '"' then ['\\', '"']
  else if c = '\\' then ['\\', '\\']
  else if c = '\n' then ['\\', 'n']
  else [c]

def quotedChars (cs : List Char) : List Char :=
  '"' :: cs.flatMap quotedChar ++ ['"']

/-- **The string literal of a text.** -/
def quoted (text : String) : String :=
  String.ofList (quotedChars text.toList)

@[simp] theorem toList_quoted (text : String) : (quoted text).toList = quotedChars text.toList := by
  simp [quoted]

/-! ## Columns

A column is as wide as the longest of its texts in UTF-8 bytes; a text is filled up with spaces counted in characters.
The two measures agree on ASCII, which is all that well-formed names and tags hold. -/

/-- The text filled up to a width. -/
def padRight (width : Nat) (text : String) : String :=
  text ++ String.ofList (List.replicate (width - text.length) ' ')

/-- The width of the widest text, and at least `least`. -/
def widest (least : Nat) (texts : List String) : Nat :=
  texts.foldl (fun width text => max width text.utf8ByteSize) least

end Text
end Partitura
