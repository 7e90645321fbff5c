/-!
# Parts of a text

Whether one text occurs in another, what stands before its first occurrence, and the part behind
the last of a character.
-/

namespace SliceSelection.Text

/-- What stands before the first occurrence of a text, if it occurs. -/
def before? (needle : List Char) : List Char → Option (List Char)
  | [] => if needle.isEmpty then some [] else none
  | c :: cs =>
    if needle.isPrefixOf (c :: cs) then some [] else (before? needle cs).map (c :: ·)

/-- Whether a text occurs in another. -/
def occurs (needle : String) (s : String) : Bool := (before? needle.toList s.toList).isSome

/-- What stands behind the last occurrence of a character, or the whole text. -/
def afterLast (c : Char) (cs : List Char) : List Char := (cs.reverse.takeWhile (· ≠ c)).reverse

/-- A text without the characters of one kind at its end. -/
def trimEnd (c : Char) (s : String) : String :=
  String.ofList (s.toList.reverse.dropWhile (· = c)).reverse

/-- A text in which the letters A to Z are replaced by their small forms. -/
def asciiLowercase (s : String) : String := String.ofList (s.toList.map Char.toLower)

end SliceSelection.Text
