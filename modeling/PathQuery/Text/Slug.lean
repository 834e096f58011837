import PathQuery.Text.Blank
import PathQuery.Text.Romanized

/-!
# Slugs

A slug is a name for a heading or a key that is made of lower-case letters, digits, dashes and
underscores. A few signs are spelled out first, the rest is romanized, and whatever is left over
becomes a dash; dashes never stand next to each other or at an end.
-/

namespace PathQuery

namespace Slug

/-- The words that signs are spelled with before anything else. -/
def substitute (c : Char) : List Char :=
  match c.toNat with
  | 0x26 => "and".toList
  | 0x40 => "at".toList
  | 0x22 | 0x27 | 0x2019 => []
  | 0x2012 | 0x2013 | 0x2014 | 0x2015 => ['-']
  | _ => [c]

/-- Whether a character may stand in a slug. -/
def admits (c : Char) : Bool := c.isAlphanum || c = '-' || c = '_'

/-- Writes a row of dashes as one. -/
def collapseDashes : List Char → List Char
  | '-' :: '-' :: cs => collapseDashes ('-' :: cs)
  | c :: cs => c :: collapseDashes cs
  | [] => []

/-- Whether a character is left out at the ends of a slug. -/
def isEdge (c : Char) : Bool := c = '-' || c = '_'

end Slug

/-- The slug of a text. -/
def slug (s : String) : String :=
  let spelled := (trimBlanks s).toList.flatMap Slug.substitute
  let letters := (spelled.flatMap fun c ↦ (romanize c).toList).map Char.toLower
  let dashed := letters.map fun c ↦ if Slug.admits c then c else '-'
  String.ofList (trimBoth Slug.isEdge (Slug.collapseDashes dashed))

end PathQuery
