import PathQuery.Text.Basic

/-!
# Phrases on a terminal

Short pieces of text that commands print around their results. A text that is too long for its
place is cut, at a blank if there is one in its second half, and ends in three points. Lengths are
counted in bytes, so a cut may fall inside a character.
-/

namespace PathQuery.Terminal

/-! ## Cutting -/

/-- What a cut text ends in. -/
def ellipsis : Text := "..."

/-- Where a byte occurs last in a list. -/
def lastIndex? (b : UInt8) (bytes : List UInt8) : Option Nat :=
  (bytes.reverse.idxOf? b).map fun i ↦ bytes.length - 1 - i

/-- A text of at most `limit` bytes. -/
def truncate (t : Text) (limit : Nat) : Text :=
  if t.bytes.length ≤ limit then t
  else if limit ≤ 3 then ⟨t.bytes.take limit⟩
  else
    let kept := t.bytes.take (limit - 3)
    match lastIndex? 0x20 kept with
    | some i => if i > limit / 2 then ⟨kept.take i⟩ ++ ellipsis else ⟨kept⟩ ++ ellipsis
    | none => ⟨kept⟩ ++ ellipsis

/-- A text of at most so many bytes; no text has a negative number of them. -/
def truncate? (t : Text) (limit : Int) : Option Text :=
  if limit < 0 then none else some (truncate t limit.toNat)

/-! ## Numbers -/

/-- The sum of some numbers. -/
def total (ns : List Nat) : Nat := ns.foldl (fun n m ↦ n + m) 0

/-- So many blanks. -/
def blanks (n : Nat) : String := String.ofList (List.replicate n ' ')

/-- A row's number, as wide as the last row's, and at least two digits wide. -/
def rowNumber (n last : Int) : String :=
  let width := max (toString last).length 2
  let digits := toString n
  blanks (width - digits.length) ++ digits

/-- A number of things in parentheses. -/
def count (n : Int) (singular plural : String) : String :=
  "(" ++ toString n ++ " " ++ (if n = 1 then singular else plural) ++ ")"

/-! ## Marks -/

/-- The sign of a warning. -/
def warningSign : String := "⚠"

/-- A line that reports a success. -/
def success (s : String) : String := "✓ " ++ s

/-- A line that warns. -/
def warning (s : String) : String := warningSign ++ " " ++ s

end PathQuery.Terminal
