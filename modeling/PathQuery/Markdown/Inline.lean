import PathQuery.Markdown.Line
import PathQuery.Text.Blank
import PathQuery.Text.Punctuation

/-!
# Text inside blocks

The text of a heading or paragraph consists of pieces: plain text, code, links and the like. While
it is read, there are also opening brackets, of which it is not known yet whether they open a link,
and runs of signs, of which it is not known yet whether they emphasize anything. A run that may
close is paired with the closest one before it that may open, and what lies between becomes
emphasized. What is left of brackets and runs is plain text; it is joined to plain text right before
it, so that it is shown as one.
-/

namespace PathQuery.Markdown

/-- How a line ends behind a plain text. -/
inductive Ending where
  /-- It goes on. -/
  | none
  /-- It ends, which counts as a blank. -/
  | soft
  /-- It ends where the writer wanted it to. -/
  | hard
  deriving DecidableEq, Repr, Inhabited

/-- A piece of text. -/
inductive Inline where
  /-- Plain text, as it is written. -/
  | text (s : String) (ending : Ending)
  /-- Code. -/
  | code (s : String)
  /-- Emphasized text. -/
  | emphasis (strong : Bool) (body : List Inline)
  /-- Text that is struck through. -/
  | struck (body : List Inline)
  /-- A link, or an image. -/
  | link (image : Bool) (destination : String) (body : List Inline)
  /-- An address that is its own text, and what stands before it in its destination. -/
  | address (lead : String) (s : String)
  /-- A tag or the like. -/
  | html
  /-- A box to be ticked. -/
  | checkbox (ticked : Bool)
  deriving Inhabited

mutual

/-- Whether a piece is a link or holds one. -/
def Inline.holdsLink : Inline → Bool
  | .link image _ body => !image || anyHoldsLink body
  | .emphasis _ body | .struck body => anyHoldsLink body
  | .text .. | .code _ | .address .. | .html | .checkbox _ => false

/-- Whether one of some pieces is a link or holds one. -/
def anyHoldsLink : List Inline → Bool
  | [] => false
  | i :: is => i.holdsLink || anyHoldsLink is

end

mutual

/-- The characters of the texts in a piece. -/
def Inline.content : Inline → List Char
  | .text s .soft => s.toList ++ ['\n']
  | .text s _ | .code s => s.toList
  | .link _ _ body | .emphasis _ body | .struck body => contents body
  | .address .. | .html | .checkbox _ => []

/-- The characters of the texts in some pieces. -/
def contents : List Inline → List Char
  | [] => []
  | i :: is => i.content ++ contents is

end

/-! ## Runs -/

/-- A run of signs that may open or close emphasis. -/
structure Run where
  /-- The sign. -/
  sign : Char
  /-- How many of them are left. -/
  count : Nat
  /-- How many there were. -/
  total : Nat
  /-- Whether the run may open. -/
  opens : Bool
  /-- Whether the run may close. -/
  closes : Bool
  deriving Inhabited

namespace Run

/-- What is left of a run. -/
def text (r : Run) : String := String.ofList (List.replicate r.count r.sign)

/-- The run of a sign at the head of some characters, with the character before it. A run that
stands between blanks emphasizes nothing; one beside punctuation does only what the other side
allows; and underscores do not emphasize parts of words. -/
def ofChars (before sign : Char) (cs : List Char) : Run :=
  let count := runLength sign cs
  let after := ((cs.drop count).head?).getD ' '
  let blankBefore := isBlank before
  let blankAfter := isBlank after
  let signBefore := isPunctuationOrSymbol before
  let signAfter := isPunctuationOrSymbol after
  let left := !blankAfter && (!signAfter || blankBefore || signBefore)
  let right := !blankBefore && (!signBefore || blankAfter || signAfter)
  let isWordSign : Bool := sign = '_'
  { sign, count, total := count,
    opens := left && (!isWordSign || !right || signBefore)
    closes := right && (!isWordSign || !left || signAfter) }

/-- How many signs of a run that opens go with a run that closes: none if one of the two could do
both and their lengths do not fit. -/
def consumption (opener closer : Run) : Nat :=
  if (opener.closes || closer.opens) && (opener.total + closer.total) % 3 = 0 &&
      closer.total % 3 ≠ 0 then 0
  else if opener.count ≥ 2 && closer.count ≥ 2 then 2
  else 1

end Run

/-- A piece of which it may not be known yet what it is. -/
inductive Piece where
  /-- A finished piece. -/
  | done (i : Inline)
  /-- A run of signs. -/
  | run (r : Run)
  /-- An opening bracket, of an image or a link, and the place behind it. -/
  | bracket (image : Bool) (start : Passage)
  deriving Inhabited

namespace Piece

/-- The text of an opening bracket. -/
def bracketText (image : Bool) : String := if image then "![" else "["

/-- A finished piece; what is left of a run or a bracket is plain text. -/
def inline : Piece → Inline
  | done i => i
  | run r => .text r.text .none
  | bracket image _ => .text (bracketText image) .none

/-- Whether a piece is a link or holds one. -/
def holdsLink : Piece → Bool
  | done i => i.holdsLink
  | _ => false

end Piece

/-- Adds plain text to pieces, of which the last stands first. It is joined to plain text that the
line goes on behind. -/
def addText (pieces : List Piece) (s : String) : List Piece :=
  match pieces with
  | .done (.text t .none) :: rest => .done (.text (t ++ s) .none) :: rest
  | ps => .done (.text s .none) :: ps

/-! ## Pairs of runs -/

/-- What lies between two runs of a pair: the runs in it are plain text, each joined to the text
before it. -/
def pairBody (pieces : List Piece) : List Inline :=
  let joined := pieces.foldl (fun before p ↦ match p with
    | .run r => addText before r.text
    | p => p :: before) []
  joined.reverse.map Piece.inline

/-- What a pair of runs makes of what lies between them. -/
def pairInline (sign : Char) (consumed : Nat) (body : List Inline) : Inline :=
  if sign = '~' then .struck body else .emphasis (consumed > 1) body

/-- A run that may open, found for one that closes. -/
structure Pairing where
  /-- The pieces between the two. -/
  between : List Piece
  /-- The run that opens. -/
  opener : Run
  /-- The pieces before it, the last first. -/
  before : List Piece

/-- Looks for the run that opens what another closes, and tells whether there is one of the same
sign at all. The pieces before it stand the last first. -/
def findOpener (closer : Run) (between : List Piece) (seen : Bool) :
    List Piece → Option Pairing × Bool
  | [] => (none, seen)
  | .run r :: rest =>
    let fits : Bool := r.opens && r.sign = closer.sign
    if fits && r.consumption closer > 0 then (some ⟨between, r, rest⟩, true)
    else findOpener closer (.run r :: between) (seen || fits) rest
  | p :: rest => findOpener closer (p :: between) seen rest

/-- Pairs a run with the runs before it as long as it has signs left. One for which there is no
opener stays if it may open itself or if only the lengths did not fit. -/
def closeRun : Nat → List Piece → Run → List Piece
  | 0, before, r => .run r :: before
  | fuel + 1, before, r =>
    if r.count = 0 then before
    else if !r.closes then .run r :: before
    else match findOpener r [] false before with
      | (some found, _) =>
        let n := found.opener.consumption r
        let opener : Run := { found.opener with count := found.opener.count - n }
        let outside := if opener.count = 0 then found.before else .run opener :: found.before
        let made := Piece.done (pairInline r.sign n (pairBody found.between))
        closeRun fuel (made :: outside) { r with count := r.count - n }
      | (none, seen) => if seen || r.opens then .run r :: before else addText before r.text

/-- Makes plain text of the runs in some pieces, the last of which stands first and is made so
first, and puts the pieces in order. -/
def settle : List Piece → List Piece → List Piece
  | [], acc => acc
  | .run r :: .done (.text t .none) :: rest, acc =>
    settle rest (.done (.text (t ++ r.text) .none) :: acc)
  | .run r :: rest, acc => settle rest (.done (.text r.text .none) :: acc)
  | p :: rest, acc => settle rest (p :: acc)

/-- Pairs off the runs of some pieces, which stand in order. -/
def pairRuns (pieces : List Piece) : List Inline :=
  let before := pieces.foldl (fun before p ↦ match p with
    | .run r => closeRun (r.count + 1) before r
    | p => p :: before) []
  (settle before []).map Piece.inline

end PathQuery.Markdown
