import PathQuery.Markdown.Definition
import PathQuery.Markdown.Html

/-!
# Blocks of markdown

A document is read line by line. A line first continues the blocks that are open, as far as it
does; then it may open new blocks, and the open ones that it did not continue are closed. A line
that opens none goes on with an open paragraph, wherever that stands.

The open blocks are kept as a row of frames, each inside the one before it. The last frame alone
may be a block of text; the others are quotes, lists and list items.
-/

namespace PathQuery.Markdown

/-- How the items of a list are marked. -/
inductive Marker where
  /-- By a sign. -/
  | bullet (sign : Char)
  /-- By a number and a sign. -/
  | ordered (start : Nat) (sign : Char)
  deriving DecidableEq, Repr, Inhabited

/-- Whether two markers belong to one list. -/
def Marker.sameList : Marker → Marker → Bool
  | .bullet a, .bullet b => a = b
  | .ordered _ a, .ordered _ b => a = b
  | _, _ => false

/-- A block of a document. -/
inductive Block where
  /-- A heading with its lines. -/
  | heading (level : Nat) (lines : List Line)
  /-- A paragraph with its lines. -/
  | paragraph (lines : List Line)
  /-- A fenced block: the text after its opening fence, and its lines. -/
  | fence (info : String) (lines : List String)
  /-- Any other block of text. -/
  | other
  /-- What is left of a paragraph that held definitions only. -/
  | nothing
  /-- A quote. -/
  | quote (body : List Block)
  /-- A list of items. -/
  | list (marker : Marker) (items : List Block)
  /-- An item of a list. -/
  | item (body : List Block)
  deriving Inhabited

/-- An open block, as far as it has been read. -/
inductive Opening where
  /-- A quote. -/
  | quote
  /-- A list; how far the text of its last item is indented, and whether that item is closed and
  empty. -/
  | list (marker : Marker) (offset : Nat) (lastEmpty : Bool)
  /-- An item of a list. -/
  | item
  /-- A paragraph. -/
  | paragraph (lines : List Line)
  /-- A heading, which is complete. -/
  | heading (level : Nat) (lines : List Line)
  /-- A fenced block. -/
  | fence (sign : Char) (length indent : Nat) (info : String) (lines : List String)
  /-- A block of indented code. -/
  | code
  /-- A block of HTML, and whether its first line ends it. -/
  | html (ending : HtmlEnd) (ended : Bool)
  /-- A thematic break. -/
  | rule
  deriving Inhabited

/-- An open block and the blocks inside it that are closed. -/
structure Frame where
  /-- The block. -/
  opening : Opening
  /-- The closed blocks inside it. -/
  body : List Block := []
  deriving Inhabited

/-- The state of the reader. -/
structure BlockState where
  /-- The open blocks, outermost first. -/
  frames : List Frame := []
  /-- The closed blocks outside of them. -/
  blocks : List Block := []
  /-- The link definitions. -/
  definitions : List Definition := []
  /-- Whether a line goes on with a list that is open. -/
  sameList : Bool := false
  /-- Whether blank lines follow a list item without text. -/
  emptyItem : Bool := false

/-! ## Closing -/

/-- The lines of a paragraph without the blanks around them. -/
def trimLines (lines : List Line) : List Line :=
  let trimmed := lines.map Line.trimLeft
  match trimmed.getLast? with
  | some l => trimmed.dropLast ++ [{ l with chars := trimRight l.chars }]
  | none => []

/-- The block that closes a frame, with the link definitions it starts with. -/
def Frame.close (f : Frame) : List Definition × Block :=
  match f.opening with
  | .quote => ([], .quote f.body)
  | .list marker .. => ([], .list marker f.body)
  | .item => ([], .item f.body)
  | .paragraph lines =>
    let (definitions, text) := splitDefinitions lines
    (definitions, if text.isEmpty then .nothing else .paragraph (trimLines text))
  | .heading level lines => ([], .heading level lines)
  | .fence _ _ _ info lines => ([], .fence info lines)
  | .code | .html .. | .rule => ([], .other)

namespace BlockState

/-- Adds a closed block to the last frame. -/
def addBlock (s : BlockState) (b : Block) : BlockState :=
  match s.frames.getLast? with
  | none => { s with blocks := s.blocks ++ [b] }
  | some f => { s with frames := s.frames.dropLast ++ [{ f with body := f.body ++ [b] }] }

/-- Notes in a list whether the item that is closed is empty. -/
def noteItem (s : BlockState) (empty : Bool) : BlockState :=
  match s.frames.getLast? with
  | some f =>
    match f.opening with
    | .list marker offset _ =>
      { s with frames := s.frames.dropLast ++ [{ f with opening := .list marker offset empty }] }
    | _ => s
  | none => s

/-- Closes the last frame. -/
def closeLast (s : BlockState) : BlockState :=
  match s.frames.getLast? with
  | none => s
  | some f =>
    let (definitions, block) := f.close
    let s := { s with frames := s.frames.dropLast, definitions := s.definitions ++ definitions }
    let s := match f.opening with
      | .item => s.noteItem f.body.isEmpty
      | _ => s
    s.addBlock block

/-- Closes all frames but the first `n`. -/
def closeTo (s : BlockState) (n : Nat) : BlockState :=
  (List.range (s.frames.length - n)).foldl (fun s _ ↦ s.closeLast) s

/-- The block that is innermost. -/
def last? (s : BlockState) : Option Opening := s.frames.getLast?.map (·.opening)

/-- The block around frame `n`. -/
def opening? (s : BlockState) : Nat → Option Opening
  | 0 => none
  | n + 1 => s.frames[n]?.map (·.opening)

/-- Whether the innermost block is a paragraph. -/
def inParagraph (s : BlockState) : Bool :=
  match s.last? with
  | some (.paragraph _) => true
  | _ => false

/-- Replaces the innermost block. -/
def setLast (s : BlockState) (o : Opening) : BlockState :=
  match s.frames.getLast? with
  | some f => { s with frames := s.frames.dropLast ++ [{ f with opening := o }] }
  | none => s

end BlockState

/-! ## Shapes of lines -/

/-- The text of a heading of one line: where it starts and what it is, without a closing run of
signs. -/
def atxText (cs : List Char) : List Char :=
  let body := trimRight cs
  let unclosed := (body.reverse.dropWhile (· = '#')).reverse
  if unclosed.length = body.length then body
  else match unclosed.getLast? with
    | none => []
    | some c => if isBlankChar c then trimRight unclosed else body

/-- A heading of one line: its level and lines. -/
def atxHeading? (l : Line) : Option Opening :=
  let (width, n) := l.indent
  let rest := l.value.drop n
  let level := runLength '#' rest
  let after := rest.drop level
  if width ≥ l.value.length || level = 0 || level > 6 || !((after.head?.map isBlankChar).getD true) then
    none
  else
    let gap := (after.takeWhile isBlankChar).length
    let start := l.advance (n + level + gap)
    let text := atxText (after.drop gap)
    some (.heading level (if text.isEmpty then [] else [{ start with chars := text }]))

/-- An opening fence. -/
def fenceStart? (l : Line) : Option Opening :=
  let (width, n) := l.indent
  match l.value.drop n with
  | [] => none
  | sign :: rest =>
    let length := runLength sign (sign :: rest)
    let info := trimRight ((rest.drop (length - 1)).dropWhile isBlankChar)
    let isTick := sign.toNat = 0x60
    if width ≥ l.value.length || !(isTick || sign = '~') || length < 3 ||
      (isTick && info.contains sign) then none
    else some (.fence sign length n (String.ofList info) [])

/-- Whether some characters are a thematic break at a column. -/
def isRule (column : Nat) (cs : List Char) : Bool :=
  let signs := cs.filter (!isBlankChar ·)
  (indentation column cs).1 ≤ 3 && signs.length ≥ 3 &&
    match signs.head? with
    | some c => (c = '*' || c = '-' || c = '_') && signs.all (· = c)
    | none => false

/-- The level of a heading that a line below a paragraph makes of it. -/
def underline? (cs : List Char) : Option Nat :=
  let spaces := runLength ' ' cs
  let bar := trimRight (cs.drop spaces)
  if spaces > 3 then none
  else match bar.head? with
    | some '=' => if bar.all (· = '=') then some 1 else none
    | some '-' => if bar.all (· = '-') then some 2 else none
    | _ => none

/-- The mark of a list item at the head of a line: the blanks before it, the marker, and where the
mark ends. -/
structure ItemMark where
  /-- The blanks before the mark. -/
  lead : Nat
  /-- The marker. -/
  marker : Marker
  /-- Where the mark ends. -/
  stop : Nat
  /-- The text after it. -/
  after : List Char

/-- The mark of a list item. -/
def itemMark? (cs : List Char) : Option ItemMark := do
  let lead := runLength ' ' cs
  if lead > 3 then none
  let rest := cs.drop lead
  let digits := rest.takeWhile Char.isDigit
  let c ← (rest.drop digits.length).head?
  let (marker, width) ←
    if digits.isEmpty && (c = '-' || c = '*' || c = '+') then some (Marker.bullet c, 1)
    else if 1 ≤ digits.length && digits.length ≤ 9 && (c = '.' || c = ')') then
      some (.ordered (digits.foldl (fun n d ↦ n * 10 + (d.toNat - 48)) 0) c, digits.length + 1)
    else none
  let after := rest.drop width
  let separated := after.isEmpty || after.head? = some '\n' || (indentation 0 after).1 > 0
  if separated then some ⟨lead, marker, lead + width, after⟩ else none

/-- Whether nothing follows the mark of an item. -/
def ItemMark.isEmpty (m : ItemMark) : Bool := m.after.all isBlankChar

/-- How far the text of an item is indented behind its mark. -/
def ItemMark.gap (m : ItemMark) : Nat :=
  if m.isEmpty then 1
  else
    let width := (indentation m.stop m.after).1
    if width > 4 then 1 else width

/-- The line behind the mark of a quote. -/
def quoteRest? (l : Line) : Option Line :=
  let (width, n) := l.indent
  if width > 3 || (l.value.drop n).head? ≠ some '>' then none
  else
    let inner := l.advance (n + 1)
    match inner.chars.head? with
    | some ' ' => some (inner.advance 1)
    | some '\t' => some (inner.advancePadded 1 (tabWidth inner.offset - 1))
    | _ => some inner

/-! ## Opening -/

/-- What a line may open, in the order in which it is tried. -/
inductive Starter where
  | underline
  | rule
  | list
  | item
  | heading
  | fence
  | quote
  | html
  | code
  | paragraph
  deriving DecidableEq, Repr

namespace Starter

/-- What a line may open whose text starts with a character. -/
def candidates (c : Char) : List Starter :=
  (if c = '-' then [.underline, .rule, .list, .item]
    else if c = '=' then [.underline]
    else if c = '*' then [.rule, .list, .item]
    else if c = '_' then [.rule]
    else if c = '+' || c.isDigit then [.list, .item]
    else if c = '#' then [.heading]
    else if c = '~' || c.toNat = 0x60 then [.fence]
    else if c = '>' then [.quote]
    else if c = '<' then [.html]
    else []) ++ [.code, .paragraph]

/-- Whether it may end a paragraph. -/
def interrupts : Starter → Bool
  | .code | .paragraph => false
  | _ => true

end Starter

/-- What opening a block comes to. -/
inductive Opened where
  /-- A block without blocks inside. -/
  | leaf (o : Opening)
  /-- A block that may hold others, which the rest of the line may open. -/
  | container (o : Opening) (rest : Line)
  /-- An item of the list around it, with the rest of the line if there is text. -/
  | item (offset : Nat) (rest : Option Line)
  /-- The paragraph before is a heading. -/
  | underlined (level : Nat)

/-- Tries to open a block in the frame before number `n`. The flag tells whether a line goes on
with an open list after that. -/
def BlockState.tryOpen (s : BlockState) (n : Nat) (l : Line) (st : Starter) : Option Opened × Bool :=
  let inside : Bool := s.inParagraph && s.frames.length == n + 1
  let lastIsList := match s.last? with
    | some (.list ..) => true
    | _ => false
  match st with
  | .underline =>
    (if inside then (underline? l.value).map .underlined else none, s.sameList)
  | .rule => (if isRule l.offset l.value then some (.leaf .rule) else none, s.sameList)
  | .list =>
    if lastIsList || s.sameList then (none, false)
    else
      let found := do
        let m ← itemMark? l.value
        let startsLate := match m.marker with
          | .ordered start _ => start ≠ 1
          | .bullet _ => false
        if inside && (startsLate || m.isEmpty) then none
        else some (Opened.container (.list m.marker 0 false) l)
      (found, false)
  | .item =>
    match s.opening? n with
    | some (.list _ offset _) =>
      let found := do
        let m ← itemMark? l.value
        if m.lead > offset + 3 then none
        if m.isEmpty then some (Opened.item (m.stop + m.gap) none)
        else
          let (count, padding) ← indentPosition? m.stop m.gap m.after
          some (.item (m.stop + m.gap) (some (l.advancePadded (m.stop + count) padding)))
      (found, s.sameList)
    | _ => (none, s.sameList)
  | .heading => ((atxHeading? l).map .leaf, s.sameList)
  | .fence => ((fenceStart? l).map .leaf, s.sameList)
  | .quote => ((quoteRest? l).map (.container .quote), s.sameList)
  | .html =>
    let (width, k) := l.indent
    let cs := l.value.drop k
    let ending := if width ≥ l.value.length || k ≠ runLength ' ' l.value then none
      else htmlStart? s.inParagraph cs
    (ending.map fun e ↦ .leaf (.html e (match e with
      | .holding ends => holdsAny ends l.value
      | .blank => false)), s.sameList)
  | .code =>
    (if (indentPosition? l.offset 4 l.value).isSome && !l.isBlank then some (.leaf .code) else none,
      s.sameList)
  | .paragraph =>
    let trimmed := l.trimLeft
    (if trimmed.chars.isEmpty then none else some (.leaf (.paragraph [trimmed])), s.sameList)

/-- Tries what a line may open, in order. -/
def BlockState.firstOpen (s : BlockState) (n : Nat) (l : Line) (continuable : Bool) :
    List Starter → Option Opened × BlockState
  | [] => (none, s)
  | st :: rest =>
    if (continuable && !st.interrupts) || (l.indent.1 > 3 && st ≠ .code) then
      s.firstOpen n l continuable rest
    else
      match s.tryOpen n l st with
      | (some o, sameList) => (some o, { s with sameList })
      | (none, sameList) => { s with sameList }.firstOpen n l continuable rest

namespace BlockState

/-- Adds a frame in place of all but the first `n`. -/
def push (s : BlockState) (n : Nat) (o : Opening) : BlockState :=
  let s := s.closeTo n
  { s with frames := s.frames ++ [⟨o, []⟩] }

/-- Notes in a list how far the text of a new item is indented. -/
def setOffset (s : BlockState) (offset : Nat) : BlockState :=
  match s.last? with
  | some (.list marker _ _) => s.setLast (.list marker offset true)
  | _ => s

/-- Opens the blocks that a line opens in the frame before number `n`, and closes what it does not
go on with. A line that opens none goes on with an open paragraph. -/
def openBlocks : Nat → BlockState → Nat → Line → Bool → Bool → BlockState
  | 0, s, _, _, _, _ => s
  | fuel + 1, s, n, l, continuable, opened =>
    let starters :=
      if l.chars.isEmpty && l.padding = 0 || l.value.head? = some '\n' then []
      else match (l.value.drop l.indent.2).head? with
        | some c => Starter.candidates c
        | none => [.code, .paragraph]
    match s.firstOpen n l (continuable && !opened) starters with
    | (some (.leaf o), s) => s.push n o
    | (some (.container o rest), s) =>
      let s := s.push n o
      let s := match o with
        | .list .. => { s with emptyItem := false }
        | _ => s
      openBlocks fuel s (n + 1) rest continuable true
    | (some (.item offset rest), s) =>
      let s := ({ s.closeTo n with emptyItem := false }.setOffset offset).push n .item
      match rest with
      | some rest => openBlocks fuel s (n + 1) rest continuable true
      | none => s
    | (some (.underlined level), s) =>
      match s.last? with
      | some (.paragraph lines) =>
        let (definitions, text) := splitDefinitions (trimLines lines)
        let s := { s with
          frames := s.frames.dropLast, definitions := s.definitions ++ definitions }
        if text.isEmpty then openBlocks fuel (s.addBlock .nothing) n l false opened
        else s.push n (.heading level text)
      | _ => s
    | (none, s) =>
      if opened then s
      else match s.last?, continuable && !l.isBlank with
        | some (.paragraph lines), true => s.setLast (.paragraph (lines ++ [l]))
        | _, _ => s.closeTo n

/-! ## Continuing -/

/-- How a line goes on with an open block. -/
inductive Continued where
  /-- It does, and the rest of the line may go on with a block inside, or open one. -/
  | inside (rest : Line)
  /-- It does, and all of it belongs to the block. -/
  | whole (o : Opening)
  /-- It does not; the rest of the line is left. -/
  | ended (rest : Line)

/-- Whether the last item of the list in frame `n` is empty. -/
def lastItemEmpty (s : BlockState) (n : Nat) (lastEmpty : Bool) : Bool :=
  match s.frames[n + 1]? with
  | some item => item.body.isEmpty && s.frames.length ≤ n + 2
  | none => lastEmpty

/-- How a line goes on with a list, and whether blank lines follow an item without
text after that. -/
def continueList (s : BlockState) (marker : Marker) (offset : Nat) (empty : Bool) (l : Line) :
    Continued × Bool :=
  if l.isBlank then (.inside l, s.emptyItem || empty)
  else
    let width := l.indent.1
    let near := width < offset || empty
    let mark := if near && width < 4 then
        (itemMark? l.value).filter fun m ↦ m.lead < offset + 4
      else none
    match mark with
    | some m =>
      let bar := l.value.drop (m.stop - 1)
      let isHeading := s.inParagraph && underline? bar = some 2
      if !marker.sameList m.marker then (.ended l, s.emptyItem)
      else if isRule 0 bar && !isHeading then (.ended l, s.emptyItem)
      else (.inside l, s.emptyItem)
    | none =>
      if near && !empty then (.ended l, s.emptyItem)
      else if empty && width < offset then (.ended l, s.emptyItem)
      else if s.emptyItem then (.ended l, s.emptyItem)
      else (.inside l, s.emptyItem)

/-- How a line goes on with the item in frame `n`, and whether it goes on with the list after
that. -/
def continueItem (s : BlockState) (n : Nat) (offset : Nat) (l : Line) : Continued × Bool :=
  if l.isBlank then (.inside l.atEnd, s.sameList)
  else
    let empty := match s.frames[n]? with
      | some f => f.body.isEmpty && s.frames.length == n + 1
      | none => true
    let width := l.indent.1
    let near := (empty || width < offset) && width < 4
    if near && (itemMark? l.value).isSome then (.ended l, true)
    else if near && !empty then (.ended l, s.sameList)
    else match indentPosition? l.offset offset l.value with
      | some (count, padding) => (.inside (l.advancePadded count padding), s.sameList)
      | none => (.inside l, s.sameList)

/-- How a line goes on with a fenced block. -/
def continueFence (sign : Char) (length indent : Nat) (info : String) (lines : List String)
    (l : Line) : Continued :=
  let (width, n) := l.indent
  let rest := l.value.drop n
  let count := runLength sign rest
  if width < 4 && count ≥ length && (rest.drop count).all isBlankChar then .ended l.atEnd
  else
    let text := match indentPosition? l.offset indent l.value with
      | some (count, padding) => List.replicate padding ' ' ++ l.value.drop count
      | none => if l.isBlank then l.chars else l.value.dropWhile fun c ↦ c = ' ' || c = '\t'
    let text := if text.getLast? = some '\n' || text.isEmpty then text else text ++ ['\n']
    .whole (.fence sign length indent info (lines ++ [String.ofList text]))

/-- How a line goes on with the block in frame `n`. -/
def continueBlock (s : BlockState) (n : Nat) (o : Opening) (l : Line) : Continued × BlockState :=
  match o with
  | .quote =>
    match quoteRest? l with
    | some rest => (.inside rest, s)
    | none => (.ended l, s)
  | .list marker offset lastEmpty =>
    let (c, emptyItem) := s.continueList marker offset (s.lastItemEmpty n lastEmpty) l
    (c, { s with emptyItem })
  | .item =>
    let offset := match s.opening? n with
      | some (.list _ offset _) => offset
      | _ => 0
    let (c, sameList) := s.continueItem n offset l
    (c, { s with sameList })
  | .fence sign length indent info lines => (continueFence sign length indent info lines l, s)
  | .code =>
    (if l.isBlank || (indentPosition? l.offset 4 l.value).isSome then .whole o else .ended l, s)
  | .html (.holding ends) ended =>
    (if ended then .ended l else if holdsAny ends l.value then .ended l.atEnd else .whole o, s)
  | .html .blank _ => (if l.isBlank then .ended l else .whole o, s)
  | .paragraph _ | .heading .. | .rule => (.ended l, s)

/-- Goes on with the frames from number `n`, so many of them. -/
def continueFrames : Nat → BlockState → Nat → Line → BlockState
  | 0, s, _, _ => s
  | count + 1, s, n, l =>
    let fuel := 2 * l.value.length + 4
    match s.frames[n]? with
    | none => s
    | some f =>
      match s.continueBlock n f.opening l with
      | (.inside rest, s) =>
        if count = 0 then s.openBlocks fuel (n + 1) rest false true
        else continueFrames count s (n + 1) rest
      | (.whole o, s) => s.setLast o
      | (.ended rest, s) => s.openBlocks fuel n rest s.inParagraph false

/-- Reads a line. -/
def readLine (s : BlockState) (l : Line) : BlockState :=
  if s.frames.isEmpty then
    if l.isBlank then s else s.openBlocks (2 * l.value.length + 4) 0 l false false
  else s.continueFrames s.frames.length 0 l

end BlockState

/-- A document: its blocks and its link definitions. -/
structure Document where
  /-- The blocks. -/
  blocks : List Block
  /-- The definitions. -/
  definitions : List Definition

/-- Reads a document. -/
def read (text : String) : Document :=
  let s := ((splitLines text).foldl BlockState.readLine {}).closeTo 0
  ⟨s.blocks, s.definitions⟩

end PathQuery.Markdown
