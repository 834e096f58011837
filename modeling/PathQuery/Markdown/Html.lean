import PathQuery.Markdown.Line

/-!
# HTML in markdown

A line may open a block of HTML, which goes on to a line that holds a closing text or to a blank
line. Within a text, complete tags, comments, instructions and declarations are HTML too.
-/

namespace PathQuery.Markdown

/-! ## Tags -/

/-- Whether a character may start the name of a tag. -/
def startsTag (c : Char) : Bool := c.isAlpha

/-- The length of the name of a tag at the head of a text. -/
def tagNameLength (cs : List Char) : Nat :=
  if (cs.head?.map startsTag).getD false then
    (cs.takeWhile fun c ↦ c.isAlphanum || c = '-').length
  else 0

/-- Whether a character may stand between the attributes of a tag. -/
def isTagBlank (c : Char) : Bool := c = ' ' || c = '\t' || c = '\r' || c = '\n'

/-- Whether a character may stand in a value without quotes. -/
def isBareValue (c : Char) : Bool :=
  c.toNat > 0x20 && !(c = '"' || c = '\'' || c = '=' || c = '<' || c = '>' || c.toNat = 0x60)

/-- What follows the value of an attribute. -/
def afterValue? (cs : List Char) : Option (List Char) :=
  match cs with
  | '"' :: v =>
    match v.dropWhile (· ≠ '"') with
    | _ :: after => some after
    | [] => none
  | '\'' :: v =>
    match v.dropWhile (· ≠ '\'') with
    | _ :: after => some after
    | [] => none
  | v =>
    let n := (v.takeWhile isBareValue).length
    if n = 0 then none else some (v.drop n)

/-- What follows an attribute and the blanks before it. -/
def afterAttribute? (cs : List Char) : Option (List Char) :=
  let body := cs.dropWhile isTagBlank
  let startsName (c : Char) : Bool := c.isAlpha || c = '_' || c = ':'
  if body.length = cs.length || !((body.head?.map startsName).getD false) then none
  else
    let isName (c : Char) : Bool := c.isAlphanum || c = '_' || c = ':' || c = '.' || c = '-'
    let rest := body.dropWhile isName
    match rest.dropWhile isTagBlank with
    | '=' :: more =>
      match afterValue? (more.dropWhile isTagBlank) with
      | some after => some after
      | none => some rest
    | _ => some rest

/-- What follows the attributes of a tag, as many as there are. -/
def afterAttributes : Nat → List Char → List Char
  | 0, cs => cs
  | fuel + 1, cs =>
    match afterAttribute? cs with
    | some rest => afterAttributes fuel rest
    | none => cs

/-- What follows the end of an opening tag. -/
def afterTagEnd? (cs : List Char) : Option (List Char) :=
  match cs.dropWhile isTagBlank with
  | '/' :: '>' :: rest => some rest
  | '>' :: rest => some rest
  | _ => none

/-- What follows a complete tag. -/
def afterTag? (cs : List Char) : Option (List Char) :=
  match cs with
  | '<' :: '/' :: rest =>
    let n := tagNameLength rest
    if n = 0 then none
    else match (rest.drop n).dropWhile isTagBlank with
      | '>' :: after => some after
      | _ => none
  | '<' :: rest =>
    let n := tagNameLength rest
    if n = 0 then none
    else afterTagEnd? (afterAttributes rest.length (rest.drop n))
  | _ => none

/-- What follows the first occurrence of a text. -/
def afterText? (stop : List Char) : List Char → Option (List Char)
  | [] => if stop.isEmpty then some [] else none
  | c :: rest =>
    if stop.isPrefixOf (c :: rest) then some ((c :: rest).drop stop.length) else afterText? stop rest

/-- What follows a comment, an instruction, a declaration or a section of raw text. -/
def afterMarkup? (cs : List Char) : Option (List Char) :=
  if "<!-->".toList.isPrefixOf cs then some (cs.drop 5)
  else if "<!--->".toList.isPrefixOf cs then some (cs.drop 6)
  else if "<!--".toList.isPrefixOf cs then afterText? "-->".toList (cs.drop 4)
  else if "<?".toList.isPrefixOf cs then afterText? "?>".toList cs
  else if "<![CDATA[".toList.isPrefixOf cs then afterText? "]]>".toList cs
  else match cs with
    | '<' :: '!' :: c :: _ => if c.isUpper then afterText? ['>'] cs else none
    | _ => none

/-- What follows HTML within a text. -/
def afterHtml? (cs : List Char) : Option (List Char) := (afterTag? cs).orElse fun _ ↦ afterMarkup? cs

/-! ## Blocks -/

/-- When a block of HTML ends. -/
inductive HtmlEnd where
  /-- With a line that holds one of some texts, in any letter case. -/
  | holding (ends : List String)
  /-- Before a blank line. -/
  | blank
  deriving DecidableEq, Repr

/-- The tags that open a block of HTML up to a blank line. -/
def blockTags : List String :=
  ["address", "article", "aside", "base", "basefont", "blockquote", "body", "caption", "center",
   "col", "colgroup", "dd", "details", "dialog", "dir", "div", "dl", "dt", "fieldset",
   "figcaption", "figure", "footer", "form", "frame", "frameset", "h1", "h2", "h3", "h4", "h5",
   "h6", "head", "header", "hr", "html", "iframe", "legend", "li", "link", "main", "menu",
   "menuitem", "meta", "nav", "noframes", "ol", "optgroup", "option", "p", "param", "search",
   "section", "summary", "table", "tbody", "td", "tfoot", "th", "thead", "title", "tr", "track",
   "ul"]

/-- The tags whose text is kept as it is. -/
def rawTags : List String := ["script", "pre", "style", "textarea"]

/-- A name in lower case. -/
def lowerName (cs : List Char) : String := String.ofList (cs.map Char.toLower)

/-- The text after a line's tag name and the name itself; a slash and blanks may stand before the
name. -/
def tagName? (cs : List Char) : Option (String × List Char) :=
  match cs with
  | '<' :: rest =>
    let rest := match rest with
      | '/' :: more => more.dropWhile (· = ' ')
      | r => r
    let n := tagNameLength rest
    if n = 0 then none else some (lowerName (rest.take n), rest.drop n)
  | _ => none

/-- Whether nothing but the end of the line follows. -/
def isLineEnd (cs : List Char) : Bool := cs.isEmpty || cs = ['\n'] || cs = ['\r', '\n']

/-- Whether the text after a tag name may go on as a tag does: with a character that ends a name,
a slash before the end, or nothing. -/
def goesOn (ends : Char → Bool) (cs : List Char) : Bool :=
  isLineEnd cs ||
    match cs with
    | '/' :: '>' :: _ => true
    | c :: _ => ends c
    | [] => true

/-- Whether a line is a complete tag and nothing else; the flag tells whether it is a closing tag
with attributes. -/
def completeTag? (cs : List Char) : Option Bool := do
  let (_, rest) ← tagName? cs
  let closes := match cs with
    | '<' :: '/' :: c :: _ => c ≠ ' '
    | _ => false
  let after := afterAttributes rest.length rest
  let tail ← match after.dropWhile (· = ' ') with
    | '/' :: '>' :: tail => some tail
    | '>' :: tail => some tail
    | _ => none
  if isLineEnd (tail.dropWhile (· = ' ')) then some (closes && after.length ≠ rest.length) else none

/-- When a block of HTML ends that a line opens. The line starts with its angle bracket. A tag that
is not among the known ones opens none inside a paragraph. -/
def htmlStart? (inParagraph : Bool) (cs : List Char) : Option HtmlEnd :=
  let starts (s : String) : Bool := s.toList.isPrefixOf cs
  let opening := cs.drop 1
  let isRaw : Bool := rawTags.any fun t ↦
    lowerName (opening.take t.length) == t && goesOn (fun c ↦ isBlankChar c || c = '>')
      (opening.drop t.length)
  let known (name : String) : Bool := blockTags.contains name
  if isRaw then some (.holding (rawTags.map fun t ↦ "</" ++ t ++ ">"))
  else if starts "<!--" then some (.holding ["-->"])
  else if starts "<?" then some (.holding ["?>"])
  else if starts "<!" && (((cs.drop 2).head?.map Char.isUpper).getD false) then some (.holding [">"])
  else if starts "<![CDATA[" then some (.holding ["]]>"])
  else match tagName? cs with
    | none => none
    | some (name, rest) =>
      if known name && ((completeTag? cs).isSome || goesOn (fun c ↦ c = ' ' || c = '>') rest) then
        some .blank
      else match completeTag? cs with
        | some odd =>
          if ["script", "style", "pre"].contains name || inParagraph || odd then none
          else some .blank
        | none => none

/-- Whether a line holds one of some texts, in any letter case. -/
def holdsAny (ends : List String) (cs : List Char) : Bool :=
  let lower := cs.map Char.toLower
  ends.any fun t ↦ (afterText? t.toList lower).isSome

end PathQuery.Markdown
