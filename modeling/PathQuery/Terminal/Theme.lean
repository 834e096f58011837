import PathQuery.Json.Basic
import PathQuery.Text.Blank

/-!
# Themes

A theme is an accent colour, which may be off, and the name of a scheme for the colours of code.
Colours are given by number, or as red, green and blue in hexadecimal digits. A description that
is none is passed over and leaves the theme as it is.
-/

namespace PathQuery.Terminal

/-- A colour scheme. -/
structure Theme where
  /-- The accent colour, unless it is off. -/
  accent : Option String := some "#A78BFA"
  /-- The colours of code. -/
  codeTheme : String := "monokai"
  deriving DecidableEq, Repr, Inhabited

/-- The words that turn the accent off. -/
def offWords : List String := ["none", "off", "default"]

/-- A description without padding and in small letters. -/
def normalName (s : String) : String := lowerCase (trimBlanks s)

/-- The number that an optional sign and digits spell. -/
def signedNumber? (cs : List Char) : Option Int :=
  let magnitude (ds : List Char) : Option Nat :=
    if ds.isEmpty || !ds.all Char.isDigit then none
    else some (ds.foldl (fun n d ↦ 10 * n + (d.toNat - 48)) 0)
  match cs with
  | '+' :: ds => (magnitude ds).map Int.ofNat
  | '-' :: ds => (magnitude ds).map fun n ↦ -(n : Int)
  | ds => (magnitude ds).map Int.ofNat

/-- Whether a character is a small hexadecimal digit. -/
def isHexDigit (c : Char) : Bool := c.isDigit || ('a' ≤ c && c ≤ 'f')

/-- Reads a colour: a number up to 255, or three or six hexadecimal digits. -/
def colour? (s : String) : Option String :=
  match (normalName s).toList with
  | '#' :: digits =>
    if !digits.all isHexDigit then none
    else match digits with
      | [r, g, b] => some (String.ofList ['#', r, r, g, g, b, b])
      | [_, _, _, _, _, _] => some (String.ofList ('#' :: digits))
      | _ => none
  | cs =>
    match signedNumber? cs with
    | some n => if 0 ≤ n && n ≤ 255 then some (toString n) else none
    | none => none

/-- The names of the schemes for code. -/
def codeThemes : List String := [
  "abap", "algol", "algol_nu", "arduino", "autumn", "average", "base16-snazzy", "borland", "bw",
  "catppuccin-frappe", "catppuccin-latte", "catppuccin-macchiato", "catppuccin-mocha", "colorful",
  "doom-one", "doom-one2", "dracula", "emacs", "friendly", "fruity", "github", "github-dark",
  "gruvbox", "gruvbox-light", "hr_high_contrast", "hrdark", "igor", "lovelace", "manni",
  "modus-operandi", "modus-vivendi", "monokai", "monokailight", "murphy", "native", "nord",
  "onedark", "onesenterprise", "paraiso-dark", "paraiso-light", "pastie", "perldoc", "pygments",
  "rainbow_dash", "rose-pine", "rose-pine-dawn", "rose-pine-moon", "rrt", "solarized-dark",
  "solarized-dark256", "solarized-light", "swapoff", "tango", "tokyonight-day",
  "tokyonight-moon", "tokyonight-night", "tokyonight-storm", "trac", "vim", "vs", "vulcan",
  "witchhazel", "xcode", "xcode-dark"]

namespace Theme

/-- Sets the accent to a colour, or turns it off. -/
def setAccent (t : Theme) (s : String) : Theme :=
  match colour? s with
  | some colour => { t with accent := some colour }
  | none => if offWords.contains (normalName s) then { t with accent := none } else t

/-- Sets the scheme for code; a name that is not known stands for the usual one. -/
def setCodeTheme (t : Theme) (s : String) : Theme :=
  let name := normalName s
  { t with codeTheme := if codeThemes.contains name then name else "monokai" }

/-! ## The style sheet of reports -/

/-- The columns by which a report is indented. -/
def reportMargin : Nat := 2

/-- The colour of secondary text. -/
def muted : Json := .string "8"

/-- The style of the accent, if it is on. -/
def accentStyle (t : Theme) : List (String × Json) :=
  (t.accent.map fun c ↦ [("color", Json.string c)]).getD []

/-- The parts of a report that have no style of their own. -/
def plainParts : List String := [
  "paragraph", "h4", "h5", "h6", "text", "strikethrough", "task", "link", "link_text", "image",
  "image_text", "definition_list", "definition_term", "definition_description", "html_block",
  "html_span"]

/-- The style of every part of a report. -/
def styleSheet (t : Theme) : Json :=
  let margin : String × Json := ("margin", .int reportMargin)
  .object ([
    ("document", .object [("block_prefix", .string "\n"), ("block_suffix", .string "\n"), margin]),
    ("heading", .object ([("block_suffix", .string "\n"), ("bold", .bool true)] ++ t.accentStyle)),
    ("h1", .object [("prefix", .string "# "), ("underline", .bool true)]),
    ("h2", .object [("prefix", .string "## "), ("underline", .bool true)]),
    ("h3", .object [("prefix", .string "### ")]),
    ("block_quote", .object [("color", muted), ("indent", .int 1), ("indent_token", .string "│ ")]),
    ("list", .object [("level_indent", .int 2)]),
    ("item", .object [("block_prefix", .string "• ")]),
    ("enumeration", .object [("block_prefix", .string ". ")]),
    ("emph", .object [("italic", .bool true)]),
    ("strong", .object [("bold", .bool true)]),
    ("hr", .object [("color", muted), ("format", .string "\n--------\n")]),
    ("code", .object ([("prefix", .string "`"), ("suffix", .string "`")] ++ t.accentStyle)),
    ("code_block", .object
      [("color", .string "252"), margin, ("theme", .string t.codeTheme)]),
    ("table", .object [("center_separator", .string "│"), ("column_separator", .string "│"),
      ("row_separator", .string "─")])] ++
    plainParts.map (·, .object []))

end Theme

end PathQuery.Terminal
