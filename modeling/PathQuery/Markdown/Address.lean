import PathQuery.Markdown.Line

/-!
# Addresses

An address may stand between angle brackets: a scheme, a colon and what follows, or the address of
a mailbox. On a page, addresses of the usual schemes, those that start with `www.` and those of
mailboxes are found without brackets too; signs that end a sentence do not belong to them.
-/

namespace PathQuery.Markdown

/-! ## Mailboxes -/

/-- Whether a character may stand in the name of a mailbox. -/
def isMailboxChar (c : Char) : Bool :=
  c.isAlphanum || ".!#$%&'*+/=?^_`\x7b|\x7d~-".toList.contains c

/-- The length of a part of a domain: letters, digits and hyphens inside, sixty-three at most. -/
def domainPartLength (cs : List Char) : Nat :=
  if (cs.head?.map Char.isAlphanum).getD false then
    let run := (cs.takeWhile fun c ↦ c.isAlphanum || c = '-').take 63
    (run.reverse.dropWhile (· = '-')).length
  else 0

/-- The length of a domain: parts with dots between them. -/
def domainLength : Nat → List Char → Nat
  | 0, _ => 0
  | fuel + 1, cs =>
    let n := domainPartLength cs
    match cs.drop n with
    | '.' :: rest =>
      let more := domainLength fuel rest
      if n = 0 || more = 0 then n else n + 1 + more
    | _ => n

/-- The length of the address of a mailbox at the head of a text. -/
def mailboxLength? (cs : List Char) : Option Nat :=
  let name := (cs.takeWhile isMailboxChar).length
  match cs.drop name with
  | '@' :: rest =>
    let domain := domainLength rest.length rest
    if name = 0 || domain = 0 then none else some (name + 1 + domain)
  | _ => none

/-! ## Between angle brackets -/

/-- Whether a character may stand in a scheme. -/
def isSchemeChar (c : Char) : Bool := c.isAlphanum || c = '.' || c = '+' || c = '-'

/-- The length of an address with a scheme at the head of a text. -/
def schemeLength? (cs : List Char) : Option Nat :=
  let scheme := (cs.takeWhile isSchemeChar).length
  match cs.drop scheme with
  | ':' :: rest =>
    if !((cs.head?.map Char.isAlpha).getD false) || scheme < 2 || scheme > 33 then none
    else some (scheme + 1 + (rest.takeWhile fun c ↦ c.toNat > 0x20 && c ≠ '<' && c ≠ '>').length)
  | _ => none

/-- An address between angle brackets at the head of a text: whether it is a mailbox, and what it
is. -/
def angledAddress? (cs : List Char) : Option (Bool × List Char) :=
  match cs with
  | '<' :: body =>
    let found := match mailboxLength? body with
      | some n => some (true, n)
      | none => (schemeLength? body).map (false, ·)
    match found with
    | some (mailbox, n) => if (body.drop n).head? = some '>' then some (mailbox, body.take n) else none
    | none => none
  | _ => none

/-! ## Without brackets -/

/-- Whether a character may stand in the host of an address without brackets. -/
def isHostChar (c : Char) : Bool := c.isAlphanum || "-@:%._+~#=".toList.contains c

/-- Whether a character may stand behind the host of an address without brackets. -/
def isPathChar (dollar : Bool) (c : Char) : Bool :=
  c.isAlphanum || "-@:%_+.~#!?&/=();,'\">^\x7b\x7d[]`".toList.contains c || (dollar && c = '$')

/-- The length of a host at the head of a text: it goes up to the last dot with a small letter
behind it, and over the small letters there. -/
def hostLength? (cs : List Char) : Option Nat :=
  let run := (cs.takeWhile isHostChar).length
  let ends (k : Nat) : Bool :=
    match cs.drop k with
    | '.' :: c :: _ => c.isLower
    | _ => false
  let last := ((List.range (min run 256 + 1)).drop 1).reverse.find? ends
  last.map fun k ↦ k + 1 + ((cs.drop (k + 1)).takeWhile Char.isLower).length

/-- The length of what follows a host: a number behind a colon if the address has a scheme, and a
path. -/
def pathLength (scheme : Bool) (cs : List Char) : Nat :=
  let digits := match cs with
    | ':' :: rest => (rest.takeWhile Char.isDigit).length
    | _ => 0
  let skipped := if scheme && digits > 0 then digits + 1 else 0
  match cs.drop skipped with
  | c :: rest =>
    if c = '/' || c = '#' || c = '?' then skipped + 1 + (rest.takeWhile (isPathChar scheme)).length
    else skipped
  | [] => skipped

/-- The length of an address of a usual scheme, and that of one without a scheme, at the head of a
text; the flag tells which. -/
def linkLength? (cs : List Char) : Option (Bool × Nat) :=
  let after (lead : String) : Option (List Char) :=
    if lead.toList.isPrefixOf cs then some (cs.drop lead.length) else none
  let whole (lead : String) (scheme : Bool) : Option Nat := do
    let rest ← after lead
    let host ← hostLength? rest
    some (lead.length + host + pathLength scheme (rest.drop host))
  match (["http://", "https://", "ftp://"].filterMap (whole · true)).head? with
  | some n => some (true, n)
  | none => (whole "www." false).map (false, ·)

/-- Leaves out of an address what ends the sentence around it: a dot, closing parentheses that it
does not open, or a named character. -/
def trimLink (cs : List Char) : List Char :=
  match cs.reverse with
  | '.' :: rest => rest.reverse
  | ')' :: _ => cs.take (cs.length - (cs.count ')' - cs.count '('))
  | ';' :: rest =>
    let name := rest.takeWhile Char.isAlphanum
    match rest.drop name.length with
    | '&' :: before => if name.isEmpty then cs else before.reverse
    | _ => cs
  | _ => cs

/-- Whether a sign at the end of an address does not belong to it. -/
def isTrailingSign (c : Char) : Bool := "?!.,:*_~".toList.contains c

/-- Leaves out the signs at the end of an address; its first character stays. -/
def trimSigns (cs : List Char) : List Char :=
  cs.take 1 ++ ((cs.drop 1).reverse.dropWhile isTrailingSign).reverse

/-- An address of a mailbox without brackets at the head of a text: its domain has a dot. -/
def bareMailbox? (cs : List Char) : Option (List Char) := do
  if (cs.head?.map isPunctuation).getD false then none
  let n ← mailboxLength? cs
  let found := cs.take n
  if !((found.dropWhile (· ≠ '@')).dropLast.contains '.') then none
  match (cs.drop n).head? with
  | some '-' | some '_' => none
  | _ => some found

/-- An address without brackets at the head of a text: what stands before it in its destination,
and what it is. -/
def bareAddress? (cs : List Char) : Option (String × List Char) :=
  match linkLength? cs with
  | some (schemed, n) => some (if schemed then "" else "http://", trimSigns (trimLink (cs.take n)))
  | none => (bareMailbox? cs).map fun a ↦ ("mailto:", trimSigns a)

end PathQuery.Markdown
