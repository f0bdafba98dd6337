/-
This file recognises HTML in Markdown: the tags and other constructs that may stand inside a line,
and the lines with which a block of HTML starts, each with the sign that ends such a block.
-/
import GuidedMigration.Text.Case

namespace GuidedMigration.Markdown.Tag

open Text

/-! ### Attributes -/

/-- The characters an attribute's name may start with. -/
def isNameStart (char : Char) : Bool := isAsciiLetter char || char = '_' || char = ':'

/-- The characters an attribute's name may hold. -/
def isNameChar (char : Char) : Bool :=
  isAsciiAlnum char || char = ':' || char = '.' || char = '_' || char = '-'

/-- The characters of a value without quotes. -/
def isValueChar (char : Char) : Bool :=
  32 < char.toNat && (['"', '\'', '=', '<', '>', '\x60'] : List Char).all (· != char)

/-- What may follow a value without quotes, the longest value first. A shorter value ends only
before a blank. -/
def behindBareValue (text : Text) : List Text :=
  let value := text.takeWhile isValueChar
  if value.isEmpty then []
  else
    let shorter := (List.range value.length).reverse.filter fun size =>
      0 < size && (value[size]?).any isBlank
    text.drop value.length :: shorter.map (text.drop ·)

/-- What may follow the value of an attribute. -/
def behindValue (text : Text) : List Text :=
  match text with
  | [] => []
  | quote :: rest =>
    if quote = '"' || quote = '\'' then
      let inner := rest.takeWhile (· != quote)
      if inner.length < rest.length then [rest.drop (inner.length + 1)] else []
    else behindBareValue text

/-- What may follow an attribute. -/
def behindAttribute (text : Text) : List Text :=
  if text.head?.any isNameStart then
    let rest := text.dropWhile isNameChar
    (match trimLeft rest with
      | '=' :: value => behindValue (trimLeft value)
      | _ => []) ++ [rest]
  else []

/-- What follows an opening tag, from behind its name on; `fuel` bounds its attributes. -/
def behindAttributes? : Nat → Text → Option Text
  | 0, _ => none
  | fuel + 1, text =>
    let rest := trimLeft text
    let further :=
      if text.head?.any isBlank then (behindAttribute rest).findSome? (behindAttributes? fuel)
      else none
    match further with
    | some behind => some behind
    | none => match rest with
      | '>' :: behind => some behind
      | '/' :: '>' :: behind => some behind
      | _ => none

/-! ### Tags -/

/-- The characters of a tag's name. -/
def isTagChar (char : Char) : Bool := isAsciiAlnum char || char = '-'

/-- What follows an opening tag at the start of a text. -/
def behindOpening? (text : Text) : Option Text :=
  match text with
  | '<' :: first :: rest =>
    if isAsciiLetter first then behindAttributes? text.length (rest.dropWhile isTagChar) else none
  | _ => none

/-- What follows a closing tag at the start of a text. -/
def behindClosing? (text : Text) : Option Text :=
  match text with
  | '<' :: '/' :: first :: rest =>
    if isAsciiLetter first then dropPrefix? ['>'] (trimLeft (rest.dropWhile isTagChar)) else none
  | _ => none

/-- What follows the first occurrence of a mark. -/
def behind? (mark text : Text) : Option Text := (splitFirst? mark text).map (·.2)

/-- What follows the body of a comment: characters other than hyphens, and hyphens that do not end
it. -/
def behindCommentBody? : Nat → Text → Option Text
  | 0, _ => none
  | fuel + 1, text => match text with
    | '-' :: '-' :: '>' :: rest => some rest
    | '-' :: '-' :: _ :: rest => behindCommentBody? fuel rest
    | ['-', '-'] => none
    | '-' :: _ :: rest => behindCommentBody? fuel rest
    | ['-'] => none
    | _ :: rest => behindCommentBody? fuel rest
    | [] => none

/-- What follows a comment at the start of a text. -/
def behindComment? (text : Text) : Option Text :=
  match dropPrefix? ['<', '!', '-', '-'] text with
  | some ('>' :: rest) => some rest
  | some ('-' :: '>' :: rest) => some rest
  | some rest => behindCommentBody? text.length rest
  | none => none

/-- What follows a declaration at the start of a text. -/
def behindDeclaration? (text : Text) : Option Text :=
  match text with
  | '<' :: '!' :: first :: rest => if isAsciiLetter first then behind? ['>'] rest else none
  | _ => none

/-- What follows a construct that starts with one mark and ends with another. -/
def behindEnclosed? (opening closing text : Text) : Option Text :=
  (dropPrefix? opening text).bind (behind? closing)

/-- The mark that opens unparsed data. -/
def dataMark : Text := "<![CDATA[".toList

/-- What follows a piece of HTML at the start of a text. -/
def behindTag? (text : Text) : Option Text :=
  [behindOpening?, behindClosing?, behindComment?, behindEnclosed? ['<', '?'] ['?', '>'],
    behindDeclaration?, behindEnclosed? dataMark [']', ']', '>']].findSome? (· text)

/-! ### Blocks of HTML -/

/-- The sign that ends a block of HTML: a line that satisfies it is the last one. -/
structure Ending where
  isLast : Text → Bool
  interrupts : Bool

/-- The tags whose content is taken as it is. -/
def rawNames : List Text := ["script", "pre", "style", "textarea"].map String.toList

/-- The tags that start a block. -/
def blockNames : List Text :=
  ["address", "article", "aside", "base", "basefont", "blockquote", "body", "caption", "center",
    "col", "colgroup", "dd", "details", "dialog", "dir", "div", "dl", "dt", "fieldset",
    "figcaption", "figure", "footer", "form", "frame", "frameset", "h1", "h2", "h3", "h4", "h5",
    "h6", "head", "header", "hr", "html", "iframe", "legend", "li", "link", "main", "menu",
    "menuitem", "nav", "noframes", "ol", "optgroup", "option", "p", "param", "search", "section",
    "summary", "table", "tbody", "td", "tfoot", "th", "thead", "title", "tr", "track", "ul"].map
    String.toList

/-- The name at the start of a text, in small letters, and what follows it. -/
def nameOf (text : Text) : Text × Text :=
  let name := text.takeWhile fun char => isAsciiAlnum (foldChar char)
  (fold name, text.drop name.length)

/-- Whether a text starts with one of the tags whose content is taken as it is. -/
def opensRaw (text : Text) : Bool :=
  match text with
  | '<' :: rest =>
    let (name, behind) := nameOf rest
    rawNames.contains name && behind.head?.all fun char => isBlank char || char = '>'
  | _ => false

/-- Whether one of the tags whose content is taken as it is closes in a text. -/
def closesRaw (text : Text) : Bool :=
  (findFirst? (fun _ text => match text with
    | '<' :: '/' :: rest =>
      let (name, behind) := nameOf rest
      if rawNames.contains name && behind.head? = some '>' then some ((), 1) else none
    | _ => none) text).isSome

/-- Whether a text starts with a tag that starts a block. -/
def opensBlock (text : Text) : Bool :=
  match text with
  | '<' :: rest =>
    let (name, behind) := nameOf ((dropPrefix? ['/'] rest).getD rest)
    blockNames.contains name && (behind.isEmpty || behind.head?.any isBlank ||
      startsWith ['>'] behind || startsWith ['/', '>'] behind)
  | _ => false

/-- Whether a line is a single tag. -/
def isSingleTag (line : Text) : Bool :=
  match behindOpening? line with
  | some rest => isBlankText rest
  | none => (behindClosing? line).any isBlankText

/-- Whether a line starts a declaration in capital letters. -/
def opensDeclaration (line : Text) : Bool :=
  startsWith ['<', '!'] line && (line.drop 2).head?.any isAsciiUpper

/-- How the block of HTML that a line starts ends, if it starts one. -/
def blockEnding? (line : Text) : Option Ending :=
  if opensRaw line then some ⟨closesRaw, true⟩
  else if startsWith ['<', '!', '-', '-'] line then some ⟨occursIn ['-', '-', '>'], true⟩
  else if startsWith ['<', '?'] line then some ⟨occursIn ['?', '>'], true⟩
  else if opensDeclaration line then some ⟨occursIn ['>'], true⟩
  else if startsWith dataMark line then some ⟨occursIn [']', ']', '>'], true⟩
  else if opensBlock line then some ⟨List.isEmpty, true⟩
  else if isSingleTag line then some ⟨List.isEmpty, false⟩
  else none

end GuidedMigration.Markdown.Tag
