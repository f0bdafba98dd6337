/-
This file reads the configuration blocks of setup guides. A block is a small part of YAML: a key
that opens a nested mapping or list, a key with a value, and list items that are values or start a
mapping; comments stand on lines of their own or behind a value. Everything else is a fault of the
line it stands on.

The reader walks the lines with a stack of open collections, the innermost first. A line closes the
collections that are indented deeper than itself, must then stand at the level of the innermost one
left, and writes an entry or an item to it.
-/
import GuidedMigration.Number.Numeral
import GuidedMigration.Text.Case
import GuidedMigration.Text.Lines
import GuidedMigration.Value.Basic

namespace GuidedMigration.Config

open Text

/-- What is wrong with a line of a block. -/
inductive BlockFault where
  | tab
  | indentation
  | itemOutsideList
  | emptyItem
  | notAnItem
  | notAnEntry
  deriving DecidableEq

/-- The wording of a fault. -/
def BlockFault.message : BlockFault → Text
  | .tab => "tabs are not allowed in indentation".toList
  | .indentation => "unexpected indentation".toList
  | .itemOutsideList => "list item outside a list".toList
  | .emptyItem => "empty list item".toList
  | .notAnItem => "expected a list item".toList
  | .notAnEntry => "expected 'key: value' or 'key:'".toList

/-- Why a block cannot be read: a line, counted from one, has a fault, or a value is an integer with
too many digits. -/
inductive BlockError where
  | line (number : Nat) (fault : BlockFault)
  | longInteger (refusal : LongInteger)
  deriving DecidableEq

namespace Block

/-! ### Values -/

/-- A single or a double quote. -/
def isQuote (char : Char) : Bool := char = '\'' || char = '"'

/-- A value without the comment behind it. A value that starts with a quote is left alone. -/
def stripComment (value : Text) : Text :=
  if value.head?.any isQuote then value
  else match splitFirst? [' ', '#'] value with
    | some (before, _) => trimRight before
    | none => trimRight value

/-- A text without the quotes around it, if it starts and ends with the same one. -/
def unquote (text : Text) : Text :=
  match text with
  | first :: second :: rest =>
    if isQuote first && (second :: rest).getLast? = some first then (second :: rest).dropLast
    else text
  | _ => text

/-- Whether a text is an integer: digits, possibly behind a minus sign. -/
def isInteger : Text → Bool
  | '-' :: digits => !digits.isEmpty && digits.all isDigit
  | digits => !digits.isEmpty && digits.all isDigit

/-- The integer that a text writes. -/
def integerOf : Text → Int
  | '-' :: digits => -(numberOf digits : Int)
  | digits => numberOf digits

/-- The number of digits of an integer. -/
def digitCount : Text → Nat
  | '-' :: digits => digits.length
  | digits => digits.length

/-- The value that a leaf writes: quoted texts stay texts; truth values, the empty value, integers
and empty collections are recognised; anything else is a text. -/
def scalar (written : Text) : Except BlockError Value :=
  let value := stripComment (trim written)
  if value.head?.any isQuote then .ok (.text (unquote value))
  else
    let small := lower value
    if small = ['t', 'r', 'u', 'e'] then .ok (.bool true)
    else if small = ['f', 'a', 'l', 's', 'e'] then .ok (.bool false)
    else if small = ['n', 'u', 'l', 'l'] || small = ['~'] || small = [] then .ok .null
    else if isInteger value then
      if LongInteger.limit < digitCount value then .error (.longInteger ⟨digitCount value⟩)
      else .ok (.int (integerOf value))
    else if value = ['[', ']'] then .ok (.list [])
    else if value = ['\x7b', '\x7d'] then .ok (.map [])
    else .ok (.text value)

/-! ### Lines -/

/-- A line that is neither blank nor a comment: its indentation, its text and its number. -/
structure Line where
  indent : Nat
  text : Text
  number : Nat
  deriving DecidableEq

/-- The line that a row of the block is, if it counts. -/
def lineOf? (row : Text) (number : Nat) : Except BlockError (Option Line) :=
  let body := trimLeft row
  if body.isEmpty || body.head? = some '#' then .ok none
  else if (indentOf row).contains '\t' then .error (.line number .tab)
  else .ok (some ⟨(row.takeWhile (· = ' ')).length, trim row, number⟩)

/-- The lines that count among the rows from a number on. -/
def linesFrom : Nat → List Text → Except BlockError (List Line)
  | _, [] => .ok []
  | number, row :: rows => do
    let line? ← lineOf? row number
    let rest ← linesFrom (number + 1) rows
    .ok (line?.toList ++ rest)

/-- Whether a line is a list item. -/
def isItem (text : Text) : Bool := text = ['-'] || startsWith ['-', ' '] text

/-- A colon, then the end of the line or a blank and the value, at the start of a text. -/
def afterColon? : Text → Option (Option Text)
  | ':' :: rest =>
    if rest.isEmpty then some none
    else if rest.head?.any isBlank then some (some (trimLeft rest))
    else none
  | _ => none

/-- The key at the start of a line and the value behind its colon. A key is a text between quotes,
or starts with no quote and holds neither a colon nor a hash. -/
def entry? (line : Text) : Option (Text × Option Text) :=
  match line with
  | [] => none
  | first :: rest =>
    if isQuote first then
      let inner := rest.takeWhile (· != first)
      if inner.isEmpty || inner.length = rest.length then none
      else (afterColon? (trimLeft (rest.drop (inner.length + 1)))).map (inner, ·)
    else if isBlank first || first = ':' || first = '#' then none
    else
      let key := line.takeWhile fun char => char != ':' && char != '#'
      (afterColon? (line.drop key.length)).map (trimRight key, ·)

/-! ### The stack -/

/-- An open collection: what it holds so far, items last first. -/
inductive Open where
  | mapping (entries : Mapping)
  | list (items : List Value)

/-- An open collection as a value. -/
def Open.close : Open → Value
  | .mapping entries => .map entries
  | .list items => .list items.reverse

/-- Where a collection goes when it is closed: to a key of the collection around it, or behind the
items of that collection. -/
inductive Slot where
  | key (key : Text)
  | item

/-- A collection around the innermost one, its level, and where in it the next one goes. -/
structure Frame where
  level : Nat
  outer : Open
  slot : Slot

/-- The innermost open collection with its level, and those around it from the inside out. -/
structure Stack where
  level : Nat
  top : Open
  frames : List Frame

/-- A collection with a value written to a slot of it. -/
def Open.write (slot : Slot) (value : Value) : Open → Open
  | .mapping entries => match slot with
    | .key key => .mapping (Mapping.put (.text key) value entries)
    | .item => .mapping entries
  | .list items => match slot with
    | .key _ => .list items
    | .item => .list (value :: items)

/-- The stack with its innermost collection closed. -/
def Stack.pop? (stack : Stack) : Option Stack :=
  match stack.frames with
  | [] => none
  | frame :: frames =>
    some ⟨frame.level, frame.outer.write frame.slot stack.top.close, frames⟩

/-- The stack with a new collection opened inside the innermost one. A key takes its place in its
mapping when its collection is opened. -/
def Stack.push (slot : Slot) (level : Nat) (inner : Open) (stack : Stack) : Stack :=
  let outer := match slot with
    | .key _ => stack.top.write slot .null
    | .item => stack.top
  ⟨level, inner, ⟨stack.level, outer, slot⟩ :: stack.frames⟩

/-- Whether a line closes the innermost collection. -/
def Stack.closes (indent : Nat) (item : Bool) (stack : Stack) : Bool :=
  !stack.frames.isEmpty && (indent < stack.level || (match stack.top with
    | .list _ => indent = stack.level && !item
    | .mapping _ => false))

/-- The stack after a line has closed what it closes; at most `fuel` collections. -/
def Stack.unwind (indent : Nat) (item : Bool) : Nat → Stack → Stack
  | 0, stack => stack
  | fuel + 1, stack =>
    if stack.closes indent item then
      match stack.pop? with
      | some outer => Stack.unwind indent item fuel outer
      | none => stack
    else stack

/-- The value of the whole stack: every collection closed into the one around it. -/
def Stack.finish (stack : Stack) : Value :=
  stack.frames.foldl (fun value frame => (frame.outer.write frame.slot value).close)
    stack.top.close

/-! ### Reading -/

/-- The stack with a key written at a level of indentation: its value if it has one, a new
collection if the next line is indented deeper or is an item, and the empty value otherwise. -/
def Stack.assign (key : Text) (value : Option Text) (next : Option Line) (indent : Nat)
    (stack : Stack) : Except BlockError Stack :=
  match value.filter fun written => !(stripComment written).isEmpty with
  | some written => do
    let value ← scalar written
    .ok { stack with top := stack.top.write (.key key) value }
  | none => match next with
    | some line =>
      if indent < line.indent || (indent = line.indent && isItem line.text) then
        .ok (stack.push (.key key) line.indent
          (if isItem line.text then .list [] else .mapping []))
      else .ok { stack with top := stack.top.write (.key key) .null }
    | none => .ok { stack with top := stack.top.write (.key key) .null }

/-- The stack after a list item. -/
def Stack.readItem (line : Line) (next : Option Line) (stack : Stack) : Except BlockError Stack :=
  match stack.top with
  | .mapping _ => .error (.line line.number .itemOutsideList)
  | .list _ =>
    let body := trim (line.text.drop 1)
    if body.isEmpty then .error (.line line.number .emptyItem)
    else match entry? body with
      | some (key, value) =>
        (stack.push .item (line.indent + 2) (.mapping [])).assign key value next (line.indent + 2)
      | none => do
        let value ← scalar body
        .ok { stack with top := stack.top.write .item value }

/-- The stack after a line that is no list item. -/
def Stack.readEntry (line : Line) (next : Option Line) (stack : Stack) : Except BlockError Stack :=
  match stack.top with
  | .list _ => .error (.line line.number .notAnItem)
  | .mapping _ => match entry? line.text with
    | none => .error (.line line.number .notAnEntry)
    | some (key, value) => stack.assign key value next line.indent

/-- The stack after a line; `next` is the line behind it. -/
def Stack.step (line : Line) (next : Option Line) (stack : Stack) : Except BlockError Stack :=
  let item := isItem line.text
  let stack := stack.unwind line.indent item stack.frames.length
  if line.indent != stack.level then .error (.line line.number .indentation)
  else if item then stack.readItem line next
  else stack.readEntry line next

/-- The stack after the lines. -/
def Stack.run : List Line → Stack → Except BlockError Stack
  | [], stack => .ok stack
  | line :: rest, stack => do
    let stack ← stack.step line rest.head?
    Stack.run rest stack

/-- The stack before the first line: an empty mapping at level zero. -/
def Stack.start : Stack := ⟨0, .mapping [], []⟩

end Block

/-- The mapping that a configuration block writes. -/
def readBlock (text : Text) : Except BlockError Mapping := do
  let lines ← Block.linesFrom 1 (lines (dedent text))
  let stack ← Block.Stack.start.run lines
  match stack.finish with
  | .map entries => .ok entries
  | _ => .ok []

end GuidedMigration.Config
