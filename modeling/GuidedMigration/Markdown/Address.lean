/-
This file brings the address of a link into its final form. An address is cut into its parts; the
host is written in ASCII, or for display in its own characters; the parts are joined again, and the
characters that an address may not hold are escaped. Addresses that would run a script or read a
file are refused.
-/
import GuidedMigration.Text.Case
import GuidedMigration.Text.Percent
import GuidedMigration.Text.Punycode

namespace GuidedMigration.Markdown

open Text

/-- The parts of an address. A part that is missing is empty. -/
structure Address where
  scheme : Text
  slashes : Bool
  account : Text
  host : Text
  service : Text
  path : Text
  query : Text
  fragment : Text

namespace Address

/-! ### Cutting -/

/-- The scheme at the start of an address, its colon included. -/
def schemeOf (text : Text) : Text :=
  let name := text.takeWhile fun char =>
    isAsciiAlnum (foldChar char) || char = '.' || char = '+' || char = '-'
  if !name.isEmpty && (text.drop name.length).head? = some ':' then name ++ [':'] else []

/-- The schemes that are always followed by two slashes. -/
def slashedSchemes : List Text :=
  ["http:", "https:", "ftp:", "gopher:", "file:"].map String.toList

/-- The scheme that has no host. -/
def hostlessScheme : Text := "javascript:".toList

/-- The characters that end a host and what may stand before it. -/
def hostEnds : List Char := ['/', '?', '#']

/-- The characters that no host has. -/
def nonHostChars : List Char :=
  ['%', '/', '?', ';', '#', '\'', '\x7b', '\x7d', '|', '\\', '^', '\x60', '<', '>', '"', ' ', '\r',
    '\n', '\t']

/-- The characters of the parts of a host name. -/
def isHostChar (char : Char) : Bool :=
  isAsciiAlnum char || char = '+' || char = '_' || char = '-'

/-- The account before the host, and what follows its last at sign. -/
def splitAccount (text : Text) : Text × Text :=
  let region := text.takeWhile (!hostEnds.contains ·)
  if region.contains '@' then
    let behind := (region.reverse.takeWhile (· != '@')).length
    (text.take (region.length - behind - 1), text.drop (region.length - behind))
  else ([], text)

/-- The host with the number of its service, and what follows; a colon at its end belongs to what
follows. -/
def splitHost (text : Text) : Text × Text :=
  let host := text.takeWhile (!nonHostChars.contains ·)
  let size := if host.getLast? = some ':' then host.length - 1 else host.length
  (text.take size, text.drop size)

/-- The host and the number of its service, which is the decimal digits behind the last colon. -/
def splitService (host : Text) : Text × Text :=
  let digits := (host.reverse.takeWhile isAsciiDigit).reverse
  let before := host.take (host.length - digits.length)
  if before.getLast? = some ':' then (before.dropLast, digits) else (host, [])

/-- Whether a part of a host name is one when other characters than ASCII count as letters. -/
def isHostPart (part : Text) : Bool :=
  part.length ≤ 63 && part.all fun char => isHostChar char || 127 < char.toNat

/-- The parts of a host name up to the first that is none, and what is left from there on; nothing
is left if all parts are parts of a host name. -/
def validParts : List Text → List Text × Option (List Text)
  | [] => ([], none)
  | part :: parts =>
    if isHostPart part then
      let (valid, left) := validParts parts
      (part :: valid, left)
    else
      let start := (part.takeWhile isHostChar).take 63
      ([start], some (part.drop start.length :: parts))

/-- Whether a host is an address in brackets. -/
def isBracketed (host : Text) : Bool := host.head? = some '[' && host.getLast? = some ']'

/-- A host checked, and the text behind it with what was cut off the host put before it. -/
def checkHost (host rest : Text) : Text × Text :=
  if isBracketed host then (if 255 < host.length then [] else (host.drop 1).dropLast, rest)
  else
    let (valid, left) := validParts (splitOn '.' host)
    let rest := match left with
      | some parts => joinWith ['.'] parts ++ rest
      | none => rest
    let host := joinWith ['.'] valid
    (if 255 < host.length then [] else host, rest)

/-- What follows the host: the path, the query and the fragment. -/
def withTail (address : Address) (text : Text) : Address :=
  let beforeFragment := text.takeWhile (· != '#')
  let path := beforeFragment.takeWhile (· != '?')
  { address with
    path := path
    query := beforeFragment.drop path.length
    fragment := text.drop beforeFragment.length }

/-- The parts of an address. -/
def ofText (text : Text) : Address :=
  let text := trim text
  let scheme := schemeOf text
  let rest := text.drop scheme.length
  let slashes := startsWith ['/', '/'] rest
  let marked := slashes && scheme != hostlessScheme
  let rest := if marked then rest.drop 2 else rest
  let hasHost := scheme != hostlessScheme &&
    (slashes || (!scheme.isEmpty && !slashedSchemes.contains scheme))
  if hasHost then
    let (account, rest) := splitAccount rest
    let (host, rest) := splitHost rest
    let (host, service) := splitService host
    let (host, rest) := checkHost host rest
    withTail ⟨scheme, marked, account, host, service, [], [], []⟩ rest
  else withTail ⟨scheme, marked, [], [], [], [], [], []⟩ rest

/-- The parts joined to an address. -/
def toText (address : Address) : Text :=
  address.scheme ++ (if address.slashes then ['/', '/'] else []) ++
    (if address.account.isEmpty then [] else address.account ++ ['@']) ++
    (if address.host.contains ':' then '[' :: address.host ++ [']'] else address.host) ++
    (if address.service.isEmpty then [] else ':' :: address.service) ++
    address.path ++ address.query ++ address.fragment

/-! ### The host -/

/-- The points that separate the labels of a host name. -/
def isLabelMark (char : Char) : Bool :=
  char = '.' || char.toNat = 0x3002 || char.toNat = 0xFF0E || char.toNat = 0xFF61

/-- The parts of a text between the characters that satisfy `isMark`. -/
def splitAt (isMark : Char → Bool) : Text → List Text
  | [] => [[]]
  | char :: text =>
    if isMark char then [] :: splitAt isMark text
    else match splitAt isMark text with
      | [] => [[char]]
      | part :: parts => (char :: part) :: parts

/-- A host with every label changed; nothing if a label cannot be changed. -/
def mapLabels? (change? : Text → Option Text) (host : Text) : Option Text :=
  let parts := splitOn '@' host
  let (before, domain) := match parts with
    | first :: second :: _ => (first ++ ['@'], second)
    | _ => ([], host)
  ((splitAt isLabelMark domain).mapM change?).map fun labels => before ++ joinWith ['.'] labels

/-- What a label in ASCII starts with if it stands for other characters. -/
def labelMark : Text := ['x', 'n', '-', '-']

/-- A label in ASCII. -/
def asciiLabel (label : Text) : Text :=
  if label.any (126 < ·.toNat) then labelMark ++ Punycode.encode label else label

/-- A label in its own characters. -/
def ownLabel? (label : Text) : Option Text :=
  match dropPrefix? labelMark label with
  | some rest => Punycode.decode? (lower rest)
  | none => some label

/-- Whether the host of an address is a host name. -/
def namesHost (address : Address) : Bool :=
  !address.host.isEmpty && (address.scheme.isEmpty ||
    ["http:".toList, "https:".toList, "mailto:".toList].contains address.scheme)

/-- An address with its host changed, where that can be done. -/
def mapHost (change? : Text → Option Text) (address : Address) : Address :=
  if address.namesHost then
    { address with host := (mapLabels? change? address.host).getD address.host }
  else address

/-! ### The final form -/

/-- The marks that an address holds as they are. -/
def keptMarks : List Char := ";/?:@&=+$,-_.!~*'()#".toList

/-- The marks that stay escaped when an address is shown. -/
def shownMarks : List Char := ";/?:@&=+$,#%".toList

/-- The address of a link in its final form. -/
def normalize (text : Text) : Text :=
  percentEncode keptMarks ((ofText text).mapHost fun label => some (asciiLabel label)).toText

/-- An address as it is shown. -/
def shown (text : Text) : Text :=
  percentDecode shownMarks ((ofText text).mapHost ownLabel?).toText

/-- The schemes of addresses that are refused. -/
def refusedSchemes : List Text :=
  ["vbscript:", "javascript:", "file:", "data:"].map String.toList

/-- The starts of data that is an image and not refused. -/
def imageStarts : List Text :=
  ["data:image/gif;", "data:image/png;", "data:image/jpeg;", "data:image/webp;"].map String.toList

/-- Whether an address may be linked to. -/
def isAllowed (text : Text) : Bool :=
  let small := lower (trim text)
  !refusedSchemes.any (startsWith · small) || imageStarts.any (startsWith · small)

end Address

end GuidedMigration.Markdown
