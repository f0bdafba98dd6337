/-
This file escapes characters by a percent sign and the two hexadecimal digits of each of their
bytes, and resolves such escapes again. Bytes that are no character are resolved to replacement
characters, one for each of them.
-/
import GuidedMigration.Text.Utf8

namespace GuidedMigration.Text

/-- The hexadecimal digits of a byte in capital letters, behind a percent sign. -/
def percentByte (byte : UInt8) : Text := '%' :: (hex 2 byte.toNat).map asciiUpper

/-- Whether a character needs no escape; `kept` are marks that need none. -/
def isUnescaped (kept : List Char) (char : Char) : Bool := isAsciiAlnum char || kept.contains char

/-- A text with every character escaped that needs it. What looks like an escape stays one. -/
def percentEncode (kept : List Char) : Text → Text
  | '%' :: first :: second :: rest =>
    if isHexDigit first && isHexDigit second then
      '%' :: first :: second :: percentEncode kept rest
    else percentByte 0x25 ++ percentEncode kept (first :: second :: rest)
  | char :: rest =>
    (if isUnescaped kept char then [char] else (Utf8.encodeChar char).flatMap percentByte) ++
      percentEncode kept rest
  | [] => []

/-- The bytes of the escapes at the start of a text, and the text behind them. -/
def percentRun : Text → List UInt8 × Text
  | '%' :: first :: second :: rest =>
    if isHexDigit first && isHexDigit second then
      let (bytes, behind) := percentRun rest
      (UInt8.ofNat (hexValue first * 16 + hexValue second) :: bytes, behind)
    else ([], '%' :: first :: second :: rest)
  | text => ([], text)

/-- How many bytes follow a byte that starts a character, by its first bits alone. -/
def claimedBytes (byte : UInt8) : Nat :=
  let code := byte.toNat
  if code / 32 = 6 then 1 else if code / 16 = 14 then 2 else if code / 8 = 30 then 3 else 0

/-- Bytes resolved to characters; the bytes of ASCII characters in `kept` stay escaped. `skip` bytes
still belong to the last character. -/
def percentChars (kept : List Char) : Nat → List UInt8 → Text
  | _, [] => []
  | skip + 1, _ :: rest => percentChars kept skip rest
  | 0, byte :: rest =>
    if byte.toNat < 0x80 then
      let char := Char.ofNat byte.toNat
      (if kept.contains char then percentByte byte else [char]) ++ percentChars kept 0 rest
    else
      let count := claimedBytes byte
      let others := rest.take count
      if count != 0 && others.length = count && others.all (·.toNat / 64 = 2) then
        (match Utf8.decode (byte :: others) with
          | .ok text => text
          | .error _ => List.replicate (count + 1) (Char.ofNat 0xFFFD)) ++
          percentChars kept count rest
      else Char.ofNat 0xFFFD :: percentChars kept 0 rest

/-- A text with its escapes resolved, those of the ASCII characters in `kept` excepted. -/
def percentDecode (kept : List Char) (text : Text) : Text :=
  replaceFound (fun _ text =>
    let (bytes, _) := percentRun text
    if bytes.isEmpty then none else some (bytes, 3 * bytes.length)) (percentChars kept 0) text

end GuidedMigration.Text
