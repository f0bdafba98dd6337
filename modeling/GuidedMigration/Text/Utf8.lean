/-
This file writes texts as UTF-8 bytes and reads them back. Reading names the first bytes that are
not the form of a character: a byte that starts none, a byte that does not continue the character
begun, or an end in the middle of a character.
-/
import GuidedMigration.Text.Character

namespace GuidedMigration.Utf8

/-- Bytes. -/
abbrev Bytes := List UInt8

/-- The bytes of a character. -/
def encodeChar (char : Char) : Bytes :=
  let code := char.toNat
  if code < 0x80 then [UInt8.ofNat code]
  else if code < 0x800 then
    [UInt8.ofNat (0xC0 + code / 64), UInt8.ofNat (0x80 + code % 64)]
  else if code < 0x10000 then
    [UInt8.ofNat (0xE0 + code / 4096), UInt8.ofNat (0x80 + code / 64 % 64),
      UInt8.ofNat (0x80 + code % 64)]
  else
    [UInt8.ofNat (0xF0 + code / 262144), UInt8.ofNat (0x80 + code / 4096 % 64),
      UInt8.ofNat (0x80 + code / 64 % 64), UInt8.ofNat (0x80 + code % 64)]

/-- The bytes of a text. -/
def encode (text : Text) : Bytes := text.flatMap encodeChar

/-- Why bytes are no text. -/
inductive Reason where
  | start
  | continuation
  | ending
  deriving DecidableEq

/-- The wording of a reason. -/
def Reason.message : Reason → Text
  | .start => "invalid start byte".toList
  | .continuation => "invalid continuation byte".toList
  | .ending => "unexpected end of data".toList

/-- The first bytes that are no character: how many, the first of them, where it stands, and why. -/
structure Fault where
  position : Nat
  byte : UInt8
  count : Nat
  reason : Reason
  deriving DecidableEq

/-- The wording of a fault. -/
def Fault.message (fault : Fault) : Text :=
  "'utf-8' codec can't decode ".toList ++
    (if fault.count = 1 then
      "byte 0x".toList ++ Text.hex 2 fault.byte.toNat ++ " in position ".toList ++
        Text.ofNat fault.position
    else
      "bytes in position ".toList ++ Text.ofNat fault.position ++ ['-'] ++
        Text.ofNat (fault.position + fault.count - 1)) ++
    [':', ' '] ++ fault.reason.message

/-- How many bytes follow the first byte of a character, and between which bounds the second byte
lies. -/
def follow? (byte : UInt8) : Option (Nat × Nat × Nat) :=
  let code := byte.toNat
  if code < 0x80 then some (0, 0, 0)
  else if 0xC2 ≤ code && code ≤ 0xDF then some (1, 0x80, 0xBF)
  else if code = 0xE0 then some (2, 0xA0, 0xBF)
  else if code = 0xED then some (2, 0x80, 0x9F)
  else if 0xE1 ≤ code && code ≤ 0xEF then some (2, 0x80, 0xBF)
  else if code = 0xF0 then some (3, 0x90, 0xBF)
  else if 0xF1 ≤ code && code ≤ 0xF3 then some (3, 0x80, 0xBF)
  else if code = 0xF4 then some (3, 0x80, 0x8F)
  else none

/-- How many of the next bytes continue a character that still needs `needed` bytes, the first of
them between the bounds. -/
def continuing : Nat → Nat → Nat → Bytes → Nat
  | 0, _, _, _ => 0
  | _ + 1, _, _, [] => 0
  | needed + 1, low, high, byte :: rest =>
    if low ≤ byte.toNat && byte.toNat ≤ high then continuing needed 0x80 0xBF rest + 1 else 0

/-- The part of a code point that a first byte holds. -/
def leadBits (needed : Nat) (byte : UInt8) : Nat :=
  match needed with
  | 0 => byte.toNat
  | 1 => byte.toNat % 32
  | 2 => byte.toNat % 16
  | _ => byte.toNat % 8

/-- Reads bytes from a position on; `skip` bytes still belong to the last character. -/
def decodeFrom : Nat → Nat → Bytes → Except Fault Text
  | _, _, [] => .ok []
  | skip + 1, position, _ :: rest => decodeFrom skip (position + 1) rest
  | 0, position, byte :: rest => match follow? byte with
    | none => .error ⟨position, byte, 1, .start⟩
    | some (needed, low, high) =>
      let count := continuing needed low high rest
      if count < needed then
        .error ⟨position, byte, count + 1,
          if count = rest.length then .ending else .continuation⟩
      else do
        let code := (rest.take needed).foldl (fun code next => code * 64 + next.toNat % 64)
          (leadBits needed byte)
        let text ← decodeFrom needed (position + 1) rest
        .ok (Char.ofNat code :: text)

/-- The text that bytes write. -/
def decode (bytes : Bytes) : Except Fault Text := decodeFrom 0 0 bytes

end GuidedMigration.Utf8
