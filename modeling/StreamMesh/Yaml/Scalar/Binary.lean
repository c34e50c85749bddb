import StreamMesh.Yaml.Error

/-!
# Bytes in base 64

Four characters stand for three bytes. Characters of no value are passed over, and an equals sign
at the end of a group ends the text.

## Main definitions

* `bytesOfBase64` — the bytes of a text
-/

namespace StreamMesh.Yaml

/-- The value of a character in base 64. -/
def base64Value? (c : Char) : Option Nat :=
  if 'A' ≤ c ∧ c ≤ 'Z' then some (c.toNat - 'A'.toNat)
  else if 'a' ≤ c ∧ c ≤ 'z' then some (c.toNat - 'a'.toNat + 26)
  else if '0' ≤ c ∧ c ≤ '9' then some (c.toNat - '0'.toNat + 52)
  else if c = '+' then some 62
  else if c = '/' then some 63
  else none

/-- What is said of a text whose last group has one character. -/
def loneCharacter (bytes : Nat) : String :=
  "Invalid base64-encoded string: number of data characters (" ++ toString (bytes / 3 * 4 + 1)
    ++ ") cannot be 1 more than a multiple of 4"

/-- The bytes of a text, from a place inside a group on: `filled` characters of the group have been
read, `left` are the bits that are not written yet, `pads` the equals signs since the last
character, and `written` the bytes before. -/
def base64Rest (filled left pads written : Nat) : List Char → Except String (List UInt8)
  | [] =>
    if filled = 0 then .ok []
    else if filled = 1 then .error (loneCharacter written)
    else .error "Incorrect padding"
  | c :: rest =>
    if c = '=' then
      if 2 ≤ filled then
        if 4 ≤ filled + (pads + 1) then .ok [] else base64Rest filled left (pads + 1) written rest
      else base64Rest filled left pads written rest
    else match base64Value? c with
      | none => base64Rest filled left pads written rest
      | some v =>
        match filled with
        | 0 => base64Rest 1 v 0 written rest
        | 1 => (base64Rest 2 (v % 16) 0 (written + 1) rest).map ((left * 4 + v / 16).toUInt8 :: ·)
        | 2 => (base64Rest 3 (v % 4) 0 (written + 1) rest).map ((left * 16 + v / 4).toUInt8 :: ·)
        | _ => (base64Rest 0 0 0 (written + 1) rest).map ((left * 64 + v).toUInt8 :: ·)

/-- A code point by its number. -/
def codeText (n : Nat) : List Char :=
  if n < 0x100 then '\\' :: 'x' :: Text.hexDigits 2 n
  else if n < 0x10000 then '\\' :: 'u' :: Text.hexDigits 4 n
  else '\\' :: 'U' :: Text.hexDigits 8 n

/-- What is said of the first code points beyond ASCII in a text, if there are some. -/
def asciiDefect? (ps : List Point) : Option String :=
  let first := (ps.takeWhile fun p => p.code < 128).length
  match (ps.drop first).takeWhile fun p => 128 ≤ p.code with
  | [] => none
  | [p] =>
    some ("'ascii' codec can't encode character '" ++ String.ofList (codeText p.code)
      ++ "' in position " ++ toString first ++ ": ordinal not in range(128)")
  | run =>
    some ("'ascii' codec can't encode characters in position " ++ toString first ++ "-"
      ++ toString (first + run.length - 1) ++ ": ordinal not in range(128)")

/-- The bytes of a text, or what is wrong with it. -/
def bytesOfBase64 (ps : List Point) : Except Problem (List UInt8) :=
  match asciiDefect? ps with
  | some reason => .error (.notAscii reason)
  | none => match base64Rest 0 0 0 0 (ps.filterMap Point.char?) with
    | .ok bytes => .ok bytes
    | .error reason => .error (.badBase64 reason)

end StreamMesh.Yaml
