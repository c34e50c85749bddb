import StreamMesh.Decimal.Whole
import StreamMesh.Yaml.Token.Block
import StreamMesh.Yaml.Token.Quoted

/-!
# Anchors, tags and directives

## Main definitions

* `scanAnchor` — the name of an anchor or an alias
* `scanTag` — a tag with its handle
* `scanDirective` — a directive
-/

namespace StreamMesh.Yaml

/-- A character of names. -/
def isNameChar (c : Char) : Bool :=
  ('0' ≤ c && c ≤ '9') || ('A' ≤ c && c ≤ 'Z') || ('a' ≤ c && c ≤ 'z') || c == '-' || c == '_'

/-- A character of tags, percent signs included. -/
def isTagChar (c : Char) : Bool :=
  ('0' ≤ c && c ≤ '9') || ('A' ≤ c && c ≤ 'Z') || ('a' ≤ c && c ≤ 'z')
    || "-;/?:@&=+$,_.!~*'()[]%".toList.contains c

/-- What stands where a name should be longer or end. -/
def nameError {α : Type} (k : Cursor) : Except Error α :=
  scanError (.expected "alphabetic or numeric character" k.found) k.mark

/-- A name of at least one character. -/
def scanName (k : Cursor) : Except Error (List Char × Cursor) :=
  match k.spanWhile isNameChar with
  | ([], _) => nameError k
  | (cs, k₁) => .ok (cs, k₁)

/-- The name of an anchor or an alias, from its mark on. -/
def scanAnchor (k : Cursor) : Except Error (String × Cursor) := do
  let (cs, k₁) ← scanName k.next
  if k₁.head?.all fun c => isSpaceOrBreak c || "?:,]\x7d%@`".toList.contains c then
    return (String.ofList cs, k₁)
  else nameError k₁

/-- One byte as a percent sign and two hexadecimal digits. -/
def readPercent (k : Cursor) : Except Error (UInt8 × Cursor) :=
  match readHex 2 0 k.next.rest with
  | .ok n => .ok (n.toUInt8, k.next.skip 2)
  | .error found =>
    scanError (.expected "URI escape sequence of 2 hexadecimal numbers" found) k.next.mark

/-- Bytes as percent signs and hexadecimal digits, as long as there are some. -/
def readPercents : Nat → Cursor → Except Error (List UInt8 × Cursor)
  | 0, k => .ok ([], k)
  | fuel + 1, k =>
    if k.head? == some '%' then do
      let (b, k₁) ← readPercent k
      let (bs, k₂) ← readPercents fuel k₁
      return (b :: bs, k₂)
    else .ok ([], k)

/-- What is said of bytes that encode no text. -/
def encodingReason (bytes : List UInt8) : String :=
  "'utf-8' codec can't decode byte 0x"
    ++ String.ofList (Text.hexDigits 2 (bytes.headD 0).toNat)
    ++ " in position 0: invalid start byte"

/-- The characters of a tag, with escaped bytes decoded. -/
def tagChars : Nat → Cursor → Except Error (List Char × Cursor)
  | 0, k => .ok ([], k)
  | fuel + 1, k => do
    let (cs, k₁) := k.spanWhile fun c => isTagChar c && c != '%'
    if k₁.head? == some '%' then
      let (bytes, k₂) ← readPercents fuel k₁
      match String.fromUTF8? ⟨bytes.toArray⟩ with
      | none => scanError (.badEncoding (encodingReason bytes)) k₁.mark
      | some s =>
        let (more, k₃) ← tagChars fuel k₂
        return (cs ++ s.toList ++ more, k₃)
    else return (cs, k₁)

/-- The characters of a tag, of which there has to be one. -/
def scanTagChars (k : Cursor) : Except Error (List Char × Cursor) := do
  let (cs, k₁) ← tagChars (k.rest.length + 1) k
  if cs.isEmpty && k₁.mark == k.mark then scanError (.expected "URI" k₁.found) k₁.mark
  else return (cs, k₁)

/-- The handle of a tag: an exclamation mark, or a name between two. -/
def scanHandle (k : Cursor) : Except Error (String × Cursor) :=
  if k.head? != some '!' then scanError (.expected "'!'" k.found) k.mark
  else if k.next.head? == some ' ' then .ok ("!", k.next)
  else
    let (cs, k₁) := k.next.spanWhile isNameChar
    if k₁.head? == some '!' then .ok (String.ofList ('!' :: (cs ++ ['!'])), k₁.next)
    else scanError (.expected "'!'" k₁.found) k₁.mark

/-- Whether a space, a line break or the end of the text comes next. -/
def atSpaceOrEnd (k : Cursor) : Bool := k.head?.all fun c => c == ' ' || isBreak c

/-- Whether a tag has a second exclamation mark before it ends. -/
def hasHandle (k : Cursor) : Bool :=
  (k.next.rest.takeWhile fun c => !(c == ' ' || isBreak c)).contains '!'

/-- A tag: its handle, if it has one, and what follows. -/
def scanTag (k : Cursor) : Except Error (Option String × String × Cursor) := do
  let (handle, suffix, k₁) ←
    if k.next.head? == some '<' then do
      let (cs, k₁) ← scanTagChars (k.skip 2)
      if k₁.head? == some '>' then pure ((none : Option String), String.ofList cs, k₁.next)
      else scanError (.expected "'>'" k₁.found) k₁.mark
    else if k.blankAt 1 then pure (none, "!", k.next)
    else do
      let (handle, k₁) ← if hasHandle k then scanHandle k else pure ("!", k.next)
      let (cs, k₂) ← scanTagChars k₁
      pure (some handle, String.ofList cs, k₂)
  if atSpaceOrEnd k₁ then return (handle, suffix, k₁)
  else scanError (.expected "' '" k₁.found) k₁.mark

/-- A decimal number of a version. -/
def scanVersionNumber (k : Cursor) : Except Error (Nat × Cursor) :=
  match k.spanWhile Char.isDigit with
  | ([], _) => scanError (.expected "a digit" k.found) k.mark
  | (ds, k₁) =>
    if Decimal.maxDigits < ds.length then
      .error (.badSpelling (Decimal.tooLongToRead ds.length))
    else .ok (ds.foldl (fun n c => n * 10 + (c.toNat - '0'.toNat)) 0, k₁)

/-- The version that a directive names. -/
def scanVersion (k : Cursor) : Except Error (Lexeme × Cursor) := do
  let (major, k₁) ← scanVersionNumber (k.dropWhile (· == ' '))
  if k₁.head? != some '.' then scanError (.expected "a digit or '.'" k₁.found) k₁.mark
  let (_, k₂) ← scanVersionNumber k₁.next
  if !atSpaceOrEnd k₂ then scanError (.expected "a digit or ' '" k₂.found) k₂.mark
  return (.version major, k₂)

/-- The handle that a directive gives, and what it stands for. -/
def scanHandleDirective (k : Cursor) : Except Error (Lexeme × Cursor) := do
  let (name, k₁) ← scanHandle (k.dropWhile (· == ' '))
  if k₁.head? != some ' ' then scanError (.expected "' '" k₁.found) k₁.mark
  let (cs, k₂) ← scanTagChars (k₁.dropWhile (· == ' '))
  if !atSpaceOrEnd k₂ then scanError (.expected "' '" k₂.found) k₂.mark
  return (.handle name (String.ofList cs), k₂)

/-- A directive with the rest of its line, and the place where it stops. -/
def scanDirective (k : Cursor) : Except Error (Lexeme × Cursor × Mark) := do
  let (cs, k₁) ← scanName k.next
  if !atSpaceOrEnd k₁ then nameError k₁
  let (lexeme, k₂) ←
    if cs == "YAML".toList then scanVersion k₁
    else if cs == "TAG".toList then scanHandleDirective k₁
    else pure (Lexeme.otherDirective, k₁)
  let k₃ := if lexeme == .otherDirective then k₂.dropWhile (fun c => !isBreak c) else k₂
  let k₄ ← ignoredLine k₃
  return (lexeme, k₄, k₂.mark)

end StreamMesh.Yaml
