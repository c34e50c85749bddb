import StreamMesh.Console.Emoji
import StreamMesh.Console.Style

/-!
# Markup

A message may hold tags in square brackets that open and close styles. On a plain console styles
have no effect, so tags only vanish; a bracket that starts no tag stands for itself, and so does a
tag after a backslash. A closing tag has to close a style that is open. A tag that starts with an at
sign names a handler, whose parameters are read when the tag is closed; what can be read is left
open.

## Main definitions

* `Markup` — a stretch of text, or a tag
* `Markup.ofText` — the parts of a message
* `Markup.Opened` — an open style
* `Markup.plain?` — the text that is left, if all closing tags close a style
-/

namespace StreamMesh

/-- A part of a message. -/
inductive Markup where
  | text (cs : List Char)
  /-- A tag by its name and what it is set to. -/
  | tag (name parameters : List Char)
  deriving DecidableEq, Repr

namespace Markup

/-- Whether a tag can start with a character. -/
def startsTag (c : Char) : Bool := ('a' ≤ c && c ≤ 'z') || c == '#' || c == '/' || c == '@'

/-- What stands before the next closing bracket, and what comes after, if no bracket opens first. -/
def untilBracket : List Char → Option (List Char × List Char)
  | [] => none
  | ']' :: rest => some ([], rest)
  | '[' :: _ => none
  | c :: rest => (untilBracket rest).map fun (inside, more) => (c :: inside, more)

/-- The tag after an opening bracket, and what comes after it. -/
def tagAfterBracket : List Char → Option (List Char × List Char)
  | c :: rest =>
    if startsTag c then (untilBracket rest).map fun (inside, more) => (c :: inside, more) else none
  | [] => none

/-- The name of a tag, without what it is set to. -/
def nameOf (inside : List Char) : List Char := inside.takeWhile (· != '=')

/-- What a tag is set to, which is nothing where there is no equals sign. -/
def parametersOf (inside : List Char) : List Char := (inside.dropWhile (· != '=')).tail

/-- Puts a character in front of a message. -/
def consChar (c : Char) : List Markup → List Markup
  | text cs :: rest => text (c :: cs) :: rest
  | parts => text [c] :: parts

/-- Puts some characters in front of a message. -/
def consChars (cs : List Char) (parts : List Markup) : List Markup := cs.foldr consChar parts

/-- Puts a stretch of text in front of a message, apart from the text that follows. -/
def consText (cs : List Char) (parts : List Markup) : List Markup :=
  if cs = [] then parts else text [] :: text cs :: parts

/-- The parts of a message after some backslashes, of which every two before a tag stand for one. A
backslash before a bracket that starts no tag is passed over. Reading goes on as long as there is
fuel. -/
def partsFrom : Nat → Nat → List Char → List Markup
  | 0, _, _ => []
  | _, slashes, [] => if slashes = 0 then [] else [text (List.replicate slashes '\\')]
  | fuel + 1, slashes, c :: rest =>
    if c = '\\' then partsFrom fuel (slashes + 1) rest
    else if c = '[' then match tagAfterBracket rest with
      | some (inside, more) =>
        -- Backslashes before a tag come in pairs; one that is left over takes its meaning away.
        let kept := List.replicate (slashes / 2) '\\'
        if slashes % 2 = 1 then
          consText kept (consText ('[' :: inside ++ [']']) (partsFrom fuel 0 more))
        else consText kept (tag (nameOf inside) (parametersOf inside) :: partsFrom fuel 0 more)
      -- No tag starts here, but a backslash right before the bracket is dropped all the same.
      | none => consChars (List.replicate (slashes - 1) '\\' ++ [c]) (partsFrom fuel 0 rest)
    else consChars (List.replicate slashes '\\' ++ [c]) (partsFrom fuel 0 rest)

/-- The parts of a message. -/
def ofText (cs : List Char) : List Markup := partsFrom (cs.length + 1) 0 cs

/-- A style that is open, with what its tag is set to. -/
structure Opened where
  name : String
  parameters : List Char
  deriving DecidableEq, Repr

/-- Whether the parameters of a handler are a name alone, which takes no arguments. -/
def isBareHandler (parameters : List Char) : Bool :=
  (Text.trim parameters).all fun c => c.isAlphanum || c == '_' || c == '.'

/-- Whether a character has no place on a console: the bell, and those that move the cursor within
a line or to another page. -/
def isStripped (c : Char) : Bool := [7, 8, 11, 12, 13].contains c.toNat

section Handlers

/- Which parameters of handlers can be read. -/
variable (readable : List Char → Bool)

/-- Whether a style can be closed: the parameters of a handler have to be readable. -/
def Opened.closes (o : Opened) : Bool :=
  o.name.toList.head? != some '@' || o.parameters.isEmpty || readable o.parameters

/-- Removes the style of the latest tag of a name from the open ones, latest first. -/
def close (name : String) : List Opened → Option (List Opened)
  | [] => none
  | o :: rest =>
    if o.name = name then if o.closes readable then some rest else none
    else (close name rest).map (o :: ·)

/-- The open styles after a tag. A closing tag without a name closes the latest style. -/
def afterTag (opened : List Opened) (name parameters : List Char) : Option (List Opened) :=
  match name with
  | '/' :: rest =>
    if Text.trim rest = [] then match opened with
      | [] => none
      | o :: others => if o.closes readable then some others else none
    else close readable (Style.normalForm (Text.trim rest)) opened
  | name => some (⟨Style.normalForm name, parameters⟩ :: opened)

/-- The text of some parts, while some styles are open. -/
def plainFrom : List Opened → List Markup → Option (List Char)
  | _, [] => some []
  | opened, text cs :: rest =>
    (plainFrom opened rest).map ((Emoji.expand cs).filter (!isStripped ·) ++ ·)
  | opened, tag name parameters :: rest => match afterTag readable opened name parameters with
    | some opened' => plainFrom opened' rest
    | none => none

/-- The text of a message without its tags; there is none if a closing tag closes nothing. -/
def plain? (s : String) : Option String :=
  (plainFrom readable [] (ofText s.toList)).map String.ofList

end Handlers

end Markup

end StreamMesh
