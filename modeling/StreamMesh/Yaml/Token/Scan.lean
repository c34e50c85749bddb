import StreamMesh.Yaml.Token.Property

/-!
# The tokens of a text

A text is cut into tokens from left to right. Two things are told by looking further: blocks start
and end with the indentation of their lines, and a key on the line of its value is only known to be
one when its colon is reached. A token that may turn out to start such a key is held back, with all
after it, until that is settled.

## Main definitions

* `Scanner` — the state between two tokens
* `Scanner.fetch` — the next tokens
* `Tokens` — the tokens up to the end of the text or to an error
* `scan` — the tokens of a text
-/

namespace StreamMesh.Yaml

/-- The start of what may turn out to be a key on the line of its value. -/
structure KeyStart where
  /-- How many tokens come before the key. -/
  number : Nat
  /-- Whether nothing but a key can stand here. -/
  required : Bool
  mark : Mark
  deriving DecidableEq, Repr

/-- The state between two tokens. -/
structure Scanner where
  cursor : Cursor
  /-- The column of the innermost block. -/
  indent : Int
  /-- The columns of the blocks around it. -/
  outer : List Int
  /-- How many flow collections are open. -/
  flowLevel : Nat
  /-- Whether a key on the line of its value may start here. -/
  keyAllowed : Bool
  /-- The possible keys, by the level of flow collections at which they stand. -/
  keys : List (Nat × KeyStart)
  /-- The tokens that are held back. -/
  held : List Token
  /-- How many tokens have been passed on. -/
  taken : Nat
  ended : Bool

namespace Scanner

/-- The state before the first token. -/
def start (cs : List Char) : Scanner where
  cursor := .ofText cs
  indent := -1
  outer := []
  flowLevel := 0
  keyAllowed := true
  keys := []
  held := []
  taken := 0
  ended := false

/-- The place of the next character. -/
def mark (s : Scanner) : Mark := s.cursor.mark

/-- The column of the next character. -/
def column (s : Scanner) : Int := s.cursor.mark.column

/-- Whether no flow collection is open. -/
def inBlock (s : Scanner) : Bool := s.flowLevel == 0

/-- Adds a token to those that are held back. -/
def emit (s : Scanner) (lexeme : Lexeme) (start stop : Mark) : Scanner :=
  { s with held := s.held ++ [⟨lexeme, start, stop⟩] }

/-- Adds a token of some characters. -/
def emitMark (s : Scanner) (lexeme : Lexeme) (length : Nat) : Scanner :=
  let after := s.cursor.skip length
  { s.emit lexeme s.mark after.mark with cursor := after }

/-- Adds a token among those that are held back, at its number. -/
def insertAt (s : Scanner) (number : Nat) (lexeme : Lexeme) (m : Mark) : Scanner :=
  let (before, after) := s.held.splitAt (number - s.taken)
  { s with held := before ++ ⟨lexeme, m, m⟩ :: after }

/-- The most characters between the start of a key and its colon. -/
def maxKeyLength : Nat := 1024

/-- Whether a possible key is none because its line has ended or it is too long. -/
def isStale (s : Scanner) (key : KeyStart) : Bool :=
  key.mark.line != s.mark.line || maxKeyLength < s.mark.index - key.mark.index

/-- Forgets possible keys that are none. -/
def dropStale (s : Scanner) : Except Error Scanner :=
  if s.keys.any fun k => s.isStale k.2 && k.2.required then scanError .keyWithoutColon s.mark
  else .ok { s with keys := s.keys.filter fun k => !s.isStale k.2 }

/-- Forgets the possible key of the innermost flow collection. -/
def dropKey (s : Scanner) : Except Error Scanner :=
  match s.keys.lookup s.flowLevel with
  | none => .ok s
  | some key =>
    if key.required then scanError .keyWithoutColon s.mark
    else .ok { s with keys := s.keys.filter fun k => k.1 != s.flowLevel }

/-- Notes that a key may start with the next token. -/
def noteKey (s : Scanner) : Except Error Scanner :=
  if s.keyAllowed then do
    let required := s.inBlock && s.indent == s.column
    let s ← s.dropKey
    return { s with keys := (s.flowLevel, ⟨s.taken + s.held.length, required, s.mark⟩) :: s.keys }
  else .ok s

/-- Ends the blocks that stand further right than `column`. -/
def unwind (s : Scanner) (column : Int) : Scanner :=
  if s.inBlock then go s s.indent s.outer else s
where
  go (s : Scanner) (indent : Int) : List Int → Scanner
    | [] => { s with indent := indent, outer := [] }
    | next :: outer =>
      if column < indent then go (s.emit .blockEnd s.mark s.mark) next outer
      else { s with indent := indent, outer := next :: outer }

/-- Starts a block at a column, and says whether it is a new one. -/
def openBlock (s : Scanner) (column : Int) : Scanner × Bool :=
  if s.indent < column then ({ s with outer := s.indent :: s.outer, indent := column }, true)
  else (s, false)

/-- Starts a block of a kind at the next character, if there a new one starts. -/
def openHere (s : Scanner) (lexeme : Lexeme) : Scanner :=
  match s.openBlock s.column with
  | (s, true) => s.emit lexeme s.mark s.mark
  | (s, false) => s

/-- Passes over blanks, comments and line ends. -/
def skipToToken (s : Scanner) : Scanner :=
  let start :=
    if s.mark.index = 0 ∧ s.cursor.head? = some (Char.ofNat 0xFEFF) then s.cursor.next else s.cursor
  let (after, lineEnded) := go false false start.rest start.mark
  { s with cursor := after, keyAllowed := s.keyAllowed || (lineEnded && s.inBlock) }
where
  go (comment lineEnded : Bool) : List Char → Mark → Cursor × Bool
    | [], m => (⟨[], m⟩, lineEnded)
    | c :: rest, m =>
      if isBreak c then go false true rest (m.after c rest)
      else if comment || c == ' ' then go comment lineEnded rest (m.after c rest)
      else if c == '#' then go true lineEnded rest (m.after c rest)
      else (⟨c :: rest, m⟩, lineEnded)

/-- The end of the text. -/
def fetchEnd (s : Scanner) : Except Error Scanner := do
  let s ← (s.unwind (-1)).dropKey
  return { s.emit .streamEnd s.mark s.mark with keyAllowed := false, keys := [], ended := true }

/-- A directive. -/
def fetchDirective (s : Scanner) : Except Error Scanner := do
  let s ← (s.unwind (-1)).dropKey
  let (lexeme, after, stop) ← scanDirective s.cursor
  return { s.emit lexeme s.mark stop with keyAllowed := false, cursor := after }

/-- The start or the end of a document. -/
def fetchSeparator (s : Scanner) (lexeme : Lexeme) : Except Error Scanner := do
  let s ← (s.unwind (-1)).dropKey
  return { s.emitMark lexeme 3 with keyAllowed := false }

/-- The start of a flow collection. -/
def fetchFlowStart (s : Scanner) (lexeme : Lexeme) : Except Error Scanner := do
  let s ← s.noteKey
  return { s.emitMark lexeme 1 with flowLevel := s.flowLevel + 1, keyAllowed := true }

/-- The end of a flow collection. -/
def fetchFlowEnd (s : Scanner) (lexeme : Lexeme) : Except Error Scanner := do
  let s ← s.dropKey
  return { s.emitMark lexeme 1 with flowLevel := s.flowLevel - 1, keyAllowed := false }

/-- A comma between the items of a flow collection. -/
def fetchComma (s : Scanner) : Except Error Scanner := do
  let s ← s.dropKey
  return { s.emitMark .comma 1 with keyAllowed := true }

/-- The mark of a list item. -/
def fetchEntry (s : Scanner) : Except Error Scanner := do
  if s.inBlock && !s.keyAllowed then scanError .entryNotAllowed s.mark
  let s ← (if s.inBlock then s.openHere .blockSequence else s).dropKey
  return { s.emitMark .entry 1 with keyAllowed := true }

/-- The mark of a key. -/
def fetchKey (s : Scanner) : Except Error Scanner := do
  if s.inBlock && !s.keyAllowed then scanError .keyNotAllowed s.mark
  let s ← (if s.inBlock then s.openHere .blockMapping else s).dropKey
  return { s.emitMark .key 1 with keyAllowed := s.inBlock }

/-- The colon of a key on the same line, or of a marked key. -/
def fetchValue (s : Scanner) : Except Error Scanner :=
  match s.keys.lookup s.flowLevel with
  | some key =>
    -- What stood here before was a key after all, so its mark is set in front of it.
    let s := { s with keys := s.keys.filter fun k => k.1 != s.flowLevel }
    let s := s.insertAt key.number .key key.mark
    let s :=
      if s.inBlock then match s.openBlock key.mark.column with
        | (s, true) => s.insertAt key.number .blockMapping key.mark
        | (s, false) => s
      else s
    .ok { s.emitMark .value 1 with keyAllowed := false }
  | none => do
    if s.inBlock && !s.keyAllowed then scanError .valueNotAllowed s.mark
    let s ← (if s.inBlock then s.openHere .blockMapping else s).dropKey
    return { s.emitMark .value 1 with keyAllowed := s.inBlock }

/-- An anchor or an alias. -/
def fetchAnchor (s : Scanner) (lexeme : String → Lexeme) : Except Error Scanner := do
  let s ← s.noteKey
  let (name, after) ← scanAnchor s.cursor
  return { s.emit (lexeme name) s.mark after.mark with cursor := after, keyAllowed := false }

/-- A tag. -/
def fetchTag (s : Scanner) : Except Error Scanner := do
  let s ← s.noteKey
  let (handle, suffix, after) ← scanTag s.cursor
  return { s.emit (.tag handle suffix) s.mark after.mark with cursor := after, keyAllowed := false }

/-- A block scalar. -/
def fetchBlock (s : Scanner) (isFolded : Bool) : Except Error Scanner := do
  let s ← s.dropKey
  let (cs, after, stop) ← scanBlock isFolded s.indent s.cursor
  return { s.emit (.scalar (.ofChars cs) false) s.mark stop with
    cursor := after, keyAllowed := true }

/-- A quoted scalar. -/
def fetchQuoted (s : Scanner) (double : Bool) : Except Error Scanner := do
  let s ← s.noteKey
  let (content, after) ← scanQuoted double s.cursor
  return { s.emit (.scalar content false) s.mark after.mark with
    cursor := after, keyAllowed := false }

/-- A plain scalar. After a line end in it a key may start. -/
def fetchPlain (s : Scanner) : Except Error Scanner := do
  let s ← s.noteKey
  let p := scanPlain (!s.inBlock) (s.indent + 1) s.cursor
  return { s.emit (.scalar (.ofChars p.chars) true) s.mark p.stop with
    cursor := p.after, keyAllowed := p.lineEnded }

/-- Whether a plain scalar starts with the next character. -/
def startsPlain (s : Scanner) (c : Char) : Bool :=
  !(isSpaceOrBreak c || "-?:,[]\x7b\x7d#&*!|>'\"%@`".toList.contains c)
    || (!s.cursor.blankAt 1 && (c == '-' || (s.inBlock && (c == '?' || c == ':'))))

/-- The next tokens, from a character on. -/
def fetchAt (s : Scanner) (c : Char) : Except Error Scanner :=
  let blank := s.cursor.blankAt 1
  -- Marks of whole lines come first, then marks of structure, then scalars.
  if c == '%' && s.column == 0 then s.fetchDirective
  else if c == '-' && s.column == 0 && s.cursor.atSeparator then s.fetchSeparator .documentStart
  else if c == '.' && s.column == 0 && s.cursor.atSeparator then s.fetchSeparator .documentEnd
  else if c == '[' then s.fetchFlowStart .flowSequence
  else if c == '\x7b' then s.fetchFlowStart .flowMapping
  else if c == ']' then s.fetchFlowEnd .flowSequenceEnd
  else if c == '\x7d' then s.fetchFlowEnd .flowMappingEnd
  else if c == ',' then s.fetchComma
  else if c == '-' && blank then s.fetchEntry
  else if c == '?' && (!s.inBlock || blank) then s.fetchKey
  else if c == ':' && (!s.inBlock || blank) then s.fetchValue
  else if c == '*' then s.fetchAnchor .reference
  else if c == '&' then s.fetchAnchor .anchor
  else if c == '!' then s.fetchTag
  else if c == '|' && s.inBlock then s.fetchBlock false
  else if c == '>' && s.inBlock then s.fetchBlock true
  else if c == '\'' then s.fetchQuoted false
  else if c == '"' then s.fetchQuoted true
  else if s.startsPlain c then s.fetchPlain
  else scanError (.badStart s.cursor.found) s.mark

/-- The next tokens. -/
def fetch (s : Scanner) : Except Error Scanner := do
  let s ← s.skipToToken.dropStale
  let s := s.unwind s.column
  match s.cursor.head? with
  | none => s.fetchEnd
  | some c => s.fetchAt c

/-- How many of the tokens that are held back are settled: those before the first possible key. -/
def settled (s : Scanner) : Nat :=
  (s.keys.map fun k => k.2.number - s.taken).foldl min s.held.length

/-- Passes on the tokens that are settled. -/
def release (s : Scanner) : List Token × Scanner :=
  let n := s.settled
  (s.held.take n, { s with held := s.held.drop n, taken := s.taken + n })

end Scanner

/-- The tokens of a text up to its end or to an error. -/
structure Tokens where
  tokens : List Token
  error : Option Error
  deriving DecidableEq, Repr

/-- Fetches tokens until the text ends. -/
def Scanner.run : Nat → Scanner → Tokens
  | 0, s => ⟨s.held, none⟩
  | fuel + 1, s => match s.fetch with
    | .error e => ⟨[], some e⟩
    | .ok s =>
      -- At the end of the text no key can follow, so nothing is held back any more.
      if s.ended then ⟨s.held, none⟩
      else match s.dropStale with
        | .error e => ⟨[], some e⟩
        | .ok s =>
          let (settled, s) := s.release
          let rest := run fuel s
          ⟨settled ++ rest.tokens, rest.error⟩

/-- The tokens of a text. -/
def scan (cs : List Char) : Tokens := Scanner.run (cs.length + 1) (Scanner.start cs)

end StreamMesh.Yaml
