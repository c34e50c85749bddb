import StreamMesh.Assoc
import StreamMesh.Files.Path
import StreamMesh.Text.Raw

/-!
# Trees of files

A tree tells for each place whether it is a directory or a file, and what text a file holds. A
place is given by its names from the top. Paths are followed name by name, so that what stops a
path is told by the first name that does.

A place has one name and every file can be read and written: there are no symbolic or hard links
and no access rights. Names are strings, and a file holds the text of a string, encoded as it should
be. A text with a surrogate cannot be encoded, so no file holds one.

## Main definitions

* `Entry`, `Tree` — what stands at the places
* `FileError` — why a path cannot be used
* `Tree.find` — what stands at a path
* `Tree.readText`, `Tree.writeText` — the text of a file
* `Tree.ensureDirectory` — makes a directory and those above it
-/

namespace StreamMesh

/-- What stands at a place. -/
inductive Entry where
  | directory
  | file (text : String)
  deriving DecidableEq, Repr, Inhabited

/-- The entries of a file system below its top, and the place of the working directory. -/
structure Tree where
  entries : Assoc (List String) Entry
  home : List String
  deriving DecidableEq, Repr

/-- What stops a path. -/
inductive FileFault where
  | notFound
  | occupied
  | notDirectory
  | isDirectory
  | nameTooLong
  /-- The path holds a null character. -/
  | nullCharacter
  /-- A text cannot be encoded in a file. -/
  | unencodable (text : BrokenText)
  deriving DecidableEq, Repr

/-- Why a path cannot be used. -/
structure FileError where
  fault : FileFault
  path : Path
  deriving DecidableEq, Repr

namespace FileFault

/-- The number of a fault, if the system has one for it. -/
def number? : FileFault → Option Nat
  | notFound => some 2
  | occupied => some 17
  | notDirectory => some 20
  | isDirectory => some 21
  | nameTooLong => some 36
  | nullCharacter => none
  | unencodable _ => none

/-- A fault in words. -/
def text : FileFault → String
  | notFound => "No such file or directory"
  | occupied => "File exists"
  | notDirectory => "Not a directory"
  | isDirectory => "Is a directory"
  | nameTooLong => "File name too long"
  | nullCharacter => "embedded null byte"
  | unencodable t => t.reason

end FileFault

/-- The message about a path that cannot be used. -/
def FileError.message (e : FileError) : String :=
  match e.fault.number? with
  | some n => "[Errno " ++ toString n ++ "] " ++ e.fault.text ++ ": " ++ Text.quoted e.path.text
  | none => e.fault.text

namespace Tree

/-- What stands at a place. The top is a directory. -/
def at? (t : Tree) (place : List String) : Option Entry :=
  if place = [] then some .directory else t.entries.find? place

/-- Puts an entry at a place. -/
def put (t : Tree) (place : List String) (e : Entry) : Tree :=
  { t with entries := t.entries.insert place e }

/-- The place that a name leads to from another. -/
def step (t : Tree) (place : List String) (name : String) : Except FileFault (List String) :=
  match t.at? place with
  | none => .error .notFound
  | some (.file _) => .error .notDirectory
  | some .directory =>
    if name = ".." then .ok place.dropLast
    else if Path.maxNameBytes < name.utf8ByteSize then .error .nameTooLong
    else .ok (place ++ [name])

/-- The place that some names lead to from another. -/
def follow (t : Tree) : List String → List String → Except FileFault (List String)
  | place, [] => .ok place
  | place, name :: rest => match t.step place name with
    | .ok next => t.follow next rest
    | .error f => .error f

/-- Whether a text holds a null character. -/
def holdsNull (s : String) : Bool := s.toList.contains (Char.ofNat 0)

/-- The place of a path. Only the last name may lead to a place where nothing stands. -/
def place (t : Tree) (p : Path) : Except FileFault (List String) :=
  if holdsNull p.text then .error .nullCharacter
  else if Path.maxBytes < p.text.utf8ByteSize then .error .nameTooLong
  else t.follow (if p.slashes = 0 then t.home else []) p.names

/-- What stands at a path. -/
def find (t : Tree) (p : Path) : Except FileFault Entry :=
  match t.place p with
  | .error f => .error f
  | .ok place => match t.at? place with
    | some e => .ok e
    | none => .error .notFound

/-- Whether something stands at a path. A path that is too long has no answer. -/
def has (t : Tree) (p : Path) : Except FileError Bool :=
  match t.find p with
  | .ok _ => .ok true
  | .error .nameTooLong => .error ⟨.nameTooLong, p⟩
  | .error _ => .ok false

/-- Whether a directory stands at a path. -/
def isDirectory (t : Tree) (p : Path) : Bool :=
  match t.find p with
  | .ok .directory => true
  | _ => false

/-- A text with all line ends as line feeds. -/
def unifyLines : List Char → List Char
  | '\r' :: '\n' :: rest => '\n' :: unifyLines rest
  | '\r' :: rest => '\n' :: unifyLines rest
  | c :: rest => c :: unifyLines rest
  | [] => []

/-- The text of a file, with all line ends as line feeds. -/
def readText (t : Tree) (p : Path) : Except FileError String :=
  match t.find p with
  | .ok (.file s) => .ok (String.ofList (unifyLines s.toList))
  | .ok .directory => .error ⟨.isDirectory, p⟩
  | .error f => .error ⟨f, p⟩

/-- Gives a file a text; the file is made if its directory is there. The text is only encoded once
the file is open and empty, and the file stays so if that fails. -/
def writeText (t : Tree) (p : Path) (text : RawText) : Tree × Option FileError :=
  match t.place p with
  | .error f => (t, some ⟨f, p⟩)
  | .ok place => match t.at? place, text with
    | some .directory, _ => (t, some ⟨.isDirectory, p⟩)
    | _, .whole s => (t.put place (.file s), none)
    | _, .broken b => (t.put place (.file ""), some ⟨.unencodable b, p⟩)

/-- Makes a directory where nothing stands. -/
def makeDirectory (t : Tree) (p : Path) : Except FileError Tree :=
  match t.place p with
  | .error f => .error ⟨f, p⟩
  | .ok place => match t.at? place with
    | some _ => .error ⟨.occupied, p⟩
    | none => .ok (t.put place .directory)

/-- The tree after making a directory, or as it was if that is one already. -/
def keepDirectory (t : Tree) (p : Path) (e : FileError) : Tree × Option FileError :=
  if t.isDirectory p then (t, none) else (t, some e)

/-- Makes a directory below one that is there. -/
def ensureLast (t : Tree) (p : Path) : Tree × Option FileError :=
  match t.makeDirectory p with
  | .ok t' => (t', none)
  | .error e => if e.fault = .notFound then (t, some e) else t.keepDirectory p e

/-- Makes the directory of some names, innermost first, and those above it where they are missing.
What has been made stays if that fails. -/
def ensureNames (slashes : Nat) : List String → Tree → Tree × Option FileError
  | [], t => t.ensureLast ⟨slashes, []⟩
  | name :: above, t =>
    let p : Path := ⟨slashes, (name :: above).reverse⟩
    match t.makeDirectory p with
    | .ok t' => (t', none)
    | .error e =>
      -- What is missing is a directory above; once all of those stand, this one is tried again.
      if e.fault = .notFound then match ensureNames slashes above t with
        | (t', none) => t'.ensureLast p
        | (t', some e') => (t', some e')
      else t.keepDirectory p e

/-- Makes a directory and those above it where they are missing. -/
def ensureDirectory (t : Tree) (p : Path) : Tree × Option FileError :=
  ensureNames p.slashes p.names.reverse t

/-- The files with their places, in the order in which they were made. -/
def files (t : Tree) : List (List String × String) :=
  t.entries.entries.filterMap fun (place, e) => match e with
    | .file s => some (place, s)
    | .directory => none

theorem at?_put_of_ne (t : Tree) {place other : List String} (h : other ≠ place) (e : Entry) :
    (t.put place e).at? other = t.at? other := by
  unfold at? put
  split
  · rfl
  · exact Assoc.find?_insert_of_ne _ h e

end Tree

end StreamMesh
