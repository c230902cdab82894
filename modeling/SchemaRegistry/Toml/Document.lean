import SchemaRegistry.Toml.Tree
/-!
# Documents

A document is a sequence of lines: blank ones, comments, headers of tables, and pairs of a key and a
value. `Toml.ofDocument` reads one into the members of its root. Lists and tables between braces may
be nested, and keys dotted, up to a limit.
-/

set_option autoImplicit false

namespace SchemaRegistry.Toml

open Reader

/-! ## Keys -/

/-- How many lists and tables between braces may be open at once, and how many names a key may
have. -/
def maxDepth : Nat := 79

def isNameCharacter (c : Char) : Bool := c.isAlphanum || c == '-' || c == '_'

/-- One name of a key. -/
def readName : Reader String := do
  match ← peek? with
  | some '"' => readBasicText
  | some '\'' => readLiteralText
  | none => fail
  | some _ =>
    let cs ← someRun isNameCharacter
    pure (String.ofList cs)

/-- The names of a key, with points between them: those on the way, and the last one. -/
def readKey : Reader (List String × String) :=
  check (inPart "key" (someSeparated spaced (mark '.'))) fun names =>
    if maxDepth < names.length then .error .tooDeep
    else .ok (names.dropLast, names.getLastD "")
where
  spaced : Reader String := do
    readSpaces
    let n ← readName
    readSpaces
    pure n

/-- A key and the sign of equality behind it. -/
def readKeyAndSign : Reader (List String × String) := do
  let k ← readKey
  let _ ← settled (expecting [spelled '.', spelled '='] (mark '='))
  readSpaces
  pure k

/-! ## Values -/

/-- A list, at its bracket. -/
def readList (item : Reader Toml) : Reader Toml := do
  let _ ← mark '['
  let items ← settled items
  let _ ← settled (inPart "array" (expecting [spelled ']'] (mark ']')))
  pure (.list items)
where
  items : Reader (List Toml) := do
    if (← peek?) = some ']' then pure []
    else
      let found ← separated (do readGap; let v ← item; readGap; pure v) (mark ',')
      if ¬ found.isEmpty then
        let _ ← attempt (mark ',')
      readGap
      pure found

/-- A table between braces, at the opening one. -/
def readBraces (item : Reader Toml) : Reader Toml := do
  let _ ← mark '\x7b'
  let members ← settled (check pairs assemble)
  let _ ← settled (inPart "inline table" (expecting [spelled '\x7d'] (mark '\x7d')))
  pure (.table .braces members)
where
  pairs : Reader (List ((List String × String) × Toml)) := do
    let found ← separated (do
      let k ← readKeyAndSign
      let v ← settled item
      readSpaces
      pure (k, v)) (mark ',')
    readSpaces
    pure found
  assemble (pairs : List ((List String × String) × Toml)) : Except Cause Table :=
    pairs.foldlM (fun members ((path, n), v) => Table.put .betweenBraces path n v members) []

/-- The marks that open a text. -/
def textMarks : List String := [spelled '"', spelled '\'']

/-- A word that stands for a value. What starts like one may have been meant as a text. -/
def readWord (r : Reader Unit) (v : Toml) : Reader Toml :=
  inPart "string" (expecting textMarks do r; pure v)

def readNumber : Reader Toml :=
  firstOf (do let m ← readMoment; pure (.moment m)) <|
    firstOf (do let x ← readDouble; pure (.double x)) (do let n ← readInteger; pure (.integer n))

/-- A value, with room for so many lists and tables inside each other. What it is, its first
character tells. -/
def readValue (room : Nat) : Reader Toml := do
  match ← peek? with
  | none => fail
  | some c =>
    if c = '"' ∨ c = '\'' then
      let s ← readText
      pure (.text s)
    else if c = '[' then
      match room with
      | 0 => tooDeep
      | room + 1 => readList (readValue room)
    else if c = '\x7b' then
      match room with
      | 0 => tooDeep
      | room + 1 => readBraces (readValue room)
    else if c = '+' ∨ c = '-' ∨ c.isDigit then readNumber
    else if c = '_' then
      expecting ["leading digit"] do let n ← readInteger; pure (.integer n)
    else if c = '.' then
      expecting ["leading digit"] do let x ← readDouble; pure (.double x)
    else if c = 't' then readWord (settled (word ['t', 'r', 'u', 'e'])) (.flag true)
    else if c = 'f' then readWord (settled (word ['f', 'a', 'l', 's', 'e'])) (.flag false)
    else if c = 'i' then readWord readInfinity (.double (.infinite false))
    else if c = 'n' then readWord readNotANumber (.double .nan)
    else readWord fail (.flag false)
where
  tooDeep : Reader Toml := fun cs =>
    .error { rest := cs, isFinal := true, cause := some .tooDeep }

/-! ## Lines -/

/-- A document as far as it has been read: its root, and the header below which it goes on. -/
structure Draft where
  root : Table := []
  header : List String := []

namespace Draft

/-- A header, at its bracket. -/
def readTable (d : Draft) : Reader Draft :=
  inPart "table header" fun cs =>
    match cs with
    | [_] => .error { rest := cs }
    | _ :: '[' :: _ => header true ['[', '['] [']', ']'] cs
    | _ => header false ['['] [']'] cs
where
  header (isRepeated : Bool) (opening closing : List Char) : Reader Draft :=
    check (brackets opening closing) fun (parent, n) =>
      (Table.enter isRepeated parent n d.root).map fun root => { root, header := parent ++ [n] }
  brackets (opening closing : List Char) : Reader (List String × String) := do
    word opening
    let k ← settled readKey
    settled (expecting [spelled '.', s!"`{String.ofList closing}`"] (word closing))
    settled readRestOfLine
    pure k

/-- A pair of a key and a value. -/
def readPair (d : Draft) : Reader Draft :=
  check
    (do
      let k ← readKeyAndSign
      let v ← settled (readValue maxDepth)
      settled readRestOfLine
      pure (k, v))
    fun ((path, n), v) =>
      (Table.putBelow d.header path n v d.root).map fun root => { d with root }

/-- The next line that says something, or the line end or comment in front; nothing at the end. -/
def readLine (d : Draft) : Reader (Option Draft) := do
  match ← peek? with
  | none => pure none
  | some '#' => settled do readComment; readLineEnd; readSpaces; pure (some d)
  | some '[' => let d ← settled d.readTable; readSpaces; pure (some d)
  | some '\n' | some '\r' =>
    match ← attempt (do readNewline; readSpaces) with
    | some () => pure (some d)
    | none => fail
  | some _ => let d ← settled d.readPair; readSpaces; pure (some d)

end Draft

/-- The members of a document. -/
def readDocument : Reader Table := do
  let _ ← attempt (mark '\ufeff')
  readSpaces
  let d ← iterate Draft.readLine {}
  pure d.root

/-- The members of the root of a document, or the message about why it is refused. -/
def ofDocument (text : String) : Except String Table :=
  match readDocument text.toList with
  | .ok (root, _) => .ok root
  | .error stop => .error (stop.message text.toList)

end SchemaRegistry.Toml
