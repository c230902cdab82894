import SchemaRegistry.Toml.Stop
/-!
# Readers

A reader takes what it can from the front of a text, or stops. Where a text may be meant in more
than one way, the ways are tried in order (`firstOf`), each from where the first began, and the stop
of the last is the one reported; a final stop ends the attempts. A reader that leaves no less than
it found ends a repetition, so `many` and its kind come to an end with every reader: what is left
gets shorter with each step.
-/

set_option autoImplicit false

namespace SchemaRegistry.Toml

/-- Reads a part of a document. -/
abbrev Reader := StateT (List Char) (Except Stop)

namespace Reader

variable {α β : Type}

/-! ## Characters -/

/-- Stops without having read anything. -/
def fail : Reader α := fun cs => .error { rest := cs }

/-- The next character, which stays. -/
def peek? : Reader (Option Char) := fun cs => .ok (cs.head?, cs)

/-- One character of a class. -/
def one (p : Char → Bool) : Reader Char
  | c :: rest => if p c then .ok (c, rest) else .error { rest := c :: rest }
  | [] => .error { rest := [] }

/-- A given character. -/
def mark (c : Char) : Reader Char := one (· == c)

/-- A given text. -/
def word (text : List Char) : Reader Unit := fun cs =>
  if text.isPrefixOf cs then .ok ((), cs.drop text.length) else .error { rest := cs }

/-- The characters of a class, as many as there are. -/
def run (p : Char → Bool) : Reader (List Char) := fun cs =>
  .ok (cs.takeWhile p, cs.dropWhile p)

/-- The characters of a class, at least one. -/
def someRun (p : Char → Bool) : Reader (List Char) := fun cs =>
  if (cs.head?.map p).getD false then run p cs else .error { rest := cs }

/-- So many characters of a class. -/
def runOf (count : Nat) (p : Char → Bool) : Reader (List Char) := fun cs =>
  let found := cs.take count
  if found.length = count ∧ found.all p then .ok (found, cs.drop count) else .error { rest := cs }

/-- What is still to be read once a reader has looked at a character and gone past it. A character
of several octets is passed only in part, and counts as not passed. -/
def past (c : Char) (rest : List Char) : List Char :=
  if c.utf8Size = 1 then rest else c :: rest

/-! ## Attempts -/

/-- What the reader reads, if it can; otherwise nothing is read. -/
def attempt (r : Reader α) : Reader (Option α) := fun cs =>
  match r cs with
  | .ok (a, rest) => .ok (some a, rest)
  | .error stop => if stop.isFinal then .error stop else .ok (none, cs)

/-- The first reader, or the second from where the first began. -/
def firstOf (r s : Reader α) : Reader α := fun cs =>
  match r cs with
  | .ok found => .ok found
  | .error stop => if stop.isFinal then .error stop else s cs

/-- What the reader would read, and nothing is read, not even up to its stop. -/
def ahead (r : Reader α) : Reader α := fun cs =>
  match r cs with
  | .ok (a, _) => .ok (a, cs)
  | .error stop => .error { stop with rest := cs }

/-- The reader, judged by what it has read. What is refused counts as not read. -/
def check (r : Reader α) (judge : α → Except Cause β) : Reader β := fun cs =>
  match r cs with
  | .error stop => .error stop
  | .ok (a, rest) =>
    match judge a with
    | .ok b => .ok (b, rest)
    | .error cause => .error { rest := cs, cause := some cause }

/-- The reader where nothing else can be meant: its stops are final. -/
def settled (r : Reader α) : Reader α := fun cs =>
  (r cs).mapError fun stop => { stop with isFinal := true }

/-- The reader of a part that has a name. -/
def inPart (name : String) (r : Reader α) : Reader α := fun cs =>
  (r cs).mapError fun stop => { stop with part := stop.part.orElse fun _ => some name }

/-- The reader, whose stops tell what could have stood there. -/
def expecting (what : List String) (r : Reader α) : Reader α := fun cs =>
  (r cs).mapError fun stop => { stop with expected := stop.expected ++ what }

/-- How a message writes a character that could have stood there. -/
def spelled (c : Char) : String := s!"`{c}`"

/-! ## Repetition -/

/-- The reader as often as it can read. -/
def many (r : Reader α) : Reader (List α)
  | cs =>
    match r cs with
    | .error stop => if stop.isFinal then .error stop else .ok ([], cs)
    | .ok (a, rest) =>
      if rest.length < cs.length then
        (many r rest).map fun (more, rest) => (a :: more, rest)
      else .ok ([], cs)
termination_by cs => cs.length

/-- The reader as often as it can read, at least once. -/
def oneOrMore (r : Reader α) : Reader (List α) := do
  let first ← r
  let more ← many r
  pure (first :: more)

/-- Items with separators between them, at least one. -/
def someSeparated (item : Reader α) (separator : Reader β) : Reader (List α) := do
  let first ← item
  let more ← many (do let _ ← separator; item)
  pure (first :: more)

/-- Items with separators between them, if there are any. -/
def separated (item : Reader α) (separator : Reader β) : Reader (List α) := do
  let found ← attempt item
  match found with
  | none => pure []
  | some first =>
    let more ← many (do let _ ← separator; item)
    pure (first :: more)

/-- Goes on from a state as long as the step gives another one. A stop of the step is a stop of the
whole. -/
def iterate (step : α → Reader (Option α)) (state : α) : Reader α
  | cs =>
    match step state cs with
    | .error stop => .error stop
    | .ok (none, rest) => .ok (state, rest)
    | .ok (some next, rest) =>
      if rest.length < cs.length then iterate step next rest else .ok (next, rest)
termination_by cs => cs.length

end Reader

/-! ## Blanks, comments and line ends -/

open Reader

def isSpace (c : Char) : Bool := c == ' ' || c == '\t'

/-- Whether a comment or a quotation can hold the character: not a control character other than the
tabulator. -/
def isPlain (c : Char) : Bool := c == '\t' || (0x20 ≤ c.toNat && c.toNat ≠ 0x7f)

def readSpaces : Reader Unit := do
  let _ ← run isSpace

def readComment : Reader Unit := do
  let _ ← mark '#'
  let _ ← run isPlain

/-- A line feed, which may follow a carriage return. -/
def readNewline : Reader Unit
  | '\n' :: rest => .ok ((), rest)
  | '\r' :: '\n' :: rest => .ok ((), rest)
  | c :: rest => .error { rest := past c rest }
  | [] => .error { rest := [] }

/-- The end of the document. -/
def readEnd : Reader Unit
  | [] => .ok ((), [])
  | cs => .error { rest := cs }

/-- The end of a line or of the document. -/
def readLineEnd : Reader Unit := firstOf readNewline readEnd

/-- What may follow on a line that has nothing more to say. -/
def readRestOfLine : Reader Unit :=
  expecting ["newline", spelled '#'] do
    readSpaces
    let _ ← attempt readComment
    readLineEnd

/-- Blanks, line ends and comments, each of which ends its line. -/
def readGap : Reader Unit :=
  iterate (fun () => do
    readSpaces
    match ← peek? with
    | some '#' => readComment; readNewline; pure (some ())
    | some '\n' | some '\r' => readNewline; pure (some ())
    | _ => pure none) ()

end SchemaRegistry.Toml
