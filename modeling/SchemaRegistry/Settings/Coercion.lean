import SchemaRegistry.Settings.Reading
import SchemaRegistry.Settings.Value
import SchemaRegistry.Toml.Document
/-!
# Settings in TOML

A settings file is written by hand, so its values are taken for what they are meant to be: a number
or a flag where a text is wanted is the text that writes it, a word such as `yes` is a flag, a flag
is the number one or zero, and names of settings and modes may be in any case. What cannot be meant
is reported with the name of the setting, except where the setting is a list or a mode.
-/

set_option autoImplicit false

namespace SchemaRegistry.Settings

/-- A value that cannot be what is wanted. -/
inductive Misfit where
  | type (found expected : String) (setting : Option String)
  | other (message : String)
  /-- The document is not TOML. -/
  | unreadable (message : String)
  deriving DecidableEq

def Misfit.message : Misfit → String
  | .type found expected none => s!"invalid type: {found}, expected {expected}"
  | .type found expected (some setting) =>
    s!"invalid type: {found}, expected {expected} for key `{setting}`"
  | .other message => message
  | .unreadable message => message

/-- The misfit as one in a part of the document. -/
def Misfit.within (part : String) : Misfit → Misfit
  | .type found expected none => .type found expected (some part)
  | .type found expected (some inner) => .type found expected (some (part ++ inner))
  | misfit => misfit

/-! ## Numbers as text -/

/-- All digits of a double, without an exponent and with a point only before a fraction. -/
def plainChars (x : Decimal.Binary64) : List Char :=
  let shown := Decimal.shortest x
  let sign := if x.negative then ['-'] else []
  if shown.order < 0 then
    sign ++ ['0', '.'] ++ List.replicate (-shown.order - 1).toNat '0' ++ shown.digits
  else
    let whole := shown.order.toNat + 1
    let fraction := match shown.digits.drop whole with
      | [] => []
      | more => '.' :: more
    sign ++ shown.digits.take whole ++ List.replicate (whole - shown.digits.length) '0' ++ fraction

def doubleText : Toml.Double → String
  | .finite x => String.ofList (plainChars x)
  | .infinite isNegative => if isNegative then "-inf" else "inf"
  | .nan => "NaN"

/-- The greatest word of 64 bits. -/
def maxWord : Nat := 18446744073709551615

/-- The nearest whole number, a half away from zero, as near as a word of 64 bits comes to it. -/
def wholeOf : Toml.Double → UInt64
  | .nan => 0
  | .infinite isNegative => if isNegative then 0 else UInt64.ofNat maxWord
  | .finite x =>
    if x.negative then 0
    else
      let (num, den) := x.ratio
      UInt64.ofNat (min ((2 * num + den) / (2 * den)) maxWord)

/-! ## Kinds of values -/

/-- The kind of a value, as a misfit tells it. -/
def kindOf : Value → String
  | .absent => "unit value"
  | .text s => s!"string {Text.quote s}"
  | .integer n => s!"64-bit integer `{n}`"
  | .double x => s!"floating point `{doubleText x}`"
  | .flag b => s!"boolean `{b}`"
  | .list _ => "sequence"
  | .table _ => "map"

/-- The kind of a value where a list is wanted. -/
def kindBesideList : Value → String
  | .integer n => s!"integer `{n}`"
  | .double x =>
    let text := doubleText x
    let pointed := match x with
      | .finite _ => if text.toList.contains '.' then text else text ++ ".0"
      | _ => text
    s!"floating point `{pointed}`"
  | v => kindOf v

def misfit {α : Type} (expected : String) (v : Value) : Except Misfit α :=
  .error (.type (kindOf v) expected none)

/-! ## Coercions -/

def coerceText : Value → Except Misfit String
  | .text s => .ok s
  | .flag b => .ok (toString b)
  | .integer n => .ok (toString n)
  | .double x => .ok (doubleText x)
  | v => misfit "a string" v

def coerceFlag : Value → Except Misfit Bool
  | .flag b => .ok b
  | .integer n => .ok (n ≠ 0)
  | .double (.finite x) => .ok (!x.isZero)
  | .double _ => .ok true
  | .text s =>
    let word := Text.lower s
    if ["1", "true", "on", "yes"].contains word then .ok true
    else if ["0", "false", "off", "no"].contains word then .ok false
    else misfit "a boolean" (.text word)
  | v => misfit "a boolean" v

/-- A word of 64 bits written in decimal digits, with or without a plus sign. -/
def decimalWord? (s : String) : Option UInt64 :=
  let digits := match s.toList with
    | '+' :: rest => rest
    | cs => cs
  if digits.isEmpty ∨ ¬ digits.all Char.isDigit then none
  else Json.Word.u64.ofInt? (Toml.digitsValue 10 digits)

def coerceWord : Value → Except Misfit UInt64
  | .integer n =>
    match Json.Word.u64.ofInt? n with
    | some n => .ok n
    | none => misfit "an unsigned 64 bit or less integer" (.integer n)
  | .flag b => .ok (if b then 1 else 0)
  | .double x => .ok (wholeOf x)
  | .text s =>
    let word := Text.lower s
    -- The words of flags come first, so that a flag in quotes counts as the flag does.
    if ["true", "on", "yes"].contains word then .ok 1
    else if ["false", "off", "no"].contains word then .ok 0
    else
      match decimalWord? s with
      | some n => .ok n
      | none => misfit "an integer" (.text s)
  | v => misfit "an integer" v

def coercePort (v : Value) : Except Misfit UInt16 :=
  match coerceWord v with
  | .error flaw => .error flaw
  | .ok n =>
    match Json.Word.u16.ofInt? n.toNat with
    | some port => .ok port
    | none => .error (.type s!"64-bit unsigned integer `{n}`" "an unsigned 16 bit integer" none)

/-- The mode of that name, in whatever case. -/
def namedMode (name : String) : Except Misfit Mode :=
  if Text.lower name = "readwrite" then .ok .readWrite
  else if Text.lower name = "readonly" then .ok .readOnly
  else .error (.other s!"enum Mode does not have variant constructor {name}")

def coerceMode : Value → Except Misfit Mode
  | .text name => namedMode name
  | .table [(name, _)] => namedMode name
  | _ => .error <| .other
      "value of enum Mode should be represented by either string or table with exactly one key"

/-- The texts of a list from an index on. -/
def coerceItems (index : Nat) : List Value → Except Misfit (List String)
  | [] => .ok []
  | v :: rest =>
    match (coerceText v).mapError (Misfit.within s!"[{index}]") with
    | .error flaw => .error flaw
    | .ok s => (coerceItems (index + 1) rest).map (s :: ·)

def coerceTexts : Value → Except Misfit (List String)
  | .list items => coerceItems 0 items
  | v => .error (.other s!"invalid type: {kindBesideList v}, expected a sequence")

def tomlReader : Reader Value Misfit where
  text := coerceText
  path := coerceText
  optionalText := fun v => (coerceText v).map some
  flag := coerceFlag
  port := coercePort
  milliseconds := coerceWord
  mode := coerceMode
  texts := coerceTexts
  inSetting := Misfit.within

/-- The settings in a TOML document. -/
def ofToml (document : String) : Except Misfit Settings :=
  match Toml.ofDocument document with
  | .error message => .error (.unreadable message)
  | .ok root => tomlReader.settings (Value.collect (Value.ofMembers root))

end SchemaRegistry.Settings
