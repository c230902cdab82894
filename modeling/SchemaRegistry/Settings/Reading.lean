import SchemaRegistry.Json.Canonical
import SchemaRegistry.Json.Shape.Take
import SchemaRegistry.Settings.Basic
/-!
# Reading settings

Settings are read from the members of a document, or from the list of its values in the order of the
fields. What is not given keeps its default, and members that are no settings are ignored. Kinds of
documents differ in how they give a value, and in how they report one that does not fit: `Reader` is
what a kind of document provides. JSON takes each value as it is.
-/

set_option autoImplicit false

namespace SchemaRegistry.Settings

/-- How documents with values in `ν` give settings, and with what errors they fail. -/
structure Reader (ν ε : Type) where
  text : ν → Except ε String
  path : ν → Except ε String
  optionalText : ν → Except ε (Option String)
  flag : ν → Except ε Bool
  port : ν → Except ε UInt16
  milliseconds : ν → Except ε UInt64
  mode : ν → Except ε Mode
  texts : ν → Except ε (List String)
  /-- The error in the value of a setting, as an error of the document. -/
  inSetting : String → ε → ε

/-- The names of the settings in the order of the list form. -/
def names : List String := [
  "host", "port", "tenant", "store_path", "node_url", "leader_url", "leader", "mode",
  "forward_timeout_ms", "sync_interval_ms", "whitelist_headers"]

namespace Reader

variable {ν ε : Type}

/-- The settings with one of them read from a document. -/
def setting (r : Reader ν ε) (s : Settings) (name : String) (v : ν) : Except ε Settings :=
  Except.mapError (r.inSetting name) <|
    match name with
    | "host" => (r.text v).map fun host => { s with host }
    | "port" => (r.port v).map fun port => { s with port }
    | "tenant" => (r.text v).map fun tenant => { s with tenant }
    | "store_path" => (r.path v).map fun storePath => { s with storePath }
    | "node_url" => (r.optionalText v).map fun nodeUrl => { s with nodeUrl }
    | "leader_url" => (r.optionalText v).map fun leaderUrl => { s with leaderUrl }
    | "leader" => (r.flag v).map fun leader => { s with leader }
    | "mode" => (r.mode v).map fun mode => { s with mode }
    | "forward_timeout_ms" => (r.milliseconds v).map fun forwardTimeout => { s with forwardTimeout }
    | "sync_interval_ms" => (r.milliseconds v).map fun syncInterval => { s with syncInterval }
    | "whitelist_headers" => (r.texts v).map fun whitelist => { s with whitelist }
    | _ => .ok s

/-- The settings of a document. -/
def settings (r : Reader ν ε) (members : List (String × ν)) : Except ε Settings :=
  members.foldlM (fun s (name, v) => r.setting s name v) {}

end Reader

/-! ## JSON -/

def modeNames : List String := ["READWRITE", "READONLY"]

def takeMode (v : Json) : Except Json.Mismatch Mode :=
  (Json.takeChoice Json.takeNull modeNames v).map fun i =>
    if i.val = 0 then .readWrite else .readOnly

def takePath : Json → Except Json.Mismatch String
  | .text s => .ok s
  | v => Json.wrongType "path string" v

def takeTexts : Json → Except Json.Mismatch (List String)
  | .array items => items.mapM Json.takeText
  | v => Json.wrongType "a sequence" v

def takeOptionalText : Json → Except Json.Mismatch (Option String)
  | .null => .ok none
  | v => (Json.takeText v).map some

def jsonReader : Reader Json Json.Mismatch where
  text := Json.takeText
  path := takePath
  optionalText := takeOptionalText
  flag := Json.takeFlag
  port := Json.Word.u16.take
  milliseconds := Json.Word.u64.take
  mode := takeMode
  texts := takeTexts
  inSetting := fun _ mismatch => mismatch

/-- The settings in a JSON value. Its members are looked at in the order of their names, and of two
members of one name only the last is. -/
def ofJson (v : Json) : Except Json.Mismatch Settings :=
  match v.sorted with
  | .object members => jsonReader.settings members
  | .array items =>
    if names.length < items.length then
      match jsonReader.settings (names.zip items) with
      | .error mismatch => .error mismatch
      | .ok _ => .error (.length items.length "fewer elements in array")
    else jsonReader.settings (names.zip items)
  | v => Json.wrongType "struct ServerConfig" v

end SchemaRegistry.Settings
