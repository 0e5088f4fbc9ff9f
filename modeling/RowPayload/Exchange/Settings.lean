import RowPayload.Connection.SettingsJson
import RowPayload.Connection.SettingsText
import RowPayload.Exchange.Reading
import RowPayload.Json.Reader

/-!
# Exchanging connection settings

Settings are given by where they start from (the standard settings, a connection string
or a document) and the changes made to them in order. They are shown like a document,
but for the time-out, which is a pair of seconds and nanoseconds.
-/

namespace RowPayload.Exchange

open Reading

/-- What a reader makes of the document that a text spells out. -/
def readDocument {α : Type} (reader : Json → Option α) (source : String) : Reading α :=
  match (Json.read? source).bind reader with
  | some value => .ok value
  | none => .error .unreadable

/-- The settings after assigning one of the fields that have no change of their own. -/
def assignField (settings : Settings) (field : String) (json : Json) : Reading Settings := do
  let name := Json.asOption Json.asText json
  match field with
  | "integrated_security" => return { settings with integratedSecurity := ← json.asBool }
  | "trust_server_certificate" => return { settings with trustServerCertificate := ← json.asBool }
  | "user_id" => return { settings with userId := ← name }
  | "password" => return { settings with password := ← name }
  | "database" => return { settings with database := ← name }
  | "application_name" => return { settings with applicationName := ← name }
  | _ => throw .malformed

/-- The settings after one change. -/
def changeSettings (settings : Settings) (json : Json) : Reading Settings := do
  match json with
  | .array [.string (some "server"), name] => return { settings with server := ← name.asText }
  | .array [.string (some "database"), name] =>
    return { settings with database := some (← name.asText) }
  | .array [.string (some "login"), user, password] =>
    return settings.login (← user.asText) (← password.asText)
  | .array [.string (some "application_name"), name] =>
    return { settings with applicationName := some (← name.asText) }
  | .array [.string (some "connect_timeout"), seconds, nanoseconds] =>
    return { settings with
      connectTimeout := Duration.carrying (← seconds.asNat) (← nanoseconds.asNat) }
  | .array [.string (some "encrypt"), wanted] =>
    return { settings with encrypt := ← wanted.asBool }
  | .array [.string (some "field"), .string (some field), value] =>
    assignField settings field value
  | _ => throw .malformed

/-- Settings as they are given. -/
def readSettings (json : Json) : Reading Settings := do
  let start ← match json.member "start" with
    | .null => pure Settings.standard
    | .object [(some "parse", content)] => proper (Settings.parse (← content.asText))
    | .object [(some "json", content)] => readDocument Settings.ofJson? (← content.asText)
    | _ => throw .malformed
  (← json.itemsAt "set" pure).foldlM changeSettings start

/-- Settings as they are shown. -/
def writeSettings (settings : Settings) : Json :=
  let timeout := Json.array
    [.ofInt settings.connectTimeout.seconds, .ofInt settings.connectTimeout.nanoseconds]
  match settings.toJson with
  | .object members => .object (members.map fun entry =>
      if entry.1 = some "connect_timeout" then (entry.1, timeout) else entry)
  | other => other

end RowPayload.Exchange
