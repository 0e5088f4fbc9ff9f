import RowPayload.Connection.Settings
import RowPayload.Json.Record

/-!
# Connection settings in documents

Settings are a record whose missing members have their standard values. The
time-out is a closed record of seconds and nanoseconds.
-/

namespace RowPayload

namespace Duration

/-- The span as a document. -/
def toJson (duration : Duration) : Json :=
  .object [(some "secs", Json.ofInt duration.seconds),
    (some "nanos", Json.ofInt duration.nanoseconds)]

/-- The span a document describes. Nanoseconds past a second are carried over,
unless the seconds overflow by it. -/
def ofJson? (json : Json) : Option Duration := do
  let members ← json.record? ["secs", "nanos"] true
  let seconds ← members.require "secs" (Json.integer? 0 0xFFFFFFFFFFFFFFFF)
  let nanoseconds ← members.require "nanos" (Json.integer? 0 0xFFFFFFFF)
  let duration := carrying seconds.toNat nanoseconds.toNat
  if duration.seconds < Nat.pow 2 64 then some duration else none

end Duration

namespace Settings

/-- The names of the members, in order. -/
def memberNames : List String :=
  ["server", "database", "integrated_security", "user_id", "password", "application_name",
    "connect_timeout", "encrypt", "trust_server_certificate"]

/-- The settings as a document. -/
def toJson (settings : Settings) : Json :=
  .object [
    (some "server", Json.ofText settings.server),
    (some "database", Json.ofTextOption settings.database),
    (some "integrated_security", .bool settings.integratedSecurity),
    (some "user_id", Json.ofTextOption settings.userId),
    (some "password", Json.ofTextOption settings.password),
    (some "application_name", Json.ofTextOption settings.applicationName),
    (some "connect_timeout", settings.connectTimeout.toJson),
    (some "encrypt", .bool settings.encrypt),
    (some "trust_server_certificate", .bool settings.trustServerCertificate)]

/-- The settings a document describes. -/
def ofJson? (json : Json) : Option Settings := do
  let members ← json.record? memberNames false
  let text? := Json.nullable? Json.text?
  return {
    server := ← members.default "server" standard.server Json.text?
    database := ← members.default "database" standard.database text?
    integratedSecurity :=
      ← members.default "integrated_security" standard.integratedSecurity Json.bool?
    userId := ← members.default "user_id" standard.userId text?
    password := ← members.default "password" standard.password text?
    applicationName := ← members.default "application_name" standard.applicationName text?
    connectTimeout :=
      ← members.default "connect_timeout" standard.connectTimeout Duration.ofJson?
    encrypt := ← members.default "encrypt" standard.encrypt Json.bool?
    trustServerCertificate :=
      ← members.default "trust_server_certificate" standard.trustServerCertificate Json.bool? }

end Settings

end RowPayload
