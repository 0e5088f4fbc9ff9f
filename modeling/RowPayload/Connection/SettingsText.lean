import RowPayload.Connection.Settings
import RowPayload.Text.Piece
import RowPayload.Text.Digits

/-!
# Connection strings

Settings are written as `Key=Value` pairs with semicolons between them. Reading
takes the keys in any letter case and under several names, drops blanks around
keys and values, skips empty pairs and lets the last of repeated keys win.

A connection string that says nothing about security or the application does not
get the standard values for these.
-/

namespace RowPayload.Settings

/-- What a pair of a connection string sets. -/
inductive Key where
  | server
  | database
  | integratedSecurity
  | userId
  | password
  | applicationName
  | connectTimeout
  | encrypt
  | trustServerCertificate
deriving DecidableEq

/-- The names of the keys in lower case. -/
def Key.names : List (String × Key) :=
  [("server", .server), ("data source", .server), ("address", .server),
    ("database", .database), ("initial catalog", .database),
    ("integrated security", .integratedSecurity),
    ("trusted_connection", .integratedSecurity),
    ("user id", .userId), ("uid", .userId), ("user", .userId),
    ("password", .password), ("pwd", .password),
    ("application name", .applicationName), ("app", .applicationName),
    ("connect timeout", .connectTimeout), ("connection timeout", .connectTimeout),
    ("timeout", .connectTimeout),
    ("encrypt", .encrypt),
    ("trustservercertificate", .trustServerCertificate),
    ("trust server certificate", .trustServerCertificate)]

/-- A pair as it is written. -/
def pair (key value : String) : String := key ++ "=" ++ value

/-- The pairs of settings that are said: security is either integrated or a login. -/
def pairs (settings : Settings) : List String :=
  [pair "Server" settings.server] ++
  settings.database.toList.map (pair "Database") ++
  (if settings.integratedSecurity then [pair "Integrated Security" "true"]
    else settings.userId.toList.map (pair "User Id") ++
      settings.password.toList.map (pair "Password")) ++
  settings.applicationName.toList.map (pair "Application Name") ++
  [pair "Connect Timeout" (toString settings.connectTimeout.seconds)] ++
  (if settings.encrypt then [pair "Encrypt" "true"] else []) ++
  (if settings.trustServerCertificate then [pair "TrustServerCertificate" "true"] else [])

/-- The connection string of settings. -/
def connectionString (settings : Settings) : String :=
  String.ofList (Text.join [';'] (settings.pairs.map String.toList))

/-- The truth value a word stands for, in any letter case. -/
def boolean? (word : List Char) : Option Bool :=
  let lowered := String.ofList (Text.lower word)
  if lowered = "true" ∨ lowered = "yes" ∨ lowered = "sspi" then some true
  else if lowered = "false" ∨ lowered = "no" then some false
  else none

/-- The truth value of a pair. -/
def boolean (key value : List Char) : Except Error Bool :=
  match boolean? value with
  | some truth => .ok truth
  | none => .error (.invalidConfig (.badBoolean (String.ofList value) (String.ofList key)))

/-- Seconds are below this bound. -/
def secondsBound : Nat := Nat.pow 2 64

/-- The settings after one pair, whose key and value carry no blanks around them. -/
def assign (settings : Settings) (name : Key) (key value : List Char) : Except Error Settings :=
  let text := String.ofList value
  match name with
  | .server => .ok { settings with server := text }
  | .database => .ok { settings with database := some text }
  | .integratedSecurity =>
    (boolean key value).map fun truth => { settings with integratedSecurity := truth }
  | .userId => .ok { settings with userId := some text }
  | .password => .ok { settings with password := some text }
  | .applicationName => .ok { settings with applicationName := some text }
  | .connectTimeout =>
    match Text.counter? secondsBound value with
    | some seconds => .ok { settings with connectTimeout := ⟨seconds, 0⟩ }
    | none => .error (.invalidConfig (.badTimeout text))
  | .encrypt => (boolean key value).map fun truth => { settings with encrypt := truth }
  | .trustServerCertificate =>
    (boolean key value).map fun truth => { settings with trustServerCertificate := truth }

/-- Settings being read, and whether the server was named. -/
structure Reading where
  settings : Settings
  sawServer : Bool

/-- The reading after one piece between semicolons. -/
def Reading.step (reading : Reading) (piece : List Char) : Except Error Reading :=
  let text := Text.trim piece
  if text.isEmpty then .ok reading
  else match Text.cutFirst '=' text with
    | none => .error (.invalidConfig (.notAPair (String.ofList text)))
    | some (before, after) =>
      let key := Text.trim before
      let lowered := String.ofList (Text.lower key)
      match Key.names.lookup lowered with
      | none => .error (.invalidConfig (.unknownKey lowered))
      | some name =>
        (reading.settings.assign name key (Text.trim after)).map fun settings =>
          ⟨settings, reading.sawServer || name = .server⟩

/-- Where reading starts from. -/
def Reading.start : Reading :=
  ⟨{ standard with integratedSecurity := false, applicationName := none }, false⟩

/-- The settings a connection string spells out, if they are valid. -/
def parse (text : String) : Except Error Settings := do
  let reading ← (Text.pieces ';' text.toList).foldlM Reading.step Reading.start
  if reading.sawServer then
    reading.settings.validate
    return reading.settings
  else throw (.invalidConfig .missingServer)

end RowPayload.Settings
