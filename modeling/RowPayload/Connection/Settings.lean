import RowPayload.Error
import RowPayload.Text.Blank

/-!
# Connection settings

What a connection to the database server needs to know. Settings are valid when
the server has a name, somebody is logged in and the time-out is positive.
-/

namespace RowPayload

/-- A span of time; `nanoseconds` stays below one second. -/
structure Duration where
  seconds : Nat
  nanoseconds : Nat
deriving DecidableEq

namespace Duration

/-- The nanoseconds of a second. -/
def nanosPerSecond : Nat := 1000000000

/-- A span whose full seconds of nanoseconds are carried over. -/
def carrying (seconds nanoseconds : Nat) : Duration :=
  ⟨seconds + nanoseconds / nanosPerSecond, nanoseconds % nanosPerSecond⟩

/-- Whether no time passes. -/
def isZero (duration : Duration) : Bool := duration.seconds == 0 && duration.nanoseconds == 0

end Duration

/-- What a connection needs to know. -/
structure Settings where
  server : String
  database : Option String
  integratedSecurity : Bool
  userId : Option String
  password : Option String
  applicationName : Option String
  connectTimeout : Duration
  encrypt : Bool
  trustServerCertificate : Bool
deriving DecidableEq

namespace Settings

/-- The settings that nothing was said about. -/
def standard : Settings where
  server := "localhost"
  database := none
  integratedSecurity := true
  userId := none
  password := none
  applicationName := some "rowstream"
  connectTimeout := ⟨15, 0⟩
  encrypt := false
  trustServerCertificate := false

/-- The settings with a user and password in place of integrated security. -/
def login (settings : Settings) (userId password : String) : Settings :=
  { settings with
    integratedSecurity := false
    userId := some userId
    password := some password }

/-- Refuse settings that cannot work. -/
def validate (settings : Settings) : Except Error Unit :=
  if (Text.trim settings.server.toList).isEmpty then .error (.invalidConfig .emptyServer)
  else if !settings.integratedSecurity && settings.userId.isNone then
    .error (.invalidConfig .missingUser)
  else if settings.connectTimeout.isZero then .error (.invalidConfig .zeroTimeout)
  else .ok ()

end Settings

end RowPayload
