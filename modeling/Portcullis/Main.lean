/-
# The command line

Reads the settings from the environment and the key files they name, builds the service, and writes
the events on the way and the options to launch it with, each as one line of JSON.  A service that
cannot be built ends the program with the reason.
-/
import Portcullis.Launch

namespace Portcullis.CommandLine

/-- The variables of the environment that hold settings. -/
def settingVariables : List String := [
  "ENGINE_ENV", "ENGINE_SERVICE_NAME", "ENGINE_LOG_LEVEL", "ENGINE_API_HOST", "ENGINE_API_PORT",
  "ENGINE_JWT_ALG", "ENGINE_JWT_SECRET", "ENGINE_JWT_PUBLIC_KEY_FILE",
  "ENGINE_JWT_PRIVATE_KEY_FILE", "ENGINE_ACCESS_TOKEN_ISSUER", "ENGINE_ACCESS_TOKEN_AUDIENCE",
  "ENGINE_ADMIN_API_JWT_ALG", "ENGINE_ADMIN_API_JWT_SECRET", "ENGINE_ADMIN_API_PUBLIC_KEY_FILE",
  "ENGINE_ADMIN_API_TOKEN_ISSUER", "ENGINE_ADMIN_API_TOKEN_AUDIENCE"]

/-- The variables of the environment that hold settings of credentials and of transport. -/
def credentialVariables : List String := [
  "ENGINE_TRUSTED_ISSUERS", "ENGINE_PAYLOAD_SIGNATURE_SECRET", "ENGINE_STATIC_TOKEN",
  "ENGINE_VERIFICATION_TOKEN_SECRET", "ENGINE_VERIFICATION_TOKEN_OTP_SECRET",
  "ENGINE_VERIFICATION_TOKEN_ISSUER", "ENGINE_VERIFICATION_TOKEN_AUDIENCE",
  "ENGINE_TLS_SERVER_KEY", "ENGINE_TLS_SERVER_CERT", "ENGINE_TLS_CA_CERT",
  "ENGINE_ALLOWED_CLIENT_HOSTS", "ENGINE_TLS_TRUST_PROXY_HEADERS"]

/-- The variables that are set. -/
def readEnvironment : IO Environment := do
  let found ← (settingVariables ++ credentialVariables).mapM fun name => do
    return (← IO.getEnv name).map fun v => (Text.ofString name, Text.ofString v)
  return found.filterMap id

/-- The octets of a file, or why there are none. -/
def readOctets (path : Text) : IO (Except Fault.Kind Bytes) := do
  try
    return .ok (← IO.FS.readBinFile (Text.toString path)).toList
  catch _ => return .error .fileAbsent

/-- The key files that settings name. -/
def readKeyFiles (s : Settings) : IO Trust.Files := do
  let paths := [s.authService.publicKeyFile, s.authService.privateKeyFile,
    s.adminApi.publicKeyFile].filterMap id
  let contents ← paths.mapM fun path => do return (path, ← readOctets path)
  return fun path => (contents.lookup path).getD (.error .fileAbsent)

/-- Writes a value as one line. -/
def writeLine (v : Json) : IO Unit := IO.println (Text.toString v.ascii)

/-- What is written of a failure. -/
def failureLine (f : Fault) : Json := .object [
  ("error", .text f.name), ("message", .text f.message)]

/-- Launches the service that settings describe. -/
def launch (s : Settings) : IO UInt32 := do
  let attempt := Launch.ofSettings (← readKeyFiles s) s
  (Service.lines s [] attempt.events).forM writeLine
  match attempt.outcome with
  | .ok launch => writeLine launch.toJson; return 0
  | .error fault => writeLine (failureLine fault); return 1

/-- Launches the service that the environment describes. -/
def run : IO UInt32 := do
  match Settings.ofEnvironment (← readEnvironment) with
  | .ok settings => launch settings
  | .error fault => writeLine (failureLine fault); return 1

end Portcullis.CommandLine

def main : IO UInt32 := Portcullis.CommandLine.run
