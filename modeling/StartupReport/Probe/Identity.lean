/-
StartupReport/Probe/Identity.lean

Who runs the program: the user of the operating system and the principal of
the security service.

The principal is shortened to what stands before its realm and its instance.
A host without the security service, a user without credentials and a service
that fails are told apart by the answer or by the weight of the log record.
-/
import StartupReport.Probe.Limit

namespace StartupReport.Probe

open Build (unknown)

/-- The name of the module of the security service. -/
def securityModuleName : String := "gssapi"

/-- What stands for the principal where the security service is not installed. -/
def noSecurityModule : String := "<no gssapi dependency found>"

/-- The part of a principal before its realm and its instance. -/
def shortName (principal : List Char) : List Char :=
  (principal.takeWhile (· ≠ '@')).takeWhile (· ≠ '/')

/-- The credentials that the security service gives, if the module can be asked. -/
def askCredentials (m : SecurityModule) : Outcome Credentials :=
  match m.credentials with
  | some answer => answer
  | none => .error (.moduleMember m.name "Credentials")

/-- The short name of the principal, none without credentials.  A failure to get
credentials is compared with the one that the module of failures has for the
service, so a module without it fails whatever the failure was.  What comes after
the credentials is compared with nothing. -/
def principalName (h : Host) (m : SecurityModule) : Traced (Option String) := do
  let errors ← Traced.ask (h.securityErrors (m.name ++ ".exceptions"))
  match askCredentials m with
  | .ok credentials => do
    let name ← Traced.ask credentials.name
    return some (String.ofList (shortName name.text.toList))
  | .error f =>
    if ¬ errors.hasServiceError then
      Traced.fail (.moduleMember errors.name "GSSError")
    else if f.family = .security then
      Traced.log probeLogger Log.Level.debug
        ("No Kerberos credentials available for the current user: " ++ f.message)
      return none
    else Traced.fail f

/-- The short name of the principal of the current user, or what stands for it. -/
def securityUser (h : Host) : Traced String := do
  match ← probe securityModuleName h.security (principalName h) with
  | .available name => return name.getD unknown
  | .missing _ => return noSecurityModule
  | .incompatible f =>
    Traced.log probeLogger Log.Level.debug
      ("Cannot determine user/group information using gssapi. " ++
        "gssapi not loaded or compatible") (some f)
    return unknown
  | .failed f =>
    Traced.log probeLogger Log.Level.warning
      "Error while accessing user/group information via gssapi." (some f)
    return unknown

/-- The version of the security service, null where it is not available. -/
def securityVersion (h : Host) : Traced Value := do
  match ← probe securityModuleName h.security fun m => Traced.ask (h.distribution m.name) with
  | .available version => return version
  | .failed f =>
    Traced.log probeLogger Log.Level.error "Cannot determine the gssapi version." (some f)
    return .null
  | _ => return .null

/-- The user of the operating system, or the word for what is not known. -/
def osUser (h : Host) : Traced Value := do
  match ← (Traced.ask h.user).attempt with
  | .ok user => return user
  | .error f =>
    if f.isOrdinary then
      Traced.log probeLogger Log.Level.debug
        ("Cannot determine the operating system user: " ++ f.message)
      return .str unknown
    else Traced.fail f

end StartupReport.Probe
