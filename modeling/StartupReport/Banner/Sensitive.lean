/-
StartupReport/Banner/Sensitive.lean

Arguments that must not be shown.

An argument is sensitive if one of the keys occurs in it, both in lower case.
The keys are looked at in turn and only as far as needed, so a malformed key
behind one that occurs does no harm.
-/
import StartupReport.Text.Lowercase
import StartupReport.Text.Occurrence
import StartupReport.Value

namespace StartupReport.Banner

open Text (lower occursIn)

/-- The keys that make an argument sensitive unless others are configured. -/
def defaultKeys : List String :=
  ["password", "secret", "fs.azure.account.key", "apikey", "api-key", "auth-params", "service-key",
   "token", "basic-auth", "jaas.config", "http-headers"]

/-- What is shown in place of a sensitive argument unless another text is
configured. -/
def defaultCover : String := "******"

/-- One of the keys, in lower case, occurs in a text. -/
def mentionsAny (text : List Char) : List Value → Except Misuse Bool
  | [] => .ok false
  | key :: keys => do
    let k ← key.textFor "lower"
    if occursIn (lower k.toList) text then return true else mentionsAny text keys

/-- An argument is sensitive under some keys. -/
def isSensitive (argument keys : Value) : Except Misuse Bool := do
  let text ← argument.textFor "lower"
  mentionsAny (lower text.toList) (← keys.items)

/-- The keys as a value. -/
def defaultKeysValue : Value := .list (defaultKeys.map .str)

end StartupReport.Banner
