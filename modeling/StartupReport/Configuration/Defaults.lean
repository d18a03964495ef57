/-
StartupReport/Configuration/Defaults.lean

The settings that hold unless others are given.

They come with the package as a text, which is read like any other settings; what it
spells out is `defaults`.
-/
import StartupReport.Banner.Sensitive

namespace StartupReport.Configuration

/-- The pattern of a log line. -/
def defaultPattern : String := "%(asctime)s - %(levelname)s - %(message)s"

/-- The text of the settings that come with the package. -/
def packagedText : String :=
  "# Default envinfo configuration.\n" ++
  "# Override any key in envinfo.config.yaml or the file named by ENVINFO_CONFIG.\n" ++
  "\n" ++
  "banner:\n" ++
  "  component_name: envinfo\n" ++
  "  hidden_content: \"******\"\n" ++
  "  sensitive_keys:\n" ++
  "    - password\n" ++
  "    - secret\n" ++
  "    - fs.azure.account.key\n" ++
  "    - apikey\n" ++
  "    - api-key\n" ++
  "    - auth-params\n" ++
  "    - service-key\n" ++
  "    - token\n" ++
  "    - basic-auth\n" ++
  "    - jaas.config\n" ++
  "    - http-headers\n" ++
  "\n" ++
  "memory:\n" ++
  "  # Explicit memory ceiling in bytes; null uses the address-space limit\n" ++
  "  # or a quarter of the physical memory\n" ++
  "  max_bytes: null\n" ++
  "\n" ++
  "logging:\n" ++
  "  level: INFO\n" ++
  "  format: \"%(asctime)s - %(levelname)s - %(message)s\"\n"

/-- The settings that come with the package. -/
def defaults : Mapping :=
  [(.str "banner", .map
     [(.str "component_name", .str "envinfo"), (.str "hidden_content", .str Banner.defaultCover),
      (.str "sensitive_keys", Banner.defaultKeysValue)]),
   (.str "memory", .map [(.str "max_bytes", .null)]),
   (.str "logging", .map
     [(.str "level", .str "INFO"), (.str "format", .str defaultPattern)])]

end StartupReport.Configuration
