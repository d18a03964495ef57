/-
StartupReport/Banner/Facts.lean

The facts that a startup banner shows, and how they are laid out.

A banner has a fixed order of lines between two rules of dashes, preceded by
the log lines inherited from whatever started the program, if there are any.
Laying out needs nothing but the facts: two programs with the same facts show
the same banner.
-/
import StartupReport.Build.Metadata

namespace StartupReport.Banner

/-- What a banner shows.  The arguments are those shown, so sensitive ones are
covered already. -/
structure Facts where
  inherited : Option String
  component : Value
  version : String
  toolchain : String
  revision : Build.Revision
  user : Value
  principal : String
  runtime : String
  /-- The memory that may be used, in mebibytes. -/
  memory : Value
  home : Option String
  /-- The version of the security service, null if there is none. -/
  security : Value
  options : List String
  arguments : List String
  modulePath : String

/-- The environment variable with the home of the installation. -/
def homeVariable : String := "PYTHONHOME"

/-- The environment variable with the inherited log lines. -/
def inheritedVariable : String := "ENVINFO_INHERITED_LOGS"

/-- The rule above and below a banner. -/
def rule : String := String.ofList (List.replicate 80 '-')

/-- A heading with items below it, or with a word if there are none. -/
def listing (heading : String) (items : List String) : List String :=
  if items.isEmpty then [heading ++ " (none)"] else heading :: items.map ("    " ++ ·)

/-- The lines before the banner itself. -/
def Facts.preamble (f : Facts) : List String :=
  match f.inherited with
  | some lines => [rule, " Preconfiguration: ", lines]
  | none => []

/-- The line that names the component and its build. -/
def Facts.headline (f : Facts) : String :=
  s!" Starting {f.component.text} (Version: {f.version}, Python: {f.toolchain}, " ++
    s!"Rev:{f.revision.commitId}, Date:{f.revision.commitDate})"

/-- The line about the security service. -/
def Facts.securityLine (f : Facts) : String :=
  match f.security with
  | .null => " No Kerberos Dependency available"
  | version => " Kerberos (gssapi) version: " ++ version.text

/-- The lines of a banner. -/
def Facts.lines (f : Facts) : List String :=
  f.preamble ++
  [rule, f.headline,
   s!" OS current user: {f.user.text}",
   s!" Current Kerberos user: {f.principal}",
   s!" Python runtime: {f.runtime}",
   s!" Maximum memory size: {f.memory.text} MiBytes",
   s!" {homeVariable}: " ++ f.home.getD "(not set)",
   f.securityLine] ++
  listing " Interpreter Options:" f.options ++
  listing " Program Arguments:" f.arguments ++
  [s!" Python path: {f.modulePath}", rule]

end StartupReport.Banner
