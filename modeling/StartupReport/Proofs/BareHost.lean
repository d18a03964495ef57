/-
StartupReport/Proofs/BareHost.lean

A host with nothing on it.

Its file system holds the root and no file, nothing is installed and no limit is
known.  What is said of every host under an assumption can be tried on it.
-/
import StartupReport.Host

namespace StartupReport

/-- A host with an empty file system, on which nothing is installed. -/
def bareHost : Host where
  environment := []
  files := ⟨[], [], []⟩
  readDocument := fun _ => .ok .null
  interpreter := ⟨[], .list [], none, .list [], (3, 11), 1000⟩
  platform := ⟨.ok (.str "Linux"), .ok (.str "CPython"), .ok (.str "GCC"), .ok (.str "3.11.0")⟩
  user := .ok (.str "root")
  temporaryDirectory := .ok (.str "/tmp")
  memory := ⟨.ok (.int 0), .ok (.int 0)⟩
  limits := .error (.noModule "resource")
  security := .error (.noModule "gssapi")
  securityErrors := fun name => .error (.noModule name)
  distribution := fun name => .error (.noDistribution name)
  versionResource := .absent
  packageDirectory := "/"
  currentDirectory := "/"
  git := []
  now := .ok ⟨⟨⟨2020, 1, 1⟩, 0, 0, 0, 0⟩, some 0⟩
  terminal := false

end StartupReport
