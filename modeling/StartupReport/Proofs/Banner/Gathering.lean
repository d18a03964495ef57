/-
StartupReport/Proofs/Banner/Gathering.lean

Where the facts of a banner come from.

Gathering asks one source after another, and the first that fails ends it.  If none
does, every fact is what its source gave (`Gathered`, `gathered_of_gather`).  What
gathering leaves behind comes from the sources: the version resource may have been
opened, and there may be records of the loggers that the sources have for themselves
(`leaves_gather`).  The logger that the banner is written to is not among them.
-/
import StartupReport.Banner.Report
import StartupReport.Proofs.Build.HolderRun
import StartupReport.Proofs.Build.ResourceAccess

namespace StartupReport.Banner

open Traced (Leaves leaves_emit leaves_emit_bind outcome_bind_eq_ok_iff outcome_use_eq_ok_iff)

/-! ### The build -/

/-- What a banner shows of a build. -/
def provenanceOf (m : Build.Metadata) : Build.Revision × String × String :=
  (m.revision, m.projectVersion, m.toolchainVersion)

/-- The build is loaded once, however many of its members are asked for. -/
theorem provenance_eq (h : Host) :
    (provenance (ownBuild h) {}).1 = provenanceOf <$> Build.load h.versionResource := by
  have hget : Build.Holder.get (ownBuild h) {} = (some <$> Build.load h.versionResource,
      { Build.Holder.keep {} (some <$> Build.load h.versionResource).outcome with loads := 1 }) :=
    Build.get_of_open rfl rfl
  rcases hload : Build.load h.versionResource with ⟨e | m, events⟩
  · have hfail : (some <$> (⟨.error e, events⟩ : Traced Build.Metadata)) = ⟨.error e, events⟩ := rfl
    rw [hload, hfail] at hget
    have hfirst : Build.commitIdAbbrev (ownBuild h) {} = (⟨.error e, events⟩, _) :=
      Build.Reading.bind_of_error hget
    have hall : provenance (ownBuild h) {} = (⟨.error e, events⟩, _) :=
      Build.Reading.bind_of_error (Build.Reading.bind_of_error hfirst)
    rw [hall]
    rfl
  · rw [hload, Traced.map_of_ok] at hget
    -- the first member has loaded the value, and the others find it
    have hfirst : Build.commitIdAbbrev (ownBuild h) {}
        = (⟨.ok m.commitIdAbbrev, events⟩, ⟨some m, none, 1⟩) :=
      Build.Reading.bind_of_ok hget rfl
    have hrevision : Build.revision (ownBuild h) {}
        = (⟨.ok m.revision, events⟩, ⟨some m, none, 1⟩) :=
      Build.Reading.bind_of_ok hfirst rfl
    have hall : provenance (ownBuild h) {}
        = (⟨.ok (provenanceOf m), events⟩, ⟨some m, none, 1⟩) :=
      Build.Reading.bind_of_ok hrevision rfl
    rw [hall, Traced.map_of_ok]

/-! ### One source after another -/

/-- The source of the readings of memory: the one that is given, or else the process
under the ceiling that is configured. -/
def memorySource (h : Host) (config : Value) : Option MemorySource → Traced MemorySource
  | some source => pure source
  | none => MemorySource.ofProcess h <$> Traced.use (configuredCeiling config)

/-- The facts of a banner under settings, with readings of memory from a source. -/
def gatherFrom (h : Host) (component arguments : Value) (settings : Settings)
    (source : MemorySource) : Traced Facts := do
  let build ← Build.load h.versionResource
  let runtime ← Probe.runtimeVersion h
  let ceiling ← source.maxMemory
  let memory ← MemorySource.mebibytes ceiling
  let user ← Probe.osUser h
  let principal ← Probe.securityUser h
  let security ← Probe.securityVersion h
  let shown ← Traced.use (shownArguments settings arguments)
  let modulePath ← Traced.ask (Probe.modulePath h.interpreter)
  return {
    component, user, principal, runtime, memory, security, modulePath
    version := build.projectVersion
    toolchain := build.toolchainVersion
    revision := build.revision
    arguments := shown
    inherited := h.valueOf? inheritedVariable
    home := h.valueOf? homeVariable
    options := Probe.startupOptionList h.interpreter }

section
variable {h : Host} {component arguments config : Value} {source : Option MemorySource}

theorem gather_eq :
    gather h component arguments config source = (do
      let settings ← Traced.use (Settings.of (config.orElse (.map [])))
      let memory ← memorySource h (config.orElse (.map [])) source
      gatherFrom h component arguments settings memory) := by
  unfold gather
  refine Traced.bind_congr fun settings _ => ?_
  rw [provenance_eq]
  -- a given source is taken as it is, and the process has to be asked for its ceiling first
  cases source with
  | some source =>
    simp only [Traced.bind_of_map]
    rfl
  | none =>
    simp only [memorySource, Traced.bind_of_map]
    rfl

/-- Every fact is what its source gave. -/
structure Gathered (h : Host) (component arguments config : Value) (source : Option MemorySource)
    (f : Facts) : Prop where
  component : f.component = component
  inherited : f.inherited = h.valueOf? inheritedVariable
  home : f.home = h.valueOf? homeVariable
  build : ∃ m, (Build.load h.versionResource).outcome = .ok m ∧
    f.revision = m.revision ∧ f.version = m.projectVersion ∧ f.toolchain = m.toolchainVersion
  runtime : (Probe.runtimeVersion h).outcome = .ok f.runtime
  memory : ∃ memory ceiling, (memorySource h (config.orElse (.map [])) source).outcome = .ok memory ∧
    memory.maxMemory.outcome = .ok ceiling ∧
    (MemorySource.mebibytes ceiling).outcome = .ok f.memory
  user : (Probe.osUser h).outcome = .ok f.user
  principal : (Probe.securityUser h).outcome = .ok f.principal
  security : (Probe.securityVersion h).outcome = .ok f.security
  options : f.options = Probe.startupOptionList h.interpreter
  arguments : ∃ settings, Settings.of (config.orElse (.map [])) = .ok settings ∧
    shownArguments settings arguments = .ok f.arguments
  modulePath : Probe.modulePath h.interpreter = .ok f.modulePath

theorem gathered_of_gather {f : Facts}
    (hf : (gather h component arguments config source).outcome = .ok f) :
    Gathered h component arguments config source f := by
  rw [gather_eq] at hf
  obtain ⟨settings, hsettings, hf⟩ := outcome_bind_eq_ok_iff.1 hf
  obtain ⟨m, hm, hf⟩ := outcome_bind_eq_ok_iff.1 hf
  obtain ⟨build, hbuild, hf⟩ := outcome_bind_eq_ok_iff.1 hf
  obtain ⟨runtime, hruntime, hf⟩ := outcome_bind_eq_ok_iff.1 hf
  obtain ⟨ceiling, hceiling, hf⟩ := outcome_bind_eq_ok_iff.1 hf
  obtain ⟨memory, hmemory, hf⟩ := outcome_bind_eq_ok_iff.1 hf
  obtain ⟨user, huser, hf⟩ := outcome_bind_eq_ok_iff.1 hf
  obtain ⟨principal, hprincipal, hf⟩ := outcome_bind_eq_ok_iff.1 hf
  obtain ⟨security, hsecurity, hf⟩ := outcome_bind_eq_ok_iff.1 hf
  obtain ⟨shown, hshown, hf⟩ := outcome_bind_eq_ok_iff.1 hf
  obtain ⟨modulePath, hpath, hf⟩ := outcome_bind_eq_ok_iff.1 hf
  cases hf
  exact {
    component := rfl
    inherited := rfl
    home := rfl
    build := ⟨build, hbuild, rfl, rfl, rfl⟩
    runtime := hruntime
    memory := ⟨m, ceiling, hm, hceiling, hmemory⟩
    user := huser
    principal := hprincipal
    security := hsecurity
    options := rfl
    arguments := ⟨settings, outcome_use_eq_ok_iff.1 hsettings, outcome_use_eq_ok_iff.1 hshown⟩
    modulePath := hpath }

end

/-! ### What gathering leaves behind -/

/-- The loggers that the sources of facts have for themselves. -/
def sourceLoggers : List String :=
  [Build.resolutionLogger, Probe.probeLogger, MemorySource.memoryLogger]

/-- What the sources of facts may leave behind, apart from a source of readings of memory
that is given. -/
inductive OfSource : Event → Prop
  | opened : OfSource .opened
  | logged (r : Record) (h : r.logger ∈ sourceLoggers) : OfSource (.logged r)

namespace OfSource

theorem resolution (r : Record) (h : r.logger = Build.resolutionLogger) : OfSource (.logged r) :=
  .logged r (h ▸ .head _)

theorem probe (r : Record) (h : r.logger = Probe.probeLogger) : OfSource (.logged r) :=
  .logged r (h ▸ .tail _ (.head _))

theorem memory (r : Record) (h : r.logger = MemorySource.memoryLogger) : OfSource (.logged r) :=
  .logged r (h ▸ .tail _ (.tail _ (.head _)))

end OfSource

section
variable {α β μ : Type} {p : Event → Prop}

theorem leaves_absorb {x : Traced α} {good : α → Traced β} (bad : Fault → β) (hx : x.Leaves p)
    (hgood : ∀ a, (good a).Leaves p) : (Probe.absorb x good bad).Leaves p := by
  refine hx.attempt.bind fun o => ?_
  rcases o with f | a
  · dsimp only
    split_ifs
    · exact .of_nil rfl
    · exact .of_nil rfl
  · exact hgood a

theorem leaves_probe (module : String) (loading : Outcome μ) {accessor : μ → Traced α}
    (haccessor : ∀ m, (accessor m).Leaves p) :
    (Probe.probe module loading accessor).Leaves p :=
  leaves_absorb _ (.of_nil rfl) fun m => leaves_absorb _ (haccessor m) fun _ => .of_nil rfl

end

theorem leaves_read (r : Build.Resource) : r.read.Leaves OfSource := by
  refine Leaves.bind (.of_nil rfl) fun isFile => ?_
  split_ifs
  · exact (leaves_emit .opened).bind fun _ => Leaves.bind (.of_nil rfl) fun _ => .of_nil rfl
  · exact .of_nil rfl

theorem leaves_load (r : Build.Resource) : (Build.load r).Leaves OfSource := by
  refine (leaves_read r).attempt.bind fun o => ?_
  rcases o with e | ps?
  · dsimp only
    split_ifs
    · exact leaves_emit_bind (.resolution _ rfl) rfl
    · exact .of_nil rfl
  · cases ps? with
    | none => exact leaves_emit_bind (.resolution _ rfl) rfl
    | some ps => exact Build.leaves_ofProperties OfSource.resolution ps _ _

section
variable (h : Host)

theorem leaves_runtimeVersion : (Probe.runtimeVersion h).Leaves OfSource := by
  refine leaves_absorb _ ?_ fun _ => .of_nil rfl
  exact Leaves.bind (.of_nil rfl) fun _ => Leaves.bind (.of_nil rfl) fun _ =>
    Leaves.bind (.of_nil rfl) fun _ => .of_nil rfl

theorem leaves_osUser : (Probe.osUser h).Leaves OfSource := by
  refine Leaves.bind (.of_nil rfl) fun o => ?_
  rcases o with f | user
  · dsimp only
    split_ifs
    · exact leaves_emit_bind (.probe _ rfl) rfl
    · exact .of_nil rfl
  · exact .of_nil rfl

theorem leaves_principalName (m : SecurityModule) :
    (Probe.principalName h m).Leaves OfSource := by
  refine Leaves.bind (.of_nil rfl) fun errors => ?_
  rcases Probe.askCredentials m with f | credentials
  · dsimp only
    split_ifs
    · exact leaves_emit_bind (.probe _ rfl) rfl
    · exact .of_nil rfl
    · exact .of_nil rfl
  · exact Leaves.bind (.of_nil rfl) fun _ => .of_nil rfl

theorem leaves_securityUser : (Probe.securityUser h).Leaves OfSource := by
  refine (leaves_probe _ _ (leaves_principalName h)).bind fun probed => ?_
  cases probed with
  | available name => exact .of_nil rfl
  | missing f => exact .of_nil rfl
  | incompatible f => exact leaves_emit_bind (.probe _ rfl) rfl
  | failed f => exact leaves_emit_bind (.probe _ rfl) rfl

theorem leaves_securityVersion : (Probe.securityVersion h).Leaves OfSource := by
  refine (leaves_probe _ _ fun _ => .of_nil rfl).bind fun probed => ?_
  cases probed with
  | available version => exact .of_nil rfl
  | missing f => exact .of_nil rfl
  | incompatible f => exact .of_nil rfl
  | failed f => exact leaves_emit_bind (.probe _ rfl) rfl

theorem leaves_addressSpaceLimit : (Probe.addressSpaceLimit h).Leaves OfSource :=
  (leaves_probe _ _ fun _ => .of_nil rfl).bind fun _ => .of_nil rfl

theorem leaves_physical (given : Value) :
    (MemorySource.ofProcess h given).physical.Leaves OfSource := by
  refine Leaves.bind (.of_nil rfl) fun o => ?_
  rcases o with f | v
  · dsimp only
    split_ifs
    · exact leaves_emit_bind (.memory _ rfl) rfl
    · exact .of_nil rfl
  · exact .of_nil rfl

theorem leaves_maxMemory (given : Value) :
    (MemorySource.ofProcess h given).maxMemory.Leaves OfSource := by
  have hceiling : (MemorySource.ofProcess h given).ceiling.Leaves OfSource := by
    cases given with
    | null => exact leaves_addressSpaceLimit h
    | _ => exact .of_nil rfl
  refine hceiling.bind fun ceiling => ?_
  split
  · refine (leaves_physical h given).bind fun physical => ?_
    split_ifs
    · exact .of_nil rfl
    · exact .of_nil rfl
  · exact .of_nil rfl

end

/-- An event that gathering may leave behind: one of its sources, or one of the source of
readings of memory that it is given. -/
def OfGathering (source : Option MemorySource) (e : Event) : Prop :=
  OfSource e ∨ ∃ given, source = some given ∧ e ∈ given.maxMemory.events

theorem leaves_gatherFrom {p : Event → Prop} (hp : ∀ e, OfSource e → p e) (h : Host)
    (component arguments : Value) (settings : Settings) {memory : MemorySource}
    (hmemory : memory.maxMemory.Leaves p) :
    (gatherFrom h component arguments settings memory).Leaves p := by
  -- one source after another, in the order in which they are asked
  refine ((leaves_load _).imp hp).bind fun build => ?_
  refine ((leaves_runtimeVersion h).imp hp).bind fun runtime => ?_
  refine hmemory.bind fun ceiling => Leaves.bind (.of_nil rfl) fun mebibytes => ?_
  refine ((leaves_osUser h).imp hp).bind fun user => ?_
  refine ((leaves_securityUser h).imp hp).bind fun principal => ?_
  refine ((leaves_securityVersion h).imp hp).bind fun security => ?_
  exact Leaves.bind (.of_nil rfl) fun shown => Leaves.bind (.of_nil rfl) fun path => .of_nil rfl

/-- What gathering leaves behind comes from its sources. -/
theorem leaves_gather (h : Host) (component arguments config : Value)
    (source : Option MemorySource) :
    (gather h component arguments config source).Leaves (OfGathering source) := by
  rw [gather_eq]
  refine Leaves.bind (.of_nil rfl) fun settings => ?_
  cases source with
  | none =>
    rw [memorySource, Traced.bind_of_map]
    refine Leaves.bind (.of_nil rfl) fun ceiling => ?_
    exact leaves_gatherFrom (fun _ => .inl) h _ _ _ ((leaves_maxMemory h ceiling).imp fun _ => .inl)
  | some given =>
    exact leaves_gatherFrom (fun _ => .inl) h _ _ _ fun e he => .inr ⟨given, rfl, he⟩

end StartupReport.Banner
