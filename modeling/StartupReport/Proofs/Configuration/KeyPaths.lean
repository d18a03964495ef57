/-
StartupReport/Proofs/Configuration/KeyPaths.lean

Settings on top of defaults, along paths of keys.

A path of keys leads through nested mappings (`Value.at?`), and nothing lies below a value
that is no mapping.  One equation says what a merger has under a path at which there is a
setting (`at?_mergeAt_of_some`): the setting on top of what the default has there, which is
the setting itself unless it is a mapping.  Where there is none and no setting cuts the
path off, the default stays (`at?_mergeAt_of_none`).

Both need that no mapping on the way has two settings of one key (`KeysOnce`).  The keys
on a path are values of any shape, and two of them that are equal lead to the same.

Main result: `onTop_mergeValues`.
-/
import StartupReport.Configuration.Defaults
import StartupReport.Proofs.Configuration.Merging

namespace StartupReport

/-! ### Paths of keys -/

namespace Value

/-- What is found under the key of an entry, if no other entry has it. -/
theorem lookup?_of_mem {entries : Mapping} {key value : Value} (hkeys : KeysDiffer entries)
    (h : (key, value) ∈ entries) : lookup? entries key = some value := by
  induction entries with
  | nil => cases h
  | cons e entries ih =>
    obtain ⟨hnone, hkeys⟩ := keysDiffer_cons.1 hkeys
    rw [lookup?_cons]
    rcases List.mem_cons.1 h with rfl | h
    · exact if_pos rfl
    · have hne : e.1.identity ≠ key.identity := fun heq =>
        (lookup?_eq_none_iff _ _).1 hnone _ h heq.symm
      rw [if_neg hne]
      exact ih hkeys h

/-- Writing what is there changes nothing, not even the order. -/
theorem write_of_lookup? {entries : Mapping} {key value : Value}
    (h : lookup? entries key = some value) : write entries key value = entries := by
  induction entries with
  | nil => cases h
  | cons e entries ih =>
    obtain ⟨k, v⟩ := e
    rw [lookup?_cons] at h
    by_cases hk : k.identity = key.identity
    · rw [if_pos hk] at h
      obtain rfl : v = value := Option.some.inj h
      rw [write, if_pos hk]
    · rw [if_neg hk] at h
      rw [write, if_neg hk, ih h]

/-- What a value has under a key: nothing if it is no mapping. -/
def under? (v key : Value) : Option Value :=
  match v with
  | .map entries => lookup? entries key
  | _ => none

/-- What a path of keys leads to, from a value on. -/
def at? (v : Value) (path : List Value) : Option Value := path.foldlM under? v

/-- A setting above a path that is no mapping, so that the path leads nowhere. -/
def CutsOff (v : Value) (path : List Value) : Prop :=
  ∃ above w, above <+: path ∧ above ≠ path ∧ v.at? above = some w ∧ w.shape ≠ .map

section
variable {v w key : Value} {path : List Value}

theorem at?_cons (v key : Value) (path : List Value) :
    v.at? (key :: path) = (v.under? key).bind fun w => w.at? path :=
  List.foldlM_cons

theorem at?_append (v : Value) (front back : List Value) :
    v.at? (front ++ back) = (v.at? front).bind fun w => w.at? back :=
  List.foldlM_append

theorem under?_of_shape_ne (h : v.shape ≠ .map) (key : Value) : v.under? key = none := by
  cases v with
  | map entries => exact absurd rfl h
  | _ => rfl

theorem exists_map_of_shape (h : v.shape = .map) : ∃ entries, v = .map entries := by
  cases v with
  | map entries => exact ⟨entries, rfl⟩
  | _ => cases h

/-- Only a mapping has anything below it. -/
theorem exists_map_of_at?_cons (h : v.at? (key :: path) = some w) :
    ∃ entries u, v = .map entries ∧ lookup? entries key = some u ∧ u.at? path = some w := by
  rw [at?_cons] at h
  obtain ⟨u, hu, hw⟩ := Option.bind_eq_some_iff.1 h
  cases v with
  | map entries => exact ⟨entries, u, rfl, hu, hw⟩
  | _ => cases hu

/-- A path that is cut off leads nowhere. -/
theorem CutsOff.at?_eq_none (h : v.CutsOff path) : v.at? path = none := by
  obtain ⟨above, w, ⟨rest, rfl⟩, hne, hw, hshape⟩ := h
  rcases rest with - | ⟨key, rest⟩
  · exact absurd (List.append_nil above).symm hne
  · rw [at?_append, hw, Option.bind_some, at?_cons, under?_of_shape_ne hshape, Option.bind_none]

/-- What cuts off a path below a key does so from above the key too. -/
theorem CutsOff.cons {entries : Mapping} (hkey : lookup? entries key = some w)
    (h : w.CutsOff path) : (Value.map entries).CutsOff (key :: path) := by
  obtain ⟨above, u, hprefix, hne, hu, hshape⟩ := h
  refine ⟨key :: above, u, (List.prefix_cons_inj key).2 hprefix, ?_, ?_, hshape⟩
  · exact fun heq => hne (List.cons.inj heq).2
  · rw [at?_cons]
    exact (congrArg (·.bind fun w => w.at? above) hkey).trans hu

/-- A value that is no mapping cuts off every path below it. -/
theorem cutsOff_of_shape_ne (h : v.shape ≠ .map) (key : Value) (path : List Value) :
    v.CutsOff (key :: path) :=
  ⟨[], v, List.nil_prefix, nofun, rfl, h⟩

end

/-- No mapping that a path of keys leads to has a key twice. -/
inductive KeysOnce : Value → Prop
  | leaf {v : Value} : v.shape ≠ .map → KeysOnce v
  | map {entries : Mapping} : KeysDiffer entries →
      (∀ e ∈ entries, KeysOnce e.2) → KeysOnce (.map entries)

theorem KeysOnce.keysDiffer {entries : Mapping} (h : KeysOnce (.map entries)) :
    KeysDiffer entries := by
  cases h with
  | leaf hshape => exact absurd rfl hshape
  | map hkeys _ => exact hkeys

theorem KeysOnce.of_lookup? {entries : Mapping} {key w : Value}
    (h : KeysOnce (.map entries)) (hw : lookup? entries key = some w) : KeysOnce w := by
  cases h with
  | leaf hshape => exact absurd rfl hshape
  | map _ hentries =>
    obtain ⟨k, hmem, -⟩ := exists_mem_of_lookup? hw
    exact hentries _ hmem

end Value

namespace Configuration

open Value (KeysOnce CutsOff KeysDiffer lookup?)

/-! ### A merger under a key -/

section
variable {previous : Option Value} {setting : Value} {settings : Mapping}

theorem mergeAt_map_map (defaults settings : Mapping) :
    mergeAt (some (.map defaults)) (.map settings) = .map (merge defaults settings) := by
  rw [mergeAt]

/-- A mapping of settings replaces what is no mapping. -/
theorem mergeAt_of_previous_ne (h : ∀ defaults, previous ≠ some (.map defaults)) :
    mergeAt previous setting = setting := by
  by_cases hshape : setting.shape = .map
  · obtain ⟨settings, rfl⟩ := Value.exists_map_of_shape hshape
    rw [mergeAt]
    exact h
  · exact mergeAt_of_shape_ne hshape previous

theorem exists_mergeAt_map (previous : Option Value) (settings : Mapping) :
    ∃ merged, mergeAt previous (.map settings) = .map merged := by
  by_cases hprevious : ∃ defaults, previous = some (.map defaults)
  · obtain ⟨defaults, rfl⟩ := hprevious
    exact ⟨_, mergeAt_map_map defaults settings⟩
  · exact ⟨settings, mergeAt_of_previous_ne fun defaults h => hprevious ⟨defaults, h⟩⟩

/-- Under a key a merger has the setting on top of what the default has there, and the default
if there is no setting. -/
theorem under?_mergeAt (hkeys : KeysDiffer settings) (previous : Option Value) (key : Value) :
    (mergeAt previous (.map settings)).under? key
      = ((lookup? settings key).map (mergeAt (previous.bind fun d => d.under? key))).or
          (previous.bind fun d => d.under? key) := by
  by_cases hprevious : ∃ defaults, previous = some (.map defaults)
  · obtain ⟨defaults, rfl⟩ := hprevious
    rw [mergeAt_map_map]
    exact lookup?_merge hkeys defaults key
  · -- a default that is no mapping has nothing under the key
    have hnone : (previous.bind fun d => d.under? key) = none := by
      rcases previous with - | d
      · rfl
      · refine Value.under?_of_shape_ne (fun hshape => hprevious ?_) key
        obtain ⟨defaults, rfl⟩ := Value.exists_map_of_shape hshape
        exact ⟨defaults, rfl⟩
    have hself : mergeAt none = id := funext fun setting => mergeAt_of_previous_ne nofun
    rw [mergeAt_of_previous_ne fun defaults h => hprevious ⟨defaults, h⟩, hnone, hself,
      Option.map_id, Option.or_none]
    rfl

/-! ### A merger under a path -/

/-- Where a path leads to a setting, a merger has it on top of what the default has there. -/
theorem at?_mergeAt_of_some {path : List Value} {w : Value} (hkeys : KeysOnce setting)
    (hw : setting.at? path = some w) :
    (mergeAt previous setting).at? path
      = some (mergeAt (previous.bind fun d => d.at? path) w) := by
  induction path generalizing previous setting with
  | nil =>
    cases hw
    rcases previous with - | d
    · rfl
    · rfl
  | cons key path ih =>
    obtain ⟨settings, u, rfl, hu, hw⟩ := Value.exists_map_of_at?_cons hw
    rw [Value.at?_cons, under?_mergeAt hkeys.keysDiffer, hu, Option.map_some, Option.some_or,
      Option.bind_some, ih (hkeys.of_lookup? hu) hw, Option.bind_assoc]
    simp only [Value.at?_cons]

/-- Where there is no setting, and none cuts the path off, the default stays. -/
theorem at?_mergeAt_of_none {path : List Value} (hkeys : KeysOnce setting)
    (hnone : setting.at? path = none) (hcut : ¬ setting.CutsOff path) :
    (mergeAt previous setting).at? path = previous.bind fun d => d.at? path := by
  induction path generalizing previous setting with
  | nil => cases hnone
  | cons key path ih =>
    have hshape : setting.shape = .map :=
      Decidable.not_not.1 fun hshape => hcut (Value.cutsOff_of_shape_ne hshape key path)
    obtain ⟨settings, rfl⟩ := Value.exists_map_of_shape hshape
    simp only [Value.at?_cons] at hnone ⊢
    rw [under?_mergeAt hkeys.keysDiffer]
    rcases hu : lookup? settings key with - | u
    · rw [Option.map_none, Option.none_or, Option.bind_assoc]
    · have hbelow : u.at? path = none := by
        rw [show (Value.map settings).under? key = some u from hu] at hnone
        exact hnone
      rw [Option.map_some, Option.some_or, Option.bind_some,
        ih (hkeys.of_lookup? hu) hbelow fun hbelowcut => hcut (hbelowcut.cons hu),
        Option.bind_assoc]

/-! ### Merging once more -/

/-- Settings that are there already change nothing. -/
theorem merge_of_settled {merged : Mapping}
    (h : ∀ e ∈ settings, ∃ w, lookup? merged e.1 = some w ∧ mergeAt (some w) e.2 = w) :
    merge merged settings = merged := by
  induction settings with
  | nil => rw [merge]
  | cons e settings ih =>
    obtain ⟨k, v⟩ := e
    obtain ⟨w, hw, hsettled⟩ := h _ List.mem_cons_self
    rw [merge, hw, hsettled, Value.write_of_lookup? hw]
    exact ih fun e he => h e (List.mem_cons_of_mem _ he)

/-- A setting on top of a merger with it changes nothing. -/
theorem mergeAt_mergeAt (hkeys : KeysOnce setting) (previous : Option Value) :
    mergeAt (some (mergeAt previous setting)) setting = mergeAt previous setting := by
  induction hkeys generalizing previous with
  | leaf hshape => rw [mergeAt_of_shape_ne hshape, mergeAt_of_shape_ne hshape]
  | @map settings hkeys _ ih =>
    obtain ⟨merged, hmerged⟩ := exists_mergeAt_map previous settings
    rw [hmerged]
    show Value.map (merge merged settings) = _
    rw [merge_of_settled fun e he => ?_]
    have hkey := under?_mergeAt hkeys previous e.1
    rw [hmerged, Value.lookup?_of_mem hkeys he, Option.map_some, Option.some_or] at hkey
    exact ⟨_, hkey, ih e he _⟩

end

/-! ### Settings on top of defaults -/

/-- What settings on top of defaults come to under a path of keys. -/
structure OnTop (defaults settings merged : Value) (path : List Value) : Prop where
  /-- A setting that is no mapping is kept as it is. -/
  setting : ∀ v, settings.at? path = some v → v.shape ≠ .map → merged.at? path = some v
  /-- Nothing is left below such a setting. -/
  below : settings.CutsOff path → merged.at? path = none
  /-- Without a setting the default is kept as it is. -/
  default : settings.at? path = none → ¬ settings.CutsOff path →
    merged.at? path = defaults.at? path
  /-- A mapping of settings is one of the merger. -/
  group : ∀ entries, settings.at? path = some (.map entries) →
    ∃ others, merged.at? path = some (.map others)

/-- A merger under a path, whatever is merged with. -/
theorem onTop_mergeAt {setting : Value} (hkeys : KeysOnce setting) (previous : Value)
    (path : List Value) : OnTop previous setting (mergeAt (some previous) setting) path where
  setting v hv hshape := by
    rw [at?_mergeAt_of_some hkeys hv, mergeAt_of_shape_ne hshape]
  below := by
    rintro ⟨above, w, hprefix, hne, hw, hshape⟩
    -- the setting is kept where it is, and so it cuts the path off in the merger as well
    have hkept : (mergeAt (some previous) setting).at? above = some w := by
      rw [at?_mergeAt_of_some hkeys hw, mergeAt_of_shape_ne hshape]
    exact CutsOff.at?_eq_none ⟨above, w, hprefix, hne, hkept, hshape⟩
  default hnone hcut := at?_mergeAt_of_none hkeys hnone hcut
  group entries hentries := by
    rw [at?_mergeAt_of_some hkeys hentries]
    obtain ⟨merged, hmerged⟩ :=
      exists_mergeAt_map ((some previous).bind fun d => d.at? path) entries
    exact ⟨merged, congrArg some hmerged⟩

/-- **Settings go on top of defaults path by path.**  Two mappings always have a merger.
Under every path of keys it has the setting if there is one, and the default if there is none;
a setting that is no mapping leaves nothing of the defaults below it.  The same settings on
top of the merger change nothing. -/
theorem onTop_mergeValues (defaults settings : Mapping)
    (hkeys : KeysOnce (.map settings)) :
    ∃ merged, mergeValues (.map defaults) (.map settings) = .ok (.map merged) ∧
      (∀ path, OnTop (.map defaults) (.map settings) (.map merged) path) ∧
      mergeValues (.map merged) (.map settings) = .ok (.map merged) := by
  refine ⟨merge defaults settings, rfl, onTop_mergeAt hkeys (.map defaults), ?_⟩
  have hagain : Value.map (merge (merge defaults settings) settings)
      = .map (merge defaults settings) := mergeAt_mergeAt hkeys (some (.map defaults))
  exact congrArg Except.ok hagain

/-- Settings that name a component and have no memory section. -/
def namedSettings : Mapping :=
  [(.str "banner", .map [(.str "component_name", .str "JobManager")]), (.str "memory", .null)]

theorem keysOnce_namedSettings : KeysOnce (.map namedSettings) := by
  have hleaf (s : String) : KeysOnce (.str s) := .leaf nofun
  refine .map (by decide) fun e he => ?_
  obtain rfl | rfl : e = (.str "banner", .map [(.str "component_name", .str "JobManager")]) ∨
      e = (.str "memory", .null) := by simpa [namedSettings] using he
  · refine .map (by decide) fun e he => ?_
    obtain rfl : e = (.str "component_name", .str "JobManager") := by simpa using he
    exact hleaf _
  · exact .leaf nofun

/-- The sibling of a setting keeps its default, and a section that is null has lost them. -/
theorem onTop_namedSettings :
    KeysOnce (.map namedSettings) ∧
    ∃ merged, mergeValues (.map defaults) (.map namedSettings) = .ok (.map merged) ∧
      (Value.map merged).at? [.str "banner", .str "component_name"] = some (.str "JobManager") ∧
      (Value.map merged).at? [.str "banner", .str "hidden_content"]
        = some (.str Banner.defaultCover) ∧
      (Value.map merged).at? [.str "memory", .str "max_bytes"] = none := by
  obtain ⟨merged, hmerged, hontop, -⟩ :=
    onTop_mergeValues defaults namedSettings keysOnce_namedSettings
  refine ⟨keysOnce_namedSettings, merged, hmerged, (hontop _).setting _ rfl nofun,
    (hontop _).default rfl ?_,
    (hontop _).below ⟨[.str "memory"], .null, ⟨[.str "max_bytes"], rfl⟩, ?_⟩⟩
  · -- the two values above the path are mappings
    rintro ⟨above, w, ⟨rest, hrest⟩, hne, hw, hshape⟩
    rcases above with - | ⟨key, - | ⟨key', above⟩⟩
    · cases hw
      exact hshape rfl
    · cases hrest
      cases hw
      exact hshape rfl
    · obtain ⟨hkey, htail⟩ := List.cons.inj hrest
      obtain ⟨hkey', htail'⟩ := List.cons.inj htail
      obtain ⟨hnil, -⟩ := List.append_eq_nil_iff.1 htail'
      exact hne (by rw [hkey, hkey', hnil])
  · exact ⟨by decide, rfl, nofun⟩

end Configuration

end StartupReport
