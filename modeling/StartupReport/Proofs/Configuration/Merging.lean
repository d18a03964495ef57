/-
StartupReport/Proofs/Configuration/Merging.lean

Settings on top of defaults, key by key.

What a merger has under a key is the setting on top of what the defaults have there
(`lookup?_merge`), if no two settings have one key (`KeysDiffer`): a look-up finds the
first of them and a merger keeps the last.  Nothing is asked of the defaults.  A section
that is null and one that is left out are therefore told apart in one place only.
-/
import StartupReport.Configuration.Merge

namespace StartupReport

namespace Value

/-! ### Entries by their keys -/

/-- No two entries have one key. -/
def KeysDiffer {α : Type} (entries : List (Value × α)) : Prop :=
  (entries.map (·.1.identity)).Nodup

instance {α : Type} (entries : List (Value × α)) : Decidable (KeysDiffer entries) :=
  inferInstanceAs (Decidable (List.Nodup _))

theorem keysDiffer_cons {α : Type} {e : Value × α} {entries : List (Value × α)} :
    KeysDiffer (e :: entries) ↔ lookup? entries e.1 = none ∧ KeysDiffer entries := by
  have hnone : lookup? entries e.1 = none ↔ e.1.identity ∉ entries.map (·.1.identity) := by
    rw [lookup?_eq_none_iff]
    simp only [List.mem_map, not_exists, not_and, ne_eq]
  rw [KeysDiffer, List.map_cons, List.nodup_cons, hnone, KeysDiffer]

end Value

namespace Configuration

open Value (lookup? write KeysDiffer lookup?_cons lookup?_write keysDiffer_cons)

/-- A setting that is no mapping is kept as it is. -/
theorem mergeAt_of_shape_ne {setting : Value} (h : setting.shape ≠ .map)
    (previous : Option Value) : mergeAt previous setting = setting := by
  cases setting with
  | map settings => exact absurd rfl h
  | _ => rw [mergeAt]; exact nofun

section
variable {settings : Mapping}

/-- Settings of different keys do not notice each other. -/
theorem lookup?_merge (hkeys : KeysDiffer settings) (defaults : Mapping) (key : Value) :
    lookup? (merge defaults settings) key
      = ((lookup? settings key).map (mergeAt (lookup? defaults key))).or
          (lookup? defaults key) := by
  induction settings generalizing defaults with
  | nil => rw [merge]; rfl
  | cons e settings ih =>
    obtain ⟨k, v⟩ := e
    obtain ⟨hnone, hkeys⟩ := keysDiffer_cons.1 hkeys
    rw [merge, ih hkeys, lookup?_write, lookup?_cons]
    by_cases hk : k.identity = key.identity
    · -- the settings behind do not have the key, and the look-ups go by its identity only
      have hsame : ∀ entries : Mapping, lookup? entries key = lookup? entries k := by
        intro entries
        rw [lookup?, lookup?, hk]
      have hnone' : lookup? settings key = none := (hsame settings).trans hnone
      rw [hnone', hsame defaults, if_pos hk, if_pos hk, Option.map_none, Option.none_or,
        Option.map_some, Option.some_or]
    · rw [if_neg hk, if_neg hk]

/-- A key that is null in the settings is null, whatever the default. -/
theorem lookup?_merge_of_null {key : Value} (hkeys : KeysDiffer settings)
    (hnull : lookup? settings key = some .null) (defaults : Mapping) :
    lookup? (merge defaults settings) key = some .null := by
  have hshape : Value.null.shape ≠ .map := nofun
  rw [lookup?_merge hkeys, hnull, Option.map_some, Option.some_or, mergeAt_of_shape_ne hshape]

/-! ### A key that is left out -/

/-- The settings without those of a key. -/
def withoutKey (settings : Mapping) (key : Value) : Mapping :=
  settings.filter (·.1.identity ≠ key.identity)

theorem KeysDiffer.withoutKey (hkeys : KeysDiffer settings) (key : Value) :
    KeysDiffer (withoutKey settings key) :=
  hkeys.sublist ((List.filter_sublist).map _)

theorem lookup?_withoutKey_self (settings : Mapping) (key : Value) :
    lookup? (withoutKey settings key) key = none := by
  rw [Value.lookup?_eq_none_iff]
  intro e he
  simpa using (List.mem_filter.1 he).2

theorem lookup?_withoutKey {key other : Value} (h : other.identity ≠ key.identity)
    (settings : Mapping) : lookup? (withoutKey settings key) other = lookup? settings other := by
  have hsame : ∀ e : Value × Value, (decide (e.1.identity ≠ key.identity) = true ∧
      (e.1.identity == other.identity) = true) ↔ (e.1.identity == other.identity) = true := by
    intro e
    simp only [decide_eq_true_eq, beq_iff_eq]
    exact ⟨fun he => he.2, fun he => ⟨he ▸ h, he⟩⟩
  rw [lookup?, lookup?, withoutKey, List.find?_filter]
  congr 2
  funext e
  rw [Bool.eq_iff_iff]
  simpa using hsame e

/-- A key that is left out has its default. -/
theorem lookup?_merge_withoutKey_self (hkeys : KeysDiffer settings) (defaults : Mapping)
    (key : Value) :
    lookup? (merge defaults (withoutKey settings key)) key = lookup? defaults key := by
  rw [lookup?_merge (KeysDiffer.withoutKey hkeys key), lookup?_withoutKey_self, Option.map_none,
    Option.none_or]

/-- The other keys do not notice that a key is left out. -/
theorem lookup?_merge_withoutKey (hkeys : KeysDiffer settings) (defaults : Mapping)
    {key other : Value} (h : other.identity ≠ key.identity) :
    lookup? (merge defaults (withoutKey settings key)) other
      = lookup? (merge defaults settings) other := by
  rw [lookup?_merge (KeysDiffer.withoutKey hkeys key), lookup?_merge hkeys,
    lookup?_withoutKey h]

end

end Configuration

end StartupReport
