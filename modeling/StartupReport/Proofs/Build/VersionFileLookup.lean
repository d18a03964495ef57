/-
StartupReport/Proofs/Build/VersionFileLookup.lean

What a look-up finds in a version file that was read.

The version stands first in the file, and its text is free.  It may bring in
lines of its own, but the lines of the other keys come after them, and the last
line with a key wins.  So the other keys have the values that their own lines
give them, whatever the version (`get?_held_later`), and if those values have no
line ends they come back one by one (`get?_held_of_onOneLine`,
`get?_held_of_survives`).  The version itself is what its line says unless a
line inside a later value spells another one (`get?_held_version`).
-/
import StartupReport.Proofs.Build.VersionFileReading

namespace StartupReport.Build

open Properties (isByteBlank OnOneLine Survives)

/-! ### The keys after the version -/

/-- The keys that come after the version. -/
def laterKeys : List String := keyOrder.tail

theorem keyOrder_eq_cons : keyOrder = projectVersionKey :: laterKeys := rfl

theorem laterKeys_subset : laterKeys ⊆ keyOrder := (List.tail_sublist keyOrder).subset

theorem nodup_laterKeys : laterKeys.Nodup := by decide

theorem not_mem_laterKeys : projectVersionKey ∉ laterKeys := by decide

/-- What is read from a version file is held by the lines of its keys. -/
theorem parseBytes_eq_ofPairs_held {ps : Properties} (h : Complete ps) {text : List Char}
    {bytes : List UInt8} (htext : render ps = .ok text)
    (hbytes : Text.Latin1.encode? text = some bytes) :
    Properties.parseBytes bytes = Entries.ofPairs (held ps keyOrder) :=
  (parseBytes_of_render h htext hbytes).trans (readPlain_plainText ps)

section
variable {ps qs : Properties} {key : String}

/-- What lines hold depends on the values of their keys alone. -/
theorem held_congr {keys : List String} (h : ∀ key ∈ keys, valueOf ps key = valueOf qs key) :
    held ps keys = held qs keys := by
  induction keys with
  | nil => rfl
  | cons key keys ih =>
    have hline : plainLine ps key = plainLine qs key := by
      rw [plainLine, plainLine, h key List.mem_cons_self]
    rw [held, held, List.flatMap_cons, List.flatMap_cons, hline]
    exact congrArg _ (ih fun k hk => h k (List.mem_cons_of_mem _ hk))

/-- A look-up finds a pair of the later lines before one of the version's lines. -/
theorem get?_held (ps : Properties) (key : String) :
    Entries.get? (Entries.ofPairs (held ps keyOrder)) key
      = (Entries.get? (Entries.ofPairs (held ps laterKeys)) key).or
          (Entries.get? (Entries.ofPairs (held ps [projectVersionKey])) key) := by
  rw [keyOrder_eq_cons, ← List.singleton_append, held_append, Entries.get?_ofPairs_append]

/-- A later key is found in the later lines, whatever the version brings in. -/
theorem get?_held_later (hkey : key ∈ laterKeys) :
    Entries.get? (Entries.ofPairs (held ps keyOrder)) key
      = Entries.get? (Entries.ofPairs (held ps laterKeys)) key := by
  have hfound : Entries.get? (Entries.ofPairs (held ps laterKeys)) key ≠ none := by
    rw [Ne, Entries.get?_ofPairs_eq_none_iff, not_not]
    exact mem_held laterKeys_subset hkey
  obtain ⟨value, hvalue⟩ := Option.ne_none_iff_exists'.1 hfound
  rw [get?_held, hvalue, Option.some_or]

end

/-! ### Values without line ends -/

section
variable {ps : Properties} (h : ∀ key ∈ laterKeys, OnOneLine (valueOf ps key).toList)
include h

theorem ofPairs_held_of_onOneLine :
    Entries.ofPairs (held ps laterKeys) = laterKeys.map fun key =>
      (key, String.ofList ((valueOf ps key).toList.dropWhile isByteBlank)) := by
  rw [held_of_onOneLine laterKeys_subset h]
  refine Entries.ofPairs_of_nodup ?_
  rw [List.map_map]
  exact (List.map_id laterKeys).symm ▸ nodup_laterKeys

/-- Later values without line ends come back, less the blanks up to U+00FF in
front of them. -/
theorem get?_held_of_onOneLine {key : String} (hkey : key ∈ laterKeys) :
    Entries.get? (Entries.ofPairs (held ps keyOrder)) key
      = some (String.ofList ((valueOf ps key).toList.dropWhile isByteBlank)) := by
  rw [get?_held_later hkey, ofPairs_held_of_onOneLine h, Entries.get?_map hkey]

/-- Later values without line ends spell no version. -/
theorem get?_held_version_of_onOneLine :
    Entries.get? (Entries.ofPairs (held ps laterKeys)) projectVersionKey = none := by
  rw [ofPairs_held_of_onOneLine h, Entries.get?_eq_none_iff, Entries.keys, List.map_map]
  exact (List.map_id laterKeys).symm ▸ not_mem_laterKeys

end

/-- Later values that survive come back as they are. -/
theorem get?_held_of_survives {ps : Properties}
    (h : ∀ key ∈ laterKeys, Survives (valueOf ps key).toList) {key : String}
    (hkey : key ∈ laterKeys) :
    Entries.get? (Entries.ofPairs (held ps keyOrder)) key = some (valueOf ps key) := by
  rw [get?_held_of_onOneLine (fun k hk => (h k hk).onOneLine) hkey, (h key hkey).dropWhile_eq,
    String.ofList_toList]

/-- A version that survives is what its line holds. -/
theorem get?_held_version {ps : Properties} (hs : Survives (valueOf ps projectVersionKey).toList) :
    Entries.get? (Entries.ofPairs (held ps [projectVersionKey])) projectVersionKey
      = some (valueOf ps projectVersionKey) := by
  have hone : ∀ key ∈ [projectVersionKey], OnOneLine (valueOf ps key).toList :=
    List.forall_mem_singleton.2 hs.onOneLine
  rw [held_of_onOneLine (by decide) hone, List.map_singleton, hs.dropWhile_eq,
    String.ofList_toList]
  rfl

end StartupReport.Build
