/-
StartupReport/Entries.lean

Keyed entries in the order in which their keys first appeared.

Writing to a key that is there replaces its value and keeps its place; a new
key goes to the end.  `get?_set` says what a look-up finds after a write, and
`keys_set` what happens to the order.
-/

namespace StartupReport

/-- Entries in the order of the first appearance of their keys. -/
abbrev Entries (α : Type u) := List (String × α)

namespace Entries

variable {α : Type u}

/-- The value of a key. -/
def get? (es : Entries α) (key : String) : Option α :=
  match es with
  | [] => none
  | (k, v) :: rest => if k = key then some v else get? rest key

/-- The entries after writing a value to a key. -/
def set (es : Entries α) (key : String) (value : α) : Entries α :=
  match es with
  | [] => [(key, value)]
  | (k, v) :: rest => if k = key then (k, value) :: rest else (k, v) :: set rest key value

/-- The keys in order. -/
def keys (es : Entries α) : List String := es.map (·.1)

/-- The entries after writing others to them, one after another. -/
def update (es others : Entries α) : Entries α := others.foldl (fun acc e => acc.set e.1 e.2) es

/-- Entries from pairs in which a key may come more than once. -/
def ofPairs (pairs : List (String × α)) : Entries α := update [] pairs

/-! ### Writing and looking up -/

theorem get?_set (es : Entries α) (key other : String) (value : α) :
    (es.set key value).get? other = if key = other then some value else es.get? other := by
  induction es with
  | nil => by_cases h : key = other <;> simp [set, get?, h]
  | cons e es ih =>
    obtain ⟨k, v⟩ := e
    by_cases hk : k = key
    · subst hk; by_cases h : k = other <;> simp [set, get?, h]
    · by_cases h : k = other
      · subst h; simp [set, get?, hk, Ne.symm hk]
      · simp [set, get?, hk, h, ih]

theorem get?_eq_none_iff (es : Entries α) (key : String) :
    es.get? key = none ↔ key ∉ es.keys := by
  induction es with
  | nil => simp [get?, keys]
  | cons e es ih =>
    obtain ⟨k, v⟩ := e
    by_cases h : k = key
    · simp [get?, keys, h]
    · have h' : ¬ key = k := fun e => h e.symm
      simpa [get?, keys, h, h'] using ih

/-- A write keeps the keys if the key is there and adds it at the end if not. -/
theorem keys_set (es : Entries α) (key : String) (value : α) :
    (es.set key value).keys = if key ∈ es.keys then es.keys else es.keys ++ [key] := by
  induction es with
  | nil => simp [set, keys]
  | cons e es ih =>
    obtain ⟨k, v⟩ := e
    by_cases h : k = key
    · subst h; simp [set, keys]
    · have h' : ¬ key = k := fun e => h e.symm
      simp only [keys] at ih ⊢
      by_cases hm : key ∈ es.map (·.1) <;> simp_all [set]

theorem nodup_keys_set {es : Entries α} (h : es.keys.Nodup) (key : String) (value : α) :
    (es.set key value).keys.Nodup := by
  rw [keys_set]
  by_cases hm : key ∈ es.keys
  · simpa [hm] using h
  · simp only [hm, if_false]
    exact List.nodup_append.2 ⟨h, by simp, by
      intro a ha b hb; simp at hb; subst hb; rintro rfl; exact hm ha⟩

/-- A write leaves no entry but those that were there and its own. -/
theorem mem_set {es : Entries α} {key : String} {value : α} {e : String × α}
    (h : e ∈ es.set key value) : e ∈ es ∨ e = (key, value) := by
  induction es with
  | nil => exact .inr (List.mem_singleton.1 h)
  | cons f es ih =>
    obtain ⟨k, v⟩ := f
    by_cases hk : k = key
    · rw [set, if_pos hk] at h
      rcases List.mem_cons.1 h with rfl | h
      · exact .inr (hk ▸ rfl)
      · exact .inl (List.mem_cons_of_mem _ h)
    · rw [set, if_neg hk] at h
      rcases List.mem_cons.1 h with rfl | h
      · exact .inl List.mem_cons_self
      · exact (ih h).imp (List.mem_cons_of_mem _) id

theorem mem_update {es others : Entries α} {e : String × α} (h : e ∈ es.update others) :
    e ∈ es ∨ e ∈ others := by
  induction others generalizing es with
  | nil => exact .inl h
  | cons o others ih =>
    rcases ih h with h | h
    · rcases mem_set h with h | rfl
      · exact .inl h
      · exact .inr List.mem_cons_self
    · exact .inr (List.mem_cons_of_mem _ h)

theorem mem_ofPairs {pairs : List (String × α)} {e : String × α} (h : e ∈ ofPairs pairs) :
    e ∈ pairs :=
  (mem_update h).resolve_left List.not_mem_nil

/-- A new key goes to the end. -/
theorem set_of_not_mem {es : Entries α} {key : String} (h : key ∉ es.keys) (value : α) :
    es.set key value = es ++ [(key, value)] := by
  induction es with
  | nil => rfl
  | cons e es ih =>
    obtain ⟨k, v⟩ := e
    simp only [keys, List.map_cons, List.mem_cons, not_or] at h
    rw [set, if_neg (Ne.symm h.1), ih h.2, List.cons_append]

/-- Entries with keys of their own are added as they are. -/
theorem update_of_nodup {es others : Entries α} (h : (es ++ others).keys.Nodup) :
    es.update others = es ++ others := by
  induction others generalizing es with
  | nil => exact (List.append_nil es).symm
  | cons o others ih =>
    have hnew : o.1 ∉ es.keys := by
      simp only [keys, List.map_append, List.map_cons] at h ⊢
      intro hmem
      exact (List.nodup_append.1 h).2.2 _ hmem _ List.mem_cons_self rfl
    have hassoc : es ++ [(o.1, o.2)] ++ others = es ++ o :: others := by simp
    show update (es.set o.1 o.2) others = _
    rw [set_of_not_mem hnew, ih (by rw [hassoc]; exact h), hassoc]

/-- Pairs whose keys differ are entries already. -/
theorem ofPairs_of_nodup {pairs : List (String × α)} (h : (pairs.map (·.1)).Nodup) :
    ofPairs pairs = pairs :=
  update_of_nodup (by simpa [keys] using h)

theorem mem_of_get? {es : Entries α} {key : String} {value : α} (h : es.get? key = some value) :
    (key, value) ∈ es := by
  induction es with
  | nil => cases h
  | cons e es ih =>
    obtain ⟨k, v⟩ := e
    rw [get?] at h
    by_cases hk : k = key
    · rw [if_pos hk, Option.some.injEq] at h
      exact List.mem_cons.2 (.inl (by rw [hk, h]))
    · rw [if_neg hk] at h
      exact List.mem_cons_of_mem _ (ih h)

/-- Entries whose values are computed from their keys. -/
theorem get?_map {f : String → α} {keys : List String} {key : String} (h : key ∈ keys) :
    get? (keys.map fun k => (k, f k)) key = some (f key) := by
  induction keys with
  | nil => cases h
  | cons k keys ih =>
    rw [List.map_cons, get?]
    by_cases hk : k = key
    · rw [if_pos hk, hk]
    · rw [if_neg hk, ih ((List.mem_cons.1 h).resolve_left (Ne.symm hk))]

/-! ### Looking up what was written last -/

/-- Entries that are written later win over those that were there. -/
theorem get?_update (es others : Entries α) (key : String) :
    (es.update others).get? key = ((ofPairs others).get? key).or (es.get? key) := by
  induction others generalizing es with
  | nil => rfl
  | cons o others ih =>
    show (update (es.set o.1 o.2) others).get? key
      = ((update (set [] o.1 o.2) others).get? key).or (es.get? key)
    rw [ih, ih (set [] o.1 o.2), get?_set, get?_set]
    by_cases h : o.1 = key
    · rw [if_pos h, if_pos h, Option.or_assoc, Option.some_or]
    · rw [if_neg h, if_neg h, get?, Option.or_none]

/-- Of two runs of pairs the later one decides, where it says anything. -/
theorem get?_ofPairs_append (pairs later : List (String × α)) (key : String) :
    (ofPairs (pairs ++ later)).get? key
      = ((ofPairs later).get? key).or ((ofPairs pairs).get? key) := by
  rw [ofPairs, update, List.foldl_append]
  exact get?_update (ofPairs pairs) later key

theorem get?_ofPairs_eq_none_iff (pairs : List (String × α)) (key : String) :
    (ofPairs pairs).get? key = none ↔ key ∉ pairs.map (·.1) := by
  induction pairs with
  | nil => simp [ofPairs, update, get?]
  | cons pair pairs ih =>
    have hfirst : (ofPairs [pair]).get? key = if pair.1 = key then some pair.2 else none :=
      get?_set [] pair.1 key pair.2
    rw [show pair :: pairs = [pair] ++ pairs from rfl, get?_ofPairs_append, Option.or_eq_none_iff,
      ih, hfirst]
    by_cases h : pair.1 = key
    · simp [h]
    · simp [h, Ne.symm h]

end Entries

end StartupReport
