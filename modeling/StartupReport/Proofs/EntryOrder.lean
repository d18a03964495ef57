/-
StartupReport/Proofs/EntryOrder.lean

The order of keys, and what determines entries.

Writing pairs one after another leaves the keys that were there in their places and puts
new ones behind them, in the order in which they come up first (`keys_update`); the
last pair with a key decides on its value (`get?_ofPairs`).  Entries whose keys differ
are given by the keys in order and their values (`ext_of_nodup`), so it makes no difference
whether pairs are written one after another or collected first (`update_ofPairs`).
-/
import StartupReport.Entries

namespace StartupReport.Entries

variable {α : Type u}

/-! ### Keys in their order -/

theorem eraseDups_of_nodup {keys : List String} (h : keys.Nodup) : keys.eraseDups = keys := by
  induction keys with
  | nil => rfl
  | cons key keys ih =>
    obtain ⟨hnot, hrest⟩ := List.nodup_cons.1 h
    have hkeep : keys.filter (fun k => !k == key) = keys := by
      refine List.filter_eq_self.2 fun k hk => ?_
      have hne : k ≠ key := fun heq => hnot (heq ▸ hk)
      simp [hne]
    rw [List.eraseDups_cons, hkeep, ih hrest]

/-- What is picked out keeps its order of first occurrence. -/
theorem eraseDups_filter (p : String → Bool) (keys : List String) :
    (keys.filter p).eraseDups = keys.eraseDups.filter p := by
  induction hn : keys.length using Nat.strongRecOn generalizing keys with
  | _ n ih =>
    cases keys with
    | nil => rfl
    | cons key keys =>
      subst hn
      have hshorter : (keys.filter (fun k => !k == key)).length < (key :: keys).length :=
        Nat.lt_succ_of_le (List.length_filter_le _ _)
      have hrest := ih _ hshorter _ rfl
      rw [List.filter_filter] at hrest
      rw [List.eraseDups_cons]
      by_cases hkey : p key = true
      · rw [List.filter_cons_of_pos hkey, List.filter_cons_of_pos hkey, List.eraseDups_cons,
          List.filter_filter, ← hrest]
        simp only [Bool.and_comm]
      · rw [List.filter_cons_of_neg hkey, List.filter_cons_of_neg hkey, ← hrest]
        -- nothing that is picked out is the first key
        refine congrArg List.eraseDups (List.filter_congr fun k _ => ?_)
        by_cases hk : k = key
        · simp [hk, hkey]
        · simp [hk]

/-- The keys that were there keep their places, and new ones follow in the order in which
they were first written. -/
theorem keys_update (es : Entries α) (others : List (String × α)) :
    (es.update others).keys
      = es.keys ++ ((others.map (·.1)).filter (· ∉ es.keys)).eraseDups := by
  induction others generalizing es with
  | nil => exact (List.append_nil _).symm
  | cons o others ih =>
    show (update (es.set o.1 o.2) others).keys = _
    rw [ih, keys_set, List.map_cons]
    by_cases h : o.1 ∈ es.keys
    · rw [if_pos h, List.filter_cons_of_neg (by simpa using h)]
    · rw [if_neg h, List.filter_cons_of_pos (by simpa using h), List.eraseDups_cons,
        List.append_assoc, List.singleton_append, List.filter_filter]
      -- what is new now is what was new before and is not this key
      refine congrArg (fun ks => es.keys ++ o.1 :: List.eraseDups ks)
        (List.filter_congr fun k _ => ?_)
      by_cases hk : k = o.1 <;> simp [hk]

theorem keys_ofPairs (pairs : List (String × α)) :
    (ofPairs pairs).keys = (pairs.map (·.1)).eraseDups := by
  have h := keys_update ([] : Entries α) pairs
  have hall : (pairs.map (·.1)).filter (· ∉ keys ([] : Entries α)) = pairs.map (·.1) :=
    List.filter_eq_self.2 fun k _ => decide_eq_true List.not_mem_nil
  rwa [hall] at h

theorem nodup_keys_update {es : Entries α} (h : es.keys.Nodup) (others : List (String × α)) :
    (es.update others).keys.Nodup := by
  induction others generalizing es with
  | nil => exact h
  | cons o others ih => exact ih (nodup_keys_set h o.1 o.2)

theorem nodup_keys_ofPairs (pairs : List (String × α)) : (ofPairs pairs).keys.Nodup :=
  have hnone : (keys ([] : Entries α)).Nodup := List.nodup_nil
  nodup_keys_update hnone pairs

/-! ### Entries by their keys and values -/

/-- Entries whose keys differ are given by the keys in order and the values. -/
theorem ext_of_nodup {es fs : Entries α} (hnodup : es.keys.Nodup) (hkeys : es.keys = fs.keys)
    (hvalues : ∀ key, es.get? key = fs.get? key) : es = fs := by
  induction es generalizing fs with
  | nil =>
    cases fs with
    | nil => rfl
    | cons f fs => cases hkeys
  | cons e es ih =>
    cases fs with
    | nil => cases hkeys
    | cons f fs =>
      obtain ⟨k, v⟩ := e
      obtain ⟨k', v'⟩ := f
      obtain ⟨hk, hrest⟩ := List.cons.inj hkeys
      obtain rfl : k = k' := hk
      obtain ⟨hnot, hnodup'⟩ := List.nodup_cons.1 hnodup
      have hv := hvalues k
      rw [get?, get?, if_pos rfl, if_pos rfl, Option.some.injEq] at hv
      have hsame : es = fs := by
        refine ih hnodup' hrest fun key => ?_
        by_cases hkey : k = key
        · subst hkey
          have hnot' : k ∉ keys fs := by
            rw [keys, ← hrest]
            exact hnot
          rw [(get?_eq_none_iff es k).2 hnot, (get?_eq_none_iff fs k).2 hnot']
        · have h := hvalues key
          rwa [get?, get?, if_neg hkey, if_neg hkey] at h
      rw [hv, hsame]

/-- Pairs that are collected first and then written give what they give when they are written
one after another. -/
theorem update_ofPairs {es : Entries α} (h : es.keys.Nodup) (pairs : List (String × α)) :
    es.update (ofPairs pairs) = es.update pairs := by
  refine ext_of_nodup (nodup_keys_update h _) ?_ fun key => ?_
  · have hnew : (((ofPairs pairs).keys).filter (· ∉ es.keys)).Nodup :=
      (nodup_keys_ofPairs pairs).filter _
    rw [keys_update, keys_update, ← keys, eraseDups_of_nodup hnew, keys_ofPairs, eraseDups_filter]
  · rw [get?_update, get?_update, ofPairs_of_nodup (nodup_keys_ofPairs pairs)]

/-- The last pair with a key decides on its value. -/
theorem get?_ofPairs (pairs : List (String × α)) (key : String) :
    (ofPairs pairs).get? key = pairs.reverse.lookup key := by
  induction pairs with
  | nil => rfl
  | cons pair pairs ih =>
    have hfirst : (ofPairs [pair]).get? key = if pair.1 = key then some pair.2 else none :=
      get?_set [] pair.1 key pair.2
    have hlookup : [pair].lookup key = if pair.1 = key then some pair.2 else none := by
      rw [List.lookup_cons, List.lookup_nil]
      by_cases h : pair.1 = key
      · rw [if_pos h, beq_iff_eq.2 h.symm]
      · rw [if_neg h, beq_eq_false_iff_ne.2 (Ne.symm h)]
    rw [List.reverse_cons, List.lookup_append, ← ih, hlookup, ← hfirst]
    exact get?_ofPairs_append [pair] pairs key

end StartupReport.Entries
