/-
StartupReport/Proofs/Probe/LimitLookup.lean

What it takes to look up a limit of the process.

The module of limits has to answer with a pair and to have a mark of infinity
(`Answers`).  The soft limit in front of the pair is then compared with the mark and, if
it differs, has to be a whole number (`inForce_eq_ok_iff`).  Whatever else happens on the
way, the limit of the address space counts as unknown, without a word in the log
(`addressSpaceLimit_eq`).

A lookup that fails does so with the failure of the first step that does, which
`LookupFails` lists (`inForce_eq_error_iff`).
-/
import Mathlib.Data.List.Basic
import StartupReport.Proofs.Probe.Classification

namespace StartupReport

/-- Steps fail with the failure of the first one or, behind its answer, of the others. -/
theorem Outcome.bind_eq_error_iff {α β : Type} {o : Outcome α} {g : α → Outcome β} {f : Fault} :
    (o >>= g) = .error f ↔ o = .error f ∨ ∃ a, o = .ok a ∧ g a = .error f := by
  rcases o with e | a
  · constructor
    · intro h
      cases h
      exact .inl rfl
    · rintro (h | ⟨a, h, -⟩)
      · cases h
        rfl
      · cases h
  · constructor
    · intro h
      exact .inr ⟨a, rfl, h⟩
    · rintro (h | ⟨a', h, hg⟩)
      · cases h
      · cases h
        exact hg

namespace Probe

/-! ### The steps of a lookup -/

/-- A module of limits answers a question for a limit: with a pair that has the soft limit
in front, and beside a mark of infinity. -/
structure Answers (m : LimitModule) (limit : Option (Outcome Value)) (soft infinity : Value) :
    Prop where
  canAsk : m.canAsk = true
  pair : ∃ pair hard, limit = some (.ok pair) ∧ pair.items = .ok [soft, hard]
  infinity : m.infinity = some infinity

theorem member_eq_ok_iff {α : Type} {m : LimitModule} {name : String} {member : Option α} {a : α} :
    LimitModule.member m name member = .ok a ↔ member = some a := by
  rcases member with - | b
  · exact ⟨nofun, nofun⟩
  · simp [LimitModule.member]

theorem firstOfPair_eq_ok_iff {v soft : Value} :
    firstOfPair v = .ok soft ↔ ∃ hard, v.items = .ok [soft, hard] := by
  unfold firstOfPair
  rw [Outcome.bind_eq_ok_iff]
  constructor
  · rintro ⟨items, hitems, hfirst⟩
    rw [Outcome.ofMisuse, mapError_eq_ok_iff, mapError_eq_ok_iff] at hitems
    split at hfirst
    · next first second =>
      cases hfirst
      exact ⟨second, hitems⟩
    · cases hfirst
    · cases hfirst
    · cases hfirst
  · rintro ⟨hard, hitems⟩
    refine ⟨[soft, hard], ?_, rfl⟩
    rw [hitems]
    rfl

/-- A limit that is looked up is the soft one that the module answers with: none if that
is the mark of infinity, and else the number that it denotes. -/
theorem inForce_eq_ok_iff {m : LimitModule} {name : String} {limit : Option (Outcome Value)}
    {r : Option Int} :
    LimitModule.inForce m name limit = .ok r ↔
      ∃ soft infinity, Answers m limit soft infinity ∧
        (soft.equal infinity = true ∧ r = none ∨
          soft.equal infinity = false ∧ ∃ n, wholeNumber soft = .ok n ∧ r = some n) := by
  unfold LimitModule.inForce
  constructor
  · intro h
    split at h
    · cases h
    · next hask =>
      obtain ⟨answer, hlimit, h⟩ := Outcome.bind_eq_ok_iff.1 h
      obtain ⟨pair, hpair, h⟩ := Outcome.bind_eq_ok_iff.1 h
      obtain ⟨soft, hsoft, h⟩ := Outcome.bind_eq_ok_iff.1 h
      obtain ⟨infinity, hinfinity, h⟩ := Outcome.bind_eq_ok_iff.1 h
      obtain ⟨hard, hitems⟩ := firstOfPair_eq_ok_iff.1 hsoft
      rw [hpair, member_eq_ok_iff] at hlimit
      refine ⟨soft, infinity, ⟨Decidable.not_not.1 hask, ⟨pair, hard, hlimit, hitems⟩,
        member_eq_ok_iff.1 hinfinity⟩, ?_⟩
      split at h
      · next hequal =>
        cases h
        exact .inl ⟨hequal, rfl⟩
      · next hequal =>
        obtain ⟨n, hn, h⟩ := Outcome.bind_eq_ok_iff.1 h
        cases h
        exact .inr ⟨Bool.eq_false_iff.2 hequal, n, hn, rfl⟩
  · rintro ⟨soft, infinity, ⟨hask, ⟨pair, hard, hlimit, hitems⟩, hinfinity⟩, hcases⟩
    rw [if_neg (Decidable.not_not.2 hask)]
    refine Outcome.bind_eq_ok_iff.2 ⟨_, member_eq_ok_iff.2 hlimit, ?_⟩
    refine Outcome.bind_eq_ok_iff.2 ⟨pair, rfl, ?_⟩
    refine Outcome.bind_eq_ok_iff.2 ⟨soft, firstOfPair_eq_ok_iff.2 ⟨hard, hitems⟩, ?_⟩
    refine Outcome.bind_eq_ok_iff.2 ⟨infinity, member_eq_ok_iff.2 hinfinity, ?_⟩
    obtain ⟨hequal, rfl⟩ | ⟨hequal, n, hn, rfl⟩ := hcases
    · simp only [hequal, if_true]
      rfl
    · simp only [hequal, Bool.false_eq_true, if_false]
      exact Outcome.bind_eq_ok_iff.2 ⟨n, hn, rfl⟩

/-! ### The steps that fail -/

/-- A value is no pair, with the failure to take it apart. -/
inductive NoPair (v : Value) : Fault → Prop
  | shape {cause : Misuse} : v.items = .error cause → NoPair v (.misuse (.pair v.shape))
  | few {items : List Value} : v.items = .ok items → items.length < 2 →
      NoPair v (.tooFewItems items.length)
  | many {items : List Value} : v.items = .ok items → 2 < items.length → NoPair v .tooManyItems

theorem NoPair.firstOfPair_eq {v : Value} {f : Fault} (h : NoPair v f) :
    firstOfPair v = .error f := by
  unfold firstOfPair
  cases h with
  | shape hitems =>
    rw [hitems]
    rfl
  | @few items hitems hlength =>
    rw [hitems]
    rcases items with - | ⟨first, - | ⟨second, rest⟩⟩
    · rfl
    · rfl
    · simp only [List.length_cons] at hlength
      omega
  | @many items hitems hlength =>
    rw [hitems]
    rcases items with - | ⟨first, - | ⟨second, - | ⟨third, rest⟩⟩⟩
    · cases hlength
    · simp only [List.length_cons, List.length_nil] at hlength
      omega
    · simp only [List.length_cons, List.length_nil] at hlength
      omega
    · rfl

theorem firstOfPair_eq_error_iff {v : Value} {f : Fault} :
    firstOfPair v = .error f ↔ NoPair v f := by
  refine ⟨fun h => ?_, NoPair.firstOfPair_eq⟩
  rcases hitems : v.items with cause | items
  · cases (NoPair.shape hitems).firstOfPair_eq.symm.trans h
    exact .shape hitems
  · -- two items make a pair
    rcases Nat.lt_trichotomy items.length 2 with hfew | htwo | hmany
    · cases (NoPair.few hitems hfew).firstOfPair_eq.symm.trans h
      exact .few hitems hfew
    · obtain ⟨first, second, rfl⟩ := List.length_eq_two.1 htwo
      cases (firstOfPair_eq_ok_iff.2 ⟨second, hitems⟩).symm.trans h
    · cases (NoPair.many hitems hmany).firstOfPair_eq.symm.trans h
      exact .many hitems hmany

/-- The failure with which a lookup ends, by the step that fails. -/
inductive LookupFails (m : LimitModule) (name : String) (limit : Option (Outcome Value)) :
    Fault → Prop
  /-- The module cannot be asked. -/
  | getter : m.canAsk = false → LookupFails m name limit (.moduleMember m.name "getrlimit")
  /-- The module does not know the limit. -/
  | constant : m.canAsk = true → limit = none →
      LookupFails m name limit (.moduleMember m.name name)
  /-- The module refuses to answer. -/
  | refused {f : Fault} : m.canAsk = true → limit = some (.error f) → LookupFails m name limit f
  /-- The answer is no pair. -/
  | pair {pair : Value} {f : Fault} : m.canAsk = true → limit = some (.ok pair) → NoPair pair f →
      LookupFails m name limit f
  /-- There is no mark of infinity to compare with. -/
  | infinity {pair soft hard : Value} : m.canAsk = true → limit = some (.ok pair) →
      pair.items = .ok [soft, hard] → m.infinity = none →
      LookupFails m name limit (.moduleMember m.name "RLIM_INFINITY")
  /-- The soft limit is no whole number. -/
  | number {soft infinity : Value} {f : Fault} : Answers m limit soft infinity →
      soft.equal infinity = false → wholeNumber soft = .error f → LookupFails m name limit f

section
variable {m : LimitModule} {name : String} {limit : Option (Outcome Value)} {f : Fault}

theorem member_eq_error_iff {α : Type} {member : Option α} :
    LimitModule.member m name member = .error f ↔ member = none ∧ f = .moduleMember m.name name := by
  rcases member with - | a
  · simp [LimitModule.member, eq_comm]
  · simp [LimitModule.member]

theorem inForce_of_not_canAsk (h : m.canAsk = false) :
    LimitModule.inForce m name limit = .error (.moduleMember m.name "getrlimit") := by
  unfold LimitModule.inForce
  rw [if_pos (by simp [h])]
  rfl

theorem inForce_of_canAsk (h : m.canAsk = true) :
    LimitModule.inForce m name limit = (do
      let pair ← (← LimitModule.member m name limit)
      let soft ← firstOfPair pair
      let infinity ← LimitModule.member m "RLIM_INFINITY" m.infinity
      if soft.equal infinity then return none
      return some (← wholeNumber soft)) := by
  unfold LimitModule.inForce
  rw [if_neg (Decidable.not_not.2 h)]

/-- A module that answers has given a pair, unless it refused. -/
theorem inForce_of_pair {pair : Value} (hask : m.canAsk = true) (hlimit : limit = some (.ok pair)) :
    LimitModule.inForce m name limit = (do
      let soft ← firstOfPair pair
      let infinity ← LimitModule.member m "RLIM_INFINITY" m.infinity
      if soft.equal infinity then return none
      return some (← wholeNumber soft)) := by
  rw [inForce_of_canAsk hask, hlimit]
  rfl

theorem LookupFails.inForce_eq (h : LookupFails m name limit f) :
    LimitModule.inForce m name limit = .error f := by
  cases h with
  | getter hask => exact inForce_of_not_canAsk hask
  | constant hask hlimit | refused hask hlimit =>
    rw [inForce_of_canAsk hask, hlimit]
    rfl
  | pair hask hlimit hnopair =>
    rw [inForce_of_pair hask hlimit, firstOfPair_eq_error_iff.2 hnopair]
    rfl
  | infinity hask hlimit hitems hinfinity =>
    rw [inForce_of_pair hask hlimit, firstOfPair_eq_ok_iff.2 ⟨_, hitems⟩, hinfinity]
    rfl
  | number hanswers hequal hnumber =>
    obtain ⟨hask, ⟨pair, hard, hlimit, hitems⟩, hinfinity⟩ := hanswers
    rw [inForce_of_pair hask hlimit, firstOfPair_eq_ok_iff.2 ⟨hard, hitems⟩, hinfinity]
    show (if _ then _ else _ : Outcome (Option Int)) = _
    rw [hequal, if_neg Bool.false_ne_true, hnumber]
    rfl

/-- A lookup fails with the failure of the first step that does. -/
theorem inForce_eq_error_iff :
    LimitModule.inForce m name limit = .error f ↔ LookupFails m name limit f := by
  refine ⟨fun h => ?_, LookupFails.inForce_eq⟩
  rcases hask : m.canAsk with - | -
  · cases (inForce_of_not_canAsk hask).symm.trans h
    exact .getter hask
  rw [inForce_of_canAsk hask] at h
  obtain hmember | ⟨answer, hmember, h⟩ := Outcome.bind_eq_error_iff.1 h
  · obtain ⟨hlimit, rfl⟩ := member_eq_error_iff.1 hmember
    exact .constant hask hlimit
  rw [member_eq_ok_iff] at hmember
  obtain hrefused | ⟨pair, hpair, h⟩ := Outcome.bind_eq_error_iff.1 h
  · exact .refused hask (by rw [hmember, hrefused])
  have hlimit : limit = some (.ok pair) := by rw [hmember, hpair]
  obtain hnopair | ⟨soft, hsoft, h⟩ := Outcome.bind_eq_error_iff.1 h
  · exact .pair hask hlimit (firstOfPair_eq_error_iff.1 hnopair)
  obtain ⟨hard, hitems⟩ := firstOfPair_eq_ok_iff.1 hsoft
  obtain hmark | ⟨infinity, hmark, h⟩ := Outcome.bind_eq_error_iff.1 h
  · obtain ⟨hinfinity, rfl⟩ := member_eq_error_iff.1 hmark
    exact .infinity hask hlimit hitems hinfinity
  rw [member_eq_ok_iff] at hmark
  split at h
  · cases h
  · next hequal =>
    obtain hnumber | ⟨n, -, h⟩ := Outcome.bind_eq_error_iff.1 h
    · exact .number ⟨hask, ⟨pair, hard, hlimit, hitems⟩, hmark⟩ (Bool.eq_false_iff.2 hequal) hnumber
    · cases h

end

/-! ### The address space -/

/-- The address space has a limit: the soft one, which is not the mark of infinity and
denotes a whole number. -/
def SoftLimit (h : Host) (n : Int) : Prop :=
  ∃ m soft infinity, h.limits = .ok m ∧ Answers m m.addressSpace soft infinity ∧
    soft.equal infinity = false ∧ wholeNumber soft = .ok n

/-- A whole number that may be missing, as a value. -/
def numberOrNull : Option Int → Value
  | some n => .int n
  | none => .null

section
variable {h : Host}

/-- The outcome of looking up the limit of the address space. -/
def addressSpaceLookup (h : Host) : Outcome (Option Int) :=
  h.limits >>= fun m => LimitModule.inForce m "RLIMIT_AS" m.addressSpace

theorem addressSpaceLookup_eq_some_iff {n : Int} :
    (addressSpaceLookup h).toOption.join = some n ↔ SoftLimit h n := by
  have htoOption : (addressSpaceLookup h).toOption.join = some n ↔
      addressSpaceLookup h = .ok (some n) := by
    rcases addressSpaceLookup h with f | (- | k) <;> simp [Except.toOption]
  rw [htoOption, addressSpaceLookup, Outcome.bind_eq_ok_iff]
  constructor
  · rintro ⟨m, hm, hlookup⟩
    obtain ⟨soft, infinity, hanswers, ⟨-, hr⟩ | ⟨hequal, k, hk, hr⟩⟩ :=
      inForce_eq_ok_iff.1 hlookup
    · cases hr
    · cases hr
      exact ⟨m, soft, infinity, hm, hanswers, hequal, hk⟩
  · rintro ⟨m, soft, infinity, hm, hanswers, hequal, hn⟩
    exact ⟨m, hm, inForce_eq_ok_iff.2 ⟨soft, infinity, hanswers, .inr ⟨hequal, n, hn, rfl⟩⟩⟩

/-- The limit of the address space is looked up without a word, and whatever keeps it from
being known makes it null. -/
theorem addressSpaceLimit_eq (hlimits : Ordinary h.limits)
    (hanswer : ∀ m answer, h.limits = .ok m → m.addressSpace = some answer → Ordinary answer) :
    addressSpaceLimit h = pure (numberOrNull (addressSpaceLookup h).toOption.join) := by
  have haccess (m : LimitModule) (hm : h.limits = .ok m) :
      Ordinary (Traced.ask (LimitModule.inForce m "RLIMIT_AS" m.addressSpace)).outcome :=
    ordinary_inForce m _ fun answer ha => hanswer m answer hm ha
  have hevents : accessEvents h.limits (fun m =>
      Traced.ask (LimitModule.inForce m "RLIMIT_AS" m.addressSpace)) = [] := by
    rcases h.limits with f | m <;> rfl
  have hvalue : (probed limitModuleName h.limits fun m =>
      LimitModule.inForce m "RLIMIT_AS" m.addressSpace).value? = (addressSpaceLookup h).toOption :=
    value?_probed _ _ _
  rw [addressSpaceLimit, probe_eq limitModuleName hlimits haccess, hevents]
  simp only [Traced.outcome_ask]
  show (pure _ : Traced Value) = _
  rw [Probed.valueOr, hvalue]
  rcases (addressSpaceLookup h).toOption with - | (- | n)
  · rfl
  · rfl
  · rfl

end

end Probe

end StartupReport
