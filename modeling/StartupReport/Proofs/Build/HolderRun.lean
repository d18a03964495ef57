/-
StartupReport/Proofs/Build/HolderRun.lean

A holder over a run of questions.

A `Question` asks for the value, for one of its members, or whether a value is
kept, and `Holder.after` asks one after another.  What the loader gives on its
n-th call is either kept for good (`Settles`: a value or an ordinary failure)
or forgotten, and `firstKept` is the place of the first outcome that is kept.

The invariant of a run is `Standing`: the holder is either still open, with
nothing kept and no outcome among those consumed that settles it, or it is
settled by the last outcome that it consumed.  `standing_get` says that one
call of `get` keeps it.  All questions but one come down to one `get`:
`ask_holder` is the state after a question and `ask_of_value`, `ask_of_error`
are its answer.  `run_of_questions` puts them together.
-/
import Mathlib.Data.ENat.Basic
import StartupReport.Build.Holder

namespace StartupReport.Build

variable {α β γ : Type}

/-! ### Questions -/

/-- What can be asked of a holder: the value, whether a value is kept, and the
members of the metadata. -/
inductive Question
  | value
  | resolved
  | metadata
  | version
  | toolchainVersion
  | buildTime
  | buildTimeDisplay
  | commitId
  | commitIdAbbrev
  | commitTime
  | commitTimeDisplay
  | revision
deriving DecidableEq, Repr

/-- What a question is answered with. -/
inductive Answer
  | whole (m : Option Metadata)
  | truth (b : Bool)
  | text (s : String)
  | time (t : Calendar.Instant)
  | revision (r : Revision)
deriving DecidableEq, Repr

namespace Question

/-- Asks a holder. -/
def ask (loader : Loader Metadata) : Question → Reading Metadata Answer
  | value => .whole <$> Holder.get loader
  | resolved => fun h => (pure (.truth h.isResolved), h)
  | metadata => .whole <$> Build.metadata loader
  | version => .text <$> Build.version loader
  | toolchainVersion => .text <$> Build.toolchainVersion loader
  | buildTime => .time <$> Build.buildTime loader
  | buildTimeDisplay => .text <$> Build.buildTimeDisplay loader
  | commitId => .text <$> Build.commitId loader
  | commitIdAbbrev => .text <$> Build.commitIdAbbrev loader
  | commitTime => .time <$> Build.commitTime loader
  | commitTimeDisplay => .text <$> Build.commitTimeDisplay loader
  | revision => .revision <$> Build.revision loader

/-- The answer that metadata themselves give to a question. -/
def answerOf (m : Metadata) : Question → Answer
  | value | metadata => .whole (some m)
  | resolved => .truth true
  | version => .text m.projectVersion
  | toolchainVersion => .text m.toolchainVersion
  | buildTime => .time m.buildTime
  | buildTimeDisplay => .text m.buildTimeDisplay
  | commitId => .text m.commitId
  | commitIdAbbrev => .text m.commitIdAbbrev
  | commitTime => .time m.commitTime
  | commitTimeDisplay => .text m.commitTimeDisplay
  | revision => .revision m.revision

end Question

/-- The holder after questions that are asked one after another. -/
def Holder.after (loader : Loader Metadata) (h : Holder Metadata) (asked : List Question) :
    Holder Metadata :=
  asked.foldl (fun h q => (q.ask loader h).2) h

/-! ### Outcomes that are kept -/

/-- An outcome of the loader that a holder keeps: a value or an ordinary failure. -/
def Settles : Outcome (Option α) → Prop
  | .ok (some _) => True
  | .ok none => False
  | .error e => e.isOrdinary = true

instance (o : Outcome (Option α)) : Decidable (Settles o) :=
  match o with
  | .ok (some _) => .isTrue trivial
  | .ok none => .isFalse id
  | .error e => inferInstanceAs (Decidable (e.isOrdinary = true))

open Classical in
/-- The place of the first outcome that is kept, infinite if there is none. -/
noncomputable def firstKept (loader : Loader α) : ℕ∞ :=
  if h : ∃ n, Settles (loader n).outcome then (Nat.find h : ℕ) else ⊤

theorem le_firstKept_iff {loader : Loader α} {n : ℕ} :
    (n : ℕ∞) ≤ firstKept loader ↔ ∀ i < n, ¬ Settles (loader i).outcome := by
  unfold firstKept
  split
  · next hex =>
    rw [Nat.cast_le, Nat.le_find_iff]
  · next hex =>
    simp only [le_top, true_iff]
    intro i _ hi
    exact hex ⟨i, hi⟩

theorem firstKept_eq {loader : Loader α} {n : ℕ} (hopen : ∀ i < n, ¬ Settles (loader i).outcome)
    (hn : Settles (loader n).outcome) : firstKept loader = n := by
  refine le_antisymm (not_lt.1 fun hlt => ?_) (le_firstKept_iff.2 hopen)
  have hle : ((n + 1 : ℕ) : ℕ∞) ≤ firstKept loader := by
    rw [Nat.cast_add, Nat.cast_one]
    exact Order.add_one_le_of_lt hlt
  exact le_firstKept_iff.1 hle n (Nat.lt_succ_self n) hn

/-! ### Readings, step by step -/

namespace Reading

variable {x : Reading α β} {f : β → Reading α γ} {h : Holder α}

theorem holder_bind_of_ok {b : β} (hx : (x h).1.outcome = .ok b) :
    ((x >>= f) h).2 = (f b (x h).2).2 := by
  show (Reading.bind x f h).2 = _
  simp [Reading.bind, hx]

theorem outcome_bind_of_ok {b : β} (hx : (x h).1.outcome = .ok b) :
    ((x >>= f) h).1.outcome = (f b (x h).2).1.outcome := by
  show (Reading.bind x f h).1.outcome = _
  simp [Reading.bind, hx]

theorem holder_bind_of_error {e : Fault} (hx : (x h).1.outcome = .error e) :
    ((x >>= f) h).2 = (x h).2 := by
  show (Reading.bind x f h).2 = _
  simp [Reading.bind, hx]

theorem outcome_bind_of_error {e : Fault} (hx : (x h).1.outcome = .error e) :
    ((x >>= f) h).1.outcome = .error e := by
  show (Reading.bind x f h).1.outcome = _
  simp [Reading.bind, hx]

/-- A failure ends a computation with what it has left behind so far. -/
theorem bind_of_error {t : Holder α} {e : Fault} {events : List Event}
    (hx : x h = (⟨.error e, events⟩, t)) : (x >>= f) h = (⟨.error e, events⟩, t) := by
  show Reading.bind x f h = _
  simp only [Reading.bind, hx]

/-- What goes on without an event leaves those of the first step. -/
theorem bind_of_ok {t t' : Holder α} {b : β} {c : γ} {events : List Event}
    (hx : x h = (⟨.ok b, events⟩, t)) (hf : f b t = (pure c, t')) :
    (x >>= f) h = (⟨.ok c, events⟩, t') := by
  show Reading.bind x f h = _
  simp only [Reading.bind, hx, hf, Traced.outcome_pure, Traced.events_pure, List.append_nil]

/-- What is done to an answer leaves the holder alone. -/
theorem holder_map (g : β → γ) (x : Reading α β) (h : Holder α) :
    ((g <$> x) h).2 = (x h).2 := by
  rcases hx : (x h).1.outcome with e | b
  · exact holder_bind_of_error hx
  · exact holder_bind_of_ok hx

theorem outcome_map (g : β → γ) (x : Reading α β) (h : Holder α) :
    ((g <$> x) h).1.outcome = (x h).1.outcome.map g := by
  rcases hx : (x h).1.outcome with e | b
  · exact outcome_bind_of_error hx
  · exact outcome_bind_of_ok hx

end Reading

section

variable {loader : Loader α} {h : Holder α} {v : α} {e : Fault}

theorem get_of_value (hv : h.value = some v) :
    Holder.get loader h = (pure (some v), h) := by
  simp only [Holder.get, hv]

theorem get_of_error (hv : h.value = none) (he : h.error = some e) :
    Holder.get loader h = (Traced.fail e, h) := by
  simp only [Holder.get, hv, he]

theorem get_of_open (hv : h.value = none) (he : h.error = none) :
    Holder.get loader h = (loader h.loads,
      { h.keep (loader h.loads).outcome with loads := h.loads + 1 }) := by
  simp only [Holder.get, hv, he]

/-- A value that is answered is kept from then on. -/
theorem value_of_get (hget : (Holder.get loader h).1.outcome = .ok (some v)) :
    (Holder.get loader h).2.value = some v := by
  rcases hv : h.value with - | w
  · rcases he : h.error with - | e
    · rw [get_of_open hv he] at hget ⊢
      simp only at hget
      simp [Holder.keep, hget]
    · rw [get_of_error hv he] at hget
      cases hget
  · rw [get_of_value hv] at hget ⊢
    cases hget
    exact hv

/-! ### Members -/

variable (name : String) (read : α → β)

theorem outcome_member_of_value (hget : (Holder.get loader h).1.outcome = .ok (some v)) :
    (Holder.member loader name read h).1.outcome = .ok (read v) :=
  Reading.outcome_bind_of_ok hget

theorem outcome_member_of_none (hget : (Holder.get loader h).1.outcome = .ok none) :
    (Holder.member loader name read h).1.outcome = .error (.misuse (.member .null name)) :=
  Reading.outcome_bind_of_ok hget

theorem outcome_member_of_error (hget : (Holder.get loader h).1.outcome = .error e) :
    (Holder.member loader name read h).1.outcome = .error e :=
  Reading.outcome_bind_of_error hget

/-- A member asks for the value once and does nothing else to the holder. -/
theorem holder_member : (Holder.member loader name read h).2 = (Holder.get loader h).2 := by
  rcases hget : (Holder.get loader h).1.outcome with e | (- | v)
  · exact Reading.holder_bind_of_error hget
  · exact Reading.holder_bind_of_ok hget
  · exact Reading.holder_bind_of_ok hget

end

section

variable {loader : Loader Metadata} {h : Holder Metadata} {m : Metadata} {e : Fault}

/-- The second member of a revision finds the value that the first one left. -/
theorem get_after_commitIdAbbrev (hget : (Holder.get loader h).1.outcome = .ok (some m)) :
    Holder.get loader (commitIdAbbrev loader h).2
      = (pure (some m), (commitIdAbbrev loader h).2) := by
  rw [show (commitIdAbbrev loader h).2 = (Holder.get loader h).2 from holder_member _ _]
  exact get_of_value (value_of_get hget)

theorem outcome_date_after_commitIdAbbrev
    (hget : (Holder.get loader h).1.outcome = .ok (some m)) :
    (commitTimeDisplay loader (commitIdAbbrev loader h).2).1.outcome
      = .ok m.commitTimeDisplay := by
  refine outcome_member_of_value _ _ ?_
  rw [get_after_commitIdAbbrev hget]
  rfl

theorem outcome_revision_of_value (hget : (Holder.get loader h).1.outcome = .ok (some m)) :
    (revision loader h).1.outcome = .ok m.revision := by
  have hid : (commitIdAbbrev loader h).1.outcome = .ok m.commitIdAbbrev :=
    outcome_member_of_value _ _ hget
  exact (Reading.outcome_bind_of_ok hid).trans
    (Reading.outcome_bind_of_ok (outcome_date_after_commitIdAbbrev hget))

theorem outcome_revision_of_error (hget : (Holder.get loader h).1.outcome = .error e) :
    (revision loader h).1.outcome = .error e :=
  Reading.outcome_bind_of_error (outcome_member_of_error _ _ hget)

/-- A revision reads two members, and yet the loader is called as by one `get`:
without a value the first member fails. -/
theorem holder_revision : (revision loader h).2 = (Holder.get loader h).2 := by
  have hfirst : (commitIdAbbrev loader h).2 = (Holder.get loader h).2 := holder_member _ _
  -- only a value lets the revision come to its second member
  rcases hget : (Holder.get loader h).1.outcome with e | (- | m)
  · exact (Reading.holder_bind_of_error (outcome_member_of_error _ _ hget)).trans hfirst
  · exact (Reading.holder_bind_of_error (outcome_member_of_none _ _ hget)).trans hfirst
  · have hsecond : (commitTimeDisplay loader (commitIdAbbrev loader h).2).2
        = (commitIdAbbrev loader h).2 := by
      rw [show (commitTimeDisplay loader (commitIdAbbrev loader h).2).2 = _ from
        holder_member _ _, get_after_commitIdAbbrev hget]
    calc (revision loader h).2
        = _ := Reading.holder_bind_of_ok (outcome_member_of_value _ _ hget)
      _ = _ := Reading.holder_bind_of_ok (outcome_date_after_commitIdAbbrev hget)
      _ = (commitIdAbbrev loader h).2 := hsecond
      _ = (Holder.get loader h).2 := hfirst

/-! ### Questions come down to one `get` -/

theorem ask_holder (q : Question) (hq : q ≠ .resolved) :
    (q.ask loader h).2 = (Holder.get loader h).2 := by
  cases q with
  | resolved => exact absurd rfl hq
  | value | metadata => exact Reading.holder_map _ _ _
  | revision => exact (Reading.holder_map _ _ _).trans holder_revision
  | _ => exact (Reading.holder_map _ _ _).trans (holder_member _ _)

theorem ask_of_value (q : Question) (hq : q ≠ .resolved)
    (hget : (Holder.get loader h).1.outcome = .ok (some m)) :
    (q.ask loader h).1.outcome = .ok (q.answerOf m) := by
  cases q with
  | resolved => exact absurd rfl hq
  | value | metadata =>
    refine (Reading.outcome_map _ _ _).trans ?_
    exact congrArg (Except.map Answer.whole) hget
  | revision =>
    exact (Reading.outcome_map _ _ _).trans
      (congrArg (Except.map Answer.revision) (outcome_revision_of_value hget))
  | _ =>
    exact (Reading.outcome_map _ _ _).trans
      (congrArg (Except.map _) (outcome_member_of_value _ _ hget))

theorem ask_of_error (q : Question) (hq : q ≠ .resolved)
    (hget : (Holder.get loader h).1.outcome = .error e) :
    (q.ask loader h).1.outcome = .error e := by
  cases q with
  | resolved => exact absurd rfl hq
  | value | metadata =>
    exact (Reading.outcome_map _ _ _).trans (congrArg (Except.map Answer.whole) hget)
  | revision =>
    exact (Reading.outcome_map _ _ _).trans
      (congrArg (Except.map Answer.revision) (outcome_revision_of_error hget))
  | _ =>
    exact (Reading.outcome_map _ _ _).trans
      (congrArg (Except.map _) (outcome_member_of_error _ _ hget))

end

/-! ### The invariant of a run -/

/-- Where a holder stands: it is open and none of the outcomes consumed settles
it, or the last outcome consumed is the first that settles it and is kept. -/
inductive Standing (loader : Loader α) : Holder α → Prop
  | unsettled {n : ℕ} (hbefore : ∀ i < n, ¬ Settles (loader i).outcome) :
      Standing loader ⟨none, none, n⟩
  | resolved {n : ℕ} {v : α} (hbefore : ∀ i < n, ¬ Settles (loader i).outcome)
      (hlast : (loader n).outcome = .ok (some v)) : Standing loader ⟨some v, none, n + 1⟩
  | failed {n : ℕ} {e : Fault} (hbefore : ∀ i < n, ¬ Settles (loader i).outcome)
      (hlast : (loader n).outcome = .error e) (hkept : e.isOrdinary = true) :
      Standing loader ⟨none, some e, n + 1⟩

theorem standing_start (loader : Loader α) : Standing loader {} :=
  .unsettled fun _ hi => absurd hi (Nat.not_lt_zero _)

/-- A call of `get` keeps the invariant, whatever the loader gives. -/
theorem standing_get {loader : Loader α} {h : Holder α} (hs : Standing loader h) :
    Standing loader (Holder.get loader h).2 := by
  cases hs with
  | resolved hbefore hlast =>
    rw [get_of_value rfl]
    exact .resolved hbefore hlast
  | failed hbefore hlast hkept =>
    rw [get_of_error rfl rfl]
    exact .failed hbefore hlast hkept
  | @unsettled n hbefore =>
    rw [get_of_open rfl rfl]
    -- an outcome that is not kept joins those before it
    have hforget : ¬ Settles (loader n).outcome → Standing loader ⟨none, none, n + 1⟩ := by
      intro hn
      refine .unsettled fun i hi => ?_
      rcases Nat.lt_succ_iff_lt_or_eq.1 hi with hi | rfl
      exacts [hbefore i hi, hn]
    rcases hlast : (loader n).outcome with e | (- | v)
    · by_cases hkept : e.isOrdinary = true
      · simpa [Holder.keep, hlast, hkept] using Standing.failed hbefore hlast hkept
      · simpa [Holder.keep, hlast, hkept] using hforget (by rw [hlast]; exact hkept)
    · simpa [Holder.keep, hlast] using hforget (by rw [hlast]; exact id)
    · simpa [Holder.keep, hlast] using Standing.resolved hbefore hlast

theorem standing_ask {loader : Loader Metadata} {h : Holder Metadata}
    (hs : Standing loader h) (q : Question) : Standing loader (q.ask loader h).2 := by
  by_cases hq : q = .resolved
  · subst hq
    exact hs
  · rw [ask_holder q hq]
    exact standing_get hs

theorem standing_after {loader : Loader Metadata} {h : Holder Metadata}
    (hs : Standing loader h) (asked : List Question) :
    Standing loader (h.after loader asked) := by
  induction asked generalizing h with
  | nil => exact hs
  | cons q asked ih => exact ih (standing_ask hs q)

/-! ### What the invariant says -/

namespace Standing

variable {loader : Loader α} {h : Holder α}

/-- The outcome that is kept has been consumed as soon as anything is kept. -/
theorem loads_le_iff (hs : Standing loader h) :
    (h.loads : ℕ∞) ≤ firstKept loader ↔ h.value = none ∧ h.error = none := by
  have hsettled : ∀ {n : ℕ}, Settles (loader n).outcome →
      ¬ ((n + 1 : ℕ) : ℕ∞) ≤ firstKept loader := by
    intro n hn hle
    exact le_firstKept_iff.1 hle n (Nat.lt_succ_self n) hn
  cases hs with
  | unsettled hbefore => simpa using le_firstKept_iff.2 hbefore
  | resolved _ hlast =>
    simpa using hsettled (by rw [hlast]; exact trivial)
  | failed _ hlast hkept =>
    simpa using hsettled (by rw [hlast]; exact hkept)

theorem loads_le (hs : Standing loader h) : (h.loads : ℕ∞) ≤ firstKept loader + 1 := by
  cases hs with
  | unsettled hbefore => exact (le_firstKept_iff.2 hbefore).trans le_self_add
  | resolved hbefore _ | failed hbefore _ _ =>
    simpa using add_le_add_left (le_firstKept_iff.2 hbefore) 1

/-- An open holder calls the loader once. -/
theorem loads_get_of_le (hs : Standing loader h) (hle : (h.loads : ℕ∞) ≤ firstKept loader) :
    (Holder.get loader h).2.loads = h.loads + 1 := by
  obtain ⟨hv, he⟩ := hs.loads_le_iff.1 hle
  rw [get_of_open hv he]

/-- A settled holder stays as it is. -/
theorem holder_get_of_lt (hs : Standing loader h) (hlt : firstKept loader < h.loads) :
    (Holder.get loader h).2 = h := by
  cases hs with
  | unsettled hbefore => exact absurd hlt (not_lt.2 (le_firstKept_iff.2 hbefore))
  | resolved _ _ => rw [get_of_value rfl]
  | failed _ _ _ => rw [get_of_error rfl rfl]

theorem loads_get_bounds (hs : Standing loader h) :
    h.loads ≤ (Holder.get loader h).2.loads ∧ (Holder.get loader h).2.loads ≤ h.loads + 1 := by
  rcases le_or_gt (h.loads : ℕ∞) (firstKept loader) with hle | hlt
  · rw [hs.loads_get_of_le hle]
    exact ⟨Nat.le_succ _, le_rfl⟩
  · rw [hs.holder_get_of_lt hlt]
    exact ⟨le_rfl, Nat.le_succ _⟩

/-- From the outcome that is kept onwards every answer is that outcome. -/
theorem outcome_get {n : ℕ} (hs : Standing loader h) (hn : firstKept loader = n)
    (hlt : n < (Holder.get loader h).2.loads) :
    (Holder.get loader h).1.outcome = (loader n).outcome := by
  cases hs with
  | @unsettled k hbefore =>
    rw [get_of_open rfl rfl] at hlt ⊢
    -- the call that is just made is the one whose outcome is kept
    have hle : k ≤ n := by
      exact_mod_cast hn ▸ le_firstKept_iff.2 hbefore
    obtain rfl : n = k := by
      simp only at hlt
      omega
    rfl
  | @resolved k v hbefore hlast =>
    obtain rfl : k = n := by
      exact_mod_cast (firstKept_eq hbefore (by rw [hlast]; exact trivial)).symm.trans hn
    rw [get_of_value rfl, hlast]
    rfl
  | @failed k e hbefore hlast hkept =>
    obtain rfl : k = n := by
      exact_mod_cast (firstKept_eq hbefore (by rw [hlast]; exact hkept)).symm.trans hn
    rw [get_of_error rfl rfl, hlast]
    rfl

theorem not_both (hs : Standing loader h) : ¬ (h.value.isSome ∧ h.error.isSome) := by
  cases hs <;> simp

/-- A settled holder has a value if the outcome that is kept is one, and only then. -/
theorem isResolved_iff {n : ℕ} (hs : Standing loader h) (hn : firstKept loader = n)
    (hlt : n < h.loads) : h.isResolved = true ↔ ∃ v, (loader n).outcome = .ok (some v) := by
  have hsame : (Holder.get loader h).2 = h :=
    hs.holder_get_of_lt (by rw [hn]; exact_mod_cast hlt)
  have hget := hs.outcome_get hn (by rw [hsame]; exact hlt)
  constructor
  · intro hr
    obtain ⟨v, hv⟩ := Option.isSome_iff_exists.1 hr
    exact ⟨v, by rw [← hget, get_of_value hv]; rfl⟩
  · rintro ⟨v, hv⟩
    have hkept := value_of_get (hget.trans hv)
    rw [hsame] at hkept
    exact Option.isSome_iff_exists.2 ⟨v, hkept⟩

end Standing

/-! ### Every question of every run -/

section

variable {loader : Loader Metadata} {h : Holder Metadata} {n : ℕ}

/-- Whether a value is kept, asked after the outcome that is kept. -/
theorem ask_resolved_of_settled (hs : Standing loader h) (hn : firstKept loader = n)
    (hlt : n < h.loads) :
    (∀ m, (loader n).outcome = .ok (some m) → h.isResolved = true) ∧
    (∀ e, (loader n).outcome = .error e → h.isResolved = false) := by
  have hiff := hs.isResolved_iff hn hlt
  constructor
  · intro m hm
    exact hiff.2 ⟨m, hm⟩
  · intro e he
    refine Bool.eq_false_iff.2 fun hr => ?_
    obtain ⟨v, hv⟩ := hiff.1 hr
    rw [he] at hv
    cases hv

/-- Any question, asked when the outcome that is kept is there or is just met. -/
theorem ask_of_settled (hs : Standing loader h) (q : Question) (hn : firstKept loader = n)
    (hlt : n < (q.ask loader h).2.loads) :
    (∀ m, (loader n).outcome = .ok (some m) →
      (q.ask loader h).1.outcome = .ok (q.answerOf m)) ∧
    (∀ e, (loader n).outcome = .error e →
      (q.ask loader h).1.outcome = if q = .resolved then .ok (.truth false) else .error e) := by
  by_cases hq : q = .resolved
  · subst hq
    obtain ⟨hvalue, herror⟩ := ask_resolved_of_settled hs hn hlt
    constructor
    · intro m hm
      exact congrArg (fun b => Except.ok (Answer.truth b)) (hvalue m hm)
    · intro e he
      rw [if_pos rfl]
      exact congrArg (fun b => Except.ok (Answer.truth b)) (herror e he)
  · have houtcome := hs.outcome_get hn (ask_holder q hq ▸ hlt)
    constructor
    · intro m hm
      exact ask_of_value q hq (houtcome.trans hm)
    · intro e he
      rw [if_neg hq]
      exact ask_of_error q hq (houtcome.trans he)

end

/-- **A holder loads once.**  After any questions `asked`, the next question `q`
calls the loader at most once: exactly once as long as the first outcome that is
kept has not been consumed (unless it only asks whether a value is kept), never
afterwards, and in all no more often than that outcome's place allows.  From
that outcome on every answer is read off it, be it a value or a failure, and at
no time are both kept. -/
theorem run_of_questions (loader : Loader Metadata) (asked : List Question) (q : Question) :
    let h := Holder.after loader {} asked
    let h' := (q.ask loader h).2
    let answer := (q.ask loader h).1.outcome
    (h.loads ≤ h'.loads ∧ h'.loads ≤ h.loads + 1 ∧ (h'.loads : ℕ∞) ≤ firstKept loader + 1) ∧
    ((h.loads : ℕ∞) ≤ firstKept loader →
      (q ≠ .resolved → h'.loads = h.loads + 1) ∧ h.value = none ∧ h.error = none) ∧
    (firstKept loader < h.loads → h'.loads = h.loads) ∧
    (∀ n : ℕ, firstKept loader = n → n < h'.loads →
      (∀ m, (loader n).outcome = .ok (some m) → answer = .ok (q.answerOf m)) ∧
      (∀ e, (loader n).outcome = .error e →
        answer = if q = .resolved then .ok (.truth false) else .error e)) ∧
    ¬ (h.value.isSome ∧ h.error.isSome) := by
  intro h h' answer
  have hs : Standing loader h := standing_after (standing_start loader) asked
  have hs' : Standing loader h' := standing_ask hs q
  have hanswers := fun (n : ℕ) (hn : firstKept loader = n) => ask_of_settled hs q hn
  by_cases hq : q = .resolved
  · -- the holder is only looked at
    have hsame : h' = h := by
      subst hq
      rfl
    refine ⟨⟨hsame ▸ le_rfl, hsame ▸ Nat.le_succ _, hs'.loads_le⟩, fun hle => ?_,
      fun _ => by rw [hsame], hanswers, hs.not_both⟩
    exact ⟨fun hne => absurd hq hne, hs.loads_le_iff.1 hle⟩
  · have hget : h' = (Holder.get loader h).2 := ask_holder q hq
    obtain ⟨hlow, hhigh⟩ := hs.loads_get_bounds
    refine ⟨⟨hget ▸ hlow, hget ▸ hhigh, hs'.loads_le⟩, fun hle => ?_, fun hlt => ?_, hanswers,
      hs.not_both⟩
    · exact ⟨fun _ => hget ▸ hs.loads_get_of_le hle, hs.loads_le_iff.1 hle⟩
    · rw [hget, hs.holder_get_of_lt hlt]

end StartupReport.Build
