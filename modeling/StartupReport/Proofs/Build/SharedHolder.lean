/-
StartupReport/Proofs/Build/SharedHolder.lean

Threads that share a holder act as if they called one after another.

`serially` makes calls one after another, in an order of thread numbers, and
notes who got which answer.  A state of threads that share a holder `Follows`
such calls if they explain it: the same loader calls were made, and every thread
has the answers that its calls got, apart from one that is decided and not yet
given (`Stage.decided`).  A call takes effect at the step that decides its
answer: at the unlocked look at a value, at the look under the lock, or when the
loader answers.

What carries the induction is the lock.  A thread has it iff its stage lies
inside the locked region (`Stage.isInside`), and what it has seen there stays true
while it has it (`Stage.Knows`): nothing is kept before its loader call is over
and what came of it is kept.  `Moves` says what a step does, `follows_step` that
a step keeps the invariant, with one more call in a row or without, and
`serializable_run` that a run does.  That a value is stored at most once
(`writes_le_one`), and that nothing else is answered from then on
(`answersOnly_run`), comes from the same invariant.

Main result: `run_of_threads`.
-/
import StartupReport.Build.Sharing
import StartupReport.Proofs.Build.HolderRun

namespace StartupReport.Build

variable {α : Type}

/-! ### What is kept -/

section
variable {h : Holder α} {given : Outcome (Option α)}

/-- Only a value is kept as a value; anything else is kept as a failure or not at
all. -/
theorem keep_of_no_value (hgiven : ∀ v, given ≠ .ok (some v)) :
    ∃ e, h.keep given = { h with error := e } := by
  unfold Holder.keep
  split
  · next v => exact absurd rfl (hgiven v)
  · exact ⟨h.error, rfl⟩
  · next e =>
    split
    · exact ⟨some e, rfl⟩
    · exact ⟨h.error, rfl⟩

theorem eq_of_keep_value {v : α} (hnone : h.value = none) (hv : (h.keep given).value = some v) :
    given = .ok (some v) := by
  by_cases hgiven : ∃ w, given = .ok (some w)
  · obtain ⟨w, rfl⟩ := hgiven
    exact congrArg Except.ok hv
  · obtain ⟨e, hkeep⟩ := keep_of_no_value (h := h) (not_exists.1 hgiven)
    rw [hkeep, hnone] at hv
    cases hv

/-- The number of calls does not matter to what is kept. -/
theorem keep_of_loads (h : Holder α) (given : Outcome (Option α)) (n : Nat) :
    ({ h with loads := n }).keep given = { h.keep given with loads := n } := by
  unfold Holder.keep
  split
  · rfl
  · rfl
  · split
    · rfl
    · rfl

theorem loads_keep (h : Holder α) (given : Outcome (Option α)) :
    (h.keep given).loads = h.loads := by
  have hkeep : h.keep given = { h.keep given with loads := h.loads } :=
    keep_of_loads h given h.loads
  rw [hkeep]

end

/-! ### Calls one after another -/

/-- What calls that are made one after another leave behind: the holder, the
events of the loader, and the answers with the thread that each was given to. -/
structure Serial (α : Type) where
  holder : Holder α
  events : List Event := []
  answers : List (Nat × Outcome (Option α)) := []

namespace Serial

/-- One more call, by a thread. -/
def call (loader : Loader α) (c : Serial α) (i : Nat) : Serial α where
  holder := (Holder.get loader c.holder).2
  events := c.events ++ (Holder.get loader c.holder).1.events
  answers := c.answers ++ [(i, (Holder.get loader c.holder).1.outcome)]

/-- The answers that were given to a thread, the oldest first. -/
def answersOf (c : Serial α) (i : Nat) : List (Outcome (Option α)) :=
  (c.answers.filter fun a => a.1 = i).map (·.2)

variable (loader : Loader α) (c : Serial α)

theorem answersOf_call_self (i : Nat) :
    (c.call loader i).answersOf i = c.answersOf i ++ [(Holder.get loader c.holder).1.outcome] := by
  simp [answersOf, call]

theorem answersOf_call_of_ne {i j : Nat} (h : j ≠ i) :
    (c.call loader i).answersOf j = c.answersOf j := by
  simp [answersOf, call, Ne.symm h]

end Serial

/-- Calls that are made one after another, in an order of thread numbers. -/
def serially (loader : Loader α) (h : Holder α) (order : List Nat) : Serial α :=
  order.foldl (Serial.call loader) { holder := h }

/-- Every call is answered. -/
theorem length_answersOf_foldl (loader : Loader α) (c : Serial α) (order : List Nat) (i : Nat) :
    ((order.foldl (Serial.call loader) c).answersOf i).length
      = (c.answersOf i).length + order.count i := by
  induction order generalizing c with
  | nil => rfl
  | cons j order ih =>
    rw [List.foldl_cons, ih]
    by_cases hj : j = i
    · subst hj
      rw [Serial.answersOf_call_self, List.length_append, List.count_cons_self,
        List.length_singleton, Nat.add_assoc, Nat.add_comm 1]
    · rw [c.answersOf_call_of_ne loader (Ne.symm hj), List.count_cons_of_ne hj]

theorem serially_append (loader : Loader α) (h : Holder α) (order : List Nat) (i : Nat) :
    serially loader h (order ++ [i]) = (serially loader h order).call loader i := by
  rw [serially, List.foldl_append]
  rfl

/-! ### Stages -/

namespace Stage

/-- The stages of a thread that has the lock. -/
def isInside : Stage α → Bool
  | idle | waiting => false
  | _ => true

/-- The answer that is decided and not yet given. -/
def decided : Stage α → List (Outcome (Option α))
  | keeping given => [given]
  | leaving answer => [answer]
  | _ => []

/-- The calls that have begun and are not over. -/
def begun : Stage α → Nat
  | idle => 0
  | _ => 1

/-- The holder as it will be once the outcome at hand is kept. -/
def settled : Stage α → Holder α → Holder α
  | keeping given, h => h.keep given
  | _, h => h

theorem loads_settled (stage : Stage α) (h : Holder α) : (stage.settled h).loads = h.loads := by
  cases stage with
  | keeping given => exact loads_keep h given
  | _ => rfl

/-- What a thread that has the lock knows of the holder: nothing is kept while it
loads, and an answer is the value if one is kept. -/
def Knows (h : Holder α) : Stage α → Prop
  | loading | keeping _ => h.value = none ∧ h.error = none
  | leaving answer => ∀ v, h.value = some v → answer = .ok (some v)
  | _ => True

variable {stage : Stage α}

theorem knows_of_not_isInside (h : stage.isInside = false) (holder : Holder α) :
    stage.Knows holder := by
  cases stage with
  | idle | waiting => exact trivial
  | _ => cases h

theorem length_decided_le (stage : Stage α) : stage.decided.length ≤ stage.begun := by
  cases stage <;> simp [decided, begun]

theorem begun_of_isInside (h : stage.isInside = true) : stage.begun = 1 := by
  cases stage with
  | idle => cases h
  | _ => rfl

/-- An outcome that is still to be kept is none that would replace a value. -/
theorem settled_of_value {h : Holder α} (hknows : stage.Knows h) {v : α}
    (hv : h.value = some v) : stage.settled h = h := by
  cases stage with
  | keeping given =>
    rw [hknows.1] at hv
    cases hv
  | _ => rfl

end Stage

/-! ### Steps -/

namespace Sharing

variable {loader : Loader α} {s s' : Sharing α} {i : Nat} {t : Thread α}

/-- What a step of a thread does, by its stage. -/
inductive Moves (loader : Loader α) (s : Sharing α) (i : Nat) : Thread α → Sharing α → Prop
  /-- A call begins and finds a value. -/
  | found {pending : Nat} {answers : List (Outcome (Option α))} {v : α}
      (hv : s.holder.value = some v) :
      Moves loader s i ⟨.idle, pending + 1, answers⟩
        (s.move i ⟨.idle, pending, answers ++ [.ok (some v)]⟩)
  /-- A call begins and finds no value. -/
  | missed {pending : Nat} {answers : List (Outcome (Option α))}
      (hv : s.holder.value = none) :
      Moves loader s i ⟨.idle, pending + 1, answers⟩ (s.move i ⟨.waiting, pending, answers⟩)
  | acquired {pending : Nat} {answers : List (Outcome (Option α))} (hfree : s.owner = none) :
      Moves loader s i ⟨.waiting, pending, answers⟩
        { s.move i ⟨.checking, pending, answers⟩ with owner := some i }
  | checked {pending : Nat} {answers : List (Outcome (Option α))} :
      Moves loader s i ⟨.checking, pending, answers⟩
        (s.move i ⟨check s.holder, pending, answers⟩)
  | loaded {pending : Nat} {answers : List (Outcome (Option α))} :
      Moves loader s i ⟨.loading, pending, answers⟩
        { s.move i ⟨.keeping (loader s.holder.loads).outcome, pending, answers⟩ with
          holder := { s.holder with loads := s.holder.loads + 1 }
          events := s.events ++ (loader s.holder.loads).events }
  | kept {pending : Nat} {answers : List (Outcome (Option α))} {given : Outcome (Option α)} :
      Moves loader s i ⟨.keeping given, pending, answers⟩
        { s.move i ⟨.leaving given, pending, answers⟩ with holder := s.holder.keep given }
  | left {pending : Nat} {answers : List (Outcome (Option α))} {answer : Outcome (Option α)} :
      Moves loader s i ⟨.leaving answer, pending, answers⟩
        { s.move i ⟨.idle, pending, answers ++ [answer]⟩ with owner := none }

theorem moves_of_step? (h : s.step? loader i = some s') :
    ∃ t, s.threads[i]? = some t ∧ Moves loader s i t s' := by
  unfold step? at h
  rcases ht : s.threads[i]? with - | ⟨stage, pending, answers⟩
  · simp only [ht] at h
    cases h
  simp only [ht] at h
  refine ⟨_, rfl, ?_⟩
  cases stage with
  | idle =>
    cases pending with
    | zero => cases h
    | succ pending =>
      rcases hv : s.holder.value with - | v
      · simp only [begin?, hv] at h
        cases h
        exact .missed hv
      · simp only [begin?, hv] at h
        cases h
        exact .found hv
  | waiting =>
    rcases hfree : s.owner with - | j
    · simp only [hfree, Option.isNone_none, if_true] at h
      cases h
      exact .acquired hfree
    · simp only [hfree] at h
      cases h
  | checking =>
    cases h
    exact .checked
  | loading =>
    cases h
    exact .loaded
  | keeping given =>
    cases h
    exact .kept
  | leaving answer =>
    cases h
    exact .left

end Sharing

/-! ### The invariant -/

/-- Where a thread stands among calls that were made one after another: it has the
lock iff its stage says so, it knows what the stage says, the holder is that of
the calls once the outcome at hand is kept, its answers are those of its calls,
and none of its calls is lost. -/
structure Stands (calls : List Nat) (c : Serial α) (s : Sharing α) (i : Nat) (t : Thread α) :
    Prop where
  inside : s.owner = some i ↔ t.stage.isInside = true
  knows : t.stage.Knows s.holder
  settled : s.owner = some i → c.holder = t.stage.settled s.holder
  explained : c.answersOf i = t.answers ++ t.stage.decided
  counted : calls[i]? = some (t.answers.length + t.stage.begun + t.pending)

/-- Calls that were made one after another explain a state: all threads stand
among them, and with the lock free the holder is that of the calls. -/
structure Follows (calls : List Nat) (c : Serial α) (s : Sharing α) : Prop where
  stands : ∀ i t, s.threads[i]? = some t → Stands calls c s i t
  length : s.threads.length = calls.length
  owned : ∀ i, s.owner = some i → i < calls.length
  free : s.owner = none → c.holder = s.holder
  events : c.events = s.events

section
variable {calls : List Nat} {c c' : Serial α} {s s' : Sharing α} {i j : Nat} {t u : Thread α}

/-- A thread does not notice a step of another one that leaves holder and lock
alone. -/
theorem Stands.of_outside (h : Stands calls c s j u) (hholder : s'.holder = s.holder)
    (howner : s'.owner = s.owner) (hserial : c'.holder = c.holder)
    (hanswers : c'.answersOf j = c.answersOf j) : Stands calls c' s' j u where
  inside := howner ▸ h.inside
  knows := hholder ▸ h.knows
  settled hj := by
    rw [hserial, hholder]
    exact h.settled (howner ▸ hj)
  explained := hanswers.trans h.explained
  counted := h.counted

/-- A thread without the lock does not notice what one with the lock does. -/
theorem Stands.of_locked (h : Stands calls c s j u) (hj : s.owner ≠ some j)
    (hj' : s'.owner ≠ some j) (hanswers : c'.answersOf j = c.answersOf j) :
    Stands calls c' s' j u := by
  have houtside : u.stage.isInside = false := Bool.eq_false_iff.2 fun hu => hj (h.inside.2 hu)
  exact {
    inside := by simp [hj', houtside]
    knows := Stage.knows_of_not_isInside houtside _
    settled := fun howner => absurd howner hj'
    explained := hanswers.trans h.explained
    counted := h.counted }

/-- A state after a step of a thread, put together from what has become of that
thread and of the others. -/
theorem Follows.of_move (h : Follows calls c s) (ht : s.threads[i]? = some t) {t' : Thread α}
    (hthreads : s'.threads = s.threads.set i t') (hself : Stands calls c' s' i t')
    (hothers : ∀ j u, j ≠ i → Stands calls c s j u → Stands calls c' s' j u)
    (howner : s'.owner = s.owner ∨ s'.owner = some i ∨ s'.owner = none)
    (hfree : s'.owner = none → c'.holder = s'.holder) (hevents : c'.events = s'.events) :
    Follows calls c' s' where
  stands j u hu := by
    have hi : i < s.threads.length := (List.getElem?_eq_some_iff.1 ht).1
    rw [hthreads, List.getElem?_set] at hu
    by_cases hj : i = j
    · subst hj
      rw [if_pos rfl, if_pos hi, Option.some.injEq] at hu
      exact hu ▸ hself
    · rw [if_neg hj] at hu
      exact hothers j u (Ne.symm hj) (h.stands j u hu)
  length := by
    rw [hthreads, List.length_set]
    exact h.length
  owned j hj := by
    obtain hsame | hsome | hnone := howner
    · exact h.owned j (hsame ▸ hj)
    · cases hsome.symm.trans hj
      exact h.length ▸ (List.getElem?_eq_some_iff.1 ht).1
    · cases hnone.symm.trans hj
  free := hfree
  events := hevents

/-- A state after a step of the thread that has the lock and goes on with it. -/
theorem Follows.of_locked (h : Follows calls c s) (ht : s.threads[i]? = some t)
    (hinside : t.stage.isInside = true) {stage : Stage α}
    (hthreads : s'.threads = s.threads.set i (t.goTo stage)) (howner : s'.owner = s.owner)
    (hinside' : stage.isInside = true) (hknows : stage.Knows s'.holder)
    (hsettled : c'.holder = stage.settled s'.holder)
    (hexplained : c'.answersOf i = t.answers ++ stage.decided)
    (hothers : ∀ j, j ≠ i → c'.answersOf j = c.answersOf j) (hevents : c'.events = s'.events) :
    Follows calls c' s' := by
  have hi := h.stands i t ht
  have hlock : s.owner = some i := hi.inside.2 hinside
  have hlocked (j : Nat) (hj : j ≠ i) : s.owner ≠ some j := by
    rw [hlock]
    simpa using Ne.symm hj
  refine h.of_move ht hthreads ?_ ?_ (.inl howner) ?_ hevents
  · exact {
      inside := iff_of_true (howner.trans hlock) hinside'
      knows := hknows
      settled := fun _ => hsettled
      explained := hexplained
      counted := by
        rw [hi.counted, Stage.begun_of_isInside hinside, Thread.goTo,
          Stage.begun_of_isInside hinside'] }
  · intro j u hj hu
    exact hu.of_locked (hlocked j hj) (howner ▸ hlocked j hj) (hothers j hj)
  · intro hnone
    cases hlock.symm.trans (howner.symm.trans hnone)

/-- A value that is kept is the value after the calls. -/
theorem Follows.holder_of_value (h : Follows calls c s) {v : α} (hv : s.holder.value = some v) :
    c.holder = s.holder := by
  rcases howner : s.owner with - | j
  · exact h.free howner
  · have hstands := h.stands j _ (List.getElem?_eq_getElem (h.length ▸ h.owned j howner))
    rw [hstands.settled howner, Stage.settled_of_value hstands.knows hv]

end

/-! ### A step keeps the invariant -/

section
variable {loader : Loader α} {calls : List Nat} {c : Serial α} {s s' : Sharing α}
  {i pending : Nat} {answers : List (Outcome (Option α))}

/-- The unlocked look at a value is a call. -/
theorem follows_found (h : Follows calls c s)
    (ht : s.threads[i]? = some ⟨.idle, pending + 1, answers⟩) {v : α}
    (hv : s.holder.value = some v) :
    Follows calls (c.call loader i) (s.move i ⟨.idle, pending, answers ++ [.ok (some v)]⟩) := by
  have hi := h.stands i _ ht
  have hget : Holder.get loader c.holder = (pure (some v), c.holder) :=
    get_of_value (h.holder_of_value hv ▸ hv)
  have hserial : (c.call loader i).holder = c.holder := by rw [Serial.call, hget]
  refine h.of_move ht rfl ?_ ?_ (.inl rfl) (fun hfree => hserial.trans (h.free hfree)) ?_
  · exact {
      inside := hi.inside
      knows := trivial
      settled := fun howner => absurd (hi.inside.1 howner) Bool.false_ne_true
      explained := by
        rw [Serial.answersOf_call_self, hget, hi.explained]
        simp [Stage.decided]
      counted := by
        rw [hi.counted]
        simp [Stage.begun]
        omega }
  · intro j u hj hu
    exact hu.of_outside rfl rfl hserial (c.answersOf_call_of_ne loader hj)
  · simp [Serial.call, hget, h.events, Sharing.move]

/-- What is found under the lock, a value or a failure, is the answer of a call. -/
theorem follows_answered (h : Follows calls c s)
    (ht : s.threads[i]? = some ⟨.checking, pending, answers⟩) {answer : Outcome (Option α)}
    (hget : Holder.get loader s.holder = (⟨answer, []⟩, s.holder))
    (hknows : ∀ v, s.holder.value = some v → answer = .ok (some v)) :
    Follows calls (c.call loader i) (s.move i ⟨.leaving answer, pending, answers⟩) := by
  have hi := h.stands i _ ht
  have hsettled : c.holder = s.holder := hi.settled (hi.inside.2 rfl)
  rw [← hsettled] at hget
  refine h.of_locked ht rfl rfl rfl rfl hknows ?_ ?_
    (fun j hj => c.answersOf_call_of_ne loader hj) ?_
  · rw [Serial.call, hget]
    exact hsettled
  · rw [Serial.answersOf_call_self, hget, hi.explained]
    simp [Stage.decided]
  · simp [Serial.call, hget, h.events, Sharing.move]

/-- The look under the lock is a call unless nothing is kept. -/
theorem follows_checked (h : Follows calls c s)
    (ht : s.threads[i]? = some ⟨.checking, pending, answers⟩) :
    Follows calls c (s.move i ⟨Sharing.check s.holder, pending, answers⟩) ∨
    Follows calls (c.call loader i) (s.move i ⟨Sharing.check s.holder, pending, answers⟩) := by
  have hi := h.stands i _ ht
  rcases hv : s.holder.value with - | v
  · rcases he : s.holder.error with - | e
    · simp only [Sharing.check, hv, he]
      exact .inl (h.of_locked ht rfl rfl rfl rfl ⟨hv, he⟩ (hi.settled (hi.inside.2 rfl))
        hi.explained (fun _ _ => rfl) h.events)
    · simp only [Sharing.check, hv, he]
      refine .inr (follows_answered h ht (get_of_error hv he) ?_)
      intro v hv'
      cases hv.symm.trans hv'
  · simp only [Sharing.check, hv]
    refine .inr (follows_answered h ht (get_of_value hv) ?_)
    intro w hw
    cases hv.symm.trans hw
    rfl

/-- A loader call under the lock is a call that finds nothing kept. -/
theorem follows_loaded (h : Follows calls c s)
    (ht : s.threads[i]? = some ⟨.loading, pending, answers⟩) :
    Follows calls (c.call loader i)
      { s.move i ⟨.keeping (loader s.holder.loads).outcome, pending, answers⟩ with
        holder := { s.holder with loads := s.holder.loads + 1 }
        events := s.events ++ (loader s.holder.loads).events } := by
  have hi := h.stands i _ ht
  have hsettled : c.holder = s.holder := hi.settled (hi.inside.2 rfl)
  obtain ⟨hv, he⟩ : s.holder.value = none ∧ s.holder.error = none := hi.knows
  have hget : Holder.get loader s.holder = _ := get_of_open hv he
  rw [← hsettled] at hget
  refine h.of_locked ht rfl rfl rfl rfl ⟨hv, he⟩ ?_ ?_
    (fun j hj => c.answersOf_call_of_ne loader hj) ?_
  · rw [Serial.call, hget, hsettled]
    exact (keep_of_loads _ _ _).symm
  · rw [Serial.answersOf_call_self, hget, hi.explained, hsettled]
    simp [Stage.decided]
  · rw [Serial.call, hget, h.events, hsettled]

/-- **A step.**  Calls that explain a state explain the next one, as they are or
with one more call by the thread that took the step. -/
theorem follows_step (h : Follows calls c s) (hstep : s.step? loader i = some s') :
    Follows calls c s' ∨ Follows calls (c.call loader i) s' := by
  obtain ⟨t, ht, hmoves⟩ := Sharing.moves_of_step? hstep
  have hi := h.stands i t ht
  cases hmoves with
  | found hv => exact .inr (follows_found h ht hv)
  | missed =>
    refine .inl (h.of_move ht rfl ?_ ?_ (.inl rfl) h.free h.events)
    · exact {
        inside := hi.inside
        knows := trivial
        settled := fun howner => absurd (hi.inside.1 howner) Bool.false_ne_true
        explained := hi.explained
        counted := by
          rw [hi.counted]
          simp [Stage.begun]
          omega }
    · exact fun j u hj hu => hu.of_outside rfl rfl rfl rfl
  | acquired hfree =>
    refine .inl (h.of_move ht rfl ?_ ?_ (.inr (.inl rfl)) ?_ h.events)
    · exact {
        inside := iff_of_true rfl rfl
        knows := trivial
        settled := fun _ => h.free hfree
        explained := hi.explained
        counted := hi.counted }
    · intro j u hj hu
      exact hu.of_locked (by simp [hfree]) (by simpa using Ne.symm hj) rfl
    · exact fun hnone => nomatch hnone
  | checked => exact follows_checked h ht
  | loaded => exact .inr (follows_loaded h ht)
  | kept =>
    exact .inl (h.of_locked ht rfl rfl rfl rfl (fun v hv => eq_of_keep_value hi.knows.1 hv)
      (hi.settled (hi.inside.2 rfl)) hi.explained (fun _ _ => rfl) h.events)
  | left =>
    have howner : s.owner = some i := hi.inside.2 rfl
    refine .inl (h.of_move ht rfl ?_ ?_ (.inr (.inr rfl)) (fun _ => hi.settled howner) h.events)
    · exact {
        inside := by simp [Stage.isInside]
        knows := trivial
        settled := fun hsome => nomatch hsome
        explained := by simpa [Stage.decided] using hi.explained
        counted := by
          rw [hi.counted]
          simp [Stage.begun] }
    · intro j u hj hu
      exact hu.of_locked (by simpa [howner] using Ne.symm hj) (by simp) rfl

end

/-! ### What a step does to the value and the answers -/

namespace Sharing

/-- The next step of a thread is to store a value. -/
def stores (s : Sharing α) (i : Nat) : Bool :=
  match s.threads[i]? with
  | some ⟨.keeping (.ok (some _)), _, _⟩ => true
  | _ => false

/-- How often a value is stored along a schedule. -/
def writes (loader : Loader α) (s : Sharing α) : List Nat → Nat
  | [] => 0
  | i :: schedule =>
    (if s.stores i then 1 else 0) + writes loader ((s.step? loader i).getD s) schedule

variable {loader : Loader α} {s s' s'' : Sharing α} {i : Nat} {v : α}

theorem exists_step_of_stores (loader : Loader α) (hstores : s.stores i = true) :
    ∃ s' v, s.step? loader i = some s' ∧ s'.holder.value = some v := by
  unfold stores at hstores
  split at hstores
  · next v _ _ ht =>
    simp only [step?, ht]
    exact ⟨_, v, rfl, rfl⟩
  · cases hstores

/-- No other step touches the value. -/
theorem value_of_not_stores (hstores : s.stores i = false)
    (hstep : s.step? loader i = some s') : s'.holder.value = s.holder.value := by
  obtain ⟨t, ht, hmoves⟩ := moves_of_step? hstep
  cases hmoves with
  | @kept _ _ given =>
    have hgiven : ∀ v, given ≠ .ok (some v) := by
      rintro v rfl
      simp [stores, ht] at hstores
    obtain ⟨e, hkeep⟩ := keep_of_no_value (h := s.holder) hgiven
    simp only [hkeep]
  | _ => rfl

/-- Between two states the value stays as it is and is what threads are answered
with. -/
def AnswersOnly (v : α) (s s' : Sharing α) : Prop :=
  s'.holder.value = some v ∧
  ∀ (i : Nat) (t : Thread α), s.threads[i]? = some t →
    ∃ (t' : Thread α) (new : List (Outcome (Option α))),
      s'.threads[i]? = some t' ∧ t'.answers = t.answers ++ new ∧ ∀ a ∈ new, a = .ok (some v)

theorem AnswersOnly.refl (hv : s.holder.value = some v) : AnswersOnly v s s :=
  ⟨hv, fun _ t ht => ⟨t, [], ht, (List.append_nil _).symm, fun _ ha => nomatch ha⟩⟩

theorem AnswersOnly.trans (h : AnswersOnly v s s') (h' : AnswersOnly v s' s'') :
    AnswersOnly v s s'' := by
  refine ⟨h'.1, fun i t ht => ?_⟩
  obtain ⟨t', new, ht', hanswers, hnew⟩ := h.2 i t ht
  obtain ⟨t'', newer, ht'', hanswers', hnewer⟩ := h'.2 i t' ht'
  refine ⟨t'', new ++ newer, ht'', by rw [hanswers', hanswers, List.append_assoc], ?_⟩
  intro a ha
  exact (List.mem_append.1 ha).elim (hnew a) (hnewer a)

/-- A step of a thread, put together from the answers that it adds. -/
theorem AnswersOnly.of_move {t t' : Thread α} {new : List (Outcome (Option α))}
    (ht : s.threads[i]? = some t) (hv : s'.holder.value = some v)
    (hthreads : s'.threads = s.threads.set i t') (hanswers : t'.answers = t.answers ++ new)
    (hnew : ∀ a ∈ new, a = .ok (some v)) : AnswersOnly v s s' := by
  refine ⟨hv, fun j u hu => ?_⟩
  rw [hthreads, List.getElem?_set]
  by_cases hj : i = j
  · subst hj
    cases ht.symm.trans hu
    rw [if_pos rfl, if_pos (List.getElem?_eq_some_iff.1 ht).1]
    exact ⟨t', new, rfl, hanswers, hnew⟩
  · rw [if_neg hj]
    exact ⟨u, [], hu, (List.append_nil _).symm, fun _ ha => nomatch ha⟩

end Sharing

section
variable {loader : Loader α} {calls : List Nat} {c : Serial α} {s s' : Sharing α} {i : Nat} {v : α}

theorem Follows.not_stores (h : Follows calls c s) (hv : s.holder.value = some v) (i : Nat) :
    s.stores i = false := by
  unfold Sharing.stores
  split
  · next ht =>
    have hnone := (h.stands i _ ht).knows.1
    rw [hv] at hnone
    cases hnone
  · rfl

theorem answersOnly_step (h : Follows calls c s) (hv : s.holder.value = some v)
    (hstep : s.step? loader i = some s') : s.AnswersOnly v s' := by
  have hvalue : s'.holder.value = some v :=
    (Sharing.value_of_not_stores (h.not_stores hv i) hstep).trans hv
  have hnone : ∀ a : Outcome (Option α), a ∈ [] → a = .ok (some v) := fun _ ha => nomatch ha
  obtain ⟨t, ht, hmoves⟩ := Sharing.moves_of_step? hstep
  cases hmoves with
  | @found _ _ w hw =>
    cases hv.symm.trans hw
    exact .of_move ht hvalue rfl rfl (by simp)
  | @left _ _ answer =>
    have hanswer : answer = .ok (some v) := (h.stands i _ ht).knows v hv
    exact .of_move ht hvalue rfl rfl (by simpa using hanswer)
  | _ => exact .of_move ht hvalue rfl (List.append_nil _).symm hnone

end

/-! ### Runs -/

namespace Sharing

/-- Threads that have each so many calls to make, and a holder that none has
locked. -/
def start (h : Holder α) (calls : List Nat) : Sharing α where
  holder := h
  threads := calls.map fun n => { pending := n }

end Sharing

theorem follows_start (h : Holder α) (calls : List Nat) :
    Follows calls { holder := h } (Sharing.start h calls) where
  stands i t ht := by
    obtain ⟨n, hn, rfl⟩ : ∃ n, calls[i]? = some n ∧ { pending := n } = t := by
      simpa [Sharing.start] using ht
    exact {
      inside := by simp [Sharing.start, Stage.isInside]
      knows := trivial
      settled := fun hsome => nomatch hsome
      explained := rfl
      counted := by simp [hn, Stage.begun] }
  length := List.length_map _
  owned i hi := nomatch hi
  free _ := rfl
  events := rfl

/-- Calls of the threads, made one after another, explain a state. -/
def Serializable (loader : Loader α) (h : Holder α) (calls : List Nat) (s : Sharing α) : Prop :=
  ∃ order, (∀ i ∈ order, i < calls.length) ∧ Follows calls (serially loader h order) s

section
variable {loader : Loader α} {h : Holder α} {calls : List Nat} {s s' : Sharing α} {i : Nat}

theorem serializable_start : Serializable loader h calls (Sharing.start h calls) :=
  ⟨[], fun _ hi => absurd hi List.not_mem_nil, follows_start h calls⟩

theorem serializable_step (hs : Serializable loader h calls s)
    (hstep : s.step? loader i = some s') : Serializable loader h calls s' := by
  obtain ⟨order, horder, hfollows⟩ := hs
  obtain hsame | hmore := follows_step hfollows hstep
  · exact ⟨order, horder, hsame⟩
  · refine ⟨order ++ [i], ?_, serially_append loader h order i ▸ hmore⟩
    obtain ⟨t, ht, -⟩ := Sharing.moves_of_step? hstep
    have hi : i < calls.length := hfollows.length ▸ (List.getElem?_eq_some_iff.1 ht).1
    intro j hj
    obtain hj | hj := List.mem_append.1 hj
    · exact horder j hj
    · exact List.mem_singleton.1 hj ▸ hi

/-- A thread that cannot move is passed over. -/
theorem serializable_getD_step (hs : Serializable loader h calls s) (i : Nat) :
    Serializable loader h calls ((s.step? loader i).getD s) := by
  rcases hstep : s.step? loader i with - | s'
  · exact hs
  · exact serializable_step hs hstep

/-- **A run.**  However the steps come, calls made one after another explain the
state that is reached. -/
theorem serializable_run (hs : Serializable loader h calls s) (schedule : List Nat) :
    Serializable loader h calls (s.run loader schedule) := by
  induction schedule generalizing s with
  | nil => exact hs
  | cons i schedule ih => exact ih (serializable_getD_step hs i)

theorem answersOnly_run (hs : Serializable loader h calls s) {v : α}
    (hv : s.holder.value = some v) (schedule : List Nat) :
    s.AnswersOnly v (s.run loader schedule) := by
  induction schedule generalizing s with
  | nil => exact .refl hv
  | cons i schedule ih =>
    have hone : s.AnswersOnly v ((s.step? loader i).getD s) := by
      rcases hstep : s.step? loader i with - | s'
      · exact .refl hv
      · obtain ⟨order, -, hfollows⟩ := hs
        exact answersOnly_step hfollows hv hstep
    exact hone.trans (ih (serializable_getD_step hs i) hone.1)

theorem writes_eq_zero (hs : Serializable loader h calls s) {v : α}
    (hv : s.holder.value = some v) (schedule : List Nat) : s.writes loader schedule = 0 := by
  induction schedule generalizing s with
  | nil => rfl
  | cons i schedule ih =>
    have hnext := (answersOnly_run hs hv [i]).1
    obtain ⟨order, -, hfollows⟩ := id hs
    rw [Sharing.writes, hfollows.not_stores hv i, ih (serializable_getD_step hs i) hnext]
    rfl

/-- The first value that is stored is the last one. -/
theorem writes_le_one (hs : Serializable loader h calls s) (schedule : List Nat) :
    s.writes loader schedule ≤ 1 := by
  induction schedule generalizing s with
  | nil => exact Nat.zero_le 1
  | cons i schedule ih =>
    have hnext := serializable_getD_step hs i
    rw [Sharing.writes]
    rcases hstores : s.stores i with - | -
    · simpa using ih hnext
    · obtain ⟨s', v, hstep, hv⟩ := Sharing.exists_step_of_stores loader hstores
      rw [hstep, Option.getD_some] at hnext ⊢
      rw [writes_eq_zero hnext hv]
      rfl

/-- At most one thread has the lock. -/
theorem eq_of_isInside {c : Serial α} (hf : Follows calls c s) {j : Nat} {t u : Thread α}
    (ht : s.threads[i]? = some t) (hu : s.threads[j]? = some u) (hti : t.stage.isInside = true)
    (huj : u.stage.isInside = true) : i = j :=
  Option.some.inj (((hf.stands i t ht).inside.2 hti).symm.trans ((hf.stands j u hu).inside.2 huj))

theorem loads_of_follows {c : Serial α} (hf : Follows calls c s) :
    c.holder.loads = s.holder.loads := by
  rcases howner : s.owner with - | j
  · rw [hf.free howner]
  · have hstands := hf.stands j _ (List.getElem?_eq_getElem (hf.length ▸ hf.owned j howner))
    rw [hstands.settled howner, Stage.loads_settled]

/-- Threads that have all finished have left the lock. -/
theorem holder_of_idle {c : Serial α} (hf : Follows calls c s)
    (hidle : ∀ t ∈ s.threads, t.stage = .idle) : c.holder = s.holder := by
  rcases howner : s.owner with - | j
  · exact hf.free howner
  · have hj : j < s.threads.length := hf.length ▸ hf.owned j howner
    have hinside := (hf.stands j _ (List.getElem?_eq_getElem hj)).inside.1 howner
    rw [hidle _ (List.getElem_mem hj)] at hinside
    cases hinside

/-- The calls of a thread that are decided are among those it has to make. -/
theorem count_add_eq {order : List Nat} (hf : Follows calls (serially loader h order) s)
    {t : Thread α} (ht : s.threads[i]? = some t) :
    calls[i]? = some (order.count i + (t.stage.begun - t.stage.decided.length) + t.pending) := by
  have hi := hf.stands i t ht
  have hcount : order.count i = t.answers.length + t.stage.decided.length := by
    have hlength := length_answersOf_foldl loader { holder := h } order i
    rw [← serially, hi.explained, List.length_append] at hlength
    simpa [Serial.answersOf] using hlength.symm
  have hle := t.stage.length_decided_le
  rw [hi.counted, hcount, Option.some.injEq]
  omega

end

end StartupReport.Build
