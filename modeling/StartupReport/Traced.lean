/-
StartupReport/Traced.lean

Computations that may fail and that leave events behind.

A `Traced α` is an outcome together with the events on the way to it.  A
failure keeps the events before it (`events_bind_error`).  Nothing else is hidden in
such a computation: it is a pair, and two runs of it are one and the same.
-/
import StartupReport.Event

namespace StartupReport

/-- An outcome and the events that led to it. -/
@[ext]
structure Traced (α : Type) where
  outcome : Outcome α
  events : List Event

namespace Traced

variable {α β γ : Type}

/-- An answer without any event. -/
protected def pure (a : α) : Traced α := ⟨.ok a, []⟩

/-- Goes on with the answer, if there is one; the events come one after the
other. -/
protected def bind (x : Traced α) (f : α → Traced β) : Traced β :=
  match x.outcome with
  | .ok a => ⟨(f a).outcome, x.events ++ (f a).events⟩
  | .error e => ⟨.error e, x.events⟩

instance : Monad Traced where
  pure := Traced.pure
  bind := Traced.bind

/-- Stops with a failure. -/
def fail (f : Fault) : Traced α := ⟨.error f, []⟩

/-- Asks something outside. -/
def ask (o : Outcome α) : Traced α := ⟨o, []⟩

/-- Applies an operation that a value may not support. -/
def use (r : Except Misuse α) : Traced α := ⟨Outcome.ofMisuse r, []⟩

/-- Lets an event happen. -/
def emit (e : Event) : Traced Unit := ⟨.ok (), [e]⟩

/-- Writes a log record. -/
def log (logger : String) (level : Log.Level) (message : String) (cause : Option Fault := none) :
    Traced Unit :=
  emit (.logged ⟨logger, level, message, cause⟩)

/-- The outcome itself as an answer, so that a computation can be looked at from
outside. -/
def attempt (x : Traced α) : Traced (Outcome α) := ⟨.ok x.outcome, x.events⟩

/-! ### Outcomes and events of the combined forms -/

@[simp] theorem outcome_pure (a : α) : (pure a : Traced α).outcome = .ok a := rfl

@[simp] theorem events_pure (a : α) : (pure a : Traced α).events = [] := rfl

@[simp] theorem outcome_ask (o : Outcome α) : (ask o).outcome = o := rfl

theorem outcome_use_eq_ok_iff {r : Except Misuse α} {a : α} :
    (use r).outcome = .ok a ↔ r = .ok a :=
  mapError_eq_ok_iff

@[simp] theorem outcome_emit (e : Event) : (emit e).outcome = .ok () := rfl

theorem bind_def (x : Traced α) (f : α → Traced β) : x >>= f = x.bind f := rfl

/-- An answer without any event is passed on as it is. -/
theorem pure_bind (a : α) (f : α → Traced β) : (pure a : Traced α) >>= f = f a := rfl

/-- Nothing comes after a failure. -/
theorem fail_bind (e : Fault) (f : α → Traced β) : (fail e : Traced α) >>= f = fail e := rfl

theorem outcome_bind_ok {x : Traced α} {a : α} (h : x.outcome = .ok a) (f : α → Traced β) :
    (x >>= f).outcome = (f a).outcome := by
  simp [bind_def, Traced.bind, h]

theorem events_bind_ok {x : Traced α} {a : α} (h : x.outcome = .ok a) (f : α → Traced β) :
    (x >>= f).events = x.events ++ (f a).events := by
  simp [bind_def, Traced.bind, h]

theorem outcome_bind_error {x : Traced α} {e : Fault} (h : x.outcome = .error e)
    (f : α → Traced β) : (x >>= f).outcome = .error e := by
  simp [bind_def, Traced.bind, h]

/-- The outcome of steps is that of their outcomes. -/
theorem outcome_bind (x : Traced α) (f : α → Traced β) :
    (x >>= f).outcome = x.outcome >>= fun a => (f a).outcome := by
  rcases h : x.outcome with e | a
  · exact outcome_bind_error h f
  · exact outcome_bind_ok h f

/-- What comes after an answer decides, and nothing is decided without one. -/
theorem outcome_bind_eq_ok_iff {x : Traced α} {f : α → Traced β} {b : β} :
    (x >>= f).outcome = .ok b ↔ ∃ a, x.outcome = .ok a ∧ (f a).outcome = .ok b := by
  rcases hx : x.outcome with e | a
  · simp [bind_def, Traced.bind, hx]
  · simp [bind_def, Traced.bind, hx]

theorem events_bind_error {x : Traced α} {e : Fault} (h : x.outcome = .error e)
    (f : α → Traced β) : (x >>= f).events = x.events := by
  simp [bind_def, Traced.bind, h]

/-- Every event comes before an answer or after it. -/
theorem mem_events_bind {x : Traced α} {f : α → Traced β} {e : Event}
    (h : e ∈ (x >>= f).events) :
    e ∈ x.events ∨ ∃ a, x.outcome = .ok a ∧ e ∈ (f a).events := by
  rcases hx : x.outcome with fault | a
  · rw [events_bind_error hx] at h
    exact .inl h
  · rw [events_bind_ok hx] at h
    exact (List.mem_append.1 h).imp id fun he => ⟨a, rfl, he⟩

/-- What comes after an answer is put behind the events before it. -/
theorem bind_of_ok {x : Traced α} {a : α} (h : x.outcome = .ok a) (f : α → Traced β) :
    x >>= f = ⟨(f a).outcome, x.events ++ (f a).events⟩ :=
  Traced.ext (outcome_bind_ok h f) (events_bind_ok h f)

/-- A failure is passed on with the events before it. -/
theorem bind_of_error {x : Traced α} {e : Fault} (h : x.outcome = .error e) (f : α → Traced β) :
    x >>= f = ⟨.error e, x.events⟩ :=
  Traced.ext (outcome_bind_error h f) (events_bind_error h f)

/-- What comes after an answer counts only for the answer that is there. -/
theorem bind_congr {x : Traced α} {f g : α → Traced β} (h : ∀ a, x.outcome = .ok a → f a = g a) :
    x >>= f = x >>= g := by
  rcases hx : x.outcome with e | a
  · simp [bind_def, Traced.bind, hx]
  · simp [bind_def, Traced.bind, hx, h a hx]

theorem outcome_map (f : α → β) (x : Traced α) : (f <$> x).outcome = x.outcome.map f := by
  rcases h : x.outcome with e | a
  · exact outcome_bind_error h _
  · exact outcome_bind_ok h _

theorem events_map (f : α → β) (x : Traced α) : (f <$> x).events = x.events := by
  rcases h : x.outcome with e | a
  · exact events_bind_error h _
  · exact (events_bind_ok h _).trans (List.append_nil _)

/-- A function of the last answer can be applied as soon as it is there. -/
theorem map_bind (f : β → γ) (x : Traced α) (g : α → Traced β) :
    f <$> (x >>= g) = x >>= fun a => f <$> g a := by
  rcases h : x.outcome with e | a
  · apply Traced.ext
    · rw [outcome_map, outcome_bind_error h, outcome_bind_error h, Except.map]
    · rw [events_map, events_bind_error h, events_bind_error h]
  · apply Traced.ext
    · rw [outcome_map, outcome_bind_ok h, outcome_bind_ok h, outcome_map]
    · rw [events_map, events_bind_ok h, events_bind_ok h, events_map]

theorem map_of_ok (f : α → β) (a : α) (events : List Event) :
    f <$> (⟨.ok a, events⟩ : Traced α) = ⟨.ok (f a), events⟩ :=
  Traced.ext rfl (events_map f _)

/-- What comes after a function of an answer comes after the answer. -/
theorem bind_of_map (f : α → β) (x : Traced α) (g : β → Traced γ) :
    f <$> x >>= g = x >>= fun a => g (f a) := by
  obtain ⟨e | a, events⟩ := x
  · rfl
  · rw [map_of_ok]
    rfl

/-! ### What is left behind -/

/-- Every event that a computation leaves behind has a property. -/
def Leaves (p : Event → Prop) (x : Traced α) : Prop := ∀ e ∈ x.events, p e

section
variable {p : Event → Prop}

theorem Leaves.of_nil {x : Traced α} (h : x.events = []) : x.Leaves p := by
  intro e he
  rw [h] at he
  cases he

theorem Leaves.bind {x : Traced α} {f : α → Traced β} (hx : x.Leaves p)
    (hf : ∀ a, (f a).Leaves p) : (x >>= f).Leaves p := by
  intro e he
  obtain he | ⟨a, -, he⟩ := mem_events_bind he
  · exact hx e he
  · exact hf a e he

theorem Leaves.imp {x : Traced α} {q : Event → Prop} (hx : x.Leaves p) (h : ∀ e, p e → q e) :
    x.Leaves q :=
  fun e he => h e (hx e he)

theorem Leaves.attempt {x : Traced α} (hx : x.Leaves p) : x.attempt.Leaves p := hx

theorem leaves_emit {e : Event} (h : p e) : (emit e).Leaves p := by
  intro f hf
  rw [List.mem_singleton.1 hf]
  exact h

/-- Nothing comes after an event but what leaves no trace. -/
theorem leaves_emit_bind {e : Event} (h : p e) {f : Unit → Traced α} (hf : (f ()).events = []) :
    (emit e >>= f).Leaves p :=
  (leaves_emit h).bind fun _ => .of_nil hf

end

end Traced

end StartupReport
