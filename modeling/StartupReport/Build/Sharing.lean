/-
StartupReport/Build/Sharing.lean

Threads that share one holder.

A thread that wants the value first looks at it without the lock.  If there is
none yet it waits for the lock, looks again at the value and at the failure,
and only then calls the loader, keeps what the call gives and releases the
lock.  Each of these is one step, and the steps of the threads may come in any
order; a thread that waits for a lock that another one holds cannot take a
step.  `Sharing.run` takes the steps in the order of a schedule.
-/
import StartupReport.Build.Holder

namespace StartupReport.Build

/-- What a thread is about to do. -/
inductive Stage (α : Type)
  /-- Begin with a call and look at the value without the lock. -/
  | idle
  /-- Take the lock. -/
  | waiting
  /-- Look at the value and the failure under the lock. -/
  | checking
  /-- Call the loader. -/
  | loading
  /-- Keep what the loader gave. -/
  | keeping (given : Outcome (Option α))
  /-- Release the lock and answer. -/
  | leaving (answer : Outcome (Option α))

/-- A thread: its stage, how many calls it has still to begin, and the answers of
those that it has finished, the oldest first. -/
structure Thread (α : Type) where
  stage : Stage α := .idle
  pending : Nat
  answers : List (Outcome (Option α)) := []

/-- A holder, the thread that has its lock, the threads that share it, and the
events of the loader. -/
structure Sharing (α : Type) where
  holder : Holder α := {}
  owner : Option Nat := none
  threads : List (Thread α)
  events : List Event := []

namespace Thread

variable {α : Type}

/-- The thread after a call that is answered. -/
def answered (t : Thread α) (answer : Outcome (Option α)) : Thread α :=
  { t with stage := .idle, answers := t.answers ++ [answer] }

/-- The thread at another stage. -/
def goTo (t : Thread α) (stage : Stage α) : Thread α := { t with stage }

end Thread

namespace Sharing

variable {α : Type}

/-- The threads after one of them has moved. -/
def move (s : Sharing α) (i : Nat) (t : Thread α) : Sharing α :=
  { s with threads := s.threads.set i t }

/-- A call begins: a value that is kept is the answer. -/
def begin? (s : Sharing α) (i : Nat) (t : Thread α) : Option (Sharing α) :=
  match t.pending with
  | 0 => none
  | n + 1 =>
    let t := { t with pending := n }
    match s.holder.value with
    | some v => some (s.move i (t.answered (.ok (some v))))
    | none => some (s.move i (t.goTo .waiting))

/-- What is kept decides how a thread with the lock goes on. -/
def check (h : Holder α) : Stage α :=
  match h.value, h.error with
  | some v, _ => .leaving (.ok (some v))
  | none, some e => .leaving (.error e)
  | none, none => .loading

/-- A step of a thread, if it can take one. -/
def step? (loader : Loader α) (s : Sharing α) (i : Nat) : Option (Sharing α) :=
  match s.threads[i]? with
  | none => none
  | some t =>
    match t.stage with
    | .idle => s.begin? i t
    | .waiting =>
      if s.owner.isNone then some { s.move i (t.goTo .checking) with owner := some i } else none
    | .checking => some (s.move i (t.goTo (check s.holder)))
    | .loading =>
      let given := loader s.holder.loads
      some { s.move i (t.goTo (.keeping given.outcome)) with
        holder := { s.holder with loads := s.holder.loads + 1 }
        events := s.events ++ given.events }
    | .keeping given => some { s.move i (t.goTo (.leaving given)) with holder := s.holder.keep given }
    | .leaving answer => some { s.move i (t.answered answer) with owner := none }

/-- The steps of a schedule, in which a thread that cannot move is passed over. -/
def run (loader : Loader α) (s : Sharing α) (schedule : List Nat) : Sharing α :=
  schedule.foldl (fun s i => (s.step? loader i).getD s) s

/-- A schedule in which so many threads take turns. -/
def turns (threads rounds : Nat) : List Nat := (List.replicate rounds (List.range threads)).flatten

/-- The most steps that a call takes. -/
def callLength : Nat := 6

/-- Threads that each call once, with a schedule that lets all of them finish:
every turn of all threads brings the one with the lock a step further. -/
def callOnce (loader : Loader α) (h : Holder α) (threads : Nat) : Sharing α :=
  run loader { holder := h, threads := List.replicate threads { pending := 1 } }
    (turns threads (threads * callLength))

end Sharing

end StartupReport.Build
