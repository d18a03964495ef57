/-
StartupReport/Proofs/Build/GitCalls.lean

Which calls of `git` the detection of a commit makes, and what it records of each.

A call leaves its question open if it is refused, if it fails or if it prints nothing but
blanks (`LeftOpen`), and in no other case (`leftOpen_or_prints`).  The first call decides
whether there are others; of the two that may follow each is made and recorded whatever
becomes of the other one.

Main result: `outcome_detect_recorded`, which says for all replies what is recorded and
which calls are made.
-/
import Mathlib.Data.List.DropRight
import StartupReport.Proofs.Build.Detection

namespace StartupReport.Build

open Text (isBlank)

/-! ### Calls without an answer -/

/-- A reply that leaves a question open. -/
inductive LeftOpen : Outcome Completed → Prop
  /-- The call was refused. -/
  | refused (e : Fault) : LeftOpen (.error e)
  /-- The call failed. -/
  | failed {completed : Completed} : completed.exitCode ≠ 0 → LeftOpen (.ok completed)
  /-- The call printed nothing but blanks. -/
  | blank {completed : Completed} :
      (∀ c ∈ completed.output.toList, isBlank c = true) → LeftOpen (.ok completed)

/-- Trimming leaves nothing of a text of blanks, and something of any other. -/
theorem trim_eq_nil_iff {cs : List Char} : Text.trim cs = [] ↔ ∀ c ∈ cs, isBlank c = true := by
  rw [Text.trim, Text.trimEnd, Text.dropEndWhile_eq_reverse]
  constructor
  · intro h
    have hall : ∀ c ∈ Text.trimStart cs, isBlank c = true := List.rdropWhile_eq_nil_iff.1 h
    rw [← Text.takeWhile_append_trimStart cs]
    exact List.forall_mem_append.2 ⟨fun c hc => List.mem_takeWhile_imp hc, hall⟩
  · intro h
    rw [Text.trimStart, List.dropWhile_eq_nil_iff.2 h]
    rfl

/-- A call leaves its question open, or it prints an answer. -/
theorem leftOpen_or_prints (reply : Outcome Completed) :
    LeftOpen reply ∨ ∃ output, Prints reply output := by
  rcases reply with e | ⟨code, output⟩
  · exact .inl (.refused e)
  · by_cases hcode : code = 0
    · subst hcode
      by_cases hblank : ∀ c ∈ output.toList, isBlank c = true
      · exact .inl (.blank hblank)
      · exact .inr ⟨output, rfl, mt trim_eq_nil_iff.1 hblank⟩
    · exact .inl (.failed hcode)

theorem LeftOpen.not_prints {reply : Outcome Completed} (h : LeftOpen reply) (output : String) :
    ¬ Prints reply output := by
  rintro ⟨rfl, hne⟩
  cases h with
  | failed hcode => exact hcode rfl
  | blank hblank => exact hne (trim_eq_nil_iff.2 hblank)

theorem LeftOpen.answer?_eq {reply : Outcome Completed} (h : LeftOpen reply) :
    answer? reply = none := by
  rw [Option.eq_none_iff_forall_ne_some]
  intro text htext
  obtain ⟨output, hprints, -⟩ := answer?_eq_some_iff.1 htext
  exact h.not_prints output hprints

/-! ### The calls that are made -/

section
variable {α β : Type}

/-- The calls of two computations, one after the other. -/
theorem invocations_bind_ok {x : Traced α} {a : α} (h : x.outcome = .ok a) (f : α → Traced β) :
    invocations (x >>= f).events = invocations x.events ++ invocations (f a).events := by
  rw [Traced.events_bind_ok h, invocations, List.filterMap_append]
  rfl

end

section
variable (directory : String)

/-- A call is made once, whatever its reply. -/
theorem invocations_run (args : List String) (timeout : Nat) (reply : Outcome Completed) :
    invocations (run directory args timeout reply).events
      = [⟨"git" :: args, timeout, directory⟩] := by
  rcases reply with e | completed
  · by_cases hopen : leavesOpen e = true
    · simp only [run, hopen, if_true]
      rfl
    · simp only [run, hopen]
      rfl
  · rfl

/-- The call that asks for the repository. -/
def repositoryCall : Invocation := ⟨"git" :: repositoryArgs, 10, directory⟩

/-- The call that asks for the commit. -/
def commitCall : Invocation := ⟨"git" :: commitArgs, 5, directory⟩

/-- The call that asks for the time of the commit. -/
def commitTimeCall : Invocation := ⟨"git" :: commitTimeArgs, 5, directory⟩

variable {git : Replies}

/-- Only calls that ran out of time or were refused by the operating system raise. -/
def RefusesOrdinarily (git : Replies) : Prop :=
  ∀ e, Except.error e ∈ git → e.family = .timeout ∨ e.family = .system

theorem RefusesOrdinarily.tail (h : RefusesOrdinarily git) : RefusesOrdinarily git.tail :=
  fun e he => h e (List.mem_of_mem_tail he)

/-- The question for the repository takes one call. -/
theorem invocations_askAvailable (h : RefusesOrdinarily git) :
    invocations (askAvailable directory git).events = [repositoryCall directory] := by
  rw [askAvailable, invocations_bind_ok (outcome_run _ _ _ fun e he => refused_next h he),
    invocations_run]
  rfl

/-- Without a repository there are no further calls. -/
theorem invocations_detect_of_leftOpen (h : RefusesOrdinarily git) (hopen : LeftOpen git.next) :
    invocations (detect directory git).events = [repositoryCall directory] := by
  rw [detect, invocations_bind_ok (outcome_askAvailable directory h),
    invocations_askAvailable directory h, hopen.answer?_eq]
  rfl

/-- With a repository there are two further calls, whatever becomes of them. -/
theorem invocations_detect_of_available (h : RefusesOrdinarily git) (hthere : Available git) :
    invocations (detect directory git).events
      = [repositoryCall directory, commitCall directory, commitTimeCall directory] := by
  obtain ⟨first, hfirst⟩ := hthere
  have hanswer : answer? git.next = some (trimmed first) :=
    answer?_eq_some_iff.2 ⟨first, hfirst, rfl⟩
  have hcommit := outcome_run directory commitArgs 5 fun e he => refused_next h.tail he
  have htime := outcome_run directory commitTimeArgs 5 fun e he => refused_next h.tail.tail he
  rw [detect, invocations_bind_ok (outcome_askAvailable directory h),
    invocations_askAvailable directory h, hanswer]
  simp only [Option.isSome_some, if_true]
  rw [askCommitId, askCommitTime, invocations_bind_ok hcommit, invocations_bind_ok htime,
    invocations_run, invocations_run]
  rfl

end

/-! ### What is recorded -/

/-- A text that is there, without blanks at its ends. -/
structure Tidy (text : String) : Prop where
  ne_empty : text ≠ ""
  head : ∀ c, text.toList.head? = some c → isBlank c = false
  last : ∀ c, text.toList.getLast? = some c → isBlank c = false

/-- What the reply to the question for the commit gives: the full identifier and its first
eight characters, or a placeholder for both of them. -/
inductive CommitRecorded (reply : Outcome Completed) : String → String → Prop
  | unknown : LeftOpen reply →
      CommitRecorded reply (placeholder commitIdKey) (placeholder commitIdAbbrevKey)
  | known {output : String} : Prints reply output →
      CommitRecorded reply (trimmed output)
        (String.ofList ((Text.trim output.toList).take 8))

/-- What the reply to the question for the time of the commit gives. -/
inductive TimeRecorded (reply : Outcome Completed) : String → Prop
  | unknown : LeftOpen reply → TimeRecorded reply (placeholder commitTimeKey)
  | known {output : String} : Prints reply output → TimeRecorded reply (trimmed output)

/-- The values recorded in a directory, and the calls made for them. -/
inductive Recorded (directory : String) (git : Replies) :
    String → String → String → List Invocation → Prop
  /-- Where no repository is known, one call is made and nothing is found out. -/
  | nowhere : LeftOpen git.next →
      Recorded directory git (placeholder commitIdKey) (placeholder commitIdAbbrevKey)
        (placeholder commitTimeKey) [repositoryCall directory]
  /-- In a repository three calls are made, and each of the last two counts for itself. -/
  | inside {id short time : String} : Available git →
      CommitRecorded (commitReply git) id short → TimeRecorded (commitTimeReply git) time →
      Recorded directory git id short time
        [repositoryCall directory, commitCall directory, commitTimeCall directory]

theorem tidy_trimmed {reply : Outcome Completed} {output : String} (h : Prints reply output) :
    Tidy (trimmed output) where
  ne_empty := trimmed_ne_empty h
  head c hc := by
    rw [toList_trimmed] at hc
    exact Text.isBlank_of_head?_trim hc
  last c hc := by
    rw [toList_trimmed] at hc
    exact Text.isBlank_of_getLast?_trim hc

/-- A placeholder begins with a dollar sign and ends in a brace. -/
theorem tidy_placeholder (key : String) : Tidy (placeholder key) := by
  have hlist : (placeholder key).toList = '$' :: '\x7b' :: (key.toList ++ ['\x7d']) := by
    simp [placeholder]
  refine ⟨?_, ?_, ?_⟩
  · rw [Ne, ← String.toList_eq_nil_iff, hlist]
    exact List.cons_ne_nil _ _
  · intro c hc
    rw [hlist] at hc
    cases hc
    rfl
  · intro c hc
    rw [hlist, ← List.cons_append, ← List.cons_append, List.getLast?_concat] at hc
    cases hc
    rfl

section
variable {reply : Outcome Completed} {id short time : String}

/-- The commit has a value in full and in short, without blanks around it. -/
theorem CommitRecorded.tidy (h : CommitRecorded reply id short) : Tidy id ∧ short ≠ "" := by
  cases h with
  | unknown => exact ⟨tidy_placeholder _, (tidy_placeholder _).ne_empty⟩
  | known hprints =>
    refine ⟨tidy_trimmed hprints, ?_⟩
    rw [← toList_trimmed]
    exact abbreviate_ne_empty (trimmed_ne_empty hprints)

theorem TimeRecorded.tidy (h : TimeRecorded reply time) : Tidy time := by
  cases h with
  | unknown => exact tidy_placeholder _
  | known hprints => exact tidy_trimmed hprints

end

section
variable {directory : String} {git : Replies}

theorem Recorded.tidy {id short time : String} {calls : List Invocation}
    (h : Recorded directory git id short time calls) : Tidy id ∧ short ≠ "" ∧ Tidy time := by
  cases h with
  | nowhere =>
    exact ⟨tidy_placeholder _, (tidy_placeholder _).ne_empty, tidy_placeholder _⟩
  | inside _ hcommit htime => exact ⟨hcommit.tidy.1, hcommit.tidy.2, htime.tidy⟩

/-- Where no repository is known, a later reply answers nothing. -/
theorem answerAfter?_of_leftOpen (hopen : LeftOpen git.next) (reply : Outcome Completed) :
    answerAfter? git reply = none := by
  rw [answerAfter?, hopen.answer?_eq]
  rfl

/-- In a repository a later reply answers what it says. -/
theorem answerAfter?_of_available (hthere : Available git) (reply : Outcome Completed) :
    answerAfter? git reply = answer? reply := by
  obtain ⟨first, hfirst⟩ := hthere
  rw [answerAfter?, answer?_eq_some_iff.2 ⟨first, hfirst, rfl⟩]
  rfl

theorem commitRecorded_of_available (hthere : Available git) :
    CommitRecorded (commitReply git) (recordedCommit git) (recordedAbbrev git) := by
  obtain hopen | ⟨output, hprints⟩ := leftOpen_or_prints (commitReply git)
  · rw [recordedCommit, recordedAbbrev, answerAfter?_of_available hthere, hopen.answer?_eq]
    exact .unknown hopen
  · obtain ⟨hid, hshort⟩ := recorded_of_prints hthere hprints
    rw [hid, hshort, abbreviate, toList_trimmed]
    exact .known hprints

theorem timeRecorded_of_available (hthere : Available git) :
    TimeRecorded (commitTimeReply git) (recordedCommitTime git) := by
  obtain hopen | ⟨output, hprints⟩ := leftOpen_or_prints (commitTimeReply git)
  · rw [recordedCommitTime, answerAfter?_of_available hthere, hopen.answer?_eq]
    exact .unknown hopen
  · rw [recordedCommitTime_of_prints hthere hprints]
    exact .known hprints

/-- The first reply decides between the two cases. -/
theorem recorded_detect (directory : String) (h : RefusesOrdinarily git) :
    Recorded directory git (recordedCommit git) (recordedAbbrev git) (recordedCommitTime git)
      (invocations (detect directory git).events) := by
  obtain hopen | hthere := leftOpen_or_prints git.next
  · rw [invocations_detect_of_leftOpen directory h hopen, recordedCommit, recordedAbbrev,
      recordedCommitTime, answerAfter?_of_leftOpen hopen, answerAfter?_of_leftOpen hopen]
    exact .nowhere hopen
  · rw [invocations_detect_of_available directory h hthere]
    exact .inside hthere (commitRecorded_of_available hthere) (timeRecorded_of_available hthere)

end

/-- Whatever `git` replies, the detection succeeds if only timeouts and refusals of the
operating system raise.  It gives the three keys of a commit with values that are not empty,
and makes one call or three. -/
theorem outcome_detect_recorded (directory : String) {git : Replies}
    (h : RefusesOrdinarily git) :
    ∃ id short time : String,
      (detect directory git).outcome
        = .ok [("git.commit.id", id), ("git.commit.id.abbrev", short),
            ("git.commit.time", time)] ∧
      Recorded directory git id short time (invocations (detect directory git).events) ∧
      Tidy id ∧ short ≠ "" ∧ Tidy time := by
  have hrecorded := recorded_detect directory h
  exact ⟨_, _, _, outcome_detect directory h, hrecorded, hrecorded.tidy⟩

/-- A call for the commit that runs out of time, between two calls that answer. -/
def slowCommit : Replies :=
  [.ok ⟨0, ".git\n"⟩, .error (.external "TimeoutExpired" .timeout "timed out"),
   .ok ⟨0, " 2024-05-06T07:08:09+0200\n"⟩]

/-- The time of the commit is recorded although the commit itself is not. -/
theorem outcome_detect_slowCommit :
    RefusesOrdinarily slowCommit ∧
    (detect "/work" slowCommit).outcome
      = .ok [("git.commit.id", "$\x7bgit.commit.id\x7d"),
          ("git.commit.id.abbrev", "$\x7bgit.commit.id.abbrev\x7d"),
          ("git.commit.time", "2024-05-06T07:08:09+0200")] ∧
    invocations (detect "/work" slowCommit).events
      = [repositoryCall "/work", commitCall "/work", commitTimeCall "/work"] := by
  have hslow : RefusesOrdinarily slowCommit := by
    intro e he
    simp only [slowCommit, List.mem_cons, List.not_mem_nil, or_false, reduceCtorEq, false_or]
      at he
    obtain rfl := Except.error.inj he
    exact .inl rfl
  refine ⟨hslow, ?_⟩
  obtain ⟨id, short, time, houtcome, hrecorded, -⟩ := outcome_detect_recorded "/work" hslow
  rw [houtcome]
  generalize invocations (detect "/work" slowCommit).events = calls at hrecorded ⊢
  cases hrecorded with
  | nowhere hopen => exact absurd ⟨rfl, by decide⟩ (hopen.not_prints ".git\n")
  | inside _ hcommit htime =>
    -- the second reply is no output, and the third one is not blank
    cases hcommit with
    | known hprints => cases hprints.1
    | unknown _ =>
      cases htime with
      | unknown hopen =>
        exact absurd ⟨rfl, by decide⟩ (hopen.not_prints " 2024-05-06T07:08:09+0200\n")
      | known hprints =>
        cases hprints.1
        exact ⟨congrArg Except.ok (by decide), rfl⟩

end StartupReport.Build
