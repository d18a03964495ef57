/-
StartupReport/Proofs/Build/Detection.lean

What is detected about the commit of a working tree.

`Prints` says that a call of `git` succeeded and printed more than blanks, and
`Dependable` what is relied on about its replies.  Then the detection succeeds,
whichever calls are refused: an answer that is there is recorded, and a
placeholder stands for one that is not (`outcome_detect`).  What is recorded
survives in a version file (`survives_detected`).

`Reports` says what metadata have to say about the commit, reply by reply;
metadata described by what was detected do so (`reports_of_describes`).
-/
import StartupReport.Proofs.Build.SurvivingValues

namespace StartupReport.Build

open Calendar (Instant Moment Zone readTimestamp)
open Properties (OnOneLine Survives)

/-! ### Replies -/

/-- Output without the blanks around it. -/
def trimmed (output : String) : String := String.ofList (Text.trim output.toList)

/-- A call succeeded, and it printed more than blanks. -/
def Prints (reply : Outcome Completed) (output : String) : Prop :=
  reply = .ok ⟨0, output⟩ ∧ Text.trim output.toList ≠ []

/-- The first reply says that there is a repository. -/
def Available (git : Replies) : Prop := ∃ output, Prints git.next output

/-- The reply to the question for the commit. -/
def commitReply (git : Replies) : Outcome Completed := Replies.next git.tail

/-- The reply to the question for the time of the commit. -/
def commitTimeReply (git : Replies) : Outcome Completed := Replies.next git.tail.tail

/-- What is relied on about the replies of `git`: a call is refused because it ran
out of time or by the operating system, the commit is printed on one line, and
its time is a timestamp of an instant that Berlin can show. -/
structure Dependable (git : Replies) : Prop where
  refused : ∀ e, Except.error e ∈ git → e.family = .timeout ∨ e.family = .system
  commit : ∀ output, Available git → Prints (commitReply git) output →
    OnOneLine (Text.trim output.toList)
  time : ∀ output, Available git → Prints (commitTimeReply git) output →
    ∃ t text, readTimestamp (trimmed output) = .ok t ∧ Zone.berlin.display t = .ok text

/-- The answer in a reply, if there is one. -/
def answer? : Outcome Completed → Option String
  | .ok completed => completed.answer?
  | .error _ => none

theorem answer?_eq_some_iff {reply : Outcome Completed} {text : String} :
    answer? reply = some text ↔ ∃ output, Prints reply output ∧ text = trimmed output := by
  constructor
  · intro h
    rcases reply with e | ⟨code, output⟩
    · cases h
    rw [answer?, Completed.answer?] at h
    split at h
    · next hcode =>
      split at h
      · cases h
      · next cs hne =>
        obtain rfl : code = 0 := hcode
        exact ⟨output, ⟨rfl, hne⟩, (Option.some.inj h).symm⟩
    · cases h
  · rintro ⟨output, ⟨rfl, hne⟩, rfl⟩
    obtain ⟨c, cs, hcs⟩ := List.exists_cons_of_ne_nil hne
    simp only [answer?, Completed.answer?, if_true, trimmed, hcs]

/-- A call that is not refused for another reason answers what its reply says. -/
theorem outcome_run {reply : Outcome Completed} (directory : String) (args : List String)
    (timeout : Nat) (h : ∀ e, reply = .error e → e.family = .timeout ∨ e.family = .system) :
    (run directory args timeout reply).outcome = .ok (answer? reply) := by
  rcases reply with e | completed
  · have hopen : leavesOpen e = true := by
      rw [leavesOpen, Bool.or_eq_true, beq_iff_eq, beq_iff_eq]
      exact h e rfl
    simp only [run, hopen, if_true]
    rfl
  · rfl

/-! ### The detection -/

/-- The answer in a later reply, if the first one says that there is a repository. -/
def answerAfter? (git : Replies) (reply : Outcome Completed) : Option String :=
  (answer? git.next).bind fun _ => answer? reply

theorem answerAfter?_eq_some_iff {git : Replies} {reply : Outcome Completed} {text : String} :
    answerAfter? git reply = some text ↔
      ∃ output, Available git ∧ Prints reply output ∧ text = trimmed output := by
  rw [answerAfter?, Option.bind_eq_some_iff]
  simp only [answer?_eq_some_iff, Available]
  constructor
  · rintro ⟨-, ⟨first, hfirst, -⟩, output, houtput, rfl⟩
    exact ⟨output, ⟨first, hfirst⟩, houtput, rfl⟩
  · rintro ⟨output, ⟨first, hfirst⟩, houtput, rfl⟩
    exact ⟨_, ⟨first, hfirst, rfl⟩, output, houtput, rfl⟩

/-- The value recorded for the commit. -/
def recordedCommit (git : Replies) : String :=
  (answerAfter? git (commitReply git)).getD (placeholder commitIdKey)

/-- The value recorded for the commit in short. -/
def recordedAbbrev (git : Replies) : String :=
  ((answerAfter? git (commitReply git)).map abbreviate).getD (placeholder commitIdAbbrevKey)

/-- The value recorded for the time of the commit. -/
def recordedCommitTime (git : Replies) : String :=
  (answerAfter? git (commitTimeReply git)).getD (placeholder commitTimeKey)

/-- The properties of the commit, with a placeholder for what is not known. -/
def commitProperties (git : Replies) : Properties :=
  [(commitIdKey, recordedCommit git), (commitIdAbbrevKey, recordedAbbrev git),
   (commitTimeKey, recordedCommitTime git)]

/-- The reply to a call is one of those in the queue, or there is no program. -/
theorem refused_next {git : Replies}
    (h : ∀ e, Except.error e ∈ git → e.family = .timeout ∨ e.family = .system) {e : Fault}
    (hnext : git.next = .error e) : e.family = .timeout ∨ e.family = .system := by
  cases git with
  | nil =>
    obtain rfl := Except.error.inj hnext
    exact .inr rfl
  | cons reply git => exact h e (hnext ▸ List.mem_cons_self)

/-- There is a repository if the first call answers. -/
theorem outcome_askAvailable (directory : String) {git : Replies}
    (h : ∀ e, Except.error e ∈ git → e.family = .timeout ∨ e.family = .system) :
    (askAvailable directory git).outcome = .ok (answer? git.next).isSome := by
  rw [askAvailable, Traced.outcome_bind_ok (outcome_run _ _ _ fun e he => refused_next h he)]
  rfl

/-- What is detected: the answers that are there, and placeholders. -/
theorem outcome_detect (directory : String) {git : Replies}
    (h : ∀ e, Except.error e ∈ git → e.family = .timeout ∨ e.family = .system) :
    (detect directory git).outcome = .ok (commitProperties git) := by
  have htail : ∀ e, Except.error e ∈ git.tail → e.family = .timeout ∨ e.family = .system :=
    fun e he => h e (List.mem_of_mem_tail he)
  have hcommit := outcome_run directory commitArgs 5 fun e he => refused_next htail he
  have htime := outcome_run directory commitTimeArgs 5 fun e he =>
    refused_next (fun e he => htail e (List.mem_of_mem_tail he)) he
  rw [detect, Traced.outcome_bind_ok (outcome_askAvailable directory h)]
  rcases hfirst : answer? git.next with - | first
  · simp only [commitProperties, recordedCommit, recordedAbbrev, recordedCommitTime, answerAfter?,
      hfirst]
    rfl
  · simp only [commitProperties, recordedCommit, recordedAbbrev, recordedCommitTime, answerAfter?,
      hfirst, Option.isSome_some, if_true, Option.bind_some, commitReply, commitTimeReply]
    rw [askCommitId, askCommitTime, Traced.outcome_bind_ok hcommit, Traced.outcome_bind_ok htime]
    -- writing an answer over its placeholder puts it in the same place
    rcases answer? (Replies.next git.tail) with - | id <;>
      rcases answer? (Replies.next git.tail.tail) with - | time <;> rfl

/-- With or without answers, all keys of a commit have a value. -/
theorem holdsCommit_commitProperties (git : Replies) : HoldsCommit (commitProperties git) := by
  intro key hkey
  simp only [commitKeys, List.mem_cons, List.not_mem_nil, or_false] at hkey
  rcases hkey with rfl | rfl | rfl <;> rfl

/-! ### Values that were detected -/

section
variable {git : Replies}

/-- A commit that was printed is recorded, in full and in short. -/
theorem recorded_of_prints {output : String} (havailable : Available git)
    (hprints : Prints (commitReply git) output) :
    recordedCommit git = trimmed output ∧ recordedAbbrev git = abbreviate (trimmed output) := by
  have hanswer := answerAfter?_eq_some_iff.2 ⟨output, havailable, hprints, rfl⟩
  rw [recordedCommit, recordedAbbrev, hanswer]
  exact ⟨rfl, rfl⟩

/-- A commit is recorded only if one was printed. -/
theorem recorded_cases (git : Replies) :
    (recordedCommit git = placeholder commitIdKey ∧
      recordedAbbrev git = placeholder commitIdAbbrevKey) ∨
    ∃ output, Available git ∧ Prints (commitReply git) output := by
  rcases hanswer : answerAfter? git (commitReply git) with - | text
  · left
    rw [recordedCommit, recordedAbbrev, hanswer]
    exact ⟨rfl, rfl⟩
  · obtain ⟨output, havailable, hprints, -⟩ := answerAfter?_eq_some_iff.1 hanswer
    exact .inr ⟨output, havailable, hprints⟩

theorem recordedCommitTime_of_prints {output : String} (havailable : Available git)
    (hprints : Prints (commitTimeReply git) output) : recordedCommitTime git = trimmed output := by
  rw [recordedCommitTime, answerAfter?_eq_some_iff.2 ⟨output, havailable, hprints, rfl⟩]
  rfl

theorem recordedCommitTime_cases (git : Replies) :
    recordedCommitTime git = placeholder commitTimeKey ∨
    ∃ output, Available git ∧ Prints (commitTimeReply git) output := by
  rcases hanswer : answerAfter? git (commitTimeReply git) with - | text
  · left
    rw [recordedCommitTime, hanswer]
    rfl
  · obtain ⟨output, havailable, hprints, -⟩ := answerAfter?_eq_some_iff.1 hanswer
    exact .inr ⟨output, havailable, hprints⟩

theorem toList_trimmed (output : String) : (trimmed output).toList = Text.trim output.toList :=
  String.toList_ofList

theorem trimmed_ne_empty {reply : Outcome Completed} {output : String} (h : Prints reply output) :
    trimmed output ≠ "" := by
  rw [Ne, ← String.toList_eq_nil_iff, toList_trimmed]
  exact h.2

theorem head?_abbreviate (id : String) : (abbreviate id).toList.head? = id.toList.head? := by
  rw [abbreviate, String.toList_ofList]
  cases id.toList <;> rfl

/-- Something is left of an identifier in short. -/
theorem abbreviate_ne_empty {id : String} (h : id ≠ "") : abbreviate id ≠ "" := by
  rw [Ne, ← String.toList_eq_nil_iff, ← List.head?_eq_none_iff] at h ⊢
  rw [head?_abbreviate]
  exact h

/-- The values of a commit come back from a version file. -/
theorem survives_commitProperties (hgit : Dependable git) :
    Survives (recordedCommit git).toList ∧ Survives (recordedAbbrev git).toList ∧
      Survives (recordedCommitTime git).toList := by
  refine ⟨?_, ?_, ?_⟩
  · obtain ⟨hid, -⟩ | ⟨output, havailable, hprints⟩ := recorded_cases git
    · exact hid ▸ survives_placeholder (by decide)
    · rw [(recorded_of_prints havailable hprints).1, toList_trimmed]
      exact survives_trim (hgit.commit output havailable hprints)
  · obtain ⟨-, habbrev⟩ | ⟨output, havailable, hprints⟩ := recorded_cases git
    · exact habbrev ▸ survives_placeholder (by decide)
    · rw [(recorded_of_prints havailable hprints).2, abbreviate, String.toList_ofList,
        toList_trimmed]
      exact survives_take (survives_trim (hgit.commit output havailable hprints)) abbrevLength
  · obtain htime | ⟨output, havailable, hprints⟩ := recordedCommitTime_cases git
    · exact htime ▸ survives_placeholder (by decide)
    · obtain ⟨t, -, hread, -⟩ := hgit.time output havailable hprints
      rw [recordedCommitTime_of_prints havailable hprints]
      exact survives_of_fillsPlaces (Calendar.fillsPlaces_of_readTimestamp hread)

end

/-! ### What metadata say about the commit -/

/-- What metadata have to say about the commit, reply by reply.  A commit that
begins with the mark of a placeholder counts as none. -/
structure Reports (git : Replies) (m : Metadata) : Prop where
  commit : ∀ output, Available git → Prints (commitReply git) output →
    (Text.trim output.toList).head? ≠ some '$' →
      m.commitId = trimmed output ∧ m.commitIdAbbrev = abbreviate (trimmed output)
  noCommit : (∀ output, Available git → Prints (commitReply git) output →
    (Text.trim output.toList).head? = some '$') →
      m.commitId = unknownCommitId ∧ m.commitIdAbbrev = unknownCommitIdAbbrev
  time : ∀ output, Available git → Prints (commitTimeReply git) output →
    readTimestamp (trimmed output) = .ok m.commitTime
  noTime : (∀ output, Available git → ¬ Prints (commitTimeReply git) output) →
    m.commitTime = .epoch

/-- The epoch stands for a time that is not known, and Berlin can show it. -/
theorem display_epoch : Zone.berlin.display .epoch = .ok "1970-01-01T01:00:00+01:00" := by
  decide +kernel

/-- The time that was detected can be read and shown. -/
theorem exists_commitTime {git : Replies} (hgit : Dependable git) :
    ∃ t text, readTimestamp (valueOr epochText (recordedCommitTime git)) = .ok t ∧
      Zone.berlin.display t = .ok text := by
  obtain htime | ⟨output, havailable, hprints⟩ := recordedCommitTime_cases git
  · rw [htime, valueOr_placeholder]
    exact ⟨_, _, readTimestamp_epochText, display_epoch⟩
  · obtain ⟨t, text, hread, hshown⟩ := hgit.time output havailable hprints
    rw [recordedCommitTime_of_prints havailable hprints, valueOr_of_readTimestamp _ hread]
    exact ⟨t, text, hread, hshown⟩

/-- Metadata with the values that were detected report what `git` replied. -/
theorem reports_of_recorded {git : Replies} (hgit : Dependable git) {m : Metadata}
    (hid : m.commitId = valueOr unknownCommitId (recordedCommit git))
    (habbrev : m.commitIdAbbrev = valueOr unknownCommitIdAbbrev (recordedAbbrev git))
    (htime : readTimestamp (valueOr epochText (recordedCommitTime git)) = .ok m.commitTime) :
    Reports git m where
  commit output havailable hprints hmark := by
    obtain ⟨hcommit, hshort⟩ := recorded_of_prints havailable hprints
    rw [← toList_trimmed] at hmark
    rw [hid, habbrev, hcommit, hshort]
    have houtput : trimmed output ≠ "" := trimmed_ne_empty hprints
    refine ⟨valueOr_of_ne houtput hmark, valueOr_of_ne (abbreviate_ne_empty houtput) ?_⟩
    rw [head?_abbreviate]
    exact hmark
  noCommit hnone := by
    rw [hid, habbrev]
    obtain ⟨hcommit, hshort⟩ | ⟨output, havailable, hprints⟩ := recorded_cases git
    · rw [hcommit, hshort]
      exact ⟨valueOr_placeholder _ _, valueOr_placeholder _ _⟩
    · obtain ⟨hcommit, hshort⟩ := recorded_of_prints havailable hprints
      have hmark := hnone output havailable hprints
      rw [← toList_trimmed] at hmark
      rw [hcommit, hshort]
      exact ⟨valueOr_of_mark hmark, valueOr_of_mark (by rw [head?_abbreviate, hmark])⟩
  time output havailable hprints := by
    obtain ⟨t, -, hread, -⟩ := hgit.time output havailable hprints
    rw [recordedCommitTime_of_prints havailable hprints, valueOr_of_readTimestamp _ hread] at htime
    exact htime
  noTime hnone := by
    obtain hrecorded | ⟨output, havailable, hprints⟩ := recordedCommitTime_cases git
    · rw [hrecorded, valueOr_placeholder, readTimestamp_epochText] at htime
      exact (Except.ok.inj htime).symm
    · exact absurd hprints (hnone output havailable)

end StartupReport.Build
