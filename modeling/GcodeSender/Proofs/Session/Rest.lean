import GcodeSender.Proofs.Session.Goes

/-!
# `GcodeSender.Proofs.Session.Rest`: running to rest

After every step of the operator the threads run until none can go on
(`Session.settle`). Here it is shown that they do so by acts of their own, and that
they really come to rest: the bound on their moves is never what stops them.

* `Job.Keeps.work_lt`: a move of a job's thread uses up some of its work. This needs
  the job's record, since a line is counted only below the total.
* `advances_of_advance?`: what a move of a thread can be, and where the thread stands
  then. `Session.advance?` is not opened again for what a move leaves alone.
* `advance?_goes`: one move of a thread begins with such an act.
* `settle_goes`: the threads run to rest.
-/

set_option autoImplicit false

namespace GcodeSender

/-! ### What a move uses up -/

namespace Job

/-- A move of the thread uses up some of the job's work. -/
theorem Keeps.work_lt {r : Record} {j : Job} (h : Keeps r j) {a : Act}
    (hfit : a.Fits j) (hmove : a.isMove = true) : (a.onJob j).work < j.work := by
  cases a with
  | opened | dropped | closed | broke | heard | noted | signalled | withheld | launched
  | abandoned | paused | resumed | stopped | yielded | meddled => cases hmove
  | armed i line =>
    replace hfit : j.stage = .arming line := hfit
    simp [Act.onJob, armed, work, hfit, Stage.rank]
  | wrote i line rest =>
    replace hfit : j.stage = .sending line := hfit.1
    simp [Act.onJob, work, hfit, Stage.rank]
  | refused i line =>
    replace hfit : j.stage = .sending line := hfit
    simp [Act.onJob, sent, work, hfit, Stage.rank]
  | returned i line failure =>
    obtain ⟨rest, hs⟩ := hanging_of_writing? hfit.writing?
    cases failure <;> simp [Act.onJob, sent, work, hs, Stage.rank]
  | took i line outcome =>
    replace hfit : j.stage = .awaiting line := hfit
    cases outcome with
    | answer a => by_cases ha : Machine.isAccepted a = true <;>
        simp [Act.onJob, Job.answered, work, hfit, Stage.rank, ha]
    | closed | cancelled => simp [Act.onJob, Job.answered, work, hfit, Stage.rank]
  | moved i p =>
    obtain ⟨next, hnext, hsteps⟩ := steps_of_moved hfit
    have hfail : j.snapshot.fail.total = j.snapshot.total ∧
        j.snapshot.fail.cursor = j.snapshot.cursor := by
      unfold Snapshot.fail
      split <;> exact ⟨rfl, rfl⟩
    rw [hnext]
    cases hsteps with
    | count hs ha =>
      -- the line that is counted is one of the program's
      have hstands := h.stands
      simp only [Record.Stands, hs] at hstands
      have hle := h.handed_le
      rw [← h.total, hstands.1] at hle
      simp only [work, hs, Stage.rank]
      omega
    | fail kind message hs hp => simp [work, hs, hfail, Stage.rank]
    | wake hs hp => simp [work, hs, hfail, Stage.rank]
    | _ => simp [work, Stage.rank, *]
  | released i =>
    replace hfit : j.stage = .releasing := hfit
    simp [Act.onJob, released, work, hfit, Stage.rank]

/-- A pause leaves the thread as much to do as before. -/
theorem work_pause (j : Job) : j.pause.1.work = j.work := by
  unfold Job.pause Snapshot.pause?
  split
  · rename_i s hs
    split at hs
    · obtain rfl := Option.some.inj hs
      rfl
    · cases hs
  · rfl

/-- One job's work counts once. -/
theorem sum_work_set {jobs : List Job} {i : Nat} (h : i < jobs.length) (j : Job) :
    (jobs.set i j).foldr (fun j n => j.work + n) 0 + (jobs.getD i {}).work =
      jobs.foldr (fun j n => j.work + n) 0 + j.work := by
  induction jobs generalizing i with
  | nil => cases h
  | cons first jobs ih =>
    cases i with
    | zero => simp; omega
    | succ i =>
      have := ih (Nat.lt_of_succ_lt_succ h)
      simp only [List.set_cons_succ, List.foldr_cons, List.getD_cons_succ]
      omega

end Job

namespace Core

/-- A bound on the moves that the jobs can still make. -/
def workLeft (c : Core) : Nat := c.jobs.foldr (fun j n => j.work + n) 0

/-- What an act changes of the work left, it changes of its job's. -/
theorem workLeft_next {c : Core} {a : Act} {i : Nat} (h : a.Possible c)
    (hi : a.job? = some i) :
    (c.next a).workLeft + (c.job i).work = c.workLeft + (a.onJob (c.job i)).work := by
  have hjobs : (c.next a).jobs = c.jobs.set i (a.onJob (c.job i)) := by simp [next, hi]
  rw [workLeft, hjobs]
  exact Job.sum_work_set (h.lt hi) _

/-- Each move of a job leaves less to be done. -/
theorem workLeft_next_lt {c : Core} {a : Act} (h : a.Possible c) (hs : c.Sound)
    (hmove : a.isMove = true) : (c.next a).workLeft < c.workLeft := by
  obtain ⟨i, hi⟩ : ∃ i, a.job? = some i := by
    cases a <;> first | exact ⟨_, rfl⟩ | cases hmove
  obtain ⟨r, hr⟩ := hs i
  have hlt := hr.work_lt (h.2 i hi) hmove
  have := workLeft_next h hi
  omega

/-- No act of a running thread leaves more. -/
theorem workLeft_next_le {c : Core} {a : Act} (h : a.Possible c) (hs : c.Sound)
    (hrun : a.isRunning = true) : (c.next a).workLeft ≤ c.workLeft := by
  by_cases hmove : a.isMove = true
  · exact Nat.le_of_lt (workLeft_next_lt h hs hmove)
  · by_cases hread : a.isReading = true
    · rw [workLeft, next_jobs_of_isReading c a hread]
      exact Nat.le_refl _
    · cases a with
      | paused i =>
        have := workLeft_next h rfl
        have hwork : ((Act.paused i).onJob (c.job i)).work = (c.job i).work := Job.work_pause _
        omega
      | _ => simp_all [Act.isRunning]

/-- So however the threads run, no more is left. -/
theorem Goes.workLeft_le {c c' : Core} (h : Goes Act.isRunning c c') (hs : c.Sound) :
    c'.workLeft ≤ c.workLeft := by
  obtain ⟨acts, hp, rfl, hP⟩ := h
  induction acts generalizing c with
  | nil => exact Nat.le_refl _
  | cons a acts ih =>
    have hnext : (c.next a).Sound := (Goes.act hp.1 (hP a (by simp))).sound hs
    have hrest := ih hnext hp.2 fun b hb => hP b (List.mem_cons_of_mem _ hb)
    exact Nat.le_trans hrest (workLeft_next_le hp.1 hs (hP a (by simp)))

end Core

/-! ### One move of a thread -/

namespace Job

/-- A step of a thread's own reports one line counted, or no progress at all. -/
theorem notes_of_own {j next : Job} {notes : List Note} (h : j.move = .own next notes) :
    (∀ n ∈ notes, n.Quiet) ∨ ∃ s, notes = progressNotes s := by
  rcases notes_cases h with rfl | ⟨-, hcount | ⟨total, rfl⟩ | ⟨kind, message, rfl⟩⟩
  · exact .inl (by simp)
  · exact .inr hcount
  · exact .inl (Session.announce_quiet _ rfl)
  · refine .inl fun n hn => ?_
    simp only [failureNotes, List.mem_cons, List.not_mem_nil, or_false] at hn
    rcases hn with rfl | rfl
    · exact Session.quiet_record nofun
    · exact ⟨rfl, rfl, rfl⟩

end Job

namespace Session

open GcodeSender.Core (Goes)

/-- What a job reports is told, and then the observer may pause a job, once for each of its
rules. -/
theorem reportFromJob_cases (s : Session) (n : Note) :
    s.reportFromJob n = s.tell .streamer n ∨
      ∃ rule i, s.reportFromJob n = ({ s.tell .streamer n with
        rules := (s.tell .streamer n).rules.erase rule } : Session).pauseFrom .streamer i := by
  unfold reportFromJob
  simp only []
  split
  · split
    · exact .inr ⟨_, _, rfl⟩
    · exact .inl rfl
  · exact .inl rfl
  · exact .inl rfl

/-- What a job reports quietly is not seen in the core. -/
theorem core_reportFromJob_of_quiet {n : Note} (h : n.Quiet) (s : Session) :
    (s.reportFromJob n).core = s.core := by
  have htell := core_tell_of_quiet s .streamer h
  cases n with
  | record r => exact htell
  | event e =>
    cases e with
    | progress p => cases h.progress
    | _ => exact htell

/-- What a step of a thread's own reports is told, and may make the observer pause a
job. -/
theorem reportFromJob_goes (s : Session) {j next : Job} {notes : List Note}
    (h : j.move = .own next notes) :
    Goes Act.isRunning
      { s.core with told := s.core.told ++ (notes.findSome? Note.progress?).toList }
      (notes.foldl reportFromJob s).core := by
  rcases Job.notes_of_own h with hquiet | ⟨shot, rfl⟩
  · have hnone : notes.findSome? Note.progress? = none :=
      List.findSome?_eq_none_iff.mpr fun n hn => (hquiet n hn).progress
    have hcore : (notes.foldl reportFromJob s).core = s.core := by
      clear h hnone
      induction notes generalizing s with
      | nil => rfl
      | cons n notes ih =>
        rw [List.foldl_cons, ih _ fun m hm => hquiet m (List.mem_cons_of_mem _ hm),
          core_reportFromJob_of_quiet (hquiet n (by simp))]
    rw [hnone, hcore]
    exact Goes.of_eq (by simp)
  · -- the progress is told before the observer acts on it
    have htold := core_tell_progress s .streamer shot.progress
    rw [Job.findSome?_progressNotes, Option.toList, ← htold]
    have hshown : (Note.event (.log ("Progress: " ++ shot.progress.display))).Quiet :=
      quiet_log (isPlain_append rfl _)
    simp only [Job.progressNotes, List.foldl_cons, List.foldl_nil,
      core_reportFromJob_of_quiet hshown]
    simp only [reportFromJob]
    generalize s.tell .streamer (.event (.progress shot.progress)) = told
    split
    · rename_i rule i _
      exact pauseFrom_goes { told with rules := told.rules.erase rule } .streamer i
    · exact Goes.refl _ _

/-- What a returned write does to its job does not depend on how it hung. -/
theorem onJob_returned (j : Job) (i : Nat) (line : String) (stage : Job.Stage)
    (failure : Option LinkError) :
    (Act.returned i line failure).onJob { j with stage } =
      (Act.returned i line failure).onJob j := by
  cases failure <;> rfl

/-- A write that is under way returns: all of its line is taken, or the link takes no more. -/
theorem returned_goes {c : Core} {i : Nat} {line : String} {rest : List UInt8} {j : Job}
    (hjob : c.job i = { j with stage := .hanging line rest }) (failure : Option LinkError)
    (hends : failure = none ∧ rest = [] ∨ failure.isSome ∧ c.online = false) :
    Goes Act.isRunning c
      { c with jobs := c.jobs.set i ((Act.returned i line failure).onJob j) } := by
  have hreturned : Act.Possible c (.returned i line failure) := by
    rcases hends with ⟨rfl, rfl⟩ | ⟨hsome, hoff⟩
    · exact Act.possible_of_job rfl (.inl rfl) (by simp [Act.Fits, hjob])
    · obtain ⟨e, rfl⟩ := Option.isSome_iff_exists.mp hsome
      exact Act.possible_of_job rfl (.inr hoff) (by simp [Act.Fits, hjob, Job.writing?])
  have hcore : c.next (.returned i line failure) =
      { c with jobs := c.jobs.set i ((Act.returned i line failure).onJob j) } := by
    rw [Core.next_of_silent c rfl rfl rfl rfl, hjob, onJob_returned]
    rfl
  rw [← hcore]
  exact Goes.act hreturned rfl

/-- A thread that hands its line to the link gets it counted and written, as far as the device
takes it, or gets it back at once. -/
theorem send_goes (s : Session) {i : Nat} {line : String}
    (h : (s.job i).stage = .sending line) :
    ∃ a : Act, a.isMove = true ∧ a.Possible s.core ∧
      Goes Act.isRunning (s.core.next a)
        ((s.writeLine .streamer line).2.jobWritten i (s.job i) line
          (s.writeLine .streamer line).1).core := by
  cases hon : s.link.canSend with
  | false =>
    obtain ⟨hresult, hcore⟩ := write_offline hon .streamer (wireLine line) line true
    refine ⟨.refused i line, rfl, Act.possible_of_job rfl hon h, Goes.of_eq ?_⟩
    rw [Core.next_of_job s.core rfl rfl]
    simp only [writeLine, hresult, jobWritten, core_setJob, hcore, Core.next_withheld]
    simp [Act.onSlot, Act.onClaim, Act.onLine, Act.onJob, Act.bytes, Act.unsent?, core_job,
      Job.sent]
  | true =>
    have hwrote : ∀ {taken rest : List UInt8}, taken ++ rest = wireLine line →
        Act.Possible s.core (.wrote i line rest) ∧ s.core.next (.wrote i line rest) =
          { s.core with
            slot := s.core.slot.noteSent
            jobs := s.core.jobs.set i { s.job i with stage := .hanging line rest }
            wire := s.core.wire ++ taken } := by
      intro taken rest hbytes
      refine ⟨Act.possible_of_job rfl hon ⟨h, taken, hbytes⟩, ?_⟩
      have hpart : Act.part line rest = taken := by simp [Act.part, ← hbytes]
      rw [Core.next_of_job s.core rfl rfl]
      simp [Act.onSlot, Act.onClaim, Act.onLine, Act.onJob, Act.bytes, Act.unsent?, core_job,
        hpart]
    have hleads := write_online hon .streamer (wireLine line) line true
    simp only [if_true] at hleads
    simp only [writeLine]
    generalize (s.write .streamer (wireLine line) line true).1 = written at hleads ⊢
    generalize (s.write .streamer (wireLine line) line true).2 = s' at hleads ⊢
    -- from here on only the core of what the write left is looked at
    have hset : ∀ j, (s'.setJob i j).core = { s'.core with jobs := s'.core.jobs.set i j } :=
      fun _ => rfl
    generalize s'.core = c' at hleads hset
    cases hleads with
    | delivered =>
      obtain ⟨hposs, hnext⟩ := hwrote (List.append_nil (wireLine line))
      refine ⟨.wrote i line [], rfl, hposs, ?_⟩
      have hjob := Core.next_job_self hposs rfl
      have hback := returned_goes hjob none (.inl ⟨rfl, rfl⟩)
      simpa only [jobWritten, hset, hnext, Act.onJob, core_job, List.set_set] using hback
    | failed reason htaken =>
      -- what is not taken of the line is never written
      obtain ⟨rest, hrest⟩ := htaken
      obtain ⟨hposs, hnext⟩ := hwrote hrest
      refine ⟨.wrote i line rest, rfl, hposs, ?_⟩
      have hjob := Core.next_job_self hposs rfl
      have hdown : Goes Act.isRunning (s.core.next (.wrote i line rest))
          ((s.core.next (.wrote i line rest)).next .closed) :=
        Goes.act (Core.possible_closed _) rfl
      have hback := hdown.trans (returned_goes
        (c := (s.core.next (.wrote i line rest)).next .closed) hjob (some (.io reason))
        (.inr ⟨rfl, rfl⟩))
      simpa only [jobWritten, hset, hnext, Act.onJob, core_job, Core.next_closed,
        Core.next_broke, List.set_set] using hback
    | hanging _ hrest =>
      obtain ⟨hposs, hnext⟩ := hwrote hrest
      refine ⟨.wrote i line _, rfl, hposs, Goes.of_eq ?_⟩
      simp only [jobWritten, hset, hnext]

/-- What the thread of job `i` can do in one move, and where it stands as it does so. -/
inductive Advances (s : Session) (i : Nat) : Session → Prop
  | own {j : Job} {notes : List Note} (hmove : (s.job i).move = .own j notes) :
      Advances s i (notes.foldl reportFromJob (s.setJob i j))
  | arm {line : String} (hs : (s.job i).stage = .arming line) :
      Advances s i (({ s with link.slot := s.link.slot.arm } : Session).setJob i (s.job i).armed)
  | send {line : String} (hs : (s.job i).stage = .sending line) :
      Advances s i ((s.writeLine .streamer line).2.jobWritten i (s.job i) line
        (s.writeLine .streamer line).1)
  | take {line : String} {outcome : Link.Outcome} {slot : Link.Slot}
      (hs : (s.job i).stage = .awaiting line)
      (hcheck : s.link.slot.check? = some (outcome, slot)) :
      Advances s i
        (({ s with link.slot := slot } : Session).setJob i ((s.job i).answered outcome))
  | release (hs : (s.job i).stage = .releasing) :
      Advances s i (({ s with link := s.link.release } : Session).setJob i (s.job i).released)

/-- A move that a thread makes is one of these. -/
theorem advances_of_advance? {s next : Session} {i : Nat} (h : s.advance? i = some next) :
    s.Advances i next := by
  have hstage := (s.job i).stage_of_move
  simp only [advance?] at h
  -- what the thread asks of the link says where it stands
  cases hm : (s.job i).move with
  | rest => simp [hm] at h
  | own j notes =>
    obtain rfl : _ = next := by simpa [hm] using h
    exact .own hm
  | arm =>
    rw [hm] at hstage
    obtain ⟨line, hline⟩ := hstage
    obtain rfl : _ = next := by simpa [hm] using h
    exact .arm hline
  | send line =>
    rw [hm] at hstage
    obtain rfl : _ = next := by simpa [hm] using h
    exact .send hstage
  | await =>
    rw [hm] at hstage
    obtain ⟨line, hline⟩ := hstage
    -- a thread that waits moves only when there is something for it
    cases hc : s.link.slot.check? with
    | none => simp [hm, hc] at h
    | some ended =>
      obtain rfl : _ = next := by simpa [hm, hc] using h
      exact .take hline hc
  | release =>
    rw [hm] at hstage
    obtain rfl : _ = next := by simpa [hm] using h
    exact .release hstage

/-- One move of a job's thread is one act of it, with what follows from that. -/
theorem advance?_goes {s next : Session} {i : Nat} (h : s.advance? i = some next) :
    ∃ a : Act, a.isMove = true ∧ a.Possible s.core ∧
      Goes Act.isRunning (s.core.next a) next.core := by
  cases advances_of_advance? h with
  | @own j notes hm =>
    have hown : (s.job i).own? = some (j, notes.findSome? Note.progress?) := by
      simp [Job.own?, hm]
    refine ⟨.moved i (notes.findSome? Note.progress?), rfl,
      Act.possible_of_job rfl trivial (by simp [Act.Fits, core_job, hown]), ?_⟩
    have hgoes := reportFromJob_goes (s.setJob i j) hm
    have hcore : s.core.next (.moved i (notes.findSome? Note.progress?)) =
        { (s.setJob i j).core with
          told := (s.setJob i j).core.told ++ (notes.findSome? Note.progress?).toList } := by
      have htold : (Act.moved i (notes.findSome? Note.progress?)).told =
          (notes.findSome? Note.progress?).toList := by
        cases notes.findSome? Note.progress? <;> rfl
      simp [Core.next, Act.onSlot, Act.onClaim, Act.onLine, htold, Act.answer?, Act.bytes,
        Act.unsent?, Act.job?, Act.onJob, core_job, hown, core_setJob]
    rw [hcore]
    exact hgoes
  | @arm line hline =>
    refine ⟨.armed i line, rfl, Act.possible_of_job rfl trivial hline, Goes.of_eq ?_⟩
    rw [Core.next_of_silent s.core rfl rfl rfl rfl]
    rfl
  | send hline => exact send_goes s hline
  | @take line outcome slot hline hcheck =>
    refine ⟨.took i line outcome, rfl,
      Act.possible_of_job rfl (by simp [Core.Allows, core, hcheck]) hline, Goes.of_eq ?_⟩
    have hslot : (Act.took i line outcome).onSlot s.core.slot = slot := by
      simp [Act.onSlot, core, hcheck]
    rw [Core.next_of_silent s.core rfl rfl rfl rfl, hslot]
    rfl
  | release hstage =>
    refine ⟨.released i, rfl, Act.possible_of_job rfl trivial hstage, Goes.of_eq ?_⟩
    rw [Core.next_of_silent s.core rfl rfl rfl rfl]
    rfl

/-! ### Coming to rest -/

/-- Where no thread can move, the jobs are at rest. -/
theorem atRest_of_work? {s : Session} (h : s.work? = none) : s.core.AtRest := by
  intro j hj
  obtain ⟨i, hi, hget⟩ := List.mem_iff_getElem.mp (show j ∈ s.jobs from hj)
  have hnone : s.advance? i = none :=
    List.findSome?_eq_none_iff.mp h i (List.mem_range.mpr hi)
  obtain rfl : s.job i = j := by simp [job, hi, hget]
  show (s.job i).rests s.link.slot = true
  unfold Job.rests
  unfold advance? at hnone
  cases hm : (s.job i).move with
  | rest => rfl
  | await => cases hc : s.link.slot.check? <;> simp_all
  | own | arm | send | release => simp [hm] at hnone

/-- The reader reads only while the jobs are at rest. -/
theorem hear_goes (n : Nat) (s : Session) : s.core.Goes Act.isReading (s.hear n).core := by
  induction n generalizing s with
  | zero => exact Goes.refl _ _
  | succ n ih =>
    unfold hear
    split
    · exact Goes.refl _ _
    · rename_i hwork
      have hrest : s.core.AtRest := atRest_of_work? (by simpa using hwork)
      split
      · rename_i next hread
        exact (read?_goes hread hrest).trans (ih next)
      · exact Goes.refl _ _

/-- Reading leaves the jobs their work. -/
theorem workLeft_hear (n : Nat) (s : Session) : (s.hear n).core.workLeft = s.core.workLeft :=
  (hear_goes n s).keeps fun c a ha => by rw [Core.workLeft, Core.next_jobs_of_isReading c a ha]; rfl

/-- A move uses up some of the work. -/
theorem work?_goes {s next : Session} (hs : s.core.Sound) (h : s.work? = some next) :
    s.core.Goes Act.isRunning next.core ∧ next.core.workLeft < s.core.workLeft := by
  obtain ⟨i, -, hi⟩ := List.exists_of_findSome?_eq_some h
  obtain ⟨a, hmove, ha, hnext⟩ := advance?_goes hi
  have hact := Goes.act ha (Act.isRunning_of_isMove hmove)
  have hlt := Core.workLeft_next_lt ha hs hmove
  have hle := hnext.workLeft_le (hact.sound hs)
  exact ⟨hact.trans hnext, by omega⟩

/-- The moves that the jobs can still make are the bound that is given to them. In the end the
reader has read until no job can move. -/
theorem settleFor_ends {n : Nat} {s : Session} (hs : s.core.Sound)
    (hn : s.core.workLeft < n) :
    ∃ s' : Session, s.core.Goes Act.isRunning s'.core ∧
      settleFor n s = s'.hear s'.device.backlog ∧ (settleFor n s).work? = none := by
  -- on the bound, which each move lowers together with the work that is left
  induction n generalizing s with
  | zero => omega
  | succ n ih =>
    have hgoes := (hear_goes s.device.backlog s).mono fun _ => Act.isRunning_of_isReading
    have hwork := workLeft_hear s.device.backlog s
    simp only [settleFor]
    split
    · rename_i next hmoves
      obtain ⟨hnext, hlt⟩ := work?_goes (hgoes.sound hs) hmoves
      obtain ⟨s', hrun, hend⟩ := ih ((hgoes.trans hnext).sound hs) (by omega)
      exact ⟨s', (hgoes.trans hnext).trans hrun, hend⟩
    · rename_i hnone
      exact ⟨s, Goes.refl _ _, rfl, hnone⟩

/-- A bound that is large enough is as good as a larger one. -/
theorem settleFor_of_le {n m : Nat} {s : Session} (hs : s.core.Sound)
    (hn : s.core.workLeft < n) (hm : n ≤ m) : settleFor m s = settleFor n s := by
  induction n generalizing m s with
  | zero => omega
  | succ n ih =>
    obtain ⟨m, rfl⟩ : ∃ k, m = k + 1 := ⟨m - 1, by omega⟩
    have hheard := (hear_goes s.device.backlog s).sound hs
    have hwork := workLeft_hear s.device.backlog s
    simp only [settleFor]
    split
    · rename_i next hmoves
      obtain ⟨hnext, hlt⟩ := work?_goes hheard hmoves
      exact ih (hnext.sound hheard) (by omega) (by omega)
    · rfl

/-- The threads run to rest. -/
theorem settle_goes {s : Session} (hs : s.core.Sound) :
    s.core.Goes Act.isRunning s.settle.core ∧ s.settle.core.AtRest := by
  obtain ⟨s', hgoes, hend, hwork⟩ := settleFor_ends hs (Nat.lt_succ_self s.core.workLeft)
  rw [settle, core_timeOut]
  refine ⟨?_, atRest_of_work? hwork⟩
  rw [show settleFor (s.workLeft + 1) s = _ from hend]
  exact hgoes.trans ((hear_goes _ s').mono fun _ => Act.isRunning_of_isReading)

end Session

end GcodeSender
