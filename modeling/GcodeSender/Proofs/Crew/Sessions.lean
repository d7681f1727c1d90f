import GcodeSender.Proofs.Crew.Handles

/-!
# `GcodeSender.Proofs.Crew.Sessions`: sessions are crews

In a session the threads come to rest after every step, and the operator's calls are made one
at a time and in one go. Step by step, that is one of the ways in which a crew can act: each
act of the session is made of deeds (`Crew.Follows.next`), a start of three and a stop of two,
and nobody does anything in between. So a session is always clear of the two ways in which a
start can fall into the middle of a stop (`Session.exists_crew`), and what a crew has that is
clear of them, a session has.

The stop of a session ends the job and calls off its wait. That it also waits for the thread
is left out here: the caller of the crew stands where it is about to take the handle, and a new
caller makes the next call.
-/

set_option autoImplicit false

namespace GcodeSender

/-- A link with what a core says of it. -/
def Core.link (s : Core) : Link :=
  { state := .connected, isOpen := s.online, slot := s.slot, claimed := s.claimed }

/-- A core's link can send if the core is online. -/
@[simp] theorem Core.canSend_link (s : Core) : s.link.canSend = s.online := by
  simp [Core.link, Link.canSend, Link.ConnectionState.isConnected]

namespace Crew

/-- The deed falls into the middle of no stop. -/
def Clear (c : Crew) (d : Deed) : Prop := c.ClearOfStops d ∧ c.ClearOfJoins d

/-- A deed that does not take the link is out of every stop's way. -/
theorem clear_of_no_claim {c : Crew} {d : Deed} (h : c.claims? d = none) : c.Clear d :=
  ⟨fun i hi => by simp [h] at hi, fun i hi => by simp [h] at hi⟩

/-- The streamers and the threads of the crew are those of a session. Nobody is amid a call,
but perhaps about to wait for a thread. -/
structure Shows (c : Crew) (s : Core) : Prop where
  link : c.link = s.link
  snapshot : ∀ i, (c.streamers i).snapshot = (s.job i).snapshot
  alive : ∀ i, (c.streamers i).alive = (s.job i).isAlive
  unlocked : ∀ i, (c.streamers i).locked = false
  job : ∀ w, ¬ c.IsGone w → c.job w = s.job (c.workers w).streamer
  present : ∀ i, (s.job i).isAlive = true → ∃ w, (c.workers w).streamer = i ∧ ¬ c.IsGone w
  single : ∀ w v, ¬ c.IsGone w → ¬ c.IsGone v →
    (c.workers w).streamer = (c.workers v).streamer → w = v
  callers : ∀ n, c.callers n = .free ∨ ∃ i, c.callers n = .fetching i
  /-- There is always another caller. -/
  free : ∃ m, ∀ n, m ≤ n → c.callers n = .free

namespace Shows

variable {c : Crew} {s s' : Core}

/-- Someone changes the link. -/
theorem relink (h : c.Shows s) (hjob : ∀ i, s'.job i = s.job i) :
    Shows { c with link := s'.link } s' where
  link := rfl
  snapshot i := hjob i ▸ h.snapshot i
  alive i := hjob i ▸ h.alive i
  unlocked := h.unlocked
  job w hw := (h.job w hw).trans (hjob _).symm
  present i hi := h.present i (hjob i ▸ hi)
  single := h.single
  callers := h.callers
  free := h.free

/-- A caller changes the snapshot of a job. -/
theorem share (h : c.Shows s) {i : Nat} {t : Job.Snapshot} (hlink : s'.link = s.link)
    (hself : s'.job i = { s.job i with snapshot := t }) (hother : ∀ k, k ≠ i → s'.job k = s.job k) :
    (c.share i t).Shows s' := by
  have hstreamer : ∀ k, k ≠ i → (c.share i t).streamers k = c.streamers k := by
    intro k hk
    simp [Crew.share, hk]
  -- a thread is where it was, so which threads there are does not change either
  have hstage : ∀ k, (s'.job k).stage = (s.job k).stage := by
    intro k
    by_cases hk : k = i
    · rw [hk, hself]
    · rw [hother k hk]
  have halive : ∀ k, (s'.job k).isAlive = (s.job k).isAlive := by
    intro k
    simp [Job.isAlive, hstage]
  exact {
    link := h.link.trans hlink.symm
    snapshot := by
      intro k
      by_cases hk : k = i
      · rw [hk, hself]
        simp [Crew.share]
      · rw [hother k hk, hstreamer k hk, h.snapshot k]
    alive := by
      intro k
      rw [halive, ← h.alive k]
      by_cases hk : k = i <;> simp [Crew.share, hk]
    unlocked := by
      intro k
      rw [← h.unlocked k]
      by_cases hk : k = i <;> simp [Crew.share, hk]
    job := by
      intro w hw
      have hbase := h.job w hw
      by_cases hk : (c.workers w).streamer = i
      · rw [show ((c.share i t).workers w).streamer = i from hk, hself, ← hk, ← hbase]
        simp [Crew.job, Crew.share, hk]
      · rw [show ((c.share i t).workers w) = c.workers w from rfl, hother _ hk, ← hbase]
        simp [Crew.job, Crew.share, hk]
    present := fun k hk => h.present k (halive k ▸ hk)
    single := h.single
    callers := h.callers
    free := h.free }

/-- A caller goes on to a place between two calls, or to where it takes a handle. -/
theorem place (h : c.Shows s) (n : Nat) {p : Caller} (hp : p = .free ∨ ∃ i, p = .fetching i) :
    (c.place n p).Shows s :=
  { h with
    callers := by
      intro m
      by_cases hm : m = n
      · rw [hm, callers_place_self]
        exact hp
      · rw [callers_place_of_ne _ _ hm]
        exact h.callers m
    free := by
      obtain ⟨m, hm⟩ := h.free
      -- a caller beyond all that were ever busy is still free
      refine ⟨max m (n + 1), fun k hk => ?_⟩
      rw [callers_place_of_ne _ _ (by omega)]
      exact hm k (by omega) }

/-- The thread of a job makes a move. -/
theorem work (h : c.Shows s) {w i : Nat} {a : Act} (hw : (c.workers w).streamer = i)
    (hlive : ¬ c.IsGone w) (hmove : a.isWork = true) (hjob : a.job? = some i)
    (ha : a.Possible s) : (c.work w a).Shows (s.next a) := by
  -- the crew's thread sees the session's job, so it can make the same move
  have hsame : c.job w = s.job i := hw ▸ h.job w hlive
  have hfit : a.Fits (c.job w) := hsame ▸ ha.2 i hjob
  have hself : (s.next a).job i = a.onJob (c.job w) := by
    rw [Core.next_job_self ha hjob, hsame]
  have hother : ∀ k, k ≠ i → (s.next a).job k = s.job k := fun k hk =>
    Core.next_job_of_ne (by rw [hjob]; exact fun hik => hk (Option.some.inj hik).symm)
  have hbefore : ∀ v, ¬ (c.work w a).IsGone v → ¬ c.IsGone v := by
    intro v hv
    by_cases hvw : v = w
    · rwa [hvw]
    · simpa [IsGone, Crew.work, hvw] using hv
  exact {
    link := by
      have honline : a.onLine s.online = s.online := by
        cases a with
        | opened | dropped | closed | broke => cases hmove
        | _ => rfl
      simp [Crew.work, h.link, Core.link, Core.next, honline]
    snapshot := by
      intro k
      rw [snapshot_work, hw]
      split
      · rename_i hk
        rw [hk, hself]
      · rename_i hk
        rw [hother k hk, h.snapshot]
    alive := by
      intro k
      have hbase := h.alive k
      by_cases hk : k = i
      · have hwas : (s.job i).isAlive = true := hsame ▸ Act.isAlive_of_isWork hmove hfit
        rw [hk, hwas] at hbase
        rw [hk, hself]
        simp [Crew.work, hw, hbase]
      · rw [hother k hk, ← hbase]
        simp [Crew.work, hw, hk]
    unlocked := by
      intro k
      rw [← h.unlocked k]
      by_cases hk : k = (c.workers w).streamer <;> simp [Crew.work, hk]
    job := by
      intro v hv
      by_cases hvw : v = w
      · rw [hvw, job_work_self c hmove hfit, streamer_work, hw, hself]
      · -- the job has no other thread
        have hne : (c.workers v).streamer ≠ i := by
          intro hvi
          exact hvw (h.single v w (hbefore v hv) hlive (hvi.trans hw.symm))
        rw [streamer_work, hother _ hne, ← h.job v (hbefore v hv)]
        simp [Crew.job, Crew.work, hvw, hw, hne]
    present := by
      intro k hk
      by_cases hki : k = i
      · refine ⟨w, by rw [streamer_work, hw, hki], fun hgone => ?_⟩
        rw [hki, hself, ← job_work_self c hmove hfit] at hk
        simp [Job.isAlive, show ((c.work w a).job w).stage = .gone from hgone] at hk
      · obtain ⟨v, hv, hvlive⟩ := h.present k (hother k hki ▸ hk)
        have hvw : v ≠ w := by
          rintro rfl
          exact hki (hv.symm.trans hw)
        refine ⟨v, by rw [streamer_work, hv], ?_⟩
        simpa [IsGone, Crew.work, hvw] using hvlive
    single := by
      intro v v' hv hv' hvv
      rw [streamer_work, streamer_work] at hvv
      exact h.single v v' (hbefore v hv) (hbefore v' hv') hvv
    callers := h.callers
    free := h.free }

/-- A job is launched, while no thread is left. -/
theorem launch (h : c.Shows s) (hgone : ∀ w, c.IsGone w) {i : Nat} {name : String} {p : Program}
    (ha : Act.Possible s (.launched i name p)) :
    (c.seize.launch i name p).Shows (s.next (.launched i name p)) := by
  have hself : (s.next (.launched i name p)).job i = Job.launch name p :=
    Core.next_job_self ha rfl
  have hother : ∀ k, k ≠ i → (s.next (.launched i name p)).job k = s.job k := fun k hk =>
    Core.next_job_of_ne fun hik => hk (Option.some.inj hik).symm
  -- the new thread is the only one, so all that is said of threads is said of it
  have hlast : ∀ w, ¬ (c.seize.launch i name p).IsGone w → w = c.hired := by
    intro w hw
    by_cases hwn : w = c.hired
    · exact hwn
    · refine absurd (hgone w) ?_
      simpa [IsGone, Crew.launch, seize, hwn] using hw
  exact {
    link := by
      simp [Crew.launch, seize, h.link, Core.link, Core.next, Act.onSlot, Act.onClaim, Act.onLine]
    snapshot := by
      intro k
      by_cases hk : k = i
      · rw [hk, hself]
        simp [Crew.launch, seize]
      · rw [hother k hk, ← h.snapshot k]
        simp [Crew.launch, seize, hk]
    alive := by
      intro k
      by_cases hk : k = i
      · rw [hk, hself]
        simp [Crew.launch, seize, Job.isAlive, Job.launch]
      · rw [hother k hk, ← h.alive k]
        simp [Crew.launch, seize, hk]
    unlocked := by
      intro k
      rw [← h.unlocked k]
      by_cases hk : k = i <;> simp [Crew.launch, seize, hk, h.unlocked]
    job := by
      intro w hw
      rw [hlast w hw]
      simp [Crew.job, Crew.launch, seize, hself, Job.launch]
    present := by
      intro k hk
      by_cases hki : k = i
      · refine ⟨c.hired, ?_, ?_⟩
        · simp [Crew.launch, seize, hki]
        · simp [IsGone, Crew.launch, seize, Job.launch]
      · obtain ⟨w, -, hw⟩ := h.present k (hother k hki ▸ hk)
        exact absurd (hgone w) hw
    single := fun w v hw hv _ => (hlast w hw).trans (hlast v hv).symm
    callers := h.callers
    free := h.free }

end Shows

/-- A start that is not refused, while no thread is left and no other caller is amid a call
but perhaps about to take a handle. -/
theorem Reached.start {c : Crew} (h : c.Reached Clear) {n i : Nat} {name : String} {p : Program}
    (hcallers : ∀ m, c.callers m = .free ∨ ∃ k, c.callers m = .fetching k)
    (hn : c.callers n = .free) (hlock : (c.streamers i).locked = false)
    (hgone : ∀ w, c.IsGone w) (hidle : (c.streamers i).snapshot.isActive = false)
    (hp : p.lines ≠ []) (honline : c.link.state.isConnected = true)
    (hfree : c.link.claimed = false) :
    ((c.seize.launch i name p).place n .free).Reached Clear := by
  have hadmitted := h.step (d := .calls n (.start i name p)) (clear_of_no_claim rfl)
    (show step? c _ =
        some ((c.hand i none true).place n (.admitted i name p (c.streamers i).handle)) by
      simp [step?, begin?, hn, hlock, Job.refusal?, Job.isActive, hidle, hp, honline])
  have hclear : ((c.hand i none true).place n
      (.admitted i name p (c.streamers i).handle)).Clear (.proceeds n) := by
    refine ⟨fun _ _ m k hm => ?_, fun _ _ _ w _ => hgone w⟩
    by_cases hmn : m = n
    · rw [hmn, callers_place_self] at hm
      cases hm
    · rw [callers_place_of_ne _ _ hmn] at hm
      rcases hcallers m with hm' | ⟨k', hm'⟩ <;> cases hm'.symm.trans hm
  have hclaimed := hadmitted.step (d := .proceeds n) hclear
    (show step? _ _ = some ((c.hand i none true).seize.place n (.launching i name p)) by
      simp [step?, proceed?, IsGone, Crew.place, hand, seize, Link.claim, hfree]
      exact fun w _ => hgone w)
  -- what the three steps have done to the handle, the lock and the caller is undone in the end
  have hlaunched := hclaimed.step (d := .proceeds n) (clear_of_no_claim (by simp [claims?]))
    (show step? _ _ = some _ by simp only [step?, proceed?, callers_place_self]; rfl)
  simpa [Crew.place, Crew.launch, seize, hand] using hlaunched

/-- A crew shows a session, and came about without a start in the middle of a stop. -/
structure Follows (c : Crew) (s : Core) : Prop where
  reached : c.Reached Clear
  shows : c.Shows s

namespace Follows

variable {c : Crew} {s : Core}

/-- While the jobs are at rest and the link is free, no thread is left. -/
theorem isGone (h : c.Follows s) (howned : s.Owned) (hrest : s.AtRest)
    (hfree : s.claimed = false) (w : Nat) : c.IsGone w := by
  refine Decidable.byContradiction fun hlive => ?_
  have halive : (s.job (c.workers w).streamer).isAlive = true := by
    rw [← h.shows.job w hlive]
    exact decide_eq_true hlive
  rw [Job.isAlive_of_rests (hrest.job _)] at halive
  rw [howned.claimed.mpr ⟨_, halive⟩] at hfree
  cases hfree

/-- What concerns no job is done by someone else. -/
theorem change (h : c.Follows s) {a : Act} (hjob : a.job? = none)
    (hmeddle : a.isMeddling = false) : ∃ c' : Crew, c'.Follows (s.next a) := by
  have hsame : (s.next a).claimed = s.claimed ∧
      (s.next a).slot.cancelled = s.slot.cancelled := by
    cases a with
    | heard answer => exact ⟨rfl, (s.slot.offer_cases answer).2.2.1⟩
    | opened | dropped | closed | broke | noted | signalled | withheld => exact ⟨rfl, rfl⟩
    | meddled => cases hmeddle
    | _ => cases hjob
  refine ⟨_, h.reached.step (d := .changes (s.next a).link) (clear_of_no_claim rfl) ?_,
    h.shows.relink fun i => Core.next_job_of_ne (by simp [hjob])⟩
  simp [step?, h.shows.link, Core.link, hsame]

/-- A thread makes the move that the job's thread makes. -/
theorem move (h : c.Follows s) {a : Act} {i : Nat} (hmove : a.isWork = true)
    (hjob : a.job? = some i) (ha : a.Possible s) : (∃ c' : Crew, c'.Follows (s.next a)) := by
  -- the worker that is shown at the job's place makes the move
  obtain ⟨w, hw, hlive⟩ := h.shows.present i (Act.isAlive_of_isWork hmove (ha.2 i hjob))
  have hlets : c.link.lets a := by
    rw [h.shows.link]
    cases a with
    | wrote | refused => exact s.canSend_link.trans ha.1
    | took => exact ha.1
    | _ => exact trivial
  have hfit : a.Fits (c.job w) := by
    rw [h.shows.job w hlive, hw]
    exact ha.2 i hjob
  refine ⟨_, h.reached.step (d := .works w a) (clear_of_no_claim rfl) ?_,
    h.shows.work hw hlive hmove hjob ha⟩
  simp [step?, hmove, hjob, hw, hlets, hfit]

/-- A stop ends the job and calls off its wait, before anyone else does anything. -/
theorem stop (h : c.Follows s) {i : Nat} (ha : Act.Possible s (.stopped i)) :
    ∃ c' : Crew, c'.Follows (s.next (.stopped i)) := by
  obtain ⟨n, hfree⟩ := h.shows.free
  have hn := hfree n (Nat.le_refl n)
  -- a crew makes two deeds of it, which nothing comes between
  have hactive : (s.job i).isActive = true := (ha.2 i rfl).1
  have hmark := h.reached.step (d := .calls n (.stop i)) (clear_of_no_claim rfl)
    (show step? c _ = some ((c.share i { (s.job i).snapshot with state := .stopped }).place n
        (.stopping i)) by
      rw [Job.isActive] at hactive
      simp [step?, hn, begin?, h.shows.snapshot, Job.Snapshot.stop?, hactive])
  have hcancel := hmark.step (d := .proceeds n) (clear_of_no_claim (by simp [claims?]))
    (show step? _ _ = some _ by simp only [step?, proceed?, callers_place_self]; rfl)
  have hcalled : Shows { c with link := { s with slot := s.slot.cancel : Core }.link }
      { s with slot := s.slot.cancel } := h.shows.relink fun _ => rfl
  have hended : Shows (Crew.share { c with link := { s with slot := s.slot.cancel : Core }.link } i
      { (s.job i).snapshot with state := .stopped }) (s.next (.stopped i)) := by
    refine hcalled.share rfl ?_ fun k hk =>
      Core.next_job_of_ne fun hik => hk (Option.some.inj hik).symm
    rw [Core.next_job_self ha rfl, Act.onJob, Job.requestStop_of_active hactive]
    rfl
  refine ⟨_, hcancel, ?_⟩
  simpa [Crew.place, Crew.share, h.shows.link, Core.link] using
    hended.place n (p := .fetching i) (.inr ⟨i, rfl⟩)

/-- Every act that is no meddling and gives up no job is made of deeds. -/
theorem next (h : c.Follows s) (howned : s.Owned) {a : Act} (ha : a.Possible s)
    (hmeddle : a.isMeddling = false) (hthread : ∀ i, a ≠ .abandoned i) :
    ∃ c' : Crew, c'.Follows (s.next a) := by
  obtain ⟨n, hfree⟩ := h.shows.free
  have hn := hfree n (Nat.le_refl n)
  cases a with
  | opened | dropped | closed | broke | heard | noted | signalled | withheld =>
    exact h.change rfl hmeddle
  | meddled => cases hmeddle
  | abandoned i => exact absurd rfl (hthread i)
  | launched i name p =>
    have hgone := h.isGone howned ha.1.1 ha.1.2.2
    -- no job is active and the link is free, so no thread is left
    have hfit : (s.job i).isActive = false ∧ p.lines ≠ [] := ha.2 i rfl
    refine ⟨_, h.reached.start h.shows.callers hn (h.shows.unlocked i) hgone ?_ hfit.2 ?_ ?_,
      (h.shows.launch hgone ha).place n (.inl rfl)⟩
    · rw [h.shows.snapshot]
      exact hfit.1
    · rw [h.shows.link]
      rfl
    · rw [h.shows.link]
      exact ha.1.2.2
  | paused i =>
    have hfit : (s.job i).snapshot.state = .running := ha.2 i rfl
    refine ⟨_, h.reached.step (d := .calls n (.pause i)) (clear_of_no_claim rfl) ?_,
      h.shows.share (i := i) (t := { (s.job i).snapshot with state := .paused }) rfl ?_ ?_⟩
    · simp [step?, hn, begin?, h.shows.snapshot, Job.Snapshot.pause?, hfit]
    · rw [Core.next_job_self ha rfl, Act.onJob, Job.pause_of_running hfit]
    · exact fun k hk => Core.next_job_of_ne fun hik => hk (Option.some.inj hik).symm
  | resumed i =>
    have hfit : (s.job i).snapshot.state = .paused := (ha.2 i rfl).1
    refine ⟨_, h.reached.step (d := .calls n (.resume i)) (clear_of_no_claim rfl) ?_,
      h.shows.share (i := i) (t := { (s.job i).snapshot with state := .running }) rfl ?_ ?_⟩
    · simp [step?, hn, begin?, h.shows.snapshot, Job.Snapshot.resume?, hfit]
    · rw [Core.next_job_self ha rfl, Act.onJob, Job.resume_of_paused hfit]
    · exact fun k hk => Core.next_job_of_ne fun hik => hk (Option.some.inj hik).symm
  | stopped i => exact h.stop ha
  | armed | wrote | yielded | refused | returned | took | moved | released =>
    exact h.move rfl rfl ha

/-- A new crew shows a new session. -/
theorem of_new (h : s.IsNew) : ∃ c : Crew, c.Follows s := by
  -- the one deed is that the link comes to be as it is in the session
  refine ⟨{ ({} : Crew) with link := s.link },
    Reached.new.step (d := .changes s.link) (clear_of_no_claim rfl) ?_, ?_⟩
  · simp [step?, Core.link, h.claimed, h.slot]
  · exact {
      link := rfl
      snapshot := fun i => by rw [h.job i]
      alive := fun i => by rw [h.job i]; rfl
      unlocked := fun _ => rfl
      job := fun w hw => absurd rfl hw
      present := by
        intro i hi
        rw [h.job i] at hi
        cases hi
      single := fun w _ hw => absurd rfl hw
      callers := fun _ => .inl rfl
      free := ⟨0, fun _ _ => rfl⟩ }

end Follows

end Crew

/-- Acts by which nobody meddles with the link are deeds of a crew, if each job that is started
gets its thread, and no start falls into the middle of a stop. -/
theorem Core.Permits.crew {s : Core} {acts : List Act} (h : s.Permits acts) (hnew : s.IsNew)
    (hacts : ∀ a ∈ acts, a.isMeddling = false ∧ ∀ i, a ≠ .abandoned i) :
    ∃ c : Crew, c.Follows (s.after acts) := by
  refine h.invariant (K := fun a => a.isMeddling = false ∧ ∀ i, a ≠ .abandoned i)
    (P := fun _ s => s.Owned ∧ ∃ c : Crew, c.Follows s)
    ⟨hnew.owned, Crew.Follows.of_new hnew⟩ ?_ hacts |>.2
  rintro acts a hacts _ ha ⟨hmild, hthread⟩ ⟨howned, c, hc⟩
  exact ⟨howned.next (hacts.sound hnew.sound) ha hmild, hc.next howned ha hmild hthread⟩

/-- An undisturbed session in which each job that is started gets its thread is a crew: its
streamers show the session's jobs, and have a thread just where the jobs have one. No start
falls into the middle of a stop. -/
theorem Session.exists_crew {s : Session} (hnew : s.IsNew) {h : History} (hh : s.HasHistory h)
    (hsteps : s.Undisturbed h.steps) (hthreads : ∀ i, .abandoned i ∉ h.acts) :
    ∃ c : Crew, c.Reached Crew.ClearOfStops ∧ c.Reached Crew.ClearOfJoins ∧
      c.link.claimed = (s.after h.steps).link.claimed ∧
      c.link.slot = (s.after h.steps).link.slot ∧
      ∀ i, (c.streamers i).snapshot = ((s.after h.steps).job i).snapshot ∧
        (c.streamers i).alive = ((s.after h.steps).job i).isAlive := by
  obtain ⟨c, hreached, hshows⟩ := hh.permits.crew hnew.core fun a ha =>
    ⟨hh.not_meddling hsteps ha, fun i hi => hthreads i (hi ▸ ha)⟩
  rw [hh.core_after] at hshows
  refine ⟨c, hreached.mono fun _ _ hd => hd.1, hreached.mono fun _ _ hd => hd.2, ?_, ?_,
    fun i => ⟨hshows.snapshot i, hshows.alive i⟩⟩
  · rw [hshows.link]
    rfl
  · rw [hshows.link]
    rfl

end GcodeSender
