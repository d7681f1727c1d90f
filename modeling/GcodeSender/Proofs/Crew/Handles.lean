import GcodeSender.Proofs.Crew.Ownership

/-!
# `GcodeSender.Proofs.Crew.Handles`: who waits for a thread

A streamer keeps the handle of its last thread, until a start or a stop takes it and waits for
the thread. So the handle of every thread that has not ended is somewhere: `Accounted.kept`.
A start that may take the link has found its streamer without a handle, or has waited. Unless
a stop of the same streamer still waits (`ClearOfJoins`), it is then alone with the streamer
(`Accounted.gone_of_admitted`), and no other thread of the streamer is left that could report
its end in the new one's place. `Accounted.next` is the step.
-/

set_option autoImplicit false

namespace GcodeSender

namespace Caller

/-- The streamer whose lock the caller has. -/
def starts? : Caller → Option Nat
  | .admitted i _ _ _ | .launching i _ _ => some i
  | .free | .stopping _ | .fetching _ | .joining _ _ => none

/-- The caller waits for a thread of a streamer. -/
def Awaits (i w : Nat) : Caller → Prop
  | .admitted k _ _ thread | .joining k thread => k = i ∧ thread = some w
  | .free | .launching _ _ _ | .stopping _ | .fetching _ => False

end Caller

namespace Crew

variable {c c' : Crew}

/-- If the deed takes the link for a streamer, no stop of that streamer still waits for a
thread that has not ended. -/
def ClearOfJoins (c : Crew) (d : Deed) : Prop :=
  ∀ i, c.claims? d = some i → ∀ n w, c.callers n = .joining i (some w) → c.IsGone w

/-- Who has the locks, and who waits for whom. -/
structure Accounted (c : Crew) : Prop where
  /-- Threads that were not started yet have no stage. -/
  fresh : ∀ w, c.hired ≤ w → c.IsGone w
  /-- At most one caller has the lock of a streamer. -/
  one : ∀ n m i, (c.callers n).starts? = some i → (c.callers m).starts? = some i → n = m
  locked : ∀ n i, (c.callers n).starts? = some i → (c.streamers i).locked = true
  handle : ∀ i, (c.streamers i).locked = true → (c.streamers i).handle = none
  /-- The handle of a thread that has not ended is with its streamer, or with a caller who
  waits for the thread. -/
  kept : ∀ w, ¬ c.IsGone w → (c.streamers (c.workers w).streamer).handle = some w ∨
    ∃ n, (c.callers n).Awaits (c.workers w).streamer w
  /-- A start that has taken the link is alone with its streamer. -/
  alone : ∀ n i name p, c.callers n = .launching i name p →
    ∀ w, (c.workers w).streamer = i → c.IsGone w
  alive : ∀ w, ¬ c.IsGone w → (c.streamers (c.workers w).streamer).alive = true
  /-- A streamer has at most one thread that has not ended. -/
  single : ∀ w v, ¬ c.IsGone w → ¬ c.IsGone v →
    (c.workers w).streamer = (c.workers v).streamer → w = v

namespace Accounted

/-- While nobody has a streamer's lock, no start of it is under way. -/
theorem starts?_ne (h : c.Accounted) {i : Nat} (hlock : (c.streamers i).locked = false)
    (n : Nat) : (c.callers n).starts? ≠ some i := by
  intro hn
  rw [h.locked n i hn] at hlock
  cases hlock

/-- Someone changes the snapshot of a job, or the link. -/
theorem share (h : c.Accounted) (i : Nat) (s : Job.Snapshot) : (c.share i s).Accounted := by
  -- neither the locks nor the handles are part of a snapshot
  have hsame : ∀ k, ((c.share i s).streamers k).locked = (c.streamers k).locked ∧
      ((c.share i s).streamers k).handle = (c.streamers k).handle ∧
      ((c.share i s).streamers k).alive = (c.streamers k).alive := by
    intro k
    by_cases hk : k = i <;> simp [Crew.share, hk]
  exact {
    fresh := h.fresh
    one := h.one
    locked := fun n k hn => (hsame k).1.trans (h.locked n k hn)
    handle := fun k hk => (hsame k).2.1.trans (h.handle k ((hsame k).1.symm.trans hk))
    kept := fun w hw => (h.kept w hw).imp_left ((hsame _).2.1.trans ·)
    alone := h.alone
    alive := fun w hw => (hsame _).2.2.trans (h.alive w hw)
    single := h.single }

/-- A caller who waits for no thread that has not ended goes on to a place from where it
starts nothing. -/
theorem place (h : c.Accounted) {n : Nat} {p : Caller} (hp : p.starts? = none)
    (hgone : ∀ i w, (c.callers n).Awaits i w → c.IsGone w) : (c.place n p).Accounted := by
  have hstarts : ∀ m i, ((c.place n p).callers m).starts? = some i →
      (c.callers m).starts? = some i := by
    intro m i hm
    by_cases hmn : m = n
    · simp [Crew.place, hmn, hp] at hm
    · simpa [Crew.place, hmn] using hm
  exact {
    fresh := h.fresh
    one := fun m m' i hm hm' => h.one m m' i (hstarts m i hm) (hstarts m' i hm')
    locked := fun m i hm => h.locked m i (hstarts m i hm)
    handle := h.handle
    -- a thread for which the caller waited has ended, so the others are waited for as before
    kept := by
      intro w hw
      refine (h.kept w hw).imp_right (Exists.imp fun m hm => ?_)
      have hmn : m ≠ n := fun hmn => hw (hgone _ w (hmn ▸ hm))
      simpa [Crew.place, hmn] using hm
    alone := by
      intro m i name q hm
      by_cases hmn : m = n
      · simp [Crew.place, hmn] at hm
        simp [hm, Caller.starts?] at hp
      · exact h.alone m i name q (by simpa [Crew.place, hmn] using hm)
    alive := h.alive
    single := h.single }

/-- The handle of a streamer passes to a caller, who waits for no other thread that has not
ended. No other caller has the lock. -/
theorem take (h : c.Accounted) {n i : Nat} {p : Caller} {locked : Bool}
    (hgone : ∀ k w, (c.callers n).Awaits k w → c.IsGone w)
    (hlock : ∀ m, m ≠ n → (c.callers m).starts? ≠ some i)
    (hp : ∀ k, p.starts? = some k → k = i ∧ locked = true)
    (hlaunch : ∀ k name q, p ≠ .launching k name q)
    (hpass : ∀ w, (c.streamers i).handle = some w → p.Awaits i w) :
    ((c.hand i none locked).place n p).Accounted := by
  -- only the handle and the lock of this streamer change, and where this caller stands
  have hself : ((c.hand i none locked).place n p).streamers i =
      { c.streamers i with handle := none, locked } := by
    simp [Crew.place, Crew.hand]
  have hsame : ∀ k, k ≠ i →
      ((c.hand i none locked).place n p).streamers k = c.streamers k := by
    intro k hk
    simp [Crew.place, Crew.hand, hk]
  exact {
    fresh := h.fresh
    one := by
      intro m m' k hm hm'
      by_cases hmn : m = n <;> by_cases hmn' : m' = n
      -- two different callers who start the streamer: one of them would have had the lock
      · rw [hmn, hmn']
      · rw [hmn, callers_place_self] at hm
        rw [callers_place_of_ne _ _ hmn'] at hm'
        exact absurd ((hp k hm).1 ▸ hm') (hlock m' hmn')
      · rw [hmn', callers_place_self] at hm'
        rw [callers_place_of_ne _ _ hmn] at hm
        exact absurd ((hp k hm').1 ▸ hm) (hlock m hmn)
      · rw [callers_place_of_ne _ _ hmn] at hm
        rw [callers_place_of_ne _ _ hmn'] at hm'
        exact h.one m m' k hm hm'
    locked := by
      intro m k hm
      by_cases hmn : m = n
      · rw [hmn, callers_place_self] at hm
        obtain ⟨rfl, hlocked⟩ := hp k hm
        rwa [hself]
      · rw [callers_place_of_ne _ _ hmn] at hm
        have hki : k ≠ i := fun hki => hlock m hmn (hki ▸ hm)
        rw [hsame k hki]
        exact h.locked m k hm
    handle := by
      intro k hk
      by_cases hki : k = i
      · rw [hki, hself]
      · rw [hsame k hki] at hk ⊢
        exact h.handle k hk
    kept := by
      intro w hw
      show (((c.hand i none locked).place n p).streamers (c.workers w).streamer).handle = some w ∨
        ∃ m, (((c.hand i none locked).place n p).callers m).Awaits (c.workers w).streamer w
      rcases h.kept w hw with hhandle | ⟨m, hm⟩
      · by_cases hwi : (c.workers w).streamer = i
        · -- the handle has passed to the caller
          refine .inr ⟨n, ?_⟩
          rw [callers_place_self, hwi]
          exact hpass w (hwi ▸ hhandle)
        · rw [hsame _ hwi]
          exact .inl hhandle
      · have hmn : m ≠ n := fun hmn => hw (hgone _ w (hmn ▸ hm))
        exact .inr ⟨m, by rwa [callers_place_of_ne _ _ hmn]⟩
    alone := by
      intro m k name q hm
      by_cases hmn : m = n
      · rw [hmn, callers_place_self] at hm
        exact absurd hm (hlaunch k name q)
      · exact h.alone m k name q (by rwa [callers_place_of_ne _ _ hmn] at hm)
    alive := by
      intro w hw
      show (((c.hand i none locked).place n p).streamers (c.workers w).streamer).alive = true
      by_cases hwi : (c.workers w).streamer = i
      · rw [hwi, hself, ← hwi]
        exact h.alive w hw
      · rw [hsame _ hwi]
        exact h.alive w hw
    single := h.single }

/-- When a start may take the link, all threads of its streamer have ended: the lock is taken,
so that the streamer has no handle, and nobody else starts it. -/
theorem gone_of_admitted (h : c.Accounted) {n i : Nat} {name : String} {p : Program}
    {previous : Option Nat} (hn : c.callers n = .admitted i name p previous)
    (hprevious : ∀ w ∈ previous, c.IsGone w)
    (hclear : ∀ m w, c.callers m = .joining i (some w) → c.IsGone w) {w : Nat}
    (hw : (c.workers w).streamer = i) : c.IsGone w := by
  have hstart : (c.callers n).starts? = some i := by rw [hn]; rfl
  -- a thread that lives has its handle somewhere, or somebody waits for it
  refine Decidable.byContradiction fun hlive => ?_
  rcases h.kept w hlive with hhandle | ⟨m, hm⟩
  · rw [hw, h.handle i (h.locked n i hstart)] at hhandle
    cases hhandle
  · rw [hw] at hm
    cases hplace : c.callers m with
    | admitted k other q thread =>
      rw [hplace] at hm
      obtain ⟨rfl, rfl⟩ := hm
      obtain rfl : m = n := h.one m n k (by rw [hplace]; rfl) hstart
      rw [hn] at hplace
      exact hlive (hprevious w (by injection hplace))
    | joining k thread =>
      rw [hplace] at hm
      obtain ⟨rfl, rfl⟩ := hm
      exact hlive (hclear m w hplace)
    | free | launching | stopping | fetching => simp [hplace, Caller.Awaits] at hm

/-- A start takes the link, while no stop of its streamer waits for a thread. -/
theorem claim (h : c.Accounted) {n i : Nat} {name : String} {p : Program}
    {previous : Option Nat} (hn : c.callers n = .admitted i name p previous)
    (hprevious : ∀ w ∈ previous, c.IsGone w)
    (hclear : ∀ m w, c.callers m = .joining i (some w) → c.IsGone w) :
    (c.place n (.launching i name p)).Accounted := by
  have hstarts : ∀ m k, ((c.place n (.launching i name p)).callers m).starts? = some k →
      (c.callers m).starts? = some k := by
    intro m k hm
    by_cases hmn : m = n
    · rw [hmn, callers_place_self] at hm
      rw [hmn, hn, ← hm]
      rfl
    · rwa [callers_place_of_ne _ _ hmn] at hm
  exact {
    fresh := h.fresh
    one := fun m m' k hm hm' => h.one m m' k (hstarts m k hm) (hstarts m' k hm')
    locked := fun m k hm => h.locked m k (hstarts m k hm)
    handle := h.handle
    kept := by
      intro w hw
      refine (h.kept w hw).imp_right (Exists.imp fun m hm => ?_)
      -- the caller waited for the thread before, which has ended, so somebody else waits for this
      -- one
      have hmn : m ≠ n := by
        rintro rfl
        rw [hn] at hm
        exact hw (hprevious w hm.2)
      rwa [callers_place_of_ne _ _ hmn]
    alone := by
      intro m k other q hm w hw
      by_cases hmn : m = n
      · rw [hmn, callers_place_self] at hm
        obtain rfl : i = k := by injection hm
        exact h.gone_of_admitted hn hprevious hclear hw
      · exact h.alone m k other q (by rwa [callers_place_of_ne _ _ hmn] at hm) w hw
    alive := h.alive
    single := h.single }

/-- A start launches its job. -/
theorem launch (h : c.Accounted) {n i : Nat} {name : String} {p : Program}
    (hn : c.callers n = .launching i name p) :
    ((c.launch i name p).place n .free).Accounted := by
  have hstart : (c.callers n).starts? = some i := by rw [hn]; rfl
  -- the caller had the lock alone, so whoever still has one has that of another streamer
  have hstarts : ∀ m k, (((c.launch i name p).place n .free).callers m).starts? = some k →
      (c.callers m).starts? = some k ∧ k ≠ i := by
    intro m k hm
    by_cases hmn : m = n
    · rw [hmn, callers_place_self] at hm
      cases hm
    · rw [callers_place_of_ne _ _ hmn] at hm
      exact ⟨hm, fun hki => hmn (h.one m n i (hki ▸ hm) hstart)⟩
  have hself : ((c.launch i name p).place n .free).streamers i =
      { snapshot := (Job.launch name p).snapshot, alive := true, handle := some c.hired } := by
    simp [Crew.place, Crew.launch]
  have hsame : ∀ k, k ≠ i → ((c.launch i name p).place n .free).streamers k = c.streamers k := by
    intro k hk
    simp [Crew.place, Crew.launch, hk]
  have hnew : (((c.launch i name p).place n .free).workers c.hired).streamer = i := by
    simp [Crew.place, Crew.launch]
  have hold : ∀ w, w ≠ c.hired →
      ((c.launch i name p).place n .free).workers w = c.workers w := by
    intro w hw
    simp [Crew.place, Crew.launch, hw]
  -- an old thread that has not ended is one of another streamer
  have hlive : ∀ w, w ≠ c.hired → ¬ ((c.launch i name p).place n .free).IsGone w →
      ¬ c.IsGone w ∧ (c.workers w).streamer ≠ i := by
    intro w hwn hw
    rw [IsGone, hold w hwn] at hw
    exact ⟨hw, fun hwi => hw (h.alone n i name p hn w hwi)⟩
  exact {
    fresh := by
      intro w hw
      have hw' : c.hired + 1 ≤ w := hw
      rw [IsGone, hold w (by omega)]
      exact h.fresh w (by omega)
    one := fun m m' k hm hm' => h.one m m' k (hstarts m k hm).1 (hstarts m' k hm').1
    locked := by
      intro m k hm
      obtain ⟨hm', hki⟩ := hstarts m k hm
      rw [hsame k hki]
      exact h.locked m k hm'
    handle := by
      intro k hk
      by_cases hki : k = i
      · rw [hki, hself] at hk
        cases hk
      · rw [hsame k hki] at hk ⊢
        exact h.handle k hk
    kept := by
      intro w hw
      by_cases hwn : w = c.hired
      · rw [hwn, hnew, hself]
        exact .inl rfl
      · obtain ⟨hlive', hwi⟩ := hlive w hwn hw
        rw [hold w hwn, hsame _ hwi]
        refine (h.kept w hlive').imp_right (Exists.imp fun m hm => ?_)
        have hmn : m ≠ n := by
          rintro rfl
          rw [hn] at hm
          exact hm
        rwa [callers_place_of_ne _ _ hmn]
    alone := by
      intro m k other q hm w hw
      have hki := (hstarts m k (by rw [hm]; rfl)).2
      have hmn : m ≠ n := by
        rintro rfl
        rw [callers_place_self] at hm
        cases hm
      rw [callers_place_of_ne _ _ hmn] at hm
      have hwn : w ≠ c.hired := by
        rintro rfl
        exact hki (hw.symm.trans hnew)
      rw [hold w hwn] at hw
      rw [IsGone, hold w hwn]
      exact h.alone m k other q hm w hw
    alive := by
      intro w hw
      by_cases hwn : w = c.hired
      · rw [hwn, hnew, hself]
      · obtain ⟨hlive', hwi⟩ := hlive w hwn hw
        rw [hold w hwn, hsame _ hwi]
        exact h.alive w hlive'
    single := by
      intro w v hw hv hwv
      by_cases hwn : w = c.hired <;> by_cases hvn : v = c.hired
      · rw [hwn, hvn]
      · rw [hwn, hnew, hold v hvn] at hwv
        exact absurd hwv.symm (hlive v hvn hv).2
      · rw [hvn, hnew, hold w hwn] at hwv
        exact absurd hwv (hlive w hwn hw).2
      · rw [hold w hwn, hold v hvn] at hwv
        exact h.single w v (hlive w hwn hw).1 (hlive v hvn hv).1 hwv }

/-- The thread of a job makes a move. -/
theorem work (h : c.Accounted) {w : Nat} {a : Act} (hmove : a.isWork = true)
    (hfit : a.Fits (c.job w)) : (c.work w a).Accounted := by
  have hlive : ¬ c.IsGone w := 
    of_decide_eq_true (Act.isAlive_of_isWork hmove hfit)
  -- a thread that has ended makes no move, so none comes back
  have hbefore : ∀ v, ¬ (c.work w a).IsGone v → ¬ c.IsGone v := by
    intro v hv
    by_cases hvw : v = w
    · rwa [hvw]
    · simpa [IsGone, Crew.work, hvw] using hv
  have hhands : ∀ k, ((c.work w a).streamers k).locked = (c.streamers k).locked ∧
      ((c.work w a).streamers k).handle = (c.streamers k).handle := by
    intro k
    by_cases hk : k = (c.workers w).streamer <;> simp [Crew.work, hk]
  exact {
    fresh := fun v hv => Decidable.byContradiction fun hend => hbefore v hend (h.fresh v hv)
    one := h.one
    locked := fun n k hn => (hhands k).1.trans (h.locked n k hn)
    handle := fun k hk => (hhands k).2.trans (h.handle k ((hhands k).1.symm.trans hk))
    kept := by
      intro v hv
      rw [streamer_work]
      exact (h.kept v (hbefore v hv)).imp_left ((hhands _).2.trans ·)
    alone := by
      intro n i name p hn v hv
      rw [streamer_work] at hv
      exact Decidable.byContradiction fun hend => hbefore v hend (h.alone n i name p hn v hv)
    alive := by
      intro v hv
      have hbase := h.alive v (hbefore v hv)
      rw [streamer_work]
      by_cases hvw : (c.workers v).streamer = (c.workers w).streamer
      · -- the streamer has no other thread, so it is this one, and it has not ended
        obtain rfl := h.single v w (hbefore v hv) hlive hvw
        have hstage : (a.onJob (c.job v)).stage ≠ .gone := by
          simpa [IsGone, Crew.work] using hv
        simp [Crew.work, hbase, Job.isAlive, hstage]
      · simpa [Crew.work, hvw] using hbase
    single := by
      intro v v' hv hv' hsame
      rw [streamer_work, streamer_work] at hsame
      exact h.single v v' (hbefore v hv) (hbefore v' hv') hsame }

/-- What happens while no start takes the link for a streamer of which a stop still waits for
a thread. -/
theorem next (h : c.Accounted) {d : Deed} (hd : c.ClearOfJoins d) (hstep : c.Steps d c') :
    c'.Accounted := by
  cases hstep with
  | idles => exact h
  | turns n i call s hs => exact h.share i s
  | admits n i name p hn hlock =>
    refine h.take ?_ (fun m _ => h.starts?_ne hlock m) ?_ (by simp) ?_
    · simp [hn, Caller.Awaits]
    · simp [Caller.starts?, eq_comm]
    · exact fun w hw => ⟨rfl, hw⟩
  | marks n i s hn hs =>
    exact (h.share i s).place rfl fun k w hw => by simp [Crew.share, hn, Caller.Awaits] at hw
  | passes n i hn => exact h.place rfl fun k w hw => by simp [hn, Caller.Awaits] at hw
  | claims n i name p previous hn hprevious hfree =>
    have hclaim := h.claim hn hprevious (hd i (by simp [claims?, hn, hfree]))
    exact { hclaim with }
  | loses n i name p previous hn hprevious =>
    -- who loses the link still has the lock, so the streamer has no handle to pass on
    have hstart : (c.callers n).starts? = some i := by rw [hn]; rfl
    refine h.take ?_ (fun m hm hm' => hm (h.one m n i hm' hstart)) (by simp [Caller.starts?])
      (by simp) ?_
    · rintro k w hw
      rw [hn] at hw
      exact hprevious w hw.2
    · intro w hw
      rw [h.handle i (h.locked n i hstart)] at hw
      cases hw
  | launches n i name p hn => exact h.launch hn
  | cancels n i hn =>
    have hplace : (c.place n (.fetching i)).Accounted :=
      h.place rfl fun k w hw => by simp [hn, Caller.Awaits] at hw
    exact { hplace with }
  | fetches n i hn hlock =>
    refine h.take ?_ (fun m _ => h.starts?_ne hlock m) (by simp [Caller.starts?])
      (by simp) ?_
    · simp [hn, Caller.Awaits]
    · exact fun w hw => ⟨rfl, hw⟩
  | leaves n i thread hn hthread halive =>
    refine h.place rfl fun k w hw => ?_
    rw [hn] at hw
    exact hthread w hw.2
  | works w a hmove hjob hlets hfit => exact h.work hmove hfit
  | changes link => exact { h with }

/-- In a new crew no thread has been started. -/
theorem new : Accounted {} where
  fresh _ _ := rfl
  one n m i hn := by cases hn
  locked n i hn := by cases hn
  handle i hi := by cases hi
  kept _ hw := absurd rfl hw
  alone n i name p hn := by cases hn
  alive _ hw := absurd rfl hw
  single _ _ hw := absurd rfl hw

end Accounted

end Crew

end GcodeSender
