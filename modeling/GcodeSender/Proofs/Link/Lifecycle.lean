import GcodeSender.Proofs.Link.Footing
import GcodeSender.Proofs.Session.Reports

/-!
# `GcodeSender.Proofs.Link.Lifecycle`: the life of a connection

At rest, and while no write hangs, the link is disconnected, connected or lost, and all
that can be seen of a connection agrees. The signs that the journal gives of it lead,
read from first to last, to the state that the link is in (`Session.IsTold`).

* `Takes.balanced`: a reader that was started and has not ended is there, in every turn.
* `lost_perform`: only a call to connect that fails leaves the link lost.
* `Takes.isTold`: a turn gives the signs of what it does to the state.
* `link_lifecycle`: what follows for sessions.

The signs are not always in order. An observer may disconnect when it is told of a fault,
from the thread of the reader; then the reader ends a connection that has ended. It first
makes the state faulted, whatever it is, and so reports the end a second time
(`hastyObserver_disconnects_twice`).
-/

set_option autoImplicit false

namespace GcodeSender

namespace Link

/-! ### What the signs exclude -/

namespace Sign

variable {state last : ConnectionState} {signs : List Sign}

/-- The first sign is read first. -/
theorem told?_cons (state : ConnectionState) (sign : Sign) (signs : List Sign) :
    told? state (sign :: signs) = (tell? state sign).bind (told? · signs) := by
  rw [told?, List.foldlM_cons]
  rfl

/-- No change of state that does not belong to the life of a connection leads anywhere. -/
theorem not_unexpected_of_told? (h : told? state signs = some last) : unexpected ∉ signs := by
  induction signs generalizing state with
  | nil => simp
  | cons sign signs ih =>
    obtain ⟨next, hsign, hrest⟩ := Option.bind_eq_some_iff.mp ((told?_cons _ _ _).symm.trans h)
    have hne : sign ≠ unexpected := by
      rintro rfl
      cases state <;> cases hsign
    simpa [hne.symm] using ih hrest

/-- A connection lasts until it is reported as ended. -/
theorem told?_connected (h : told? .connected signs = some last)
    (hsigns : disconnected ∉ signs) : last = .connected := by
  induction signs with
  | nil => exact (Option.some.inj h).symm
  | cons sign signs ih =>
    obtain ⟨next, hsign, hrest⟩ := Option.bind_eq_some_iff.mp ((told?_cons _ _ _).symm.trans h)
    obtain ⟨hne, hmore⟩ := not_or.mp (mt List.mem_cons.mpr hsigns)
    cases sign with
    | started | stopped =>
      obtain rfl := Option.some.inj hsign
      exact ih hrest hmore
    | disconnected => exact absurd rfl hne
    | connected | failed | unexpected => cases hsign

/-- Once it was reported as ended, a connection stays so until the next call to connect. -/
theorem told?_disconnected (h : told? .disconnected signs = some last)
    (hmade : connected ∉ signs) (hfailed : failed ∉ signs) : last = .disconnected := by
  -- on the signs: those that would report another state are not among them
  induction signs with
  | nil => exact (Option.some.inj h).symm
  | cons sign signs ih =>
    obtain ⟨next, hsign, hrest⟩ := Option.bind_eq_some_iff.mp ((told?_cons _ _ _).symm.trans h)
    obtain ⟨hne, hmore⟩ := not_or.mp (mt List.mem_cons.mpr hmade)
    obtain ⟨hne', hmore'⟩ := not_or.mp (mt List.mem_cons.mpr hfailed)
    cases sign with
    | started | stopped =>
      obtain rfl := Option.some.inj hsign
      exact ih hrest hmore hmore'
    | connected => exact absurd rfl hne
    | failed => exact absurd rfl hne'
    | disconnected | unexpected => cases hsign

/-- Two signs, with others before, between and after them, are told in turn. -/
theorem told?_split {before between after : List Sign} {first second : Sign}
    (h : told? state (before ++ first :: (between ++ second :: after)) = some last) :
    ∃ s₀ s₁ s₂, tell? s₀ first = some s₁ ∧ told? s₁ between = some s₂ ∧
      (tell? s₂ second).isSome = true := by
  rw [told?_append] at h
  obtain ⟨s₀, -, h⟩ := Option.bind_eq_some_iff.mp h
  rw [told?_cons] at h
  obtain ⟨s₁, hfirst, h⟩ := Option.bind_eq_some_iff.mp h
  rw [told?_append] at h
  obtain ⟨s₂, hbetween, h⟩ := Option.bind_eq_some_iff.mp h
  rw [told?_cons] at h
  obtain ⟨s₃, hsecond, -⟩ := Option.bind_eq_some_iff.mp h
  exact ⟨s₀, s₁, s₂, hfirst, hbetween, by rw [hsecond]; rfl⟩

/-- Between two connections, the first was reported as ended. -/
theorem disconnected_between {before between after : List Sign}
    (h : told? state (before ++ connected :: (between ++ connected :: after)) = some last) :
    disconnected ∈ between := by
  obtain ⟨s₀, s₁, s₂, hfirst, hbetween, hsecond⟩ := told?_split h
  obtain rfl : s₁ = .connected := by cases s₀ <;> cases hfirst <;> rfl
  by_contra hnot
  rw [told?_connected hbetween hnot] at hsecond
  cases hsecond

/-- Between two reports that a connection has ended, there was a call to connect. -/
theorem connected_between {before between after : List Sign}
    (h : told? state (before ++ disconnected :: (between ++ disconnected :: after)) = some last) :
    connected ∈ between ∨ failed ∈ between := by
  obtain ⟨s₀, s₁, s₂, hfirst, hbetween, hsecond⟩ := told?_split h
  obtain rfl : s₁ = .disconnected := by cases s₀ <;> cases hfirst <;> rfl
  by_contra hnot
  obtain ⟨hmade, hfailed⟩ := not_or.mp hnot
  rw [told?_disconnected hbetween hmade hfailed] at hsecond
  cases hsecond

end Sign

/-- Only what was lost before can shift to what is lost. -/
theorem Standing.Shift.eq_of_lost {hanging : Bool} {hasty : Prop} {x y : Standing}
    (h : Standing.Shift hanging hasty x y) (hy : y = .lost y.signs) : y = x := by
  cases h with
  | stay => rfl
  | ended | odd => cases congrArg Standing.state hy
  | broken _ hbroken =>
    obtain ⟨w, hw, -⟩ := hbroken.2
    rw [hy] at hw
    cases hw

end Link

namespace Session

open GcodeSender.Link (Standing Sign)
open GcodeSender.Link.Standing (Footing Shift Balanced)

/-! ### Readers -/

/-- A reader that was started and has not ended is there. -/
theorem Takes.balanced {s next : Session} {t : Turn} (h : s.Takes t next) (hs : s.Stands)
    (hbal : s.standing.Balanced) : next.standing.Balanced := by
  cases hopens : t.opens with
  | true =>
    cases t with
    | opening => exact (h.opened hs).2.1 hbal
    | _ => cases hopens
  | false =>
    have hshift := h.shift hs hopens
    generalize next.standing = y at hshift ⊢
    cases hshift with
    | stay => exact hbal
    | ended signs _ hreaders | odd signs _ hreaders | broken _ _ hreaders => exact hreaders hbal

/-- So it is wherever turns lead. -/
theorem Leads.balanced {K : Turn → Bool} {s last : Session} (h : Leads K s last) (hs : s.Stands)
    (hbal : s.standing.Balanced) : last.standing.Balanced :=
  (h.invariant (P := fun s => s.Stands ∧ s.standing.Balanced) ⟨hs, hbal⟩
    fun _ _ _ htakes _ hbefore =>
      ⟨htakes.footing hbefore.1, htakes.balanced hbefore.1 hbefore.2⟩).2

/-! ### What was lost -/

/-- The last call to connect has failed, and the link was left so. -/
def IsLost (s : Session) : Prop := s.standing = .lost s.standing.signs

/-- A call that may open a port. -/
def Step.connects : Step → Bool
  | .connect _ _ | .within _ _ _ _ => true
  | _ => false

/-- Without such a call, no port is opened. -/
theorem Step.opens_of_turns {step : Step} (h : step.connects = false) (t : Turn)
    (ht : step.turns t = true) : t.opens = false := by
  cases t with
  | opening => cases step <;> simp_all [turns, Turn.isRunning, connects]
  | _ => rfl

/-- A link that is lost says that it is faulted. -/
theorem IsLost.state {s : Session} (h : s.IsLost) : s.standing.state = .faulted := by
  rw [h]
  rfl

/-- What is lost after turns that open no port was lost before them. -/
theorem Leads.lost {K : Turn → Bool} (hK : ∀ t, K t = true → t.opens = false)
    {s last : Session} (h : Leads K s last) (hs : s.Stands) (hlost : last.IsLost) :
    s.IsLost := by
  by_contra hnot
  refine (h.invariant (P := fun s => s.Stands ∧ ¬s.IsLost) ⟨hs, hnot⟩ ?_).2 hlost
  rintro s next t htakes ht ⟨hs, hnot⟩
  refine ⟨htakes.footing hs, fun hnext => hnot ?_⟩
  rw [IsLost, ← (htakes.shift hs (hK t ht)).eq_of_lost hnext]
  exact hnext

/-- A connection that is taken down is not left lost. -/
theorem not_isLost_disconnect (s : Session) : ¬(s.disconnect .caller).IsLost := by
  intro h
  have hstate := h.state
  obtain ⟨signs, hdown⟩ := (s.standing.stopReader false).becomeDisconnected_shut
  rw [Session.disconnect, standing_teardown, Standing.teardown,
    show decide (Thread.caller = .reader) = false by decide, hdown] at hstate
  cases hstate

/-- A port that is opened leaves the link lost only if that is the result. -/
theorem error_of_isLost_openPort {s : Session} {port : String} {baud : UInt32}
    (h : (s.openPort .caller port baud).2.IsLost) :
    ∃ e, (s.openPort .caller port baud).1 = .error e := by
  rcases standing_openPort s .caller port baud with hstart | ⟨herror, -⟩
  · have hstate := h.state
    rw [hstart, Standing.beginReading] at hstate
    cases hstate
  · exact herror

/-- A call to connect that leaves the link lost has failed. -/
theorem error_of_isLost_connect {s : Session} {port : String} {baud : UInt32}
    (h : (s.connect .caller port baud).2.IsLost) :
    ∃ e, (s.connect .caller port baud).1 = .error e := by
  unfold connect at h ⊢
  cases hon : s.link.state.isConnected with
  | false =>
    simp only [hon, Bool.false_eq_true, if_false] at h ⊢
    exact error_of_isLost_openPort h
  | true =>
    simp only [hon, if_true] at h ⊢
    split at h
    · -- the connection stays as it is
      have hstate : s.link.state = .faulted := h.state
      rw [hstate] at hon
      cases hon
    · rename_i hport
      rw [if_neg hport]
      exact error_of_isLost_openPort h

/-- A call to connect leaves the link lost only if it fails. No other call that makes a
connection or ends one does, and all others leave lost what was lost. -/
theorem lost_perform {s : Session} (hcalm : s.core.Calm) (hs : s.Stands) {step : Step}
    (h : (s.perform step).2.IsLost) :
    (∃ port baud e, step = .connect port baud ∧ (s.perform step).1 = .link (.error e)) ∨
      step.connects = false ∧ step ≠ .disconnect ∧ s.IsLost := by
  unfold perform at h ⊢
  cases hwaits : step.waits s with
  | true =>
    right
    simp only [hwaits, if_true] at h
    -- a link that was lost holds up no call
    have hfree : s.isHanging = false := by
      cases hs with
      | up hup => rw [IsLost, hup] at h; cases congrArg Standing.state h
      | down hdown => rw [IsLost, hdown] at h; cases congrArg Standing.state h
      | lost _ hfree => exact hfree
      | broken hbroken =>
        obtain ⟨w, hw, -⟩ := hbroken.2
        rw [h] at hw
        cases hw
    cases step with
    | connect | disconnect | within => simp [Step.waits, hfree] at hwaits
    | _ => exact ⟨rfl, by simp, h⟩
  | false =>
    simp only [hwaits, Bool.false_eq_true, if_false] at h ⊢
    have hact := act_leads hcalm hs step hwaits
    have hlost : (s.act step).2.IsLost :=
      (settle_leads (s.act step).2).lost (fun _ => Turn.not_opens_of_isRunning) (hact.stands hs) h
    have hbefore : step.connects = false → s.IsLost := fun hstep =>
      hact.lost (Step.opens_of_turns hstep) hs hlost
    cases step with
    | connect port baud =>
      obtain ⟨e, he⟩ := error_of_isLost_connect hlost
      exact .inl ⟨port, baud, e, rfl, by simp only [act, he]⟩
    | disconnect => exact absurd hlost (not_isLost_disconnect s)
    | within port baud lines failure =>
      exfalso
      revert hlost
      simp only [act, within]
      split <;> exact not_isLost_disconnect _
    | _ => exact .inr ⟨rfl, by simp, hbefore rfl⟩

/-- If the link is lost after some steps, the last of them that makes a connection or ends one
is a call to connect that has failed. -/
theorem lost_after {s : Session} (hnew : s.IsNew) (steps : List Step)
    (h : (s.after steps).IsLost) :
    ∃ before port baud e later, steps = before ++ .connect port baud :: later ∧
      ((s.after before).perform (.connect port baud)).1 = .link (.error e) ∧
      ∀ step ∈ later, step.connects = false ∧ step ≠ .disconnect := by
  -- on the last step: it is the call that is looked for, or the link was lost before it
  induction steps using List.reverseRecOn with
  | nil =>
    have hstate := h.state
    simp [after, standing, hnew.link] at hstate
  | append_singleton steps step ih =>
    have hlast : s.after (steps ++ [step]) = ((s.after steps).perform step).2 := by simp [after]
    rw [hlast] at h
    rcases lost_perform (calm_after hnew.calm steps) (stands_after hnew.calm hnew.stands steps) h
      with ⟨port, baud, e, rfl, herror⟩ | ⟨hstep, hstep', hlost⟩
    · exact ⟨steps, port, baud, e, [], rfl, herror, by simp⟩
    · obtain ⟨before, port, baud, e, later, rfl, herror, hlater⟩ := ih hlost
      refine ⟨before, port, baud, e, later ++ [step], by simp, herror, fun other hother => ?_⟩
      rcases List.mem_append.mp hother with hother | hother
      · exact hlater other hother
      · rw [List.mem_singleton.mp hother]
        exact ⟨hstep, hstep'⟩

/-! ### What the signs tell -/

/-- The signs so far lead to the state that the link is in. -/
def IsTold (s : Session) : Prop :=
  Sign.told? .disconnected s.standing.signs = some s.standing.state

/-- At most one write hangs, and while it does the connection stands. -/
structure Steady (s : Session) : Prop where
  one : ∀ i k, (s.job i).isHanging = true → (s.job k).isHanging = true → i = k
  connected : s.isHanging = true → s.link.state = .connected

/-- Where no write hangs, the link is steady. -/
theorem steady_of_free {s : Session} (hfree : s.isHanging = false) : s.Steady where
  one i _ hi := absurd (hfree.symm.trans (s.isHanging_iff.mpr ⟨i, hi⟩)) (by decide)
  connected hhang := absurd (hfree.symm.trans hhang) (by decide)

/-- A turn gives the signs of what it does, if it lets go no write, and the observer does not
disconnect on a fault. What is reported of a connection that has ended while a write hangs is
left open. -/
theorem Takes.isTold {s next : Session} {t : Turn} (h : s.Takes t next)
    (hletGo : ∀ i, t ≠ .letGo i) (hs : s.Stands) (hhasty : ¬s.IsHasty)
    (htold : s.isHanging = true ∧ s.link.state ≠ .connected ∨ s.IsTold) :
    next.isHanging = true ∧ next.link.state ≠ .connected ∨ next.IsTold := by
  have hmore : s.IsTold → ∀ signs,
      Sign.told? s.standing.state signs = some next.standing.state →
      next.standing.signs = s.standing.signs ++ signs → next.IsTold := by
    intro htold signs hsigns hnext
    rw [IsTold, hnext, Sign.told?_append, htold]
    exact hsigns
  cases hhang : s.isHanging with
  | false =>
    right
    replace htold : s.IsTold := htold.resolve_left (by simp [hhang])
    replace hmore := hmore htold
    cases hopens : t.opens with
    | true =>
      cases t with
      | opening =>
        obtain ⟨-, -, signs, hsigns, hup | hlost⟩ := h.opened hs
        · exact hmore signs hsigns (by rw [hup]; rfl)
        · exact hmore signs hsigns (by rw [hlost]; rfl)
      | _ => cases hopens
    | false =>
      have hshift := h.shift hs hopens
      generalize next.standing = y at hshift hmore
      cases hshift with
      | stay => exact hmore [] rfl (by simp)
      | ended signs hsigns => exact hmore signs hsigns rfl
      | odd signs hodd =>
        -- it takes an observer that disconnects on a fault, or a write that hangs
        exact absurd hodd (by simp [hhang, hhasty])
      | broken hbroken => exact absurd (hhang.symm.trans hbroken) (by decide)
  | true =>
    by_cases hon : next.link.state = .connected
    · -- the connection still stands, so nothing has happened to it
      right
      have hopens : t.opens = false := by
        cases h with
        | opening _ hfree => rw [hhang] at hfree; cases hfree
        | _ => rfl
      have hstate : next.standing.state = .connected := hon
      have hshift := h.shift hs hopens
      generalize hy : next.standing = y at hshift hmore hstate
      cases hshift with
      | stay =>
        refine hmore (htold.resolve_left fun hoff => hoff.2 hstate) [] rfl (by simp)
      | ended | odd => cases hstate
      | broken _ hbroken =>
        rcases hbroken.1 with hoff | hoff <;> (rw [hoff] at hstate; cases hstate)
    · -- the write is not let go in this turn, so it hangs on beside a connection that has ended
      left
      obtain ⟨i, hi⟩ := s.isHanging_iff.mp hhang
      exact ⟨next.isHanging_iff.mpr ⟨i, h.isHanging hi (hletGo i)⟩, hon⟩

/-- On a connection that stands, a write that is let go is taken, or ends the connection. -/
theorem letGoJob_of_up {s : Session} (hup : s.standing = .up s.standing.signs)
    (hhasty : ¬s.IsHasty) (i : Nat) :
    (s.letGoJob i).standing = s.standing ∨
      (s.letGoJob i).standing = .down (s.standing.signs ++ [.stopped, .disconnected]) := by
  rcases s.letGoJob_cases i with ⟨-, hsame⟩ | ⟨line, rest, -, free, -, hfree, hletGo⟩
  · exact .inl (by rw [hsame])
  -- before the write returns, only a reader that was closing might end, and there is none
  · have hbefore : free.standing = s.standing := by
      rcases hfree with ⟨rfl, -⟩ | ⟨rfl, r, hr, hclosing⟩
      · rfl
      · have hreader : s.standing.reader = some r.watch := by simp [standing, hr]
        rw [hup] at hreader
        rw [← show r.watch.closing = r.closing from rfl, ← Option.some.inj hreader] at hclosing
        cases hclosing
    rw [hletGo, standing_jobWritten, ← hbefore]
    rcases standing_afterDelivery free .streamer line (s.device.letGo rest).1 with
      hafter | ⟨x, hx, hafter⟩
    · exact .inl hafter
    · right
      -- that end, too, would leave an observer as calm as it was
      have hcalm : ¬free.IsHasty := by
        rcases hfree with ⟨rfl, -⟩ | ⟨rfl, -⟩
        · exact hhasty
        · rintro ⟨t, ht⟩
          have hadds := adds_closeAfterFault { s with device := (s.device.letGo rest).2 }
          exact hhasty ⟨t, hadds.rules _ ht⟩
      rw [hafter, hx.of_calm hcalm, hbefore,
        show decide (Thread.streamer = .reader) = false by decide]
      generalize s.standing = x at hup ⊢
      rw [hup, Standing.teardown_faulted_up]
      rfl

/-- A write of a job is let go, and the signs of what comes of it are given. If it hung, it was
the only one, and none hangs after it. -/
theorem steady_letGoJob {s : Session} (hs : s.Stands) (hhasty : ¬s.IsHasty) (hsteady : s.Steady)
    (htold : s.IsTold) (i : Nat) : (s.letGoJob i).Steady ∧ (s.letGoJob i).IsTold := by
  cases hhang : (s.job i).isHanging with
  | false =>
    rcases s.letGoJob_cases i with ⟨-, hsame⟩ | ⟨line, rest, hstage, -⟩
    · rw [hsame]
      exact ⟨hsteady, htold⟩
    · rw [Job.isHanging, hstage] at hhang
      cases hhang
  | true =>
    have hfree : (s.letGoJob i).isHanging = false := by
      refine eq_false_of_ne_true fun hother => ?_
      -- another write that hangs would have hung before, beside this one
      obtain ⟨k, hk⟩ := (s.letGoJob i).isHanging_iff.mp hother
      obtain ⟨hbefore, hne⟩ := isHanging_letGoJob hk
      exact hne (hsteady.one i k hhang hbefore)
    refine ⟨steady_of_free hfree, ?_⟩
    have hstate : s.standing.state = .connected :=
      hsteady.connected (s.isHanging_iff.mpr ⟨i, hhang⟩)
    have hup : s.standing = .up s.standing.signs :=
      up_of_connected hs (by rw [show s.link.state = .connected from hstate]; rfl)
    rcases letGoJob_of_up hup hhasty i with hsame | hdown
    · rw [IsTold, hsame]
      exact htold
    -- the two signs of the end are the last ones, and tell of the state that it leaves
    · rw [IsTold, hdown]
      show Sign.told? .disconnected (s.standing.signs ++ [.stopped, .disconnected]) = _
      rw [Sign.told?_append, htold, hstate]
      rfl

/-- The observer goes on not to disconnect on a fault. -/
theorem Takes.not_isHasty {s next : Session} {t : Turn} (h : s.Takes t next)
    (ht : ∀ teller, t ≠ .arm (.disconnectOn "Error" teller)) (hhasty : ¬s.IsHasty) :
    ¬next.IsHasty := by
  rintro ⟨teller, hnext⟩
  by_cases harm : ∃ rule, t = .arm rule
  · obtain ⟨rule, rfl⟩ := harm
    cases h with
    | arm =>
      rcases List.mem_append.mp
        (show Rule.disconnectOn "Error" teller ∈ s.rules ++ [rule] from hnext) with hold | hnew
      · exact hhasty ⟨teller, hold⟩
      · exact ht teller (by rw [List.mem_singleton.mp hnew])
  · exact hhasty ⟨teller, h.rules (fun rule hrule => harm ⟨rule, hrule⟩) _ hnext⟩

/-- The one write that hangs is let go, and the signs of what comes of it are given. -/
theorem isTold_letGo {s : Session} (hs : s.Stands) (hhasty : ¬s.IsHasty) (hsteady : s.Steady)
    (htold : s.IsTold) : s.letGo.IsTold := by
  have hfold : ∀ (l : List Nat) (s : Session), s.Stands → ¬s.IsHasty → s.Steady → s.IsTold →
      (l.foldl letGoJob s).IsTold := by
    intro l
    induction l with
    | nil => exact fun _ _ _ _ htold => htold
    | cons i l ih =>
      intro s hs hhasty hsteady htold
      obtain ⟨hsteady', htold'⟩ := steady_letGoJob hs hhasty hsteady htold i
      exact ih _ ((Takes.letGo i).footing hs) ((Takes.letGo i).not_isHasty (by simp) hhasty)
        hsteady' htold'
  exact hfold _ s hs hhasty hsteady htold

/-- As long as nobody arms it, the observer does not disconnect when it is told of a fault. -/
theorem Leads.not_isHasty {K : Turn → Bool} {s last : Session} (h : Leads K s last)
    (hK : ∀ t, K t = true → ∀ teller, t ≠ .arm (.disconnectOn "Error" teller))
    (hhasty : ¬s.IsHasty) : ¬last.IsHasty :=
  h.invariant hhasty fun _ _ t htakes ht hbefore => htakes.not_isHasty (hK t ht) hbefore

/-- Then all that happens to the connection has been told. -/
theorem Leads.isTold {K : Turn → Bool} {s last : Session} (h : Leads K s last)
    (hK : ∀ t, K t = true →
      (∀ teller, t ≠ .arm (.disconnectOn "Error" teller)) ∧ ∀ i, t ≠ .letGo i)
    (hs : s.Stands) (hhasty : ¬s.IsHasty) (htold : s.IsTold) (hsteady : last.Steady) :
    last.IsTold := by
  have hlast := (h.invariant
    (P := fun s => s.Stands ∧ ¬s.IsHasty ∧
      (s.isHanging = true ∧ s.link.state ≠ .connected ∨ s.IsTold))
    ⟨hs, hhasty, .inr htold⟩ fun _ _ t htakes ht hbefore =>
      ⟨htakes.footing hbefore.1, htakes.not_isHasty (hK t ht).1 hbefore.2.1,
        htakes.isTold (hK t ht).2 hbefore.1 hbefore.2.1 hbefore.2.2⟩).2.2
  exact hlast.resolve_left fun hoff => hoff.2 (hsteady.connected hoff.1)

/-- A step from a steady session to a steady session gives the signs of what it does. -/
theorem isTold_perform {s : Session} (hcalm : s.core.Calm) (hs : s.Stands) (hhasty : ¬s.IsHasty)
    (htold : s.IsTold) {step : Step}
    (hstep : ∀ teller, step ≠ .arm (.disconnectOn "Error" teller))
    (hsteady : s.Steady) (hsteady' : (s.perform step).2.Steady) :
    ¬(s.perform step).2.IsHasty ∧ (s.perform step).2.IsTold := by
  have harm : ∀ t, step.turns t = true → ∀ teller, t ≠ .arm (.disconnectOn "Error" teller) := by
    rintro t ht teller rfl
    cases step with
    | arm rule =>
      have hrule : Rule.disconnectOn "Error" teller = rule := by
        simpa [Step.turns, Turn.isRunning] using ht
      exact hstep teller (by rw [hrule])
    | _ => simp [Step.turns, Turn.isRunning] at ht
  refine ⟨(perform_leads hcalm hs step).not_isHasty harm hhasty, ?_⟩
  by_cases hletGo : step = .letGo
  · -- it is the one write that hangs that is let go, which the turns alone do not say
    subst hletGo
    have hleads := act_leads hcalm hs .letGo rfl
    refine (settle_leads s.letGo).isTold (fun t ht => ?_) (hleads.stands hs)
      (hleads.not_isHasty harm hhasty) (isTold_letGo hs hhasty hsteady htold) hsteady'
    cases t with
    | letGo | arm => cases ht
    | _ => exact ⟨by simp, by simp⟩
  · refine (perform_leads hcalm hs step).isTold (fun t ht => ⟨harm t ht, ?_⟩) hs hhasty htold
      hsteady'
    rintro i rfl
    cases step <;> simp_all [Step.turns, Turn.isRunning]

/-- As long as no connection ends while a write hangs, and the observer does not disconnect on
a fault, the signs lead to the state. -/
theorem isTold_after {s : Session} (hcalm : s.core.Calm) (hs : s.Stands) (hhasty : ¬s.IsHasty)
    (htold : s.IsTold) {steps : List Step}
    (hsteps : ∀ step ∈ steps, ∀ t, step ≠ .arm (.disconnectOn "Error" t))
    (hsteady : ∀ n, (s.after (steps.take n)).Steady) : (s.after steps).IsTold := by
  induction steps generalizing s with
  | nil => exact htold
  | cons step steps ih =>
    have hsteady' : ∀ n, ((s.perform step).2.after (steps.take n)).Steady :=
      fun n => hsteady (n + 1)
    obtain ⟨hhasty', htold'⟩ := isTold_perform hcalm hs hhasty htold (hsteps step (by simp))
      (hsteady 0) (hsteady' 0)
    exact ih (perform_goes s step hcalm).2 ((perform_leads hcalm hs step).stands hs) hhasty' htold'
      (fun other hother => hsteps other (List.mem_cons_of_mem _ hother)) hsteady'

/-! ### The life of a connection -/

/-- The life of a connection, from a new link and an empty journal, after any steps:

* while no write hangs, the link is disconnected, connected or faulted. It is connected if
  and only if a transport is held, if and only if the slot is open, and if and only if there
  is a reader. It is faulted only if the last step that makes a connection or ends one is a
  call to connect that has failed;
* whether or not a write hangs, as many readers have ended as were started, but for the one
  that is there, if there is one;
* if the connection stood after each step after which a write hung, no two writes hung at
  once, and the observer was never told to disconnect on a fault, whichever thread tells it,
  then no change of the state was unexpected, between two connections the first was reported
  as ended, and between two such reports there was a call to connect. -/
theorem link_lifecycle {s : Session} (hnew : s.IsNew) (hjournal : s.journal = [])
    (steps : List Step) :
    let last := s.after steps
    let signs := last.standing.signs
    (last.isHanging = false →
      (last.link.state = .disconnected ∨ last.link.state = .connected ∨
        last.link.state = .faulted) ∧
      (last.link.state = .connected ↔ last.link.isOpen = true) ∧
      (last.link.state = .connected ↔ last.link.slot.closed = false) ∧
      (last.link.state = .connected ↔ last.link.reader.isSome = true) ∧
      (last.link.state = .faulted →
        ∃ before port baud e later, steps = before ++ .connect port baud :: later ∧
          ((s.after before).perform (.connect port baud)).1 = .link (.error e) ∧
          ∀ step ∈ later, step.connects = false ∧ step ≠ .disconnect)) ∧
    signs.count .started = signs.count .stopped + last.link.reader.isSome.toNat ∧
    ((∀ t, .disconnectOn "Error" t ∉ s.rules) →
      (∀ step ∈ steps, ∀ t, step ≠ .arm (.disconnectOn "Error" t)) →
      (∀ n, (s.after (steps.take n)).Steady) →
      Sign.unexpected ∉ signs ∧
      (∀ before between after,
        signs = before ++ .connected :: (between ++ .connected :: after) →
          .disconnected ∈ between) ∧
      ∀ before between after,
        signs = before ++ .disconnected :: (between ++ .disconnected :: after) →
          .connected ∈ between ∨ .failed ∈ between) := by
  intro last signs
  have hstands : last.Stands := stands_after hnew.calm hnew.stands steps
  have hfirst : s.standing = .down [] := by
    simp only [standing, hnew.link, hjournal]
    rfl
  have hreader : last.link.reader.isSome = last.standing.reader.isSome := by
    simp [standing]
  refine ⟨fun hfree => ?_, ?_, fun hrules hsteps hsteady => ?_⟩
  · have hstate : last.standing.state = last.link.state := rfl
    have hopen : last.standing.isOpen = last.link.isOpen := rfl
    have hclosed : last.standing.closed = last.link.slot.closed := rfl
    -- all four views of the link are parts of its standing, which is one of three where no write
    -- hangs
    rw [← hstate, ← hopen, ← hclosed, hreader]
    cases hstands with
    | up h =>
      rw [h]
      simp [Standing.up]
    | down h =>
      rw [h]
      simp [Standing.down]
    | lost h =>
      rw [h]
      refine ⟨.inr (.inr rfl), by simp [Standing.lost], by simp [Standing.lost],
        by simp [Standing.lost], fun _ => ?_⟩
      exact lost_after hnew steps h
    | broken _ hhang =>
      rw [hfree] at hhang
      cases hhang
  · have hleads : Leads (fun _ => true) s last :=
      after_leads hnew.calm hnew.stands fun _ _ _ _ => rfl
    have hbal : last.standing.Balanced := hleads.balanced hnew.stands (by rw [hfirst]; rfl)
    rw [hreader]
    exact hbal
  -- the state is the one that was told last, so no change can be told twice
  · have htold : Sign.told? .disconnected signs = some last.standing.state := by
      refine isTold_after hnew.calm hnew.stands (not_exists.mpr hrules) ?_ hsteps hsteady
      rw [IsTold, hfirst]
      rfl
    refine ⟨Sign.not_unexpected_of_told? htold, fun before between after h => ?_,
      fun before between after h => ?_⟩
    · exact Sign.disconnected_between (h ▸ htold)
    · exact Sign.connected_between (h ▸ htold)

/-- A device whose port does not open at first, and that sends nothing but the end of the
stream. -/
def unreliable : Session := { device := { opens := [some (.openFailed "COM3" "busy")] } }

/-- The first call to connect fails, the second does not, and the third makes a connection
again after the device has ended the first. -/
def severalCalls : List Step :=
  [.connect "COM3" 9600, .connect "COM3" 9600, .deviceSends [.ending], .connect "COM3" 9600]

/-- The first call leaves the link faulted, and the third connected and in order. -/
theorem link_lifecycle_severalCalls :
    (unreliable.after (severalCalls.take 1)).link.state = .faulted ∧
      (unreliable.after severalCalls).link.reader.isSome = true ∧
      Sign.unexpected ∉ (unreliable.after severalCalls).standing.signs := by
  obtain ⟨hrest, -, horder⟩ := link_lifecycle (s := unreliable) ⟨rfl, by decide⟩ rfl severalCalls
  have hfree : ∀ n, (unreliable.after (severalCalls.take n)).isHanging = false
    | 0 | 1 | 2 | 3 => by decide +kernel
    | n + 4 => by
      rw [List.take_of_length_le (by simp [severalCalls])]
      decide +kernel
  obtain ⟨-, -, -, hreader, -⟩ := hrest (hfree 4)
  have hsteps : ∀ step ∈ severalCalls, ∀ t, step ≠ .arm (.disconnectOn "Error" t) := by
    simp [severalCalls]
  exact ⟨by decide +kernel, hreader.mp (by decide +kernel),
    (horder (by simp [unreliable]) hsteps fun n => steady_of_free (hfree n)).1⟩

/-- The observer is told to disconnect on a fault, and the stream ends. -/
def hastyObserver : List Step :=
  [.connect "P1" 115200, .arm (.disconnectOn "Error"), .deviceSends [.ending]]

/-- The observer disconnects when it is told of the fault. The reader then makes the state
faulted and disconnected once more, and reports a second time that the connection has ended,
with no call to connect in between. -/
theorem hastyObserver_disconnects_twice :
    ((({} : Session).after hastyObserver).standing.signs =
        [.started, .connected] ++ .disconnected :: ([.unexpected] ++ .disconnected :: [.stopped])) ∧
      ¬(Sign.connected ∈ [Sign.unexpected] ∨ Sign.failed ∈ [Sign.unexpected]) := by
  decide +kernel

end Session

end GcodeSender
