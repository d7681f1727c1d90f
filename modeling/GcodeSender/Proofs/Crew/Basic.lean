import GcodeSender.Proofs.Session.Goes
import Mathlib.Logic.Function.Basic

/-!
# `GcodeSender.Proofs.Crew.Basic`: streamers, their threads, and callers at the same time

Between two steps of a session the threads come to rest, so a session never shows a start
that falls into the middle of a stop. A `Crew` does. It is a link with any number of
streamers, the threads that were started for their jobs, and any number of threads that
call the streamers. Each of them stands at a place of its own, and a `Deed` is one
indivisible step of one of them.

A start looks whether it is refused, waits for the thread of the job before, takes the link,
and launches its job. From the look to the launch it has the lock of the streamer's handle.
A stop ends the job, calls off its wait, takes the handle, and waits. The thread of a job
makes the moves of a session's job, by the same acts. The host is taken to have a thread for
each job that is launched.

* `Crew.step?`: the crew after a deed, if it can be done.
* `Crew.Steps` and `steps_of_step?`: what deeds there are, with all that they ask for.
* `Crew.Reached`: the crews that come about by deeds of a kind.
-/

set_option autoImplicit false

namespace GcodeSender

/-- A move of a job's thread, or what becomes of its write when that is let go. -/
def Act.isWork (a : Act) : Bool := a.isMove || a.isYielding

/-- A streamer, as all threads see it. -/
structure Streamer where
  snapshot : Job.Snapshot := {}
  /-- The thread of its job has not said that it ends. -/
  alive : Bool := false
  /-- The thread of its last job, until someone takes it upon himself to wait for it. -/
  handle : Option Nat := none
  /-- A start has the lock of the handle. -/
  locked : Bool := false
deriving DecidableEq, Repr

/-- A thread that was started for a job of a streamer, with what it keeps to itself. -/
structure Worker where
  streamer : Nat := 0
  lines : List String := []
  stage : Job.Stage := .gone
deriving DecidableEq, Repr

/-- Where a thread that calls streamers stands. -/
inductive Caller where
  /-- Between two calls. -/
  | free
  /-- Its start was not refused. It waits for the thread of the job before, and is then to
  take the link. -/
  | admitted (i : Nat) (name : String) (p : Program) (previous : Option Nat)
  /-- Its start has taken the link and is about to launch the job. -/
  | launching (i : Nat) (name : String) (p : Program)
  /-- Its stop has ended the job and is about to call off the job's wait. -/
  | stopping (i : Nat)
  /-- Its stop is about to take the handle. -/
  | fetching (i : Nat)
  /-- Its stop waits for the thread whose handle it took, and until the streamer has none. -/
  | joining (i : Nat) (thread : Option Nat)
deriving DecidableEq, Repr

/-- The calls of a streamer. -/
inductive Call where
  | pause (i : Nat)
  | resume (i : Nat)
  | start (i : Nat) (name : String) (p : Program)
  | stop (i : Nat)
deriving DecidableEq, Repr

/-- Streamers that share a link, the threads of their jobs, and the threads that call them.
Threads of jobs are numbered in the order in which they were started. -/
structure Crew where
  link : Link := {}
  streamers : Nat → Streamer := fun _ => {}
  workers : Nat → Worker := fun _ => {}
  callers : Nat → Caller := fun _ => .free
  /-- The threads started so far. -/
  hired : Nat := 0

/-- A step of one thread. -/
inductive Deed where
  /-- A free caller begins a call, and does the first step of it. -/
  | calls (n : Nat) (call : Call)
  /-- A caller does the next step of its call. -/
  | proceeds (n : Nat)
  /-- The thread of a job makes a move. -/
  | works (w : Nat) (a : Act)
  /-- Someone else uses the link: the reader, or whoever connects, disconnects and sends. -/
  | changes (link : Link)

/-- What the link has to say to the move of a job's thread. -/
def Link.lets (l : Link) : Act → Prop
  | .wrote _ _ _ => l.canSend = true
  | .refused _ _ => l.canSend = false
  | .took _ _ outcome => l.slot.check?.map (·.1) = some outcome
  | _ => True

instance (l : Link) (a : Act) : Decidable (l.lets a) :=
  match a with
  | .wrote _ _ _ => inferInstanceAs (Decidable (l.canSend = true))
  | .refused _ _ => inferInstanceAs (Decidable (l.canSend = false))
  | .took _ _ outcome => inferInstanceAs (Decidable (l.slot.check?.map (·.1) = some outcome))
  | .opened | .dropped | .closed | .broke _ | .heard _ | .noted _ | .signalled _ | .withheld _
  | .launched _ _ _ | .abandoned _ | .paused _ | .resumed _ | .stopped _ | .armed _ _
  | .yielded _ _ _ | .returned _ _ _ | .moved _ _ | .released _ | .meddled _ _ =>
    inferInstanceAs (Decidable True)

namespace Crew

/-- The job that a thread works on, as it sees it. -/
def job (c : Crew) (w : Nat) : Job :=
  ⟨(c.streamers (c.workers w).streamer).snapshot, (c.workers w).lines, (c.workers w).stage⟩

/-- The thread has ended, or was never started. -/
def IsGone (c : Crew) (w : Nat) : Prop := (c.workers w).stage = .gone

instance (c : Crew) (w : Nat) : Decidable (c.IsGone w) :=
  inferInstanceAs (Decidable (_ = _))

/-! ### What a step changes -/

/-- A caller goes on to another place. -/
def place (c : Crew) (n : Nat) (p : Caller) : Crew :=
  { c with callers := Function.update c.callers n p }

/-- A caller stands where it was placed. -/
@[simp] theorem callers_place_self (c : Crew) (n : Nat) (p : Caller) :
    (c.place n p).callers n = p := by
  simp [place]

/-- The other callers stay where they are. -/
theorem callers_place_of_ne {m n : Nat} (c : Crew) (p : Caller) (h : m ≠ n) :
    (c.place n p).callers m = c.callers m := by
  simp [place, h]

/-- A streamer's snapshot is changed. -/
def share (c : Crew) (i : Nat) (s : Job.Snapshot) : Crew :=
  { c with streamers := Function.update c.streamers i { c.streamers i with snapshot := s } }

/-- A streamer's handle and its lock are changed. -/
def hand (c : Crew) (i : Nat) (handle : Option Nat) (locked : Bool) : Crew :=
  { c with streamers := Function.update c.streamers i { c.streamers i with handle, locked } }

/-- A start takes the link. What an earlier stop has called off is allowed again. -/
def seize (c : Crew) : Crew :=
  { c with link := { c.link with
      claimed := true
      slot := c.link.slot.resetCancel } }

/-- A job is launched: it gets a thread, and its streamer's lock is given up. What a start does
between these is one step, because only whoever has the lock could see it halfway. -/
def launch (c : Crew) (i : Nat) (name : String) (p : Program) : Crew :=
  let j := Job.launch name p
  { c with
    streamers := Function.update c.streamers i
      { snapshot := j.snapshot, alive := true, handle := some c.hired, locked := false }
    workers := Function.update c.workers c.hired ⟨i, j.lines, j.stage⟩
    hired := c.hired + 1 }

/-- A thread makes a move. When it ends, its streamer has no thread any more. -/
def work (c : Crew) (w : Nat) (a : Act) : Crew :=
  let i := (c.workers w).streamer
  let j := a.onJob (c.job w)
  { c with
    link := { c.link with
      slot := a.onSlot c.link.slot
      claimed := a.onClaim c.link.claimed }
    streamers := Function.update c.streamers i
      { c.streamers i with
        snapshot := j.snapshot
        alive := (c.streamers i).alive && j.isAlive }
    workers := Function.update c.workers w { c.workers w with stage := j.stage } }

/-- The thread's streamer sees what the move has made of the job, the others see nothing. -/
theorem snapshot_work (c : Crew) (w i : Nat) (a : Act) :
    ((c.work w a).streamers i).snapshot =
      if i = (c.workers w).streamer then (a.onJob (c.job w)).snapshot
      else (c.streamers i).snapshot := by
  by_cases hi : i = (c.workers w).streamer <;> simp [work, hi]

/-- Threads work for the streamers that they were started for. -/
theorem streamer_work (c : Crew) (w v : Nat) (a : Act) :
    ((c.work w a).workers v).streamer = (c.workers v).streamer := by
  by_cases hv : v = w <;> simp [work, hv]

/-! ### Steps -/

/-- The first step of a call. A start waits while another has the lock. -/
def begin? (c : Crew) (n : Nat) : Call → Option Crew
  | .pause i =>
    match (c.streamers i).snapshot.pause? with
    | some s => some (c.share i s)
    | none => some c
  | .resume i =>
    match (c.streamers i).snapshot.resume? with
    | some s => some (c.share i s)
    | none => some c
  | .start i name p =>
    if (c.streamers i).locked then none
    else
      match Job.refusal? { snapshot := (c.streamers i).snapshot } p c.link.state.isConnected with
      | some _ => some c
      | none =>
        some ((c.hand i none true).place n (.admitted i name p (c.streamers i).handle))
  | .stop i =>
    match (c.streamers i).snapshot.stop? with
    | some s => some ((c.share i s).place n (.stopping i))
    | none => some (c.place n (.fetching i))

/-- The next step of a call, from the place where the caller stands. -/
def proceed? (c : Crew) (n : Nat) : Option Crew :=
  match c.callers n with
  | .free => none
  | .admitted i name p previous =>
    if ∀ w ∈ previous, c.IsGone w then
      match c.link.claim with
      | (true, link) => some ({ c with link }.place n (.launching i name p))
      -- the link is another's, and the start fails
      | (false, _) => some ((c.hand i none false).place n .free)
    else none
  | .launching i name p => some ((c.launch i name p).place n .free)
  | .stopping i => some ({ c with link.slot := c.link.slot.cancel }.place n (.fetching i))
  | .fetching i =>
    if (c.streamers i).locked then none
    else some ((c.hand i none false).place n (.joining i (c.streamers i).handle))
  | .joining i thread =>
    if (∀ w ∈ thread, c.IsGone w) ∧ (c.streamers i).alive = false then some (c.place n .free)
    else none

/-- The crew after a deed, unless someone has to wait. The others leave alone what the link
has for jobs: who owns it, and whether waits are called off. -/
def step? (c : Crew) : Deed → Option Crew
  | .calls n call => if c.callers n = .free then c.begin? n call else none
  | .proceeds n => c.proceed? n
  | .works w a =>
    if a.isWork = true ∧ a.job? = some (c.workers w).streamer ∧ c.link.lets a ∧
        a.Fits (c.job w) then some (c.work w a)
    else none
  | .changes link =>
    if link.claimed = c.link.claimed ∧ link.slot.cancelled = c.link.slot.cancelled then
      some { c with link }
    else none

/-- What deeds there are: what each asks for, and what it makes of the crew. -/
inductive Steps (c : Crew) : Deed → Crew → Prop
  /-- A call that changes nothing: a pause or a resume out of season, or a refused start. -/
  | idles (n : Nat) (call : Call) : Steps c (.calls n call) c
  /-- A job is paused or resumed. -/
  | turns (n i : Nat) (call : Call) (s : Job.Snapshot)
      (hs : (c.streamers i).snapshot.pause? = some s ∨
        (c.streamers i).snapshot.resume? = some s) :
      Steps c (.calls n call) (c.share i s)
  | admits (n i : Nat) (name : String) (p : Program) (hn : c.callers n = .free)
      (hlock : (c.streamers i).locked = false) :
      Steps c (.calls n (.start i name p))
        ((c.hand i none true).place n (.admitted i name p (c.streamers i).handle))
  | marks (n i : Nat) (s : Job.Snapshot) (hn : c.callers n = .free)
      (hs : (c.streamers i).snapshot.stop? = some s) :
      Steps c (.calls n (.stop i)) ((c.share i s).place n (.stopping i))
  /-- There is no job to stop. -/
  | passes (n i : Nat) (hn : c.callers n = .free) :
      Steps c (.calls n (.stop i)) (c.place n (.fetching i))
  | claims (n i : Nat) (name : String) (p : Program) (previous : Option Nat)
      (hn : c.callers n = .admitted i name p previous)
      (hprevious : ∀ w ∈ previous, c.IsGone w) (hfree : c.link.claimed = false) :
      Steps c (.proceeds n) (c.seize.place n (.launching i name p))
  /-- The link is taken already. -/
  | loses (n i : Nat) (name : String) (p : Program) (previous : Option Nat)
      (hn : c.callers n = .admitted i name p previous)
      (hprevious : ∀ w ∈ previous, c.IsGone w) :
      Steps c (.proceeds n) ((c.hand i none false).place n .free)
  | launches (n i : Nat) (name : String) (p : Program)
      (hn : c.callers n = .launching i name p) :
      Steps c (.proceeds n) ((c.launch i name p).place n .free)
  | cancels (n i : Nat) (hn : c.callers n = .stopping i) :
      Steps c (.proceeds n) ({ c with link.slot := c.link.slot.cancel }.place n (.fetching i))
  | fetches (n i : Nat) (hn : c.callers n = .fetching i)
      (hlock : (c.streamers i).locked = false) :
      Steps c (.proceeds n)
        ((c.hand i none false).place n (.joining i (c.streamers i).handle))
  | leaves (n i : Nat) (thread : Option Nat) (hn : c.callers n = .joining i thread)
      (hthread : ∀ w ∈ thread, c.IsGone w) (halive : (c.streamers i).alive = false) :
      Steps c (.proceeds n) (c.place n .free)
  | works (w : Nat) (a : Act) (hmove : a.isWork = true)
      (hjob : a.job? = some (c.workers w).streamer) (hlets : c.link.lets a)
      (hfit : a.Fits (c.job w)) : Steps c (.works w a) (c.work w a)
  | changes (link : Link) (hclaimed : link.claimed = c.link.claimed)
      (hcancelled : link.slot.cancelled = c.link.slot.cancelled) :
      Steps c (.changes link) { c with link }

variable {c c' : Crew}

/-- A call that can begin is one of the steps there are. -/
theorem steps_of_begin? {n : Nat} {call : Call} (hn : c.callers n = .free)
    (h : c.begin? n call = some c') : c.Steps (.calls n call) c' := by
  cases call with
  | pause i =>
    -- a pause that finds no running job changes nothing, and so does a resume of one not paused
    simp only [begin?] at h
    split at h
    · rename_i s hs
      exact Option.some.inj h ▸ .turns n i _ s (.inl hs)
    · exact Option.some.inj h ▸ .idles n _
  | resume i =>
    simp only [begin?] at h
    split at h
    · rename_i s hs
      exact Option.some.inj h ▸ .turns n i _ s (.inr hs)
    · exact Option.some.inj h ▸ .idles n _
  | start i name p =>
    simp only [begin?] at h
    -- who finds the lock taken cannot begin; a refusal leaves it free
    split at h
    · cases h
    · rename_i hlock
      split at h
      · exact Option.some.inj h ▸ .idles n _
      · exact Option.some.inj h ▸ .admits n i name p hn (eq_false_of_ne_true hlock)
  | stop i =>
    simp only [begin?] at h
    split at h
    · rename_i s hs
      exact Option.some.inj h ▸ .marks n i s hn hs
    · exact Option.some.inj h ▸ .passes n i hn

/-- A caller that can go on takes one of the steps there are. -/
theorem steps_of_proceed? {n : Nat} (h : c.proceed? n = some c') :
    c.Steps (.proceeds n) c' := by
  unfold proceed? at h
  cases hn : c.callers n with
  | free => simp [hn] at h
  | admitted i name p previous =>
    simp only [hn] at h
    split at h
    · rename_i hprevious
      -- the link is asked for only when the thread before has been waited for
      unfold Link.claim at h
      cases hclaimed : c.link.claimed with
      | true =>
        simp only [hclaimed, if_true] at h
        exact Option.some.inj h ▸ .loses n i name p previous hn hprevious
      | false =>
        simp only [hclaimed, Bool.false_eq_true, if_false] at h
        exact Option.some.inj h ▸ .claims n i name p previous hn hprevious hclaimed
    · cases h
  | launching i name p =>
    simp only [hn] at h
    exact Option.some.inj h ▸ .launches n i name p hn
  | stopping i =>
    simp only [hn] at h
    exact Option.some.inj h ▸ .cancels n i hn
  | fetching i =>
    simp only [hn] at h
    split at h
    · cases h
    · rename_i hlock
      exact Option.some.inj h ▸ .fetches n i hn (eq_false_of_ne_true hlock)
  | joining i thread =>
    simp only [hn] at h
    split at h
    · rename_i hgone
      exact Option.some.inj h ▸ .leaves n i thread hn hgone.1 hgone.2
    · cases h

/-- A deed that can be done is one of those in `Steps`. -/
theorem steps_of_step? {d : Deed} (h : c.step? d = some c') : c.Steps d c' := by
  -- each kind of deed has its guard, which is what its constructor asks for
  cases d with
  | calls n call =>
    simp only [step?] at h
    split at h
    · exact steps_of_begin? ‹_› h
    · cases h
  | proceeds n => exact steps_of_proceed? h
  | works w a =>
    simp only [step?] at h
    split at h
    · rename_i hcan
      exact Option.some.inj h ▸ .works w a hcan.1 hcan.2.1 hcan.2.2.1 hcan.2.2.2
    · cases h
  | changes link =>
    simp only [step?] at h
    split at h
    · rename_i hsame
      exact Option.some.inj h ▸ .changes link hsame.1 hsame.2
    · cases h

/-! ### Runs -/

/-- The streamer for which a deed takes the link. -/
def claims? (c : Crew) : Deed → Option Nat
  | .proceeds n =>
    match c.callers n with
    | .admitted i _ _ _ => if c.link.claimed then none else some i
    | _ => none
  | _ => none

/-- Only a caller whose start was admitted takes the link for a streamer. -/
theorem admitted_of_claims? {d : Deed} {i : Nat} (h : c.claims? d = some i) :
    ∃ n name p previous, d = .proceeds n ∧ c.callers n = .admitted i name p previous := by
  cases d with
  | proceeds n =>
    simp only [claims?] at h
    split at h
    · rename_i k name p previous hn
      split at h
      · cases h
      · exact ⟨n, name, p, previous, rfl, Option.some.inj h ▸ hn⟩
    · cases h
  | _ => cases h

/-- The crews that come about from a new one by deeds of a kind. -/
inductive Reached (K : Crew → Deed → Prop) : Crew → Prop
  | new : Reached K {}
  | step {c c' : Crew} {d : Deed} (h : Reached K c) (hd : K c d) (hstep : c.step? d = some c') :
      Reached K c'

/-- The crew after several deeds, if they can be done. -/
def after? (c : Crew) : List Deed → Option Crew
  | [] => some c
  | d :: ds => (c.step? d).bind fun next => next.after? ds

/-- Deeds of a kind lead from a crew that was reached by such deeds to another. -/
theorem Reached.after? {K : Deed → Prop} {ds : List Deed} (h : c.Reached fun _ d => K d)
    (hds : c.after? ds = some c') (hK : ∀ d ∈ ds, K d) : c'.Reached fun _ d => K d := by
  induction ds generalizing c with
  | nil => exact Option.some.inj hds ▸ h
  | cons d ds ih =>
    obtain ⟨next, hstep, hrest⟩ := Option.bind_eq_some_iff.mp hds
    exact ih (h.step (hK d (by simp)) hstep) hrest fun e he => hK e (List.mem_cons_of_mem _ he)

/-- What is reached by deeds of a kind is reached by those of a wider one. -/
theorem Reached.mono {K L : Crew → Deed → Prop} (h : c.Reached K)
    (hKL : ∀ c d, K c d → L c d) : c.Reached L := by
  induction h with
  | new => exact .new
  | step _ hd hstep ih => exact ih.step (hKL _ _ hd) hstep

/-- What a new crew has and every deed of a kind preserves, all crews have that come about
by such deeds. -/
theorem Reached.invariant {K : Crew → Deed → Prop} {P : Crew → Prop} (h : Reached K c)
    (hnew : P {}) (hnext : ∀ c c' d, P c → K c d → c.Steps d c' → P c') : P c := by
  induction h with
  | new => exact hnew
  | step _ hd hstep ih => exact hnext _ _ _ ih hd (steps_of_step? hstep)

end Crew

end GcodeSender
