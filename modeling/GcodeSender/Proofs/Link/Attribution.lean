import GcodeSender.Proofs.Job.FlowControl
import GcodeSender.Proofs.Link.Ownership

/-!
# `GcodeSender.Proofs.Link.Attribution`: whose answer it is

An answer does not say which line it is for. The device answers lines in the order in
which it receives them, so on each connection the `n`-th answer is for the `n`-th line
written. `Ledger` keeps the two lists; it is no part of a session, which has the three
counters of the slot instead. `Attributes` relates them:

* the answers still owed are those that the ledger lacks;
* while a job writes, the answers to be let pass are those that are owed;
* while it waits, they are those before its own answer, and what is in the slot is
  that answer.

`Attributes.next` is the step, and `Permits.attributes` the run. They need that at
most one job holds the link. `attribution` then says what a job takes from its waits,
and what its cursor counts.

The lines of the ledger are no mere claims. `Ledger.taken` are the bytes of lines that
the device has taken on the present connection, and `Permits.taken` says that they are
the ledger's lines in order, each with its end: on a connection that lasts, with no line
held up half-way.
-/

set_option autoImplicit false

namespace GcodeSender

/-! ### The ledger -/

/-- What was written and heard on the present connection. -/
structure Ledger where
  /-- The lines written, in order, each with the job that wrote it, if one did. -/
  written : List (Option Nat × String) := []
  /-- The answers that have arrived, in order. -/
  heard : List String := []
deriving DecidableEq

namespace Ledger

/-- The ledger after one more act. A new connection begins a new one. -/
def add (l : Ledger) : Act → Ledger
  | .opened | .closed | .broke _ => {}
  | .noted line => { l with written := l.written ++ [(none, line)] }
  | .wrote i line _ => { l with written := l.written ++ [(some i, line)] }
  | .heard answer => { l with heard := l.heard ++ [answer] }
  | _ => l

/-- The ledger of a session, from its acts. -/
def ofActs (acts : List Act) : Ledger := acts.foldl add {}

/-- A ledger goes on act by act. -/
theorem ofActs_append (acts : List Act) (a : Act) :
    ofActs (acts ++ [a]) = (ofActs acts).add a := by simp [ofActs]

/-- No answer arrives before the line that it is for was written. -/
def InTurn (l : Ledger) : List Act → Prop
  | [] => True
  | a :: acts =>
    (∀ _ ∈ a.answer?, l.heard.length < l.written.length) ∧ (l.add a).InTurn acts

instance decidableInTurn : (l : Ledger) → (acts : List Act) → Decidable (l.InTurn acts)
  | _, [] => inferInstanceAs (Decidable True)
  | l, a :: acts =>
    haveI := decidableInTurn (l.add a) acts
    inferInstanceAs (Decidable
      ((∀ _ ∈ a.answer?, l.heard.length < l.written.length) ∧ (l.add a).InTurn acts))

/-- To be in turn, the next answer must have a line that it can be for. -/
theorem inTurn_append {l : Ledger} {acts : List Act} {a : Act} :
    l.InTurn (acts ++ [a]) ↔ l.InTurn acts ∧
      ∀ _ ∈ a.answer?, (acts.foldl add l).heard.length < (acts.foldl add l).written.length := by
  induction acts generalizing l with
  | nil => simp [InTurn]
  | cons b acts ih =>
    rw [List.cons_append, InTurn, InTurn, ih, and_assoc]
    rfl

/-- Acts that are in turn were so before the last of them. -/
theorem inTurn_of_append {l : Ledger} {acts more : List Act} (h : l.InTurn (acts ++ more)) :
    l.InTurn acts := by
  induction acts generalizing l with
  | nil => trivial
  | cons a acts ih => exact ⟨h.1, ih h.2⟩

/-- The last line that a job has written, and its place. -/
structure Latest (l : Ledger) (i : Nat) (line : String) (n : Nat) : Prop where
  here : l.written[n]? = some (some i, line)
  last : ∀ m other, n < m → l.written[m]? ≠ some (some i, other)

/-- A line that a job has just written is its last. -/
theorem latest_write (l : Ledger) (i : Nat) (line : String) :
    Latest { l with written := l.written ++ [(some i, line)] } i line l.written.length where
  here := by simp
  last m other hm := by
    rw [List.getElem?_eq_none (by simpa using Nat.succ_le_of_lt hm)]
    simp

/-- A line that the operator sends does not change which line of a job is its last. -/
theorem Latest.note {l : Ledger} {i n : Nat} {line : String} (h : l.Latest i line n)
    (other : String) :
    Latest { l with written := l.written ++ [(none, other)] } i line n where
  here := by
    have hn := (List.getElem?_eq_some_iff.mp h.here).1
    rw [List.getElem?_append_left hn]
    exact h.here
  last m line' hm := by
    by_cases hlt : m < l.written.length
    · rw [List.getElem?_append_left hlt]
      exact h.last m line' hm
    · rw [List.getElem?_append_right (Nat.le_of_not_lt hlt), List.getElem?_singleton]
      split <;> simp

end Ledger

/-! ### The ledger and the wire -/

namespace Ledger

/-- The bytes of lines taken on the present connection, after one more act. A single-byte
command is no part of a line. -/
def take (bytes : List UInt8) : Act → List UInt8
  | .opened | .closed | .broke _ => []
  | .signalled _ => bytes
  | a => bytes ++ a.bytes

/-- The bytes of lines that the device has taken on the present connection. -/
def taken (acts : List Act) : List UInt8 := acts.foldl take []

/-- The bytes that were taken go on act by act, too. -/
theorem taken_append (acts : List Act) (a : Act) : taken (acts ++ [a]) = take (taken acts) a := by
  simp [taken]

/-- The lines of the ledger as bytes. -/
def bytes (l : Ledger) : List UInt8 := Session.wireLines (l.written.map (·.2))

/-- A line more in the ledger is its bytes more. -/
theorem bytes_concat (l : Ledger) (who : Option Nat) (line : String) :
    Ledger.bytes { l with written := l.written ++ [(who, line)] } =
      l.bytes ++ Session.wireLine line := by
  simp only [bytes, List.map_append, List.map_cons, List.map_nil, Session.wireLines_concat]

end Ledger

/-- Acts that may change what is missing of a line. -/
def Act.isWriting : Act → Bool
  | .launched _ _ _ | .wrote _ _ _ | .yielded _ _ _ | .returned _ _ (some _) => true
  | _ => false

/-- What is missing of a line changes only where lines are written. -/
theorem Act.missing_onJob {a : Act} {j : Job} (hfit : a.Fits j) (h : a.isWriting = false) :
    (a.onJob j).missing = j.missing := by
  cases a with
  | opened | dropped | closed | broke | heard | noted | signalled | withheld | meddled => rfl
  | launched | wrote | yielded => cases h
  | abandoned i => simp [onJob, Job.abandoned, Job.missing, hfit.1]
  | paused i => simp [onJob, Job.pause_of_running hfit, Job.missing]
  | resumed i => simp [onJob, Job.resume_of_paused hfit.1, Job.missing]
  | stopped i => simp [onJob, Job.requestStop_of_active hfit.1, Job.missing]
  | armed i line =>
    replace hfit : j.stage = .arming line := hfit
    simp [onJob, Job.armed, Job.missing, hfit]
  | refused i line =>
    replace hfit : j.stage = .sending line := hfit
    simp [onJob, Job.sent, Job.missing, hfit]
  | returned i line failure =>
    -- the rest of a line that was held up has gone out, so nothing is missing any longer
    cases failure with
    | none =>
      replace hfit : j.stage = .hanging line [] := hfit
      simp [onJob, Job.sent, Job.missing, hfit]
    | some e => cases h
  | took i line outcome =>
    replace hfit : j.stage = .awaiting line := hfit
    cases outcome with
    | answer ans =>
      simp only [onJob, Job.answered]
      split <;> simp [Job.missing, hfit]
    | closed | cancelled => simp [onJob, Job.answered, Job.missing, hfit]
  -- a thread does not decide anything in the midst of a write
  | moved i p =>
    obtain ⟨next, hnext, hsteps⟩ := Job.steps_of_moved hfit
    rw [hnext]
    cases hsteps <;> simp_all [Job.missing]
  | released i =>
    replace hfit : j.stage = .releasing := hfit
    simp [onJob, Job.released, Job.missing, hfit]

/-- A job that does not hold the link is not writing. -/
theorem Job.missing_of_not_holds {j : Job} (h : j.holds = false) : j.missing = [] := by
  cases hs : j.stage <;> simp_all [holds, missing]

namespace Core

/-- Nothing is missing of a line that is being written. -/
def AllTaken (c : Core) : Prop := ∀ i, (c.job i).missing = []

/-- After an act that writes nothing, nothing is missing only if nothing was before. -/
theorem allTaken_of_next {c : Core} {a : Act} (ha : a.Possible c) (hwrite : a.isWriting = false)
    (h : (c.next a).AllTaken) : c.AllTaken := by
  intro i
  have hi := h i
  rw [next_job ha i] at hi
  split at hi
  · rename_i hjob
    rwa [Act.missing_onJob (ha.2 i hjob) hwrite] at hi
  · exact hi

/-- While the link takes lines and nothing is missing of any, what was taken on the present
connection are the lines of the ledger. -/
def Tallies (acts : List Act) (c : Core) : Prop :=
  c.online = true → c.AllTaken → Ledger.taken acts = (Ledger.ofActs acts).bytes

/-- What writes no line keeps the ledger and the wire in step. -/
theorem Tallies.quiet {c : Core} {acts : List Act} {a : Act} (h : Tallies acts c)
    (ha : a.Possible c) (hwrite : a.isWriting = false)
    (honline : (c.next a).online = true → c.online = true)
    (htaken : Ledger.taken (acts ++ [a]) = Ledger.taken acts)
    (hledger : (Ledger.ofActs (acts ++ [a])).bytes = (Ledger.ofActs acts).bytes) :
    Tallies (acts ++ [a]) (c.next a) := by
  intro hon hall
  rw [htaken, hledger]
  exact h (honline hon) (allTaken_of_next ha hwrite hall)

/-- Where no write is held up, every act but meddling keeps the ledger and the wire in
step. -/
theorem Tallies.next {c : Core} {acts : List Act} {a : Act} (h : Tallies acts c) (ho : c.Owned)
    (ha : a.Possible c) (hheld : a.isYielding = false) : Tallies (acts ++ [a]) (c.next a) := by
  have htaken := Ledger.taken_append acts a
  have hledger := Ledger.ofActs_append acts a
  cases a with
  | opened | closed | broke =>
    -- a new connection begins with nothing taken
    intro _ _
    rw [htaken, hledger]
    rfl
  | dropped =>
    intro hon
    cases hon
  | noted line =>
    intro hon hall
    rw [htaken, hledger]
    show Ledger.taken acts ++ Session.wireLine line = _
    rw [h hon (allTaken_of_next ha rfl hall)]
    exact (Ledger.bytes_concat _ none line).symm
  | launched i name p =>
    -- the link was free, so no line was being written
    intro hon _
    have hall : c.AllTaken := by
      intro k
      refine Job.missing_of_not_holds (eq_false_of_ne_true fun hk => ?_)
      have hclaimed := ho.claimed.mpr ⟨k, hk⟩
      rw [ha.1.2.2] at hclaimed
      cases hclaimed
    rw [htaken, hledger]
    show Ledger.taken acts ++ [] = (Ledger.ofActs acts).bytes
    rw [List.append_nil]
    exact h hon hall
  | wrote i line rest =>
    intro hon hall
    have hrest : rest = [] := by
      have hi := hall i
      rw [next_job_self ha rfl] at hi
      exact hi
    have hbefore : c.AllTaken := by
      intro k
      by_cases hk : k = i
      · simp [hk, Job.missing, (ha.2 i rfl).1]
      · have hother := hall k
        rwa [next_job_of_ne (by simpa [Act.job?] using Ne.symm hk)] at hother
    rw [htaken, hledger]
    show Ledger.taken acts ++ Act.part line rest = _
    rw [h hon hbefore, hrest, show Act.part line [] = Session.wireLine line by simp [Act.part]]
    exact (Ledger.bytes_concat _ (some i) line).symm
  | yielded => cases hheld
  | returned i line failure =>
    cases failure with
    | none =>
      exact h.quiet ha rfl id (htaken.trans (List.append_nil _)) (congrArg Ledger.bytes hledger)
    | some e =>
      -- a write fails on a connection that is taken down
      intro hon
      rcases ha.1 with hnone | hoff
      · cases hnone
      · rw [show (c.next (.returned i line (some e))).online = c.online from rfl, hoff] at hon
        cases hon
  | heard answer =>
    -- an answer is no line written
    refine h.quiet ha rfl id (htaken.trans (List.append_nil _)) ?_
    rw [hledger]
    rfl
  | signalled command => exact h.quiet ha rfl id htaken (congrArg Ledger.bytes hledger)
  | _ =>
    exact h.quiet ha rfl id (htaken.trans (List.append_nil _)) (congrArg Ledger.bytes hledger)

/-- Until a write is held up, the lines of the ledger are on the wire. -/
theorem Permits.tallies {c : Core} {acts : List Act} (h : c.Permits acts) (hnew : c.IsNew)
    (hmeddle : ∀ a ∈ acts, a.isMeddling = false) (hheld : ∀ a ∈ acts, a.isYielding = false) :
    Tallies acts (c.after acts) :=
  h.invariant (P := Tallies) (K := fun a => a.isMeddling = false ∧ a.isYielding = false)
    (fun _ _ => rfl)
    (fun _ _ hacts hearlier ha hmild ih =>
      ih.next (hacts.owned hnew fun b hb => (hearlier b hb).1) ha hmild.2)
    fun a ha => ⟨hmeddle a ha, hheld a ha⟩

end Core

/-! ### The slot and the ledger -/

namespace Job

/-- The line that the job's thread is about to write. -/
def sending? (j : Job) : Option String :=
  match j.stage with
  | .sending line => some line
  | _ => none

/-- The line whose answer the job's thread waits for, or will when its write
returns. -/
def waitsFor? (j : Job) : Option String :=
  match j.stage with
  | .hanging line _ | .awaiting line => some line
  | _ => none

/-- A thread that is about to send a line holds the link. -/
theorem holds_of_sending? {j : Job} {line : String} (h : j.sending? = some line) :
    j.holds = true := by
  cases hs : j.stage <;> simp_all [sending?, holds]

/-- A thread that waits for an answer holds it, too. -/
theorem holds_of_waitsFor? {j : Job} {line : String} (h : j.waitsFor? = some line) :
    j.holds = true := by
  cases hs : j.stage <;> simp_all [waitsFor?, holds]

/-- A thread at rest is not about to write. -/
theorem sending?_of_rests {j : Job} {slot : Link.Slot} (h : j.rests slot = true) :
    j.sending? = none := by
  rcases isStill_cases (isStill_of_rests h) with h | ⟨h, -⟩ | ⟨_, _, h⟩ | ⟨_, h⟩ | ⟨h, -⟩ <;>
    simp [sending?, h]

end Job

/-- Acts that neither write nor hear, nor announce a line, nor end a wait. -/
def Act.isQuiet : Act → Bool
  | .dropped | .signalled _ | .withheld _ | .launched _ _ _ | .abandoned _ | .paused _
  | .resumed _ | .stopped _ | .yielded _ _ _ | .refused _ _ | .returned _ _ _ | .moved _ _
  | .released _ => true
  | _ => false

/-- Nothing but the job's own turn to write brings it to a line. -/
theorem Act.line_of_onJob {a : Act} {j : Job} (line : String) (hfit : a.Fits j)
    (hquiet : a.isQuiet = true) :
    ((a.onJob j).sending? = some line → j.sending? = some line) ∧
      ((a.onJob j).waitsFor? = some line → j.waitsFor? = some line) := by
  cases a with
  -- these acts are the ones that concern the slot
  | opened | closed | broke | heard | noted | armed | wrote | took | meddled => cases hquiet
  | dropped | signalled | withheld => exact ⟨id, id⟩
  | launched | abandoned | refused | released =>
    simp [onJob, Job.sending?, Job.waitsFor?, Job.launch, Job.abandoned, Job.sent, Job.released]
  | yielded i l rest =>
    replace hfit : j.stage = .hanging l rest := hfit
    simp [onJob, Job.sending?, Job.waitsFor?, hfit]
  | paused i => exact ⟨by simp [onJob, Job.pause_of_running hfit, Job.sending?],
      by simp [onJob, Job.pause_of_running hfit, Job.waitsFor?]⟩
  | resumed i => exact ⟨by simp [onJob, Job.resume_of_paused hfit.1, Job.sending?],
      by simp [onJob, Job.resume_of_paused hfit.1, Job.waitsFor?]⟩
  | stopped i => exact ⟨by simp [onJob, Job.requestStop_of_active hfit.1, Job.sending?],
      by simp [onJob, Job.requestStop_of_active hfit.1, Job.waitsFor?]⟩
  | returned i l failure =>
    obtain ⟨rest, hs⟩ := Job.hanging_of_writing? hfit.writing?
    cases failure <;> simp [onJob, Job.sent, Job.sending?, Job.waitsFor?, hs]
  -- to choose a line brings the thread to arm the slot first, not yet to send
  | moved i p =>
    obtain ⟨next, hnext, hsteps⟩ := Job.steps_of_moved hfit
    rw [hnext]
    cases hsteps <;> simp [Job.sending?, Job.waitsFor?]

/-- The slot agrees with what was written and heard. -/
structure Attributes (l : Ledger) (c : Core) : Prop where
  /-- The answers owed are those that have not arrived. -/
  owed : c.slot.owed + l.heard.length = l.written.length
  /-- An answer is kept only while one is wanted. -/
  wanted : c.slot.response.isSome = true → c.slot.armed = true
  /-- While a job writes, the answers owed are to be let pass. -/
  sending : ∀ i line, (c.job i).sending? = some line → c.slot.armed = true →
    c.slot.response = none ∧ c.slot.skip = c.slot.owed
  /-- While it waits, those before its own are, and what is kept is its own. -/
  waiting : ∀ i line, (c.job i).waitsFor? = some line → c.slot.armed = true →
    ∃ n, l.Latest i line n ∧
      (c.slot.response = none → l.heard.length + c.slot.skip = n) ∧
      (∀ a, c.slot.response = some a → l.heard[n]? = some a)

open GcodeSender.Core (next_job)

namespace Attributes

variable {l : Ledger} {c : Core} {a : Act}

/-- Where nothing is wanted, nothing is attributed. -/
theorem of_not_armed {c' : Core} (howed : c'.slot.owed + l.heard.length = l.written.length)
    (hresponse : c'.slot.response = none) (harmed : c'.slot.armed = false) :
    Attributes l c' where
  owed := howed
  wanted := by simp [hresponse]
  sending := by simp [harmed]
  waiting := by simp [harmed]

/-- What leaves the counters alone and brings no job to a line keeps the slot and the
ledger in agreement. -/
theorem quiet (h : Attributes l c) (ha : a.Possible c) (hquiet : a.isQuiet = true) :
    Attributes (l.add a) (c.next a) := by
  have hl : l.add a = l := by cases a <;> first | rfl | cases hquiet
  have hslot : (c.next a).slot.armed = c.slot.armed ∧ (c.next a).slot.owed = c.slot.owed ∧
      (c.next a).slot.skip = c.slot.skip ∧ (c.next a).slot.response = c.slot.response := by
    cases a <;> first | exact ⟨rfl, rfl, rfl, rfl⟩ | cases hquiet
  obtain ⟨harmed, howed, hskip, hresponse⟩ := hslot
  have hjob : ∀ i line,
      (((c.next a).job i).sending? = some line → (c.job i).sending? = some line) ∧
      (((c.next a).job i).waitsFor? = some line → (c.job i).waitsFor? = some line) := by
    intro i line
    rw [next_job ha i]
    split
    · rename_i hi
      -- even the act's own job is brought to no line
      exact Act.line_of_onJob line (ha.2 i hi) hquiet
    · exact ⟨id, id⟩
  rw [hl]
  exact {
    owed := by rw [howed]; exact h.owed
    wanted := by rw [hresponse, harmed]; exact h.wanted
    sending := by
      intro i line hi
      rw [harmed, hresponse, hskip, howed]
      exact h.sending i line ((hjob i line).1 hi)
    waiting := by
      intro i line hi
      rw [harmed, hresponse, hskip]
      exact h.waiting i line ((hjob i line).2 hi) }

/-- An answer that arrives in its turn is kept for the job that waits for it, or let
pass. -/
theorem hear (h : Attributes l c) {answer : String} (hrest : c.AtRest)
    (hturn : l.heard.length < l.written.length) :
    Attributes (l.add (.heard answer)) (c.next (.heard answer)) := by
  have hbefore := h.owed
  have hlength : (l.add (.heard answer)).heard.length = l.heard.length + 1 := by
    simp [Ledger.add]
  have hkept : ∀ {n : Nat} {kept : String}, l.heard[n]? = some kept →
      (l.add (.heard answer)).heard[n]? = some kept := by
    intro n kept hn
    show (l.heard ++ [answer])[n]? = some kept
    rw [List.getElem?_append_left (List.getElem?_eq_some_iff.mp hn).1, hn]
  have hoffer := c.slot.offer_cases answer
  rw [show (c.slot.offer answer).2 = (c.next (.heard answer)).slot from rfl] at hoffer
  obtain ⟨harmed, howed, -, -, hcases⟩ := hoffer
  exact {
    owed := by
      show _ = l.written.length
      omega
    wanted := by
      intro hresponse
      rw [harmed]
      rcases hcases with ⟨hwanted, -⟩ | ⟨hwanted, -⟩ | ⟨-, hsame⟩
      · exact hwanted
      · exact hwanted
      · exact h.wanted (hsame ▸ hresponse)
    sending := by
      intro i line hi
      have hnot : (c.job i).sending? = none := Job.sending?_of_rests (hrest.job i)
      rw [show (c.next (.heard answer)).job i = c.job i from rfl, hnot] at hi
      cases hi
    waiting := by
      intro i line hi hwanted
      rw [harmed] at hwanted
      obtain ⟨n, hlatest, hskip, hkeep⟩ := h.waiting i line hi hwanted
      refine ⟨n, ⟨hlatest.here, hlatest.last⟩, ?_⟩
      rcases hcases with ⟨-, hnone, hpos, hstill, hless⟩ | ⟨-, hnone, hzero, hnow⟩ | ⟨hidle, hsame⟩
      · have hsum := hskip hnone
        rw [hlength, hstill, hless]
        exact ⟨fun _ => by omega, by simp⟩
      · -- nothing is to be let pass: this is the answer with the line's own number
        have hn : n = l.heard.length := by have := hskip hnone; omega
        rw [hnow]
        refine ⟨by simp, fun kept hanswer => ?_⟩
        obtain rfl := Option.some.inj hanswer
        show (l.heard ++ [answer])[n]? = some answer
        simp [hn]
      · -- the slot is full, and this answer is for a line after the one that waits
        have hfull : c.slot.response.isSome = true := by simpa [hwanted] using hidle
        rw [hsame]
        exact ⟨fun hnone => by simp [hnone] at hfull, fun kept hk => hkept (hkeep kept hk)⟩ }

/-- A line of the operator is owed its answer, and no job writes meanwhile. -/
theorem note (h : Attributes l c) {line : String} (hrest : c.AtRest) :
    Attributes (l.add (.noted line)) (c.next (.noted line)) where
  owed := by
    have howed := h.owed
    show c.slot.owed + 1 + l.heard.length = (l.written ++ [(none, line)]).length
    rw [List.length_append, List.length_singleton]
    omega
  wanted := h.wanted
  -- the threads are at rest, so no job is about to write
  sending i other hi := by
    have hnot : (c.job i).sending? = none := Job.sending?_of_rests (hrest.job i)
    rw [show (c.next (.noted line)).job i = c.job i from rfl, hnot] at hi
    cases hi
  waiting i other hi hwanted := by
    obtain ⟨n, hlatest, hskip, hkeep⟩ := h.waiting i other hi hwanted
    exact ⟨n, hlatest.note line, hskip, hkeep⟩

/-- A job that holds the link is the only one that writes or waits. -/
theorem alone (ho : c.Owned) {i k : Nat} (hi : a.job? = some i)
    (hholds : (c.job i).holds = true) {line : String}
    (hk : ((c.next a).job k).sending? = some line ∨ ((c.next a).job k).waitsFor? = some line) :
    i = k := by
  by_cases hik : i = k
  · exact hik
  · have hne : a.job? ≠ some k := by simpa [hi] using hik
    rw [Core.next_job_of_ne hne] at hk
    refine ho.one i k hholds ?_
    rcases hk with hk | hk
    · exact Job.holds_of_sending? hk
    · exact Job.holds_of_waitsFor? hk

/-- What a job announces is wanted after all that is owed. -/
theorem arm (h : Attributes l c) (ho : c.Owned) {i : Nat} {line : String}
    (ha : Act.Possible c (.armed i line)) :
    Attributes (l.add (.armed i line)) (c.next (.armed i line)) := by
  have hstage : (c.job i).stage = .arming line := ha.2 i rfl
  have hjob : (c.next (.armed i line)).job i = { c.job i with stage := .sending line } := by
    rw [Core.next_job_self ha rfl]
    simp [Act.onJob, Job.armed, hstage]
  exact {
    owed := h.owed
    wanted := fun hresponse => by cases hresponse
    sending := fun _ _ _ _ => ⟨rfl, rfl⟩
    waiting := by
      intro k other hk _
      obtain rfl := alone ho rfl (by simp [Job.holds, hstage]) (.inr hk)
      simp [hjob, Job.waitsFor?] at hk }

/-- A line that a job writes has the number of the answers before its own. -/
theorem write (h : Attributes l c) (ho : c.Owned) {i : Nat} {line : String} {rest : List UInt8}
    (ha : Act.Possible c (.wrote i line rest)) :
    Attributes (l.add (.wrote i line rest)) (c.next (.wrote i line rest)) := by
  have hstage : (c.job i).stage = .sending line := (ha.2 i rfl).1
  have hholds : (c.job i).holds = true := by simp [Job.holds, hstage]
  have hjob : (c.next (.wrote i line rest)).job i =
      { c.job i with stage := .hanging line rest } := Core.next_job_self ha rfl
  have howed := h.owed
  exact {
    owed := by
      show c.slot.owed + 1 + l.heard.length = (l.written ++ [(some i, line)]).length
      rw [List.length_append, List.length_singleton]
      omega
    wanted := h.wanted
    sending := by
      intro k other hk
      obtain rfl := alone ho rfl hholds (.inl hk)
      simp [hjob, Job.sending?] at hk
    waiting := by
      intro k other hk hwanted
      -- the answers owed before this line are all that is to be let pass before its own
      obtain rfl := alone ho rfl hholds (.inr hk)
      obtain rfl : line = other := by simpa [hjob, Job.waitsFor?] using hk
      obtain ⟨hnone, hskip⟩ := h.sending i line (by simp [Job.sending?, hstage]) hwanted
      refine ⟨l.written.length, l.latest_write i line, fun _ => ?_, fun kept hkept => ?_⟩
      · show l.heard.length + c.slot.skip = l.written.length
        omega
      · replace hkept : c.slot.response = some kept := hkept
        simp [hnone] at hkept }

/-- Every act but meddling keeps the slot and the ledger in agreement, if the answers
arrive in their turn. -/
theorem next (h : Attributes l c) (ho : c.Owned) (ha : a.Possible c)
    (hmeddle : a.isMeddling = false)
    (hturn : ∀ _ ∈ a.answer?, l.heard.length < l.written.length) :
    Attributes (l.add a) (c.next a) := by
  -- each act of the link is one case; the others change neither the lines nor the slot
  cases a with
  | opened | closed | broke => exact of_not_armed rfl rfl rfl
  | heard answer => exact h.hear ha.1.1 (hturn answer rfl)
  | noted line => exact h.note ha.1.1
  | armed i line => exact h.arm ho ha
  | wrote i line rest => exact h.write ho ha
  | took i line outcome =>
    obtain ⟨⟨_, after⟩, hcheck, -⟩ := Option.map_eq_some_iff.mp ha.1
    have hslot : (c.next (.took i line outcome)).slot =
        { c.slot with armed := false, response := none } := by
      simp [Core.next, Act.onSlot, hcheck, (Link.Slot.check?_cases hcheck).1]
    exact of_not_armed (by rw [hslot]; exact h.owed) (by rw [hslot]) (by rw [hslot])
  | meddled => cases hmeddle
  | _ => exact h.quiet ha rfl

/-- An answer that ends a wait is the one with the number of the line that the job has
written last. -/
theorem took (h : Attributes l c) {i : Nat} {line answer : String}
    (ha : Act.Possible c (.took i line (.answer answer))) :
    ∃ n, l.Latest i line n ∧ l.heard[n]? = some answer := by
  obtain ⟨⟨outcome, after⟩, hended, rfl⟩ := Option.map_eq_some_iff.mp ha.1
  have hresponse : c.slot.response = some answer := (Link.Slot.check?_cases hended).2
  have hstage : (c.job i).stage = .awaiting line := ha.2 i rfl
  obtain ⟨n, hlatest, -, hkeep⟩ := h.waiting i line (by simp [Job.waitsFor?, hstage])
    (h.wanted (by simp [hresponse]))
  exact ⟨n, hlatest, hkeep answer hresponse⟩

end Attributes

/-- On a link that is not connected, nothing is owed. -/
theorem Core.IsNew.attributes {c : Core} (h : c.IsNew) : Attributes {} c :=
  .of_not_armed (by rw [h.slot]; rfl) (by rw [h.slot]) (by rw [h.slot])

namespace Core.Permits

variable {c : Core} {acts : List Act}

/-- The slot agrees with the ledger throughout. -/
theorem attributes (h : c.Permits acts) (hnew : c.IsNew)
    (hmeddle : ∀ a ∈ acts, a.isMeddling = false) (hturn : Ledger.InTurn {} acts) :
    Attributes (Ledger.ofActs acts) (c.after acts) := by
  refine h.invariant
    (P := fun acts c => Ledger.InTurn {} acts → Attributes (Ledger.ofActs acts) c)
    (fun _ => hnew.attributes) ?_ hmeddle hturn
  intro acts a hacts hearlier ha hmild ih hturn
  obtain ⟨hbefore, hnow⟩ := Ledger.inTurn_append.mp hturn
  rw [Ledger.ofActs_append]
  exact (ih hbefore).next (hacts.owned hnew hearlier) ha hmild hnow

/-- What a job takes from its wait is the answer to the line that it has written
last. -/
theorem own_answer {before later : List Act} {i : Nat} {line answer : String}
    (h : c.Permits (before ++ .took i line (.answer answer) :: later)) (hnew : c.IsNew)
    (hmeddle : ∀ a ∈ before, a.isMeddling = false) (hturn : Ledger.InTurn {} before) :
    ∃ n, (Ledger.ofActs before).Latest i line n ∧
      (Ledger.ofActs before).heard[n]? = some answer := by
  obtain ⟨hbefore, hpossible⟩ := h.possible
  exact (hbefore.attributes hnew hmeddle hturn).took hpossible

end Core.Permits

/-! ### What a job takes and counts -/

/-- At rest, the lines counted are those whose wait ended, before any stop, with an
answer that accepts. -/
theorem Job.Keeps.counted_lines {r : Job.Record} {j : Job} (h : Job.Keeps r j)
    (hstill : j.isStill = true) :
    (r.outcomes.filter fun o => o.2.accepts).map (·.1) = j.lines.take j.snapshot.cursor := by
  -- a thread at rest stands where nothing that accepts is left to be counted
  have hrest : ∀ o ∈ r.outcomes.drop j.snapshot.cursor, o.2.accepts = false := by
    have hstands := h.stands
    have hnone (hlen : r.outcomes.length = j.snapshot.cursor) :
        ∀ o ∈ r.outcomes.drop j.snapshot.cursor, o.2.accepts = false := by
      rw [List.drop_of_length_le (Nat.le_of_eq hlen)]
      simp
    rcases Job.isStill_cases hstill with hs | ⟨hs, -⟩ | ⟨_, _, hs⟩ | ⟨_, hs⟩ | ⟨hs, -⟩ <;>
      simp only [Job.Record.Stands, hs] at hstands
    · exact hstands.2.1
    · exact hnone hstands.2
    · exact hnone hstands.2.2
    · exact hnone hstands.2.2
    · exact hstands.2.1
  have hsplit : r.outcomes.filter (fun o => o.2.accepts) =
      r.outcomes.take j.snapshot.cursor := by
    conv_lhs => rw [← List.take_append_drop j.snapshot.cursor r.outcomes]
    rw [List.filter_append, List.filter_eq_self.mpr h.accepted,
      List.filter_eq_nil_iff.mpr fun o ho => by simp [hrest o ho], List.append_nil]
  rw [hsplit, List.map_take, h.waited, List.take_take, Nat.min_eq_left h.cursor]

namespace Session

/-- Attribution. Every list of steps has a history, and whatever history it is, its acts
are on the wire and in the journal. Let the jobs be the only ones that make the calls that
are for jobs. Then

* while the link takes lines and none is held up, the bytes of lines that the device has
  taken on the present connection are the lines of the ledger, in order.

Let no answer arrive on a connection before the line with its number was written there;
the answers are the lines of the journal that answer commands. Then

* what a job takes from its wait is the answer with the number of the line that it has
  written last, on the connection on which it has written it;
* a job has counted exactly those of its lines whose own answer accepts them and was taken
  before the job was stopped. -/
theorem attribution {s : Session} (hnew : s.IsNew) (steps : List Step) :
    (∃ h : History, h.steps = steps ∧ s.HasHistory h) ∧
      ∀ h : History, h.steps = steps → s.HasHistory h →
        s.Attests h ∧
        (s.Undisturbed steps → (∀ a ∈ h.acts, a.isYielding = false) →
          (s.after steps).link.canSend = true → (s.after steps).isHanging = false →
          Ledger.taken h.acts = (Ledger.ofActs h.acts).bytes) ∧
        (s.Undisturbed steps → Ledger.InTurn {} h.acts →
          (∀ (before later : List Act) (i : Nat) (line answer : String),
            h.acts = before ++ .took i line (.answer answer) :: later →
            ∃ n, (Ledger.ofActs before).Latest i line n ∧
              (Ledger.ofActs before).heard[n]? = some answer) ∧
          ∀ (before acts : List Act) (i : Nat) (name : String) (p : Program),
            h.acts = before ++ .launched i name p :: acts →
            (∀ a ∈ acts, a.launches i = false) →
            ((Job.Record.since i p acts).outcomes.filter fun o => o.2.accepts).map (·.1) =
              p.lines.take ((s.after steps).job i).snapshot.cursor ∧
            ((s.after steps).job i).snapshot.cursor ≤ p.lines.length) := by
  refine ⟨exists_history hnew.calm steps, ?_⟩
  rintro h rfl hh
  have hpermits := hh.permits
  have hmild (hsteps : s.Undisturbed h.steps) : ∀ a ∈ h.acts, a.isMeddling = false :=
    fun a ha => hh.not_meddling hsteps ha
  refine ⟨hh.attests, fun hsteps hheld hon hfree => ?_, fun hsteps hturn => ⟨?_, ?_⟩⟩
  -- without a write that hangs, nothing is missing on the wire of what is in the ledger
  · have htallies := hpermits.tallies hnew.core (hmild hsteps) hheld
    rw [hh.core_after] at htallies
    exact htallies hon fun i => Job.missing_of_not_hanging (job_not_hanging hfree i)
  · intro before later i line answer hacts
    have hbefore := hmild hsteps
    rw [hacts] at hpermits hturn hbefore
    exact hpermits.own_answer hnew.core (fun a ha => hbefore a (List.mem_append_left _ ha))
      (Ledger.inTurn_of_append hturn)
  · intro before acts i name p hacts hlast
    -- the record of the job tells which of its lines were answered
    have hkeeps : Job.Keeps (Job.Record.since i p acts) ((s.after h.steps).job i) := by
      rw [← core_job, ← hh.core_after, hacts]
      exact (hacts ▸ hpermits).keeps_since (hnew.core.job i)
    have hlines : ((s.after h.steps).job i).lines = p.lines :=
      hkeeps.program.symm.trans (Job.Record.since_program p hlast)
    have hstill := Job.isStill_of_rests ((calm_after hnew.calm h.steps).rest.job i)
    rw [← hlines, ← hkeeps.total]
    exact ⟨hkeeps.counted_lines hstill, hkeeps.cursor_le⟩

/-- A session whose device answers nothing by itself. -/
def silent : Session := {}

/-- A job is stopped while its line waits, and another is started. The answer to the
first job's line comes late, and after it the answer to the second's. -/
def lateAnswer : History :=
  [(.connect "COM3" 9600, [.dropped, .opened]),
    (.start 0 "a" ⟨["G0"]⟩,
      [.launched 0 "a" ⟨["G0"]⟩, .moved 0 none, .armed 0 "G0", .wrote 0 "G0" [],
        .returned 0 "G0" none]),
    (.stop 0, [.stopped 0, .took 0 "G0" .cancelled, .released 0, .moved 0 none]),
    (.start 0 "b" ⟨["G1"]⟩,
      [.launched 0 "b" ⟨["G1"]⟩, .moved 0 none, .armed 0 "G1", .wrote 0 "G1" [],
        .returned 0 "G1" none]),
    (.deviceSends [.bytes [101, 114, 114, 111, 114, 58, 49, 10]], [.heard "error:1"]),
    (.deviceSends [.bytes [111, 107, 10]],
      [.heard "ok", .took 0 "G1" (.answer "ok"), .moved 0 (some ⟨1, 1⟩), .moved 0 none,
        .released 0, .moved 0 none])]

/-- The answer that is late is not taken for that to the next job's line. -/
theorem attribution_lateAnswer :
    (silent.after lateAnswer.steps).device.wire = wireLines ["G0", "G1"] ∧
    Ledger.taken lateAnswer.acts = wireLines ["G0", "G1"] ∧
    (∃ n, (Ledger.ofActs (lateAnswer.acts.take 18)).Latest 0 "G1" n ∧
      (Ledger.ofActs (lateAnswer.acts.take 18)).heard[n]? = some "ok") ∧
    ((Job.Record.since 0 ⟨["G1"]⟩ (lateAnswer.acts.drop 12)).outcomes.filter fun o =>
      o.2.accepts).map (·.1) = ["G1"] := by
  obtain ⟨hattests, htaken, hanswers⟩ := (attribution (s := silent) ⟨rfl, by decide⟩
    lateAnswer.steps).2 lateAnswer rfl (by decide +kernel)
  obtain ⟨hown, hcounted⟩ := hanswers (by decide) (by decide)
  refine ⟨hattests.wire.trans (by decide), ?_, hown _ _ 0 "G1" "ok" rfl, ?_⟩
  · exact (htaken (by decide) (by decide) (by decide +kernel) (by decide +kernel)).trans (by decide)
  · refine (hcounted (lateAnswer.acts.take 11) _ 0 "b" ⟨["G1"]⟩ rfl (by decide)).1.trans ?_
    decide +kernel

/-- A job is stopped while its line waits, and the answer comes after that. -/
def stoppedEarly : History := lateAnswer.take 3 ++ [(.deviceSends [.bytes [111, 107, 10]],
  [.heard "ok"])]

/-- The line's own answer accepts it, and the job has not counted it: it was stopped
before it could take the answer. -/
theorem stoppedEarly_not_counted :
    silent.HasHistory stoppedEarly ∧ silent.Undisturbed stoppedEarly.steps ∧
      Ledger.InTurn {} stoppedEarly.acts ∧
      Ledger.ofActs stoppedEarly.acts = ⟨[(some 0, "G0")], ["ok"]⟩ ∧
      Machine.isAccepted "ok" = true ∧
      ((silent.after stoppedEarly.steps).job 0).snapshot.cursor = 0 := by
  refine ⟨?_, ?_, ?_, ?_, ?_, ?_⟩ <;> decide +kernel

end Session

end GcodeSender
