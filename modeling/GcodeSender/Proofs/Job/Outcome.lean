import GcodeSender.Proofs.Link.Attribution

/-!
# `GcodeSender.Proofs.Job.Outcome`: what decides how a job ends

Let a job run on a connection that lasts, with a device that answers every line in
turn, and a job's line by what it has received of the job. Then the pauses, the
operator's own lines and the times at which answers arrive do not matter: the program
and the device's replies alone decide how the job ends.

* `Proceeds`: what such a job has on record at any time, and that its wait is never
  lost. `Permits.proceeds` is the run.
* `Proceeds.not_missed`: a job never waits for an answer that has arrived.
* `Proceeds.decided`: once all answers have arrived, the job has ended as the replies
  decide, and `Decided.unique` says that they decide it.
* `outcome_independent`: two sessions with the same program and the same replies.
-/

set_option autoImplicit false

namespace GcodeSender

/-! ### A connection that lasts -/

/-- The connection lasts, and the given job has its thread and is left to run. -/
def Act.lasts (i : Nat) : Act → Bool
  | .opened | .dropped | .closed | .broke _ => false
  | .launched k _ _ | .abandoned k | .stopped k => k ≠ i
  | _ => true

/-- An act that a job outlasts does not start it anew. -/
theorem Act.not_launches_of_lasts {a : Act} {i : Nat} (h : a.lasts i = true) :
    a.launches i = false := by
  cases a <;> simp_all [lasts, launches]

namespace Ledger

/-- The lines that the given job has written, in order. -/
def own (l : Ledger) (i : Nat) : List String :=
  (l.written.filter fun w => w.1 = some i).map (·.2)

/-- The ledger when the line with number `n` was written. -/
def upTo (l : Ledger) (n : Nat) : Ledger := { l with written := l.written.take (n + 1) }

/-- What the device answers to a line of the given job depends on the lines of the job
up to that one. -/
def Replies (l : Ledger) (i : Nat) (reply : List String → String) : Prop :=
  ∀ n < l.written.length, ∀ w ∈ l.written[n]?, w.1 = some i →
    ∀ answer ∈ l.heard[n]?, answer = reply ((l.upTo n).own i)

instance (l : Ledger) (i : Nat) (reply : List String → String) :
    Decidable (l.Replies i reply) :=
  inferInstanceAs (Decidable (∀ n < l.written.length, ∀ w ∈ l.written[n]?, w.1 = some i →
    ∀ answer ∈ l.heard[n]?, answer = reply ((l.upTo n).own i)))

/-- While the connection lasts, a ledger only grows. -/
theorem add_of_lasts {i : Nat} {a : Act} (h : a.lasts i = true) (l : Ledger) :
    ∃ written heard, l.add a = ⟨l.written ++ written, l.heard ++ heard⟩ := by
  cases a with
  | opened | closed | broke => cases h
  | noted line => exact ⟨[(none, line)], [], by simp [add]⟩
  | wrote k line rest => exact ⟨[(some k, line)], [], by simp [add]⟩
  | heard answer => exact ⟨[], [answer], by simp [add]⟩
  | _ => exact ⟨[], [], by simp [add]⟩

/-- After its last line a job has written nothing. -/
theorem Latest.own_upTo {l : Ledger} {i n : Nat} {line : String} (h : l.Latest i line n) :
    (l.upTo n).own i = l.own i := by
  have hnone : (l.written.drop (n + 1)).filter (fun w => w.1 = some i) = [] := by
    rw [List.filter_eq_nil_iff]
    intro w hw hi
    obtain ⟨m, hm⟩ := List.mem_iff_getElem?.mp hw
    rw [List.getElem?_drop] at hm
    obtain ⟨writer, other⟩ := w
    obtain rfl : writer = some i := by simpa using hi
    exact h.last (n + 1 + m) other (by omega) hm
  -- so the lines up to that one are all the lines
  have hsplit := congrArg (List.filter fun w => decide (w.1 = some i))
    (List.take_append_drop (n + 1) l.written)
  rw [List.filter_append, hnone, List.append_nil] at hsplit
  rw [own, own, upTo, hsplit]

/-- The replies to the lines so far do not depend on what comes later. -/
theorem Replies.of_add {l : Ledger} {i : Nat} {reply : List String → String} {a : Act}
    (h : (l.add a).Replies i reply) (hlast : a.lasts i = true) : l.Replies i reply := by
  obtain ⟨written, heard, hadd⟩ := add_of_lasts hlast l
  rw [hadd] at h
  intro n hn w hw hi answer hanswer
  have hup : (Ledger.upTo ⟨l.written ++ written, l.heard ++ heard⟩ n).own i = (l.upTo n).own i := by
    simp only [upTo, own]
    rw [List.take_append_of_le_length hn]
  rw [← hup]
  refine h n (by simp; omega) w ?_ hi answer ?_
  · rwa [List.getElem?_append_left hn]
  · rwa [List.getElem?_append_left (List.getElem?_eq_some_iff.mp hanswer).1]

/-- What a job hears for its last line is decided by all the lines that it has
written. -/
theorem Replies.latest {l : Ledger} {i n : Nat} {reply : List String → String}
    {line answer : String} (h : l.Replies i reply) (hlatest : l.Latest i line n)
    (hheard : l.heard[n]? = some answer) : answer = reply (l.own i) := by
  rw [← hlatest.own_upTo]
  exact h n (List.getElem?_eq_some_iff.mp hlatest.here).1 _ hlatest.here rfl answer hheard

end Ledger

namespace Job

/-- A record goes on with the acts of its own job. -/
theorem Record.since_concat (i : Nat) (p : Program) (acts : List Act) (a : Act) :
    Record.since i p (acts ++ [a]) =
      if a.job? = some i then (Record.since i p acts).add a else Record.since i p acts := by
  rw [Record.since_append]
  by_cases hi : a.job? = some i <;> simp [Act.deeds, hi]

end Job

/-! ### A job that is left to run -/

/-- A link that takes lines has an open slot. -/
theorem Core.Permits.open_of_online {c : Core} {acts : List Act} (h : c.Permits acts)
    (hnew : c.IsNew) (hmeddle : ∀ a ∈ acts, a.isMeddling = false)
    (honline : (c.after acts).online = true) : (c.after acts).slot.closed = false := by
  refine h.invariant (P := fun _ c => c.online = true → c.slot.closed = false) ?_
    (fun _ _ _ _ ha hmild hopen => open_next hopen ha hmild) hmeddle honline
  intro hon
  simp [hnew.online] at hon

/-- Nothing has gone wrong so far for a job with the given record, and a thread that
writes or waits is not forgotten. -/
structure Unharmed (r : Job.Record) (c : Core) : Prop where
  online : c.online = true
  unstopped : r.stopped = false
  broken : r.broken = false
  wanted : ∀ k line, (c.job k).sending? = some line ∨ (c.job k).waitsFor? = some line →
    c.slot.armed = true

namespace Unharmed

variable {i : Nat} {l : Ledger} {r : Job.Record} {c : Core} {a : Act}

/-- When a job is started, nothing has gone wrong yet, and no other thread writes or
waits. -/
theorem launch (ho : c.Owned) (honline : c.online = true) {name : String} {p : Program}
    (ha : Act.Possible c (.launched i name p)) :
    Unharmed { program := p.lines } (c.next (.launched i name p)) where
  online := honline
  unstopped := rfl
  broken := rfl
  -- the job that starts is the only one that holds the link, and it has yet to arm
  wanted := by
    intro k line hk
    exfalso
    have hself : (c.next (.launched i name p)).job i = Job.launch name p :=
      Core.next_job_self ha rfl
    obtain rfl : i = k := (ho.launch ha).one i k (by rw [hself]; rfl) (by
      rcases hk with hk | hk
      · exact Job.holds_of_sending? hk
      · exact Job.holds_of_waitsFor? hk)
    rw [hself] at hk
    simp [Job.launch, Job.sending?, Job.waitsFor?] at hk

/-- A thread that writes or waits is not forgotten while the connection lasts. -/
theorem wanted_next (h : Unharmed r c) (ho : c.Owned) (ha : a.Possible c)
    (hmeddle : a.isMeddling = false) (hlast : a.lasts i = true) {k : Nat} {line : String}
    (hk : ((c.next a).job k).sending? = some line ∨ ((c.next a).job k).waitsFor? = some line) :
    (c.next a).slot.armed = true := by
  have hsame : (c.next a).job k = c.job k → c.slot.armed = true := fun hjob =>
    h.wanted k line (hjob ▸ hk)
  cases a with
  | opened | dropped | closed | broke => cases hlast
  | meddled => cases hmeddle
  | heard answer => exact (c.slot.offer_cases answer).1.trans (hsame rfl)
  | noted | signalled | withheld => exact hsame rfl
  | armed => rfl
  | wrote m other rest =>
    have hstage : (c.job m).stage = .sending other := (ha.2 m rfl).1
    exact h.wanted m other (.inl (by simp [Job.sending?, hstage]))
  | took m other outcome =>
    -- the one job that held the link waits no more
    exfalso
    have hstage : (c.job m).stage = .awaiting other := ha.2 m rfl
    obtain rfl := Attributes.alone ho rfl (by simp [Job.holds, hstage]) hk
    rw [Core.next_job_self ha rfl] at hk
    cases outcome with
    | answer ans =>
      simp only [Act.onJob, Job.answered] at hk
      split at hk <;> simp [Job.sending?, Job.waitsFor?] at hk
    | closed | cancelled => simp [Act.onJob, Job.answered, Job.sending?, Job.waitsFor?] at hk
  | launched | abandoned | paused | resumed | stopped | yielded | refused | returned | moved
  | released =>
    refine h.wanted k line ?_
    rw [Core.next_job ha k] at hk
    split at hk
    · rename_i hi
      have hline := Act.line_of_onJob line (ha.2 k hi) rfl
      exact hk.imp hline.1 hline.2
    · exact hk

/-- Nothing that the job itself does goes wrong. -/
theorem record_next (h : Unharmed r c) (ha : a.Possible c)
    (hlast : a.lasts i = true) (hi : a.job? = some i) :
    (r.add a).stopped = false ∧ (r.add a).broken = false := by
  cases a with
  | launched k | abandoned k | stopped k =>
    obtain rfl : k = i := by simpa [Act.job?] using hi
    simp [Act.lasts] at hlast
  | refused k line => exact absurd (h.online.symm.trans ha.1) (by decide)
  | returned k line failure =>
    obtain rfl : failure = none := by simpa [h.online, Core.Allows] using ha.1
    exact ⟨h.unstopped, by simp [Job.Record.add, h.broken]⟩
  | took k line outcome => simp [Job.Record.add, h.unstopped, h.broken]
  | _ => exact ⟨h.unstopped, h.broken⟩

/-- While the connection lasts and the job is left to run, nothing goes wrong. -/
theorem next (h : Unharmed r c) (ho : c.Owned) (ha : a.Possible c)
    (hmeddle : a.isMeddling = false) (hlast : a.lasts i = true) :
    Unharmed (if a.job? = some i then r.add a else r) (c.next a) where
  -- the acts that end a connection are those that do not let the job last
  online := by
    cases a with
    | opened | dropped | closed | broke => cases hlast
    | _ => exact h.online
  unstopped := by
    split
    · exact (h.record_next ha hlast ‹_›).1
    · exact h.unstopped
  broken := by
    split
    · exact (h.record_next ha hlast ‹_›).2
    · exact h.broken
  wanted := fun _ _ hk => h.wanted_next ho ha hmeddle hlast hk

/-- A wait of the job ends with an answer: the connection is there, and nobody calls the
wait off. -/
theorem answered (h : Unharmed r c) (hkeeps : Job.Keeps r (c.job i)) (ho : c.Owned)
    (hopen : c.slot.closed = false) {line : String} {outcome : Link.Outcome}
    (ha : Act.Possible c (.took i line outcome)) :
    ∃ answer, outcome = .answer answer := by
  have hstage : (c.job i).stage = .awaiting line := ha.2 i rfl
  obtain ⟨⟨ended, slot⟩, hcheck, rfl⟩ := Option.map_eq_some_iff.mp ha.1
  have hend := (Link.Slot.check?_cases hcheck).2
  cases ended with
  | answer answer => exact ⟨answer, rfl⟩
  | closed => simp [hopen] at hend
  | cancelled =>
    have hidle := ho.cancelled hend.1 i
    have hstop := hkeeps.stopped_of_not_active (by simp [Job.isWorking, hstage]) hidle
    have hstopped := hkeeps.stopped.mpr hstop
    simp [h.unstopped] at hstopped

/-- A job at rest does not wait for an answer that has arrived. -/
theorem not_missed (h : Unharmed r c) (hattr : Attributes l c) (hrest : c.AtRest)
    {line : String} (hs : (c.job i).stage = .awaiting line) :
    ∃ n, l.Latest i line n ∧ l.heard.length ≤ n := by
  have hwaits : (c.job i).waitsFor? = some line := by simp [Job.waitsFor?, hs]
  have hnone : c.slot.response = none := by
    have hcheck := Job.check?_of_rests (hrest.job i) hs
    cases hresponse : c.slot.response with
    | none => rfl
    | some kept => simp [Link.Slot.check?, hresponse] at hcheck
  -- with nothing in the slot, the answers to be let pass are counted up to the line's own
  obtain ⟨n, hlatest, hskip, -⟩ := hattr.waiting i line hwaits (h.wanted i line (.inr hwaits))
  exact ⟨n, hlatest, by have := hskip hnone; omega⟩

/-- A job that has come to rest, and is neither paused nor held up in a write, has ended,
or waits for an answer. -/
theorem rest_cases (h : Unharmed r c) (hkeeps : Job.Keeps r (c.job i)) (ho : c.Owned)
    (hrest : c.AtRest) (hstarted : (c.job i).snapshot.state ≠ .idle)
    (hresumed : (c.job i).snapshot.state ≠ .paused) (hreturned : (c.job i).isHanging = false) :
    ((c.job i).stage = .gone ∧
      ((c.job i).snapshot.state = .finished ∨ (c.job i).snapshot.state = .errored)) ∨
    ∃ line, (c.job i).stage = .awaiting line := by
  rcases Job.isStill_cases (Job.isStill_of_rests (hrest.job i)) with
    hs | ⟨-, hp⟩ | ⟨line, rest, hs⟩ | ⟨line, hs⟩ | ⟨-, hp⟩
  -- a thread that is gone has left a job that ended, and nobody stopped it
  · refine .inl ⟨hs, ?_⟩
    have hidle : (c.job i).isActive = false := by
      cases hactive : (c.job i).isActive with
      | false => rfl
      | true => simpa [Job.isWorking, hs] using ho.working i hactive
    have hstopped : (c.job i).snapshot.state ≠ .stopped := fun hstop => by
      simpa [h.unstopped] using hkeeps.stopped.mpr hstop
    cases hstate : (c.job i).snapshot.state <;>
      simp_all [Job.isActive_eq]
  · exact absurd hp hresumed
  · simp [Job.isHanging, hs] at hreturned
  · exact .inr ⟨line, hs⟩
  · exact absurd hp hresumed

/-- A job that has failed got an answer that does not accept its last line: it was
neither stopped, nor did a write fail. -/
theorem rejected (h : Unharmed r c) (hkeeps : Job.Keeps r (c.job i))
    (hgone : (c.job i).stage = .gone) (hfailed : (c.job i).snapshot.state = .errored) :
    r.outcomes.length = (c.job i).snapshot.cursor + 1 ∧
      ∀ o ∈ r.outcomes.drop (c.job i).snapshot.cursor, o.2.accepts = false := by
  have hstands := hkeeps.stands
  simp only [Job.Record.Stands, hgone] at hstands
  exact ⟨by simpa [h.unstopped, h.broken] using (hstands.2.2 hfailed).2, hstands.2.1⟩

end Unharmed

/-- A job that was started on a program and is left to run: nothing went wrong so far,
its waits ended with the replies to its lines, and a thread that writes or waits is not
forgotten. -/
structure Proceeds (reply : List String → String) (i : Nat) (p : Program) (l : Ledger)
    (r : Job.Record) (c : Core) : Prop where
  online : c.online = true
  unstopped : r.stopped = false
  broken : r.broken = false
  own : l.own i = r.handed
  replied : ∀ k line outcome, r.outcomes[k]? = some (line, outcome) →
    outcome = Link.Outcome.answer (reply (p.lines.take (k + 1)))
  wanted : ∀ k line, (c.job k).sending? = some line ∨ (c.job k).waitsFor? = some line →
    c.slot.armed = true

namespace Proceeds

variable {reply : List String → String} {i : Nat} {p : Program} {l : Ledger}
  {r : Job.Record} {c : Core} {a : Act}

/-- To a job that proceeds nothing has happened yet. -/
theorem unharmed (h : Proceeds reply i p l r c) : Unharmed r c :=
  ⟨h.online, h.unstopped, h.broken, h.wanted⟩

/-- The lines that the ledger has of the job are those that the job has on record. -/
theorem own_next (h : Proceeds reply i p l r c) (ha : a.Possible c) (hlast : a.lasts i = true) :
    (l.add a).own i = (if a.job? = some i then r.add a else r).handed := by
  have hown := h.own
  cases a with
  | opened | closed | broke => cases hlast
  | noted line => simpa [Ledger.add, Ledger.own, Act.job?] using hown
  | wrote k line rest =>
    -- a line of another job is in the ledger, but not as one of this job's
    by_cases hk : k = i
    · simpa [Ledger.add, Ledger.own, Act.job?, Job.Record.add, hk] using hown
    · simpa [Ledger.add, Ledger.own, Act.job?, hk] using hown
  -- a line is held back only where there is no connection
  | refused k line => exact absurd (h.online.symm.trans ha.1) (by decide)
  | launched k =>
    have hk : k ≠ i := by simpa [Act.lasts] using hlast
    simpa [Ledger.add, Act.job?, hk] using hown
  -- what is taken is recorded as an outcome, and the lines stay as they are
  | took k line outcome =>
    have hadd : (r.add (.took k line outcome)).handed = r.handed := by
      simp [Job.Record.add, h.unstopped]
    split
    · rw [hadd]
      exact hown
    · exact hown
  | _ =>
    simp only [Ledger.add]
    split <;> exact hown

/-- The wait for a line ends with the device's reply to it. -/
theorem replied_took (h : Proceeds reply i p l r c) (hkeeps : Job.Keeps r (c.job i))
    (hlines : r.program = p.lines) (ho : c.Owned) (hopen : c.slot.closed = false) {line : String}
    {outcome : Link.Outcome} (ha : Act.Possible c (.took i line outcome))
    (hanswer : ∀ answer, outcome = .answer answer → answer = reply (l.own i)) :
    outcome = .answer (reply (p.lines.take (r.outcomes.length + 1))) := by
  have hstage : (c.job i).stage = .awaiting line := ha.2 i rfl
  have hstands := hkeeps.stands
  simp only [Job.Record.Stands, hstage] at hstands
  obtain ⟨answer, rfl⟩ := h.unharmed.answered hkeeps ho hopen ha
  -- of the job's lines, those up to this one were written
  rw [hanswer answer rfl, h.own, hkeeps.handed, ← hkeeps.program, hlines, hstands.2.1, hstands.2.2]

/-- While the connection lasts and the job is left to run, it proceeds. -/
theorem next (h : Proceeds reply i p l r c) (hkeeps : Job.Keeps r (c.job i))
    (hlines : r.program = p.lines) (ho : c.Owned) (hopen : c.slot.closed = false)
    (ha : a.Possible c) (hmeddle : a.isMeddling = false) (hlast : a.lasts i = true)
    (hanswer : ∀ line answer, a = .took i line (.answer answer) → answer = reply (l.own i)) :
    Proceeds reply i p (l.add a) (if a.job? = some i then r.add a else r) (c.next a) where
  online := (h.unharmed.next ho ha hmeddle hlast).online
  unstopped := (h.unharmed.next ho ha hmeddle hlast).unstopped
  broken := (h.unharmed.next ho ha hmeddle hlast).broken
  own := h.own_next ha hlast
  replied := by
    intro k line outcome hk
    split at hk
    · rename_i hi
      cases a with
      | launched m =>
        obtain rfl : m = i := by simpa [Act.job?] using hi
        simp [Act.lasts] at hlast
      | took m other ended =>
        obtain rfl : m = i := by simpa [Act.job?] using hi
        simp only [Job.Record.add, h.unstopped, Bool.false_eq_true, if_false] at hk
        -- the earlier outcomes were the device's replies before, so only the last is looked at
        by_cases hlt : k < r.outcomes.length
        · rw [List.getElem?_append_left hlt] at hk
          exact h.replied k line outcome hk
        · rw [List.getElem?_append_right (Nat.le_of_not_lt hlt), List.getElem?_singleton] at hk
          split at hk
          · rename_i hzero
            obtain ⟨rfl, rfl⟩ : other = line ∧ ended = outcome := by simpa using hk
            obtain rfl : k = r.outcomes.length := by omega
            exact h.replied_took hkeeps hlines ho hopen ha fun answer hended =>
              hanswer other answer (by rw [hended])
          · cases hk
      | _ => exact h.replied k line outcome hk
    · exact h.replied k line outcome hk
  wanted := (h.unharmed.next ho ha hmeddle hlast).wanted

end Proceeds

/-- From its start on, a job that is left to run on a connection that lasts
proceeds. -/
theorem Core.Permits.proceeds {reply : List String → String} {c : Core} {before acts : List Act}
    {i : Nat} {name : String} {p : Program} (h : c.Permits (before ++ .launched i name p :: acts))
    (hnew : c.IsNew) (hmeddle : ∀ a ∈ before ++ .launched i name p :: acts, a.isMeddling = false)
    (hturn : Ledger.InTurn {} (before ++ .launched i name p :: acts))
    (honline : (c.after before).online = true) (hown : (Ledger.ofActs before).own i = [])
    (hlast : ∀ a ∈ acts, a.lasts i = true)
    (hreplies : (Ledger.ofActs (before ++ .launched i name p :: acts)).Replies i reply) :
    Proceeds reply i p (Ledger.ofActs (before ++ .launched i name p :: acts))
      (Job.Record.since i p acts) (c.after (before ++ .launched i name p :: acts)) := by
  induction acts using List.reverseRecOn with
  | nil =>
    obtain ⟨hbefore, ha, -⟩ := permits_append.mp h
    have howned := hbefore.owned hnew fun a ha => hmeddle a (List.mem_append_left _ ha)
    have hunharmed := Unharmed.launch howned honline ha
    rw [after_append, Ledger.ofActs_append]
    -- at the launch the ledger has no line of the job, and nothing has been taken
    exact {
      online := honline
      unstopped := rfl
      broken := rfl
      own := hown
      replied := by simp [Job.Record.since, Act.deeds]
      wanted := hunharmed.wanted }
  | append_singleton acts a ih =>
    have hsplit : before ++ .launched i name p :: (acts ++ [a]) =
        (before ++ .launched i name p :: acts) ++ [a] := by simp
    rw [hsplit] at h hmeddle hturn hreplies
    rw [hsplit]
    obtain ⟨hacts, ha, -⟩ := permits_append.mp h
    obtain ⟨hturns, -⟩ := Ledger.inTurn_append.mp hturn
    have hearlier : ∀ b ∈ before ++ .launched i name p :: acts, b.isMeddling = false :=
      fun b hb => hmeddle b (List.mem_append_left _ hb)
    have hlasts : ∀ b ∈ acts, b.lasts i = true := fun b hb => hlast b (List.mem_append_left _ hb)
    have hstay := hlast a (by simp)
    rw [Ledger.ofActs_append] at hreplies
    have hreplied := hreplies.of_add hstay
    rw [Ledger.ofActs_append, after_append, Job.Record.since_concat]
    refine (ih hacts hearlier hturns hlasts hreplied).next (hacts.keeps_since (hnew.job i))
      (Job.Record.since_program p fun b hb => Act.not_launches_of_lasts (hlasts b hb))
      (hacts.owned hnew hearlier) (hacts.open_of_online hnew hearlier ?_) ha (hmeddle a (by simp))
      hstay ?_
    · exact (ih hacts hearlier hturns hlasts hreplied).online
    -- an answer that is taken is the one to the last line, so it is what the device replied
    · rintro line answer rfl
      obtain ⟨n, hlatest, hheard⟩ := h.own_answer hnew hearlier hturns
      exact hreplied.latest hlatest hheard

/-- A job that was started is never again as it was before. -/
theorem Core.Permits.started {c : Core} {before acts : List Act} {i : Nat} {name : String}
    {p : Program} (h : c.Permits (before ++ .launched i name p :: acts)) :
    ((c.after (before ++ .launched i name p :: acts)).job i).snapshot.state ≠ .idle := by
  obtain ⟨-, ha, hacts⟩ := permits_append.mp h
  obtain ⟨hlives, hjob⟩ := Core.Permits.job hacts i
  rw [after_append]
  show ((((c.after before).next (.launched i name p)).after acts).job i).snapshot.state ≠ .idle
  rw [hjob]
  refine hlives.invariant (P := fun _ j => j.snapshot.state ≠ .idle) ?_
    fun _ _ hfit hne => Job.ne_idle_onJob hfit hne
  rw [next_job_self ha rfl]
  simp [Act.onJob, Job.launch, Job.Snapshot.launch]

/-! ### The end -/

/-- How a job has ended, as the replies to its lines decide it. -/
structure Decided (reply : List String → String) (p : Program) (r : Job.Record) (j : Job) :
    Prop where
  /-- All lines were accepted, or the line at the cursor was not. -/
  ended : (j.snapshot.state = .finished ∧ j.snapshot.cursor = p.lines.length) ∨
    (j.snapshot.state = .errored ∧ j.snapshot.cursor < p.lines.length ∧
      Machine.isAccepted (reply (p.lines.take (j.snapshot.cursor + 1))) = false)
  /-- The lines before it were. -/
  accepted : ∀ k < j.snapshot.cursor, Machine.isAccepted (reply (p.lines.take (k + 1))) = true
  /-- Each line was handed over up to that one. -/
  handed : r.handed = p.lines.take (j.snapshot.cursor + 1)
  /-- Each line that was accepted was reported. -/
  progress : r.progress = Job.counted j.snapshot.cursor p.lines.length

namespace Decided

variable {reply : List String → String} {p : Program} {r r' : Job.Record} {j j' : Job}

/-- What has been decided of a job is about lines of its program. -/
theorem cursor_le (h : Decided reply p r j) : j.snapshot.cursor ≤ p.lines.length := by
  rcases h.ended with ⟨-, hc⟩ | ⟨-, hc, -⟩ <;> omega

/-- No job that the same replies decide gets further than another. -/
theorem not_further (h : Decided reply p r j) (h' : Decided reply p r' j') :
    ¬ j.snapshot.cursor < j'.snapshot.cursor := by
  intro hlt
  -- the line at which the first job ended was accepted for the second
  have hle := h'.cursor_le
  have hacc := h'.accepted _ hlt
  rcases h.ended with ⟨-, hend⟩ | ⟨-, -, hrejected⟩
  · omega
  · simp [hrejected] at hacc

/-- The replies decide the end, the cursor, the lines handed over and the progress. -/
theorem unique (h : Decided reply p r j) (h' : Decided reply p r' j') :
    j.snapshot.state = j'.snapshot.state ∧ j.snapshot.cursor = j'.snapshot.cursor ∧
      r.handed = r'.handed ∧ r.progress = r'.progress := by
  have hcursor : j.snapshot.cursor = j'.snapshot.cursor :=
    Nat.le_antisymm (Nat.le_of_not_lt (h'.not_further h)) (Nat.le_of_not_lt (h.not_further h'))
  refine ⟨?_, hcursor, ?_, ?_⟩
  · rcases h.ended with ⟨hs, hc⟩ | ⟨hs, hc, -⟩ <;>
      rcases h'.ended with ⟨hs', hc'⟩ | ⟨hs', hc', -⟩
    · rw [hs, hs']
    · omega
    · omega
    · rw [hs, hs']
  · rw [h.handed, h'.handed, hcursor]
  · rw [h.progress, h'.progress, hcursor]

end Decided

namespace Proceeds

variable {reply : List String → String} {i : Nat} {p : Program} {l : Ledger}
  {r : Job.Record} {c : Core}

/-- A wait ended well if the reply accepts. -/
theorem accepts_eq (h : Proceeds reply i p l r c) {k : Nat} (hk : k < r.outcomes.length) :
    r.outcomes[k].2.accepts = Machine.isAccepted (reply (p.lines.take (k + 1))) := by
  have houtcome := h.replied k r.outcomes[k].1 r.outcomes[k].2 (List.getElem?_eq_getElem hk)
  rw [houtcome]
  rfl

/-- The waits that are counted ended with replies that accept. -/
theorem accepted (h : Proceeds reply i p l r c) (hkeeps : Job.Keeps r (c.job i)) {k : Nat}
    (hk : k < (c.job i).snapshot.cursor) :
    Machine.isAccepted (reply (p.lines.take (k + 1))) = true := by
  have hlt := Nat.lt_of_lt_of_le hk hkeeps.cursor
  have hmem : r.outcomes[k] ∈ r.outcomes.take (c.job i).snapshot.cursor :=
    List.mem_take_iff_getElem.mpr ⟨k, by omega, rfl⟩
  rw [← h.accepts_eq hlt]
  exact hkeeps.accepted _ hmem

/-- A job whose thread has ended was decided by the replies. -/
theorem decided_of_gone (h : Proceeds reply i p l r c) (hkeeps : Job.Keeps r (c.job i))
    (hlines : r.program = p.lines) (hgone : (c.job i).stage = .gone)
    (hstate : (c.job i).snapshot.state = .finished ∨ (c.job i).snapshot.state = .errored) :
    Decided reply p r (c.job i) := by
  have hprogram : (c.job i).lines = p.lines := hkeeps.program.symm.trans hlines
  have htotal : (c.job i).snapshot.total = p.lines.length := by rw [hkeeps.total, hprogram]
  have hle := hkeeps.handed_le
  have hhanded := hkeeps.handed
  have hsucc := hkeeps.handed_le_succ
  have hanswered := hkeeps.answered
  have hcursor := hkeeps.cursor
  rw [hprogram] at hle hhanded
  have hprogress := hkeeps.progress
  rw [htotal] at hprogress
  rcases hstate with hs | hs
  · have hend := (hkeeps.finished hs).trans htotal
    refine ⟨.inl ⟨hs, hend⟩, fun k hk => h.accepted hkeeps hk, ?_, hprogress⟩
    rw [hhanded, List.take_of_length_le (by omega), List.take_of_length_le (by omega)]
  · -- neither a stop nor a failed write has ended the job, so its last answer has
    obtain ⟨hlast, hreject⟩ := h.unharmed.rejected hkeeps hgone hs
    have hlt : (c.job i).snapshot.cursor < r.outcomes.length := by omega
    have hmem : r.outcomes[(c.job i).snapshot.cursor] ∈
        r.outcomes.drop (c.job i).snapshot.cursor :=
      List.mem_drop_iff_getElem.mpr ⟨0, by omega, by simp⟩
    have hrejects := hreject _ hmem
    rw [h.accepts_eq hlt] at hrejects
    refine ⟨.inr ⟨hs, by omega, hrejects⟩, fun k hk => h.accepted hkeeps hk, ?_, hprogress⟩
    rw [hhanded]
    congr 1
    omega

/-- Once all answers have arrived, and the job is not paused and its write not held up,
the replies have decided it. -/
theorem decided (h : Proceeds reply i p l r c) (hkeeps : Job.Keeps r (c.job i))
    (hlines : r.program = p.lines) (hattr : Attributes l c) (ho : c.Owned) (hrest : c.AtRest)
    (hstarted : (c.job i).snapshot.state ≠ .idle) (hdelivered : l.heard.length = l.written.length)
    (hresumed : (c.job i).snapshot.state ≠ .paused) (hreturned : (c.job i).isHanging = false) :
    Decided reply p r (c.job i) := by
  rcases h.unharmed.rest_cases hkeeps ho hrest hstarted hresumed hreturned with
    ⟨hgone, hstate⟩ | ⟨line, hs⟩
  · exact h.decided_of_gone hkeeps hlines hgone hstate
  · -- every answer has arrived, so none is left to wait for
    obtain ⟨n, hlatest, hle⟩ := h.unharmed.not_missed hattr hrest hs
    have hlt := (List.getElem?_eq_some_iff.mp hlatest.here).1
    omega

end Proceeds

/-! ### Two sessions -/

namespace Session

/-- A job is started on a program on a connection on which it has written nothing yet,
and is left to run. The connection lasts, answers arrive in their turn, and the device
answers a line of the job by the lines of the job so far. What else is sent and
received, and when, is free, and so is who pauses and resumes the job. -/
structure Unhindered (reply : List String → String) (p : Program) (s : Session) (h : History)
    (i : Nat) (before : List Act) (name : String) (acts : List Act) : Prop where
  new : s.IsNew
  history : s.HasHistory h
  undisturbed : s.Undisturbed h.steps
  starts : h.acts = before ++ .launched i name p :: acts
  connected : (s.core.after before).online = true
  fresh : (Ledger.ofActs before).own i = []
  lasting : ∀ a ∈ acts, a.lasts i = true
  inTurn : Ledger.InTurn {} h.acts
  replies : (Ledger.ofActs h.acts).Replies i reply

/-- All answers have arrived, and the job is neither paused nor held up in a write. -/
structure Delivered (s : Session) (h : History) (i : Nat) : Prop where
  answers : (Ledger.ofActs h.acts).heard.length = (Ledger.ofActs h.acts).written.length
  resumed : ((s.after h.steps).job i).snapshot.state ≠ .paused
  returned : ((s.after h.steps).job i).isHanging = false

namespace Unhindered

variable {reply : List String → String} {p : Program} {s : Session} {h : History} {i : Nat}
  {before acts : List Act} {name : String}

/-- From its start on an unhindered job proceeds, with the replies to its own lines. -/
theorem proceeds (hrun : Unhindered reply p s h i before name acts) :
    Proceeds reply i p (Ledger.ofActs h.acts) (Job.Record.since i p acts)
        (s.after h.steps).core ∧
      Attributes (Ledger.ofActs h.acts) (s.after h.steps).core := by
  have hpermits := hrun.history.permits
  have hmeddle : ∀ a ∈ h.acts, a.isMeddling = false :=
    fun a ha => hrun.history.not_meddling hrun.undisturbed ha
  have hattr := hpermits.attributes hrun.new.core hmeddle hrun.inTurn
  have hturn := hrun.inTurn
  have hreplies := hrun.replies
  rw [← hrun.history.core_after]
  refine ⟨?_, hattr⟩
  rw [hrun.starts] at hpermits hmeddle hturn hreplies ⊢
  exact hpermits.proceeds hrun.new.core hmeddle hturn hrun.connected hrun.fresh hrun.lasting
    hreplies

/-- The job does not wait for an answer that has arrived. -/
theorem not_missed (hrun : Unhindered reply p s h i before name acts) {line : String}
    (hs : ((s.after h.steps).job i).stage = .awaiting line) :
    ∃ n, (Ledger.ofActs h.acts).Latest i line n ∧ (Ledger.ofActs h.acts).heard.length ≤ n := by
  obtain ⟨hproceeds, hattr⟩ := hrun.proceeds
  exact hproceeds.unharmed.not_missed hattr (calm_after hrun.new.calm h.steps).rest hs

/-- The replies have decided the job. -/
theorem decided (hrun : Unhindered reply p s h i before name acts) (hend : Delivered s h i) :
    Decided reply p (Job.Record.since i p acts) ((s.after h.steps).job i) := by
  obtain ⟨hproceeds, hattr⟩ := hrun.proceeds
  have hkeeps : Job.Keeps (Job.Record.since i p acts) ((s.after h.steps).core.job i) := by
    rw [← hrun.history.core_after, hrun.starts]
    exact (hrun.starts ▸ hrun.history.permits).keeps_since (hrun.new.core.job i)
  have hlines := Job.Record.since_program p fun a ha =>
    Act.not_launches_of_lasts (hrun.lasting a ha)
  have hstarted : ((s.after h.steps).core.job i).snapshot.state ≠ .idle := by
    rw [← hrun.history.core_after, hrun.starts]
    exact (hrun.starts ▸ hrun.history.permits).started
  exact hproceeds.decided hkeeps hlines hattr (owned_after hrun.new hrun.undisturbed)
    (calm_after hrun.new.calm h.steps).rest hstarted hend.answers hend.resumed hend.returned

/-- What the job has put on the wire are the lines that it handed over, all of each. -/
theorem wiredBy_eq (hrun : Unhindered reply p s h i before name acts) (hend : Delivered s h i) :
    Act.wiredBy i acts = wireLines (Job.Record.since i p acts).handed := by
  have hpermits := hrun.history.permits
  rw [hrun.starts] at hpermits
  have hwire := hpermits.onWire fun a ha => Act.not_launches_of_lasts (hrun.lasting a ha)
  rw [← hrun.starts, hrun.history.core_after] at hwire
  exact hwire.whole hrun.proceeds.1.unharmed.broken hend.returned

end Unhindered

/-- The outcome does not depend on interference. Two lists of steps have histories, whose
acts are on the wire and in the journal. Let the two sessions start a job on the same
program, on a device that replies to the job's lines in the same way, and leave the jobs to
run. Neither job ever waits for an answer that has arrived; and once all answers have
arrived, and neither job is paused or held up in a write, both are finished or both are
halted, at the same cursor, and have handed over the same lines and reported the same
progress. What the one has put on the device's wire are just these lines, and so has the
other. -/
theorem outcome_independent {s s' : Session} (hnew : s.IsNew) (hnew' : s'.IsNew)
    (steps steps' : List Step) :
    (∃ h : History, h.steps = steps ∧ s.HasHistory h) ∧
      (∃ h' : History, h'.steps = steps' ∧ s'.HasHistory h') ∧
      ∀ h h' : History, h.steps = steps → h'.steps = steps' →
        ∀ (reply : List String → String) (p : Program) (i i' : Nat)
          (before before' acts acts' : List Act) (name name' : String),
          Unhindered reply p s h i before name acts →
          Unhindered reply p s' h' i' before' name' acts' →
          s.Attests h ∧ s'.Attests h' ∧
          (∀ line, ((s.after steps).job i).stage = .awaiting line →
            ∃ n, (Ledger.ofActs h.acts).Latest i line n ∧
              (Ledger.ofActs h.acts).heard.length ≤ n) ∧
          (∀ line, ((s'.after steps').job i').stage = .awaiting line →
            ∃ n, (Ledger.ofActs h'.acts).Latest i' line n ∧
              (Ledger.ofActs h'.acts).heard.length ≤ n) ∧
          (Delivered s h i → Delivered s' h' i' →
            (((s.after steps).job i).snapshot.state = .finished ∨
              ((s.after steps).job i).snapshot.state = .errored) ∧
            ((s.after steps).job i).snapshot.state =
              ((s'.after steps').job i').snapshot.state ∧
            ((s.after steps).job i).snapshot.cursor =
              ((s'.after steps').job i').snapshot.cursor ∧
            (Job.Record.since i p acts).handed = (Job.Record.since i' p acts').handed ∧
            (Job.Record.since i p acts).progress = (Job.Record.since i' p acts').progress ∧
            Act.wiredBy i acts = wireLines (Job.Record.since i p acts).handed ∧
            Act.wiredBy i' acts' = Act.wiredBy i acts) := by
  refine ⟨exists_history hnew.calm steps, exists_history hnew'.calm steps', ?_⟩
  rintro h h' rfl rfl reply p i i' before before' acts acts' name name' hrun hrun'
  refine ⟨hrun.history.attests, hrun'.history.attests, fun _ => hrun.not_missed,
    fun _ => hrun'.not_missed, fun hend hend' => ?_⟩
  have hdecided := hrun.decided hend
  obtain ⟨hstate, hcursor, hhanded, hprogress⟩ := hdecided.unique (hrun'.decided hend')
  have hwired := hrun.wiredBy_eq hend
  refine ⟨hdecided.ended.imp And.left And.left, hstate, hcursor, hhanded, hprogress, hwired, ?_⟩
  rw [hrun'.wiredBy_eq hend', hwired, hhanded]

/-- The second line of a job is rejected. -/
def rejectSecond (lines : List String) : String := if lines.length < 2 then "ok" else "error:9"

/-- A session whose device rejects one line and accepts all others. -/
def strict : Session :=
  { device := { auto := [111, 107, 10]
                replies := [("G1", [101, 114, 114, 111, 114, 58, 57, 10])] } }

/-- A job runs alone. -/
def alone : History :=
  [(.connect "COM3" 9600, [.dropped, .opened]),
    (.start 0 "a" ⟨["G0", "G1"]⟩,
      [.launched 0 "a" ⟨["G0", "G1"]⟩, .moved 0 none, .armed 0 "G0", .wrote 0 "G0" [],
        .returned 0 "G0" none, .heard "ok", .took 0 "G0" (.answer "ok"), .moved 0 (some ⟨1, 2⟩),
        .moved 0 none, .armed 0 "G1", .wrote 0 "G1" [], .returned 0 "G1" none, .heard "error:9",
        .took 0 "G1" (.answer "error:9"), .moved 0 none, .released 0, .moved 0 none])]

/-- A job is paused twice, and lines of the operator come between its own. -/
def interrupted : History :=
  [(.connect "COM3" 9600, [.dropped, .opened]),
    (.send "M3", [.noted "M3"]),
    (.start 0 "b" ⟨["G0", "G1"]⟩,
      [.launched 0 "b" ⟨["G0", "G1"]⟩, .moved 0 none, .armed 0 "G0", .wrote 0 "G0" [],
        .returned 0 "G0" none]),
    (.deviceSends [.bytes [111, 107, 10]], [.heard "ok"]),
    (.pause 0, [.paused 0]),
    (.deviceSends [.bytes [111, 107, 10]],
      [.heard "ok", .took 0 "G0" (.answer "ok"), .moved 0 (some ⟨1, 2⟩)]),
    (.resume 0,
      [.resumed 0, .moved 0 none, .armed 0 "G1", .wrote 0 "G1" [], .returned 0 "G1" none]),
    (.send "M5", [.noted "M5"]),
    (.pause 0, [.paused 0]),
    (.deviceSends [.bytes [101, 114, 114, 111, 114, 58, 57, 10]],
      [.heard "error:9", .took 0 "G1" (.answer "error:9"), .moved 0 none]),
    (.resume 0, [.resumed 0, .moved 0 none, .released 0, .moved 0 none]),
    (.deviceSends [.bytes [111, 107, 10]], [.heard "ok"])]

/-- One of the two devices is interrupted by reports, a pause and lines of the operator. -/
theorem outcome_independent_interrupted :
    ((strict.after alone.steps).job 0).snapshot.state =
        ((silent.after interrupted.steps).job 0).snapshot.state ∧
      ((strict.after alone.steps).job 0).snapshot.cursor =
        ((silent.after interrupted.steps).job 0).snapshot.cursor ∧
      Act.wiredBy 0 (interrupted.acts.drop 4) = Act.wiredBy 0 (alone.acts.drop 3) := by
  have halone : Unhindered rejectSecond ⟨["G0", "G1"]⟩ strict alone 0
      (alone.acts.take 2) "a" (alone.acts.drop 3) :=
    ⟨⟨rfl, by decide⟩, by decide +kernel, by decide, rfl, by decide, by decide, by decide,
      by decide, by decide⟩
  have hinterrupted : Unhindered rejectSecond ⟨["G0", "G1"]⟩ silent interrupted 0
      (interrupted.acts.take 3) "b" (interrupted.acts.drop 4) :=
    ⟨⟨rfl, by decide⟩, by decide +kernel, by decide, rfl, by decide, by decide, by decide,
      by decide, by decide⟩
  obtain ⟨-, -, hindependent⟩ :=
    outcome_independent halone.new hinterrupted.new alone.steps interrupted.steps
  obtain ⟨-, -, -, -, hsame⟩ := hindependent _ _ rfl rfl _ _ _ _ _ _ _ _ _ _ halone hinterrupted
  obtain ⟨-, hstate, hcursor, -, -, -, hwired⟩ := hsame
    ⟨by decide, by decide +kernel, by decide +kernel⟩
    ⟨by decide, by decide +kernel, by decide +kernel⟩
  exact ⟨hstate, hcursor, hwired⟩

end Session

end GcodeSender
