import GcodeSender.Proofs.Job.Outcome
import GcodeSender.Proofs.Machine.Response

/-!
# `GcodeSender.Proofs.Link.Reset`: answers after a soft reset

A soft reset makes the device forget the lines that it has not answered yet. The slot is
not told: it goes on counting the forgotten lines as owed their answers, until the
connection ends. So the answers to later lines are taken for those that never come.

`Desk` is the device's side: how many lines it has received, how many of them it has
forgotten, and for each answer the number of the line that it is for. The host's side is
the `Ledger`, where the `n`-th answer belongs to the `n`-th line. `Desk.Agrees` relates
the two: the `n`-th answer is for a line that comes after the `n`-th by at least the
lines forgotten before that, and at most by those forgotten so far.

* `Desk.Agrees.add` is the step, and `Desk.agrees_of` the run.
* `Lasting`: a job that was started on a connection that lasts, and is left to run. Its
  waits end with answers that have the numbers of its own lines.
* `answers_after_reset`: what a job takes, when it is finished, and what the forgotten
  lines cost it.

Where nothing was forgotten on the connection, each line gets its own answer. Where
something was, no later line does, and a job is finished only when as many other lines
have followed its last one.
-/

set_option autoImplicit false

namespace GcodeSender

/-! ### The device's side -/

/-- Something that concerns the device: an act of the session, or a soft reset. -/
inductive Happening where
  | reset
  | act (a : Act)
deriving DecidableEq

namespace Happening

/-- The act, if it is one. -/
def act? : Happening → Option Act
  | .reset => none
  | .act a => some a

end Happening

/-- The acts among several happenings. -/
def actsOf (happenings : List Happening) : List Act := happenings.filterMap Happening.act?

/-- The acts among happenings are taken in order. -/
theorem actsOf_append (earlier later : List Happening) :
    actsOf (earlier ++ later) = actsOf earlier ++ actsOf later := List.filterMap_append

/-- An act is one of them. -/
theorem actsOf_cons_act (a : Act) (later : List Happening) :
    actsOf (.act a :: later) = a :: actsOf later := rfl

/-- Acts alone are just themselves. -/
theorem actsOf_map (acts : List Act) : actsOf (acts.map .act) = acts := by
  rw [actsOf, List.filterMap_map]
  exact List.filterMap_some

/-- A connection begins or ends, and with it the numbering of its lines. -/
def Act.renews : Act → Bool
  | .opened | .closed | .broke _ => true
  | _ => false

/-- What the device has received and answered on the present connection. -/
structure Desk where
  /-- For each line received, how many lines were forgotten before it came. -/
  received : List Nat := []
  /-- How many lines are forgotten. -/
  forgotten : Nat := 0
  /-- The answers, each with the number of the line that it is for. -/
  replied : List (Nat × String) := []
deriving DecidableEq

namespace Desk

/-- The number of the line that is answered next. -/
def next (d : Desk) : Nat := d.replied.length + d.forgotten

/-- The desk after one more happening. A reset clears it of the lines that are not
answered, and a new connection begins a new one. -/
def add (d : Desk) : Happening → Desk
  | .reset => { d with forgotten := d.forgotten + (d.received.length - d.next) }
  | .act .opened | .act .closed | .act (.broke _) => {}
  | .act (.noted _) | .act (.wrote _ _ _) => { d with received := d.received ++ [d.forgotten] }
  | .act (.heard answer) => { d with replied := d.replied ++ [(d.next, answer)] }
  | .act _ => d

/-- The desk after several happenings. -/
def of (happenings : List Happening) : Desk := happenings.foldl add {}

/-- The desk goes on with each happening. -/
theorem of_concat (happenings : List Happening) (x : Happening) :
    of (happenings ++ [x]) = (of happenings).add x := by simp [of]

/-- The device answers in order, and only lines that it has received and not
forgotten. -/
def InTurn (d : Desk) : List Happening → Prop
  | [] => True
  | x :: later =>
    (∀ a ∈ x.act?, ∀ _ ∈ a.answer?, d.next < d.received.length) ∧ (d.add x).InTurn later

instance decidableInTurn : (d : Desk) → (happenings : List Happening) →
    Decidable (d.InTurn happenings)
  | _, [] => inferInstanceAs (Decidable True)
  | d, x :: later =>
    haveI := decidableInTurn (d.add x) later
    inferInstanceAs (Decidable
      ((∀ a ∈ x.act?, ∀ _ ∈ a.answer?, d.next < d.received.length) ∧ (d.add x).InTurn later))

/-- To be in turn, the next answer must have a line on the desk. -/
theorem inTurn_concat {d : Desk} {happenings : List Happening} {x : Happening} :
    d.InTurn (happenings ++ [x]) ↔ d.InTurn happenings ∧
      ∀ a ∈ x.act?, ∀ _ ∈ a.answer?,
        (happenings.foldl add d).next < (happenings.foldl add d).received.length := by
  induction happenings generalizing d with
  | nil => simp [InTurn]
  | cons y happenings ih =>
    rw [List.cons_append, InTurn, InTurn, ih, and_assoc]
    rfl

/-! ### Both sides -/

/-- The device's side and the host's belong to the same lines and answers. -/
structure Agrees (d : Desk) (l : Ledger) : Prop where
  received : d.received.length = l.written.length
  replied : d.replied.map (·.2) = l.heard
  /-- No line is answered that was not received. -/
  next_le : d.next ≤ d.received.length
  known : ∀ k ∈ d.received, k ≤ d.forgotten
  /-- The `n`-th answer is for a line after the `n`-th. -/
  late : ∀ n m answer, d.replied[n]? = some (m, answer) →
    m < d.received.length ∧ m ≤ n + d.forgotten ∧ ∀ k, d.received[n]? = some k → n + k ≤ m

namespace Agrees

variable {d : Desk} {l : Ledger}

/-- A line that is received comes after all that were forgotten before. -/
theorem receive (h : d.Agrees l) (writer : Option Nat) (line : String) :
    Agrees { d with received := d.received ++ [d.forgotten] }
      { l with written := l.written ++ [(writer, line)] } where
  received := by simp [h.received]
  replied := h.replied
  next_le := by
    have hle := h.next_le
    show d.next ≤ (d.received ++ [d.forgotten]).length
    rw [List.length_append]
    omega
  known := by
    intro k hk
    rcases List.mem_append.mp hk with hk | hk
    · exact h.known k hk
    · exact Nat.le_of_eq (List.mem_singleton.mp hk)
  late := by
    intro n m answer hn
    obtain ⟨hm, hle, hlate⟩ := h.late n m answer hn
    refine ⟨Nat.lt_of_lt_of_le hm (by simp), hle, fun k hk => hlate k ?_⟩
    -- the answered line is not the one that has just come
    have hanswered : n < d.replied.length := (List.getElem?_eq_some_iff.mp hn).1
    have hbound := h.next_le
    rwa [List.getElem?_append_left (by unfold next at hbound; omega)] at hk

/-- An answer is for the first line that is neither answered nor forgotten. -/
theorem reply (h : d.Agrees l) (hturn : d.next < d.received.length) (answer : String) :
    Agrees { d with replied := d.replied ++ [(d.next, answer)] }
      { l with heard := l.heard ++ [answer] } where
  received := h.received
  replied := by simp [h.replied]
  next_le := by
    unfold next at hturn ⊢
    show (d.replied ++ [_]).length + d.forgotten ≤ d.received.length
    rw [List.length_append, List.length_singleton]
    omega
  known := h.known
  late := by
    intro n m other hn
    by_cases hlt : n < d.replied.length
    · rw [List.getElem?_append_left hlt] at hn
      exact h.late n m other hn
    · rw [List.getElem?_append_right (Nat.le_of_not_lt hlt), List.getElem?_singleton] at hn
      split at hn
      · obtain ⟨rfl, -⟩ : d.next = m ∧ answer = other := by simpa using hn
        obtain rfl : n = d.replied.length := by omega
        -- every line received was preceded by at most the lines forgotten so far
        refine ⟨hturn, Nat.le_refl _, fun k hk => Nat.add_le_add_left (h.known k ?_) _⟩
        exact List.mem_of_getElem? hk
      · cases hn

/-- A reset forgets all lines that wait for their answers. -/
theorem reset (h : d.Agrees l) : (d.add .reset).Agrees l where
  received := h.received
  replied := h.replied
  -- as many lines as are forgotten are skipped, so the next answer is for a later line
  next_le := by
    have hle := h.next_le
    show d.replied.length + (d.forgotten + (d.received.length - d.next)) ≤ d.received.length
    unfold next at hle ⊢
    omega
  known k hk := Nat.le_trans (h.known k hk) (Nat.le_add_right _ _)
  late n m answer hn := by
    obtain ⟨hm, hle, hlate⟩ := h.late n m answer hn
    refine ⟨hm, ?_, hlate⟩
    show m ≤ n + (d.forgotten + (d.received.length - d.next))
    omega

/-- The two sides agree when nothing was written yet. -/
theorem new : Agrees {} {} where
  received := rfl
  replied := rfl
  next_le := Nat.le_refl 0
  known := nofun
  late := by simp

/-- They agree after an act, if it is no answer or is one in its turn. -/
theorem act (h : d.Agrees l) {a : Act} (hturn : ∀ _ ∈ a.answer?, d.next < d.received.length) :
    (d.add (.act a)).Agrees (l.add a) := by
  cases a with
  | opened | closed | broke => exact new
  | noted line => exact h.receive none line
  | wrote i line rest => exact h.receive (some i) line
  | heard answer => exact h.reply (hturn answer rfl) answer
  | _ => exact h

/-- On the host's side too, no answer comes before its line. -/
theorem heard_lt (h : d.Agrees l) (hturn : d.next < d.received.length) :
    l.heard.length < l.written.length := by
  have hheard := congrArg List.length h.replied
  rw [List.length_map] at hheard
  rw [← h.received, ← hheard]
  unfold next at hturn
  omega

/-- Where nothing is forgotten, an answer is for the line with its number. -/
theorem own (h : d.Agrees l) (hnone : d.forgotten = 0) {n m : Nat} {answer : String}
    (hn : d.replied[n]? = some (m, answer)) : m = n := by
  obtain ⟨hm, hle, hlate⟩ := h.late n m answer hn
  have hlt := (List.getElem?_eq_some_iff.mp hn).1
  have hbound := h.next_le
  have hreceived : n < d.received.length := by unfold next at hbound; omega
  have hge := hlate _ (List.getElem?_eq_getElem hreceived)
  omega

/-- The host's `n`-th answer, as the device knows it. -/
theorem replied_of_heard (h : d.Agrees l) {n : Nat} {answer : String}
    (hn : l.heard[n]? = some answer) :
    ∃ m k, d.replied[n]? = some (m, answer) ∧ d.received[n]? = some k ∧ n + k ≤ m ∧
      m ≤ n + d.forgotten ∧ m < d.received.length := by
  rw [← h.replied, List.getElem?_map] at hn
  obtain ⟨⟨m, _⟩, hm, rfl⟩ := Option.map_eq_some_iff.mp hn
  have hlt := (List.getElem?_eq_some_iff.mp hm).1
  have hbound := h.next_le
  have hreceived : n < d.received.length := by unfold next at hbound; omega
  obtain ⟨hbefore, hle, hlate⟩ := h.late n m _ hm
  exact ⟨m, d.received[n], hm, List.getElem?_eq_getElem hreceived,
    hlate _ (List.getElem?_eq_getElem hreceived), hle, hbefore⟩

end Agrees

/-- If the device answers in turn, so it is for the host, and the two sides agree. -/
theorem agrees_of {happenings : List Happening} (hturn : InTurn {} happenings) :
    (of happenings).Agrees (Ledger.ofActs (actsOf happenings)) ∧
      Ledger.InTurn {} (actsOf happenings) := by
  -- on what happens, the last first: a reset is no act, and an answer is in its turn
  induction happenings using List.reverseRecOn with
  | nil => exact ⟨Agrees.new, trivial⟩
  | append_singleton happenings x ih =>
    obtain ⟨hbefore, hnow⟩ := inTurn_concat.mp hturn
    obtain ⟨hagrees, hledger⟩ := ih hbefore
    rw [of_concat, actsOf_append]
    cases x with
    | reset =>
      rw [show actsOf [.reset] = [] from rfl, List.append_nil]
      exact ⟨hagrees.reset, hledger⟩
    | act a =>
      have hanswer : ∀ _ ∈ a.answer?, (of happenings).next < (of happenings).received.length :=
        hnow a rfl
      rw [show actsOf [.act a] = [a] from rfl, Ledger.ofActs_append]
      refine ⟨hagrees.act hanswer, Ledger.inTurn_append.mpr ⟨hledger, fun answer ha => ?_⟩⟩
      exact hagrees.heard_lt (hanswer answer ha)

/-- What is in turn was so at every time before. -/
theorem inTurn_of_append {d : Desk} {earlier later : List Happening}
    (h : d.InTurn (earlier ++ later)) : d.InTurn earlier := by
  induction earlier generalizing d with
  | nil => trivial
  | cons x earlier ih => exact ⟨h.1, ih h.2⟩

/-! ### What was forgotten before a job was started -/

/-- At least so many lines were forgotten before each line from the given one on. -/
structure Burdened (k start : Nat) (d : Desk) : Prop where
  forgotten : k ≤ d.forgotten
  received : ∀ n j, start ≤ n → d.received[n]? = some j → k ≤ j

/-- That stays so while the connection lasts. -/
theorem Burdened.add {k start : Nat} {d : Desk} (h : d.Burdened k start) {x : Happening}
    (hlast : ∀ a ∈ x.act?, a.renews = false) : (d.add x).Burdened k start := by
  have hmore : Burdened k start { d with received := d.received ++ [d.forgotten] } :=
    { forgotten := h.forgotten
      received := by
        intro n j hn hj
        by_cases hlt : n < d.received.length
        · rw [List.getElem?_append_left hlt] at hj
          exact h.received n j hn hj
        · -- the line that has just come is after all that are forgotten
          rw [List.getElem?_append_right (Nat.le_of_not_lt hlt)] at hj
          obtain rfl := List.mem_singleton.mp (List.mem_of_getElem? hj)
          exact h.forgotten }
  cases x with
  | reset => exact ⟨Nat.le_trans h.forgotten (Nat.le_add_right _ _), h.received⟩
  | act a =>
    cases a with
    | opened | closed | broke => cases hlast _ rfl
    | noted | wrote => exact hmore
    | heard => exact ⟨h.forgotten, h.received⟩
    | _ => exact h

/-- The lines forgotten so far burden all that come later on the connection. -/
theorem burdened_of_append (earlier : List Happening) {later : List Happening}
    (hlast : ∀ a ∈ actsOf later, a.renews = false) :
    (of (earlier ++ later)).Burdened (of earlier).forgotten (of earlier).received.length := by
  induction later using List.reverseRecOn with
  | nil =>
    rw [List.append_nil]
    refine ⟨Nat.le_refl _, fun n j hn hj => ?_⟩
    exact absurd (List.getElem?_eq_some_iff.mp hj).1 (Nat.not_lt.mpr hn)
  | append_singleton later x ih =>
    rw [actsOf_append] at hlast
    rw [← List.append_assoc, of_concat]
    refine (ih fun a ha => hlast a (List.mem_append_left _ ha)).add fun a ha => ?_
    exact hlast a (List.mem_append_right _ (List.mem_filterMap.mpr ⟨x, by simp, ha⟩))

end Desk

/-! ### A job on a connection that lasts -/

namespace Ledger

variable {l : Ledger} {i : Nat} {a : Act} {n : Nat}

/-- While the connection lasts, what was written stays. -/
theorem written_add (hlast : a.lasts i = true) {entry : Option Nat × String}
    (h : l.written[n]? = some entry) : (l.add a).written[n]? = some entry := by
  obtain ⟨written, heard, hadd⟩ := add_of_lasts hlast l
  rw [hadd, List.getElem?_append_left (List.getElem?_eq_some_iff.mp h).1, h]

/-- So does what was heard. -/
theorem heard_add (hlast : a.lasts i = true) {answer : String}
    (h : l.heard[n]? = some answer) : (l.add a).heard[n]? = some answer := by
  obtain ⟨written, heard, hadd⟩ := add_of_lasts hlast l
  rw [hadd, List.getElem?_append_left (List.getElem?_eq_some_iff.mp h).1, h]

/-- A line that is new in the ledger is the last, and has just been written. -/
theorem wrote_of_written_add (hlast : a.lasts i = true) {writer : Nat} {line : String}
    (h : (l.add a).written[n]? = some (some writer, line)) (hnew : l.written.length ≤ n) :
    ∃ rest, a = .wrote writer line rest := by
  -- it is not among the lines before, so it is the one that the act adds
  have hnone : l.written[n]? = none := List.getElem?_eq_none hnew
  cases a with
  | opened | closed | broke => cases hlast
  | noted other =>
    replace h : (l.written ++ [(none, other)])[n]? = some (some writer, line) := h
    rw [List.getElem?_append_right hnew] at h
    exact absurd (List.mem_singleton.mp (List.mem_of_getElem? h)) (by simp)
  | wrote k other rest =>
    replace h : (l.written ++ [(some k, other)])[n]? = some (some writer, line) := h
    rw [List.getElem?_append_right hnew] at h
    obtain ⟨rfl, rfl⟩ : writer = k ∧ line = other := by
      simpa using List.mem_singleton.mp (List.mem_of_getElem? h)
    exact ⟨rest, rfl⟩
  | _ => exact absurd h (by simp [add, hnone])

/-- No line of a job comes after its last. -/
theorem Latest.le_of_written {line other : String} {m : Nat} (h : l.Latest i line n)
    (hm : l.written[m]? = some (some i, other)) : m ≤ n :=
  Nat.le_of_not_lt fun hlt => h.last m other hlt hm

end Ledger

/-- What a job does while it waits for an answer, and is left to run on a connection, leaves
it waiting. -/
theorem Act.waitsFor?_onJob {a : Act} {i : Nat} {j : Job} {c : Core} (hfit : a.Fits j)
    (hallows : c.Allows a) (honline : c.online = true) (hlast : a.lasts i = true)
    (hi : a.job? = some i) (htook : ∀ line outcome, a ≠ .took i line outcome)
    (h : j.waitsFor?.isSome = true) : (a.onJob j).waitsFor?.isSome = true := by
  have hstage : (∃ line rest, j.stage = .hanging line rest) ∨ ∃ line, j.stage = .awaiting line := by
    cases hs : j.stage <;> simp_all [Job.waitsFor?]
  cases a with
  | opened | dropped | closed | broke | heard | noted | signalled | withheld | meddled => cases hi
  | launched k | abandoned k | stopped k =>
    obtain rfl : k = i := by simpa [Act.job?] using hi
    simp [Act.lasts] at hlast
  | paused k =>
    simp only [onJob, Job.pause_of_running hfit]
    exact h
  | resumed k =>
    simp only [onJob, Job.resume_of_paused hfit.1]
    exact h
  | yielded => rfl
  | returned k line failure =>
    obtain rfl : failure = none := by simpa [honline, Core.Allows] using hallows
    rfl
  | took k line outcome =>
    obtain rfl : k = i := by simpa [Act.job?] using hi
    exact absurd rfl (htook line outcome)
  | moved k p =>
    -- a thread that waits takes no step of its own
    rcases hstage with ⟨line, rest, hs⟩ | ⟨line, hs⟩ <;>
      simp [Act.Fits, Job.own?, Job.move, hs] at hfit
  | armed | wrote | refused | released =>
    rcases hstage with ⟨line, rest, hs⟩ | ⟨line, hs⟩ <;> simp [Act.Fits, hs] at hfit

/-- A job that was started when so many lines had been written on the connection, and is
left to run: its lines come after those, each of them but one that the job waits for has
its answer, and the job's waits ended with answers to its lines. -/
structure Lasting (i start : Nat) (l : Ledger) (r : Job.Record) (c : Core) : Prop
    extends Unharmed r c where
  start_le : start ≤ l.written.length
  since : ∀ line, (c.job i).waitsFor? = some line →
    ∃ n, start ≤ n ∧ l.written[n]? = some (some i, line)
  heard : ∀ n line, start ≤ n → l.written[n]? = some (some i, line) →
    n < l.heard.length ∨ (c.job i).waitsFor?.isSome = true
  outcomes : ∀ o ∈ r.outcomes, ∃ n answer, start ≤ n ∧ l.written[n]? = some (some i, o.1) ∧
    l.heard[n]? = some answer ∧ o.2 = .answer answer

namespace Lasting

variable {i start : Nat} {l : Ledger} {r : Job.Record} {c : Core} {a : Act}

/-- The line that the job waits for was written since its start. -/
theorem start_le_latest (h : Lasting i start l r c) {line : String} {n : Nat}
    (hwaits : (c.job i).waitsFor? = some line) (hlatest : l.Latest i line n) : start ≤ n := by
  obtain ⟨m, hm, hwritten⟩ := h.since line hwaits
  exact Nat.le_trans hm (hlatest.le_of_written hwritten)

/-- A line that is waited for was written since the job began. -/
theorem since_next (h : Lasting i start l r c) (ha : a.Possible c) (hlast : a.lasts i = true)
    {line : String} (hwaits : ((c.next a).job i).waitsFor? = some line) :
    ∃ n, start ≤ n ∧ (l.add a).written[n]? = some (some i, line) := by
  have hkeep : (c.job i).waitsFor? = some line →
      ∃ n, start ≤ n ∧ (l.add a).written[n]? = some (some i, line) := by
    intro hbefore
    obtain ⟨n, hn, hwritten⟩ := h.since line hbefore
    exact ⟨n, hn, Ledger.written_add hlast hwritten⟩
  by_cases hi : a.job? = some i
  · rw [Core.next_job_self ha hi] at hwaits
    have hfit := ha.2 i hi
    by_cases hquiet : a.isQuiet = true
    · exact hkeep ((Act.line_of_onJob line hfit hquiet).2 hwaits)
    · cases a with
      | opened | closed | broke | heard | noted | meddled => cases hi
      | armed k other =>
        replace hfit : (c.job i).stage = .arming other := hfit
        simp [Act.onJob, Job.armed, hfit, Job.waitsFor?] at hwaits
      | wrote k other rest =>
        -- the line has just been written
        obtain rfl : k = i := by simpa [Act.job?] using hi
        obtain rfl : other = line := by simpa [Act.onJob, Job.waitsFor?] using hwaits
        exact ⟨l.written.length, h.start_le, by simp [Ledger.add]⟩
      | took k other outcome =>
        exfalso
        cases outcome with
        | answer answer =>
          simp only [Act.onJob, Job.answered] at hwaits
          split at hwaits <;> simp [Job.waitsFor?] at hwaits
        | closed | cancelled => simp [Act.onJob, Job.answered, Job.waitsFor?] at hwaits
      | _ => exact absurd rfl hquiet
  · rw [Core.next_job_of_ne hi] at hwaits
    exact hkeep hwaits

/-- A line of the job has been answered, or its answer is waited for. -/
theorem heard_next (h : Lasting i start l r c) (hattr : Attributes l c)
    (hkeeps : Job.Keeps r (c.job i)) (ho : c.Owned) (hopen : c.slot.closed = false)
    (ha : a.Possible c) (hlast : a.lasts i = true) {n : Nat} {line : String} (hn : start ≤ n)
    (hwritten : (l.add a).written[n]? = some (some i, line)) :
    n < (l.add a).heard.length ∨ ((c.next a).job i).waitsFor?.isSome = true := by
  have hgrows : ∀ m, m < l.heard.length → m < (l.add a).heard.length := by
    intro m hm
    exact (List.getElem?_eq_some_iff.mp
      (Ledger.heard_add hlast (List.getElem?_eq_getElem hm))).1
  by_cases hnew : l.written.length ≤ n
  · -- the job has just written the line, and its write has not returned
    obtain ⟨rest, rfl⟩ := Ledger.wrote_of_written_add hlast hwritten hnew
    right
    rw [Core.next_job_self ha rfl]
    rfl
  · obtain ⟨entry, hentry⟩ : ∃ entry, l.written[n]? = some entry :=
      ⟨_, List.getElem?_eq_getElem (Nat.lt_of_not_le hnew)⟩
    obtain rfl : entry = (some i, line) :=
      Option.some.inj ((Ledger.written_add hlast hentry).symm.trans hwritten)
    rcases h.heard n line hn hentry with hheard | hwaits
    · exact .inl (hgrows n hheard)
    by_cases hi : a.job? = some i
    · by_cases htook : ∃ other outcome, a = .took i other outcome
      · -- the wait has ended with the answer to the job's last line
        obtain ⟨other, outcome, rfl⟩ := htook
        obtain ⟨answer, rfl⟩ := h.answered hkeeps ho hopen ha
        obtain ⟨m, hlatest, hanswer⟩ := hattr.took ha
        have hle := hlatest.le_of_written hentry
        exact .inl (Nat.lt_of_le_of_lt hle (hgrows m (List.getElem?_eq_some_iff.mp hanswer).1))
      · right
        rw [Core.next_job_self ha hi]
        exact Act.waitsFor?_onJob (ha.2 i hi) ha.1 h.online hlast hi
          (fun other outcome heq => htook ⟨other, outcome, heq⟩) hwaits
    · rw [Core.next_job_of_ne hi]
      exact .inr hwaits

/-- Whatever the job takes is the answer to a line of its own. -/
theorem outcomes_next (h : Lasting i start l r c) (hattr : Attributes l c)
    (hkeeps : Job.Keeps r (c.job i)) (ho : c.Owned) (hopen : c.slot.closed = false)
    (ha : a.Possible c) (hlast : a.lasts i = true) {o : String × Link.Outcome}
    (hmem : o ∈ (if a.job? = some i then r.add a else r).outcomes) :
    ∃ n answer, start ≤ n ∧ (l.add a).written[n]? = some (some i, o.1) ∧
      (l.add a).heard[n]? = some answer ∧ o.2 = .answer answer := by
  have hkeep : o ∈ r.outcomes → ∃ n answer, start ≤ n ∧
      (l.add a).written[n]? = some (some i, o.1) ∧ (l.add a).heard[n]? = some answer ∧
      o.2 = .answer answer := by
    -- what was taken before has its place in the ledger, and keeps it
    intro hbefore
    obtain ⟨n, answer, hn, hwritten, hanswer, hended⟩ := h.outcomes o hbefore
    exact ⟨n, answer, hn, Ledger.written_add hlast hwritten, Ledger.heard_add hlast hanswer, hended⟩
  by_cases hi : a.job? = some i
  · rw [if_pos hi] at hmem
    cases a with
    | launched k =>
      obtain rfl : k = i := by simpa [Act.job?] using hi
      simp [Act.lasts] at hlast
    | took k line outcome =>
      obtain rfl : k = i := by simpa [Act.job?] using hi
      simp only [Job.Record.add, h.unstopped, Bool.false_eq_true, if_false] at hmem
      rcases List.mem_append.mp hmem with hbefore | hnow
      · exact hkeep hbefore
      · obtain rfl := List.mem_singleton.mp hnow
        obtain ⟨answer, rfl⟩ := h.answered hkeeps ho hopen ha
        -- the thread waits for the last of its lines, which was written after the start
        obtain ⟨n, hlatest, hanswer⟩ := hattr.took ha
        have hstage : (c.job k).stage = .awaiting line := ha.2 k rfl
        exact ⟨n, answer, h.start_le_latest (by simp [Job.waitsFor?, hstage]) hlatest,
          hlatest.here, hanswer, rfl⟩
    | _ => exact hkeep hmem
  · rw [if_neg hi] at hmem
    exact hkeep hmem

/-- While the connection lasts and the job is left to run, that stays so. -/
theorem next (h : Lasting i start l r c) (hattr : Attributes l c)
    (hkeeps : Job.Keeps r (c.job i)) (ho : c.Owned) (hopen : c.slot.closed = false)
    (ha : a.Possible c) (hmeddle : a.isMeddling = false) (hlast : a.lasts i = true) :
    Lasting i start (l.add a) (if a.job? = some i then r.add a else r) (c.next a) where
  toUnharmed := h.toUnharmed.next ho ha hmeddle hlast
  start_le := by
    obtain ⟨written, heard, hadd⟩ := Ledger.add_of_lasts hlast l
    rw [hadd, List.length_append]
    exact Nat.le_add_right_of_le h.start_le
  since _ := h.since_next ha hlast
  heard _ _ := h.heard_next hattr hkeeps ho hopen ha hlast
  outcomes _ := h.outcomes_next hattr hkeeps ho hopen ha hlast

/-- If all its lines are accepted, the job is finished once it has come to rest, and is
neither paused nor held up in a write. -/
theorem finished (h : Lasting i start l r c) (hattr : Attributes l c)
    (hkeeps : Job.Keeps r (c.job i)) (ho : c.Owned) (hrest : c.AtRest)
    (hstarted : (c.job i).snapshot.state ≠ .idle)
    (haccepted : ∀ n line, start ≤ n → l.written[n]? = some (some i, line) →
      ∃ answer, l.heard[n]? = some answer ∧ Machine.isAccepted answer = true)
    (hresumed : (c.job i).snapshot.state ≠ .paused) (hreturned : (c.job i).isHanging = false) :
    (c.job i).snapshot.state = .finished := by
  rcases h.rest_cases hkeeps ho hrest hstarted hresumed hreturned with
    ⟨hgone, hfinished | hfailed⟩ | ⟨line, hs⟩
  · exact hfinished
  · -- a job fails only on an answer that does not accept its line
    exfalso
    obtain ⟨hlength, hrejected⟩ := h.rejected hkeeps hgone hfailed
    obtain ⟨o, ho'⟩ : ∃ o, o ∈ r.outcomes.drop (c.job i).snapshot.cursor :=
      List.exists_mem_of_length_pos (by rw [List.length_drop]; omega)
    obtain ⟨n, answer, hn, hwritten, hanswer, hended⟩ := h.outcomes o (List.mem_of_mem_drop ho')
    obtain ⟨_, hheard, haccepts⟩ := haccepted n _ hn hwritten
    obtain rfl := Option.some.inj (hanswer.symm.trans hheard)
    have hreject := hrejected o ho'
    rw [hended] at hreject
    exact absurd (haccepts.symm.trans hreject) (by decide)
  · -- nor does it wait for an answer that has arrived
    exfalso
    obtain ⟨n, hlatest, hle⟩ := h.not_missed hattr hrest hs
    have hwaits : (c.job i).waitsFor? = some line := by simp [Job.waitsFor?, hs]
    obtain ⟨_, hheard, -⟩ := haccepted n line (h.start_le_latest hwaits hlatest) hlatest.here
    exact absurd (List.getElem?_eq_some_iff.mp hheard).1 (Nat.not_lt.mpr hle)

end Lasting

/-- From its start on, this holds of a job that is left to run on a connection that
lasts. -/
theorem Core.Permits.lasting {c : Core} {before acts : List Act} {i : Nat} {name : String}
    {p : Program} (h : c.Permits (before ++ .launched i name p :: acts)) (hnew : c.IsNew)
    (hmeddle : ∀ a ∈ before ++ .launched i name p :: acts, a.isMeddling = false)
    (hturn : Ledger.InTurn {} (before ++ .launched i name p :: acts))
    (honline : (c.after before).online = true) (hlast : ∀ a ∈ acts, a.lasts i = true) :
    Lasting i (Ledger.ofActs before).written.length
      (Ledger.ofActs (before ++ .launched i name p :: acts)) (Job.Record.since i p acts)
      (c.after (before ++ .launched i name p :: acts)) := by
  induction acts using List.reverseRecOn with
  | nil =>
    obtain ⟨hbefore, ha, -⟩ := permits_append.mp h
    have howned := hbefore.owned hnew fun a ha => hmeddle a (List.mem_append_left _ ha)
    have hjob : ((c.after before).next (.launched i name p)).job i = Job.launch name p :=
      next_job_self ha rfl
    rw [after_append, Ledger.ofActs_append]
    exact {
      toUnharmed := Unharmed.launch howned honline ha
      -- what was written before the launch is none of the job's lines
      start_le := Nat.le_refl _
      since := by
        intro line hwaits
        change (((c.after before).next (.launched i name p)).job i).waitsFor? = some line at hwaits
        rw [hjob] at hwaits
        cases hwaits
      heard := fun n line hn hwritten =>
        absurd (List.getElem?_eq_some_iff.mp hwritten).1 (Nat.not_lt.mpr hn)
      outcomes := by simp [Job.Record.since, Act.deeds] }
  | append_singleton acts a ih =>
    have hsplit : before ++ .launched i name p :: (acts ++ [a]) =
        (before ++ .launched i name p :: acts) ++ [a] := by simp
    rw [hsplit] at h hmeddle hturn
    rw [hsplit]
    obtain ⟨hacts, ha, -⟩ := permits_append.mp h
    obtain ⟨hturns, -⟩ := Ledger.inTurn_append.mp hturn
    have hearlier : ∀ b ∈ before ++ .launched i name p :: acts, b.isMeddling = false :=
      fun b hb => hmeddle b (List.mem_append_left _ hb)
    have hlasting := ih hacts hearlier hturns fun b hb => hlast b (List.mem_append_left _ hb)
    rw [Ledger.ofActs_append, after_append, Job.Record.since_concat]
    exact hlasting.next (hacts.attributes hnew hearlier hturns) (hacts.keeps_since (hnew.job i))
      (hacts.owned hnew hearlier) (hacts.open_of_online hnew hearlier hlasting.online) ha
      (hmeddle a (by simp)) (hlast a (by simp))

/-! ### Sessions with resets -/

namespace Session

/-- The step sends a soft reset, and succeeds. -/
def Step.resets (s : Session) (step : Step) : Bool :=
  match step, (s.perform step).1 with
  | .realtime text, .link (.ok ()) => Machine.Realtime.ofText? text = some .softReset
  | _, _ => false

/-- What happens to the device and the session. The device acts on a reset as soon as it
is sent. -/
def happenings (s : Session) : History → List Happening
  | [] => []
  | (step, acts) :: h =>
    (if step.resets s then [.reset] else []) ++ acts.map .act ++ (s.perform step).2.happenings h

/-- What happens in a history are its acts, with what comes of them at the device. -/
theorem actsOf_happenings (s : Session) (h : History) : actsOf (s.happenings h) = h.acts := by
  induction h generalizing s with
  | nil => rfl
  | cons entry h ih =>
    obtain ⟨step, acts⟩ := entry
    have hreset : actsOf (if step.resets s then [.reset] else []) = [] := by split <;> rfl
    rw [happenings, actsOf_append, actsOf_append, actsOf_map, ih, hreset]
    rfl

/-- What happens up to an act leads to the acts up to it. -/
theorem acts_of_happenings {s : Session} {h : History} {before after : List Happening} {a : Act}
    (hsplit : s.happenings h = before ++ .act a :: after) :
    h.acts = actsOf before ++ a :: actsOf after := by
  rw [← actsOf_happenings s, hsplit, actsOf_append, actsOf_cons_act]

/-- A job is started on a connection that lasts, and is left to run. The device answers in
order the lines that it has received and not forgotten. -/
structure LeftToRun (s : Session) (h : History) (i : Nat) (before : List Happening)
    (name : String) (p : Program) (after : List Happening) : Prop where
  new : s.IsNew
  history : s.HasHistory h
  undisturbed : s.Undisturbed h.steps
  inTurn : Desk.InTurn {} (s.happenings h)
  starts : s.happenings h = before ++ .act (.launched i name p) :: after
  connected : (s.core.after (actsOf before)).online = true
  lasting : ∀ a ∈ actsOf after, a.lasts i = true

namespace LeftToRun

variable {s : Session} {h : History} {i : Nat} {before after : List Happening} {name : String}
  {p : Program}

/-- The desk and the ledger agree on what was written and heard. -/
theorem agrees (hrun : LeftToRun s h i before name p after) :
    (Desk.of (s.happenings h)).Agrees (Ledger.ofActs h.acts) := by
  have hagrees := (Desk.agrees_of hrun.inTurn).1
  rwa [actsOf_happenings] at hagrees

/-- The number of lines that the connection had when the job was started. -/
theorem received_length (hrun : LeftToRun s h i before name p after) :
    (Desk.of before).received.length = (Ledger.ofActs (actsOf before)).written.length := by
  have hturn := hrun.inTurn
  rw [hrun.starts] at hturn
  exact (Desk.agrees_of (Desk.inTurn_of_append hturn)).1.received

/-- From its start on, the job lasts, and its answers are those to its lines. -/
theorem lasts (hrun : LeftToRun s h i before name p after) :
    Lasting i (Desk.of before).received.length (Ledger.ofActs h.acts)
        (Job.Record.since i p (actsOf after)) (s.after h.steps).core ∧
      Attributes (Ledger.ofActs h.acts) (s.after h.steps).core ∧
      Job.Keeps (Job.Record.since i p (actsOf after)) ((s.after h.steps).core.job i) ∧
      ((s.after h.steps).core.job i).snapshot.state ≠ .idle := by
  have hacts := acts_of_happenings hrun.starts
  have hpermits := hrun.history.permits
  have hmeddle : ∀ a ∈ h.acts, a.isMeddling = false :=
    fun a ha => hrun.history.not_meddling hrun.undisturbed ha
  have hledger := (Desk.agrees_of hrun.inTurn).2
  rw [actsOf_happenings] at hledger
  have hattr := hpermits.attributes hrun.new.core hmeddle hledger
  rw [hrun.received_length, ← hrun.history.core_after]
  rw [hacts] at hpermits hmeddle hledger hattr ⊢
  exact ⟨hpermits.lasting hrun.new.core hmeddle hledger hrun.connected hrun.lasting, hattr,
    hpermits.keeps_since (hrun.new.core.job i), hpermits.started⟩

/-- Where nothing was forgotten, the job is finished once all its lines are accepted. -/
theorem finished (hrun : LeftToRun s h i before name p after)
    (hnone : (Desk.of (s.happenings h)).forgotten = 0)
    (haccepted : ∀ n line, (Desk.of before).received.length ≤ n →
      (Ledger.ofActs h.acts).written[n]? = some (some i, line) →
      ∃ answer, (n, answer) ∈ (Desk.of (s.happenings h)).replied ∧
        Machine.isAccepted answer = true)
    (hresumed : ((s.after h.steps).job i).snapshot.state ≠ .paused)
    (hreturned : ((s.after h.steps).job i).isHanging = false) :
    ((s.after h.steps).job i).snapshot.state = .finished ∧
      ((s.after h.steps).job i).snapshot.cursor = p.lines.length := by
  obtain ⟨hlasting, hattr, hkeeps, hstarted⟩ := hrun.lasts
  have hfinished : ((s.after h.steps).core.job i).snapshot.state = .finished := by
    refine hlasting.finished hattr hkeeps (owned_after hrun.new hrun.undisturbed)
      (calm_after hrun.new.calm h.steps).rest hstarted ?_ hresumed hreturned
    intro n line hn hwritten
    obtain ⟨answer, hmem, haccepts⟩ := haccepted n line hn hwritten
    -- where nothing was forgotten, the answer to a line has the number of the line
    obtain ⟨m, hm⟩ := List.mem_iff_getElem?.mp hmem
    obtain rfl := hrun.agrees.own hnone hm
    refine ⟨answer, ?_, haccepts⟩
    rw [← hrun.agrees.replied, List.getElem?_map, hm]
    rfl
  have hlines := Job.Record.since_program p fun a ha =>
    Act.not_launches_of_lasts (hrun.lasting a ha)
  have hcursor := (hkeeps.finished hfinished).trans hkeeps.total
  rw [← hkeeps.program, hlines] at hcursor
  exact ⟨hfinished, hcursor⟩

/-- A finished job has its answers, and each is for a line that came later by what was
forgotten before the start. -/
theorem followed (hrun : LeftToRun s h i before name p after)
    (hfinished : ((s.after h.steps).job i).snapshot.state = .finished) {n : Nat} {line : String}
    (hn : (Desk.of before).received.length ≤ n)
    (hwritten : (Ledger.ofActs h.acts).written[n]? = some (some i, line)) :
    n + (Desk.of before).forgotten < (Ledger.ofActs h.acts).written.length := by
  obtain ⟨hlasting, -, hkeeps, -⟩ := hrun.lasts
  have hnot : ((s.after h.steps).core.job i).waitsFor?.isSome = false := by
    -- a thread that waits belongs to a job that is not finished
    have hworking := hkeeps.working
    replace hfinished : ((s.after h.steps).core.job i).snapshot.state = .finished := hfinished
    cases hs : ((s.after h.steps).core.job i).stage <;>
      simp_all [Job.waitsFor?, Job.isWorking]
  rcases hlasting.heard n line hn hwritten with hheard | hwaits
  · obtain ⟨m, k, -, hreceived, hge, -, hlt⟩ :=
      hrun.agrees.replied_of_heard (List.getElem?_eq_getElem hheard)
    have hburden : (Desk.of (s.happenings h)).Burdened (Desk.of before).forgotten
        (Desk.of before).received.length := by
      rw [hrun.starts]
      refine Desk.burdened_of_append before fun a ha => ?_
      rcases List.mem_cons.mp ha with rfl | ha
      · rfl
      · have hlast := hrun.lasting a ha
        cases a with
        | opened | closed | broke => cases hlast
        | _ => rfl
    have hk := hburden.received n k hn hreceived
    rw [← hrun.agrees.received]
    omega
  · simp [hnot] at hwaits

end LeftToRun

/-- Answers after a soft reset. Every list of steps has a history, and whatever history it is,
its acts are on the wire and in the journal. Let the jobs be the only ones that make the
calls that are for jobs, and let the device answer in order the lines that it has received
and not forgotten. Then

* the banner that it sends after a reset is no answer;
* what a job takes from its wait for the line with number `n` is the `n`-th answer, which is
  for a line that comes after that one: by at least the lines forgotten on the connection
  before it was written, and by at most those forgotten so far;
* a job that is left to run on a connection on which nothing was forgotten is finished once
  each of its lines is answered by one that accepts it, unless it is paused or held up in a
  write;
* a job that is left to run and is finished has after each of its lines as many others
  as were forgotten before its start. -/
theorem answers_after_reset {s : Session} (hnew : s.IsNew) (steps : List Step) :
    (∃ h : History, h.steps = steps ∧ s.HasHistory h) ∧
    ∀ h : History, h.steps = steps → s.HasHistory h → s.Attests h ∧
    (s.Undisturbed steps → Desk.InTurn {} (s.happenings h) →
    (∀ line, Machine.isBanner (Text.trim line.toList) = true → isAnswer line = false) ∧
    (∀ (before later : List Happening) (i : Nat) (line answer : String),
      s.happenings h = before ++ .act (.took i line (.answer answer)) :: later →
      ∃ n m k, (Ledger.ofActs (actsOf before)).Latest i line n ∧
        (Desk.of before).replied[n]? = some (m, answer) ∧
        (Desk.of before).received[n]? = some k ∧ n + k ≤ m ∧
        m ≤ n + (Desk.of before).forgotten) ∧
    ∀ (before after : List Happening) (i : Nat) (name : String) (p : Program),
      s.happenings h = before ++ .act (.launched i name p) :: after →
      (s.core.after (actsOf before)).online = true →
      (∀ a ∈ actsOf after, a.lasts i = true) →
      ((Desk.of (s.happenings h)).forgotten = 0 →
        (∀ n line, (Desk.of before).received.length ≤ n →
          (Ledger.ofActs h.acts).written[n]? = some (some i, line) →
          ∃ answer, (n, answer) ∈ (Desk.of (s.happenings h)).replied ∧
            Machine.isAccepted answer = true) →
        ((s.after steps).job i).snapshot.state ≠ .paused →
        ((s.after steps).job i).isHanging = false →
        ((s.after steps).job i).snapshot.state = .finished ∧
          ((s.after steps).job i).snapshot.cursor = p.lines.length) ∧
      (((s.after steps).job i).snapshot.state = .finished →
        ∀ n line, (Desk.of before).received.length ≤ n →
          (Ledger.ofActs h.acts).written[n]? = some (some i, line) →
          n + (Desk.of before).forgotten < (Ledger.ofActs h.acts).written.length)) := by
  refine ⟨exists_history hnew.calm steps, ?_⟩
  rintro h rfl hh
  refine ⟨hh.attests, fun hsteps hturn => ?_⟩
  refine ⟨fun _ => isAnswer_of_isBanner, ?_, ?_⟩
  · intro before later i line answer hsplit
    have hpermits := hh.permits
    have hacts := acts_of_happenings hsplit
    rw [hsplit] at hturn
    rw [hacts] at hpermits
    obtain ⟨hagrees, hledger⟩ := Desk.agrees_of (Desk.inTurn_of_append hturn)
    obtain ⟨n, hlatest, hheard⟩ := hpermits.own_answer hnew.core
      (fun a ha => hh.not_meddling hsteps (hacts ▸ List.mem_append_left _ ha)) hledger
    -- the device forgets only at resets, so the answer is for a later line by what it forgot
    obtain ⟨m, k, hreplied, hreceived, hge, hle, -⟩ := hagrees.replied_of_heard hheard
    exact ⟨n, m, k, hlatest, hreplied, hreceived, hge, hle⟩
  · intro before after i name p hsplit honline hlast
    have hrun : LeftToRun s h i before name p after :=
      ⟨hnew, hh, hsteps, hturn, hsplit, honline, hlast⟩
    exact ⟨hrun.finished, hrun.followed⟩

/-- A line of the operator is unanswered when the device is reset. The banner comes, and a
job is started whose line the device accepts. -/
def poisoned : History :=
  [(.connect "COM3" 9600, [.dropped, .opened]),
    (.send "G4 P5", [.noted "G4 P5"]),
    (.realtime "reset", [.signalled .softReset]),
    (.deviceSends [.bytes [71, 114, 98, 108, 32, 49, 10]], []),
    (.start 0 "a" ⟨["G0"]⟩,
      [.launched 0 "a" ⟨["G0"]⟩, .moved 0 none, .armed 0 "G0", .wrote 0 "G0" [],
        .returned 0 "G0" none]),
    (.deviceSends [.bytes [111, 107, 10]], [.heard "ok"])]

/-- The job is stopped, the connection is made anew, and a job is started again. -/
def reconnected : History := poisoned ++
  [(.stop 0, [.stopped 0, .took 0 "G0" .cancelled, .released 0, .moved 0 none]),
    (.disconnect, [.closed]),
    (.connect "COM3" 9600, [.dropped, .opened]),
    (.start 0 "b" ⟨["G0"]⟩,
      [.launched 0 "b" ⟨["G0"]⟩, .moved 0 none, .armed 0 "G0", .wrote 0 "G0" [],
        .returned 0 "G0" none]),
    (.deviceSends [.bytes [111, 107, 10]],
      [.heard "ok", .took 0 "G0" (.answer "ok"), .moved 0 (some ⟨1, 1⟩), .moved 0 none,
        .released 0, .moved 0 none])]

/-- The line that was forgotten is no longer waited for once the port is opened anew. -/
theorem answers_after_reset_reconnected :
    ((silent.after reconnected.steps).job 0).snapshot.state = .finished ∧
      ((silent.after reconnected.steps).job 0).snapshot.cursor = 1 := by
  have hanswers := ((answers_after_reset (s := silent) ⟨rfl, by decide⟩ reconnected.steps).2
    reconnected rfl (by decide +kernel)).2 (by decide) (by decide +kernel)
  have hjob := hanswers.2.2 ((silent.happenings reconnected).take 18)
    ((silent.happenings reconnected).drop 19) 0 "b" ⟨["G0"]⟩ (by decide +kernel)
    (by decide +kernel) (by decide +kernel)
  refine hjob.1 (by decide +kernel) ?_ (by decide +kernel) (by decide +kernel)
  intro n line hn hwritten
  have hone : (Ledger.ofActs reconnected.acts).written = [(some 0, "G0")] := by decide
  obtain rfl : n = 0 := by
    have hlt := (List.getElem?_eq_some_iff.mp hwritten).1
    simpa [hone] using hlt
  exact ⟨"ok", by decide +kernel, by decide⟩

/-- The device answers the job's line, and has forgotten the line before it. The answer is
taken for that other line, and the job waits on. -/
theorem poisoned_waits :
    silent.HasHistory poisoned ∧ silent.Undisturbed poisoned.steps ∧
      Desk.InTurn {} (silent.happenings poisoned) ∧
      (Ledger.ofActs poisoned.acts).written = [(none, "G4 P5"), (some 0, "G0")] ∧
      (Desk.of (silent.happenings poisoned)).replied = [(1, "ok")] ∧
      Machine.isAccepted "ok" = true ∧
      ((silent.after poisoned.steps).job 0).snapshot.state = .running ∧
      ((silent.after poisoned.steps).job 0).snapshot.cursor = 0 ∧
      ((silent.after poisoned.steps).job 0).isHanging = false := by
  refine ⟨?_, ?_, ?_, ?_, ?_, ?_, ?_, ?_, ?_⟩ <;> decide +kernel

end Session

end GcodeSender
