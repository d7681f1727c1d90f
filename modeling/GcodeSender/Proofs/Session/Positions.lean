import GcodeSender.Proofs.Link.Cache

/-!
# `GcodeSender.Proofs.Session.Positions`: positions that are told and remembered

A position comes from one place, the reader's report of a status, and what is read as a position
is finite. So a session tells no other and remembers no other, whatever its threads do.

* `Grows`: the journal grows by entries that hold no NaN and no infinity. Every operation lets it
  grow so (`grows_*`), and the reader's report does because of what was read.
* `HoldsFinite`: all positions told so far are finite, and so is the one that is remembered.
  Every turn preserves it (`Takes.holdsFinite`), and so every run does.
* `last_valid_positions`: what a report holds, which texts are positions, and that a session
  never holds any other.
-/

set_option autoImplicit false

namespace GcodeSender

/-- The position that is reported, if the report is one of a position. -/
def Note.position? (n : Note) : Option Machine.Position := n.event?.bind Event.position?

/-- A position in the entry is finite. -/
def Entry.HoldsFinite (e : Entry) : Prop := ∀ p, e.note.position? = some p → p.IsFinite

/-- An entry without a position holds none that is not finite. -/
theorem Entry.holdsFinite_of_none {e : Entry} (h : e.note.position? = none) : e.HoldsFinite := by
  intro p hp
  rw [h] at hp
  cases hp

/-- The link reports no position of itself. -/
theorem Entry.OfLink.holdsFinite {e : Entry} (h : e.OfLink) : e.HoldsFinite := by
  cases h <;> exact Entry.holdsFinite_of_none rfl

namespace Job

/-- A job's thread reports no position. -/
theorem positions_of_move {j next : Job} {notes : List Note} (h : j.move = .own next notes) :
    notes.filterMap Note.position? = [] := by
  rcases notes_cases h with rfl | ⟨-, ⟨s, rfl⟩ | ⟨total, rfl⟩ | ⟨kind, message, rfl⟩⟩ <;> rfl

/-- No position is reported where a job is paused, resumed or stopped. -/
theorem positions_of_call (j : Job) :
    j.pause.2.filterMap Note.position? = [] ∧ j.resume.2.filterMap Note.position? = [] ∧
      j.requestStop.2.filterMap Note.position? = [] := by
  refine ⟨?_, ?_, ?_⟩
  · unfold pause
    split <;> rfl
  · unfold resume
    split <;> rfl
  · unfold requestStop
    split <;> rfl

end Job

namespace Session

/-- The journal grows, and positions in what is new are finite. -/
def Grows (s s' : Session) : Prop :=
  ∃ entries, s'.journal = s.journal ++ entries ∧ ∀ e ∈ entries, e.HoldsFinite

namespace Grows

variable {s s' s'' : Session}

/-- A session with the same journal has not grown. -/
theorem of_eq (h : s'.journal = s.journal) : Grows s s' := ⟨[], by simp [h], by simp⟩

/-- So no session has grown beyond itself. -/
theorem refl (s : Session) : Grows s s := of_eq rfl

/-- A journal that grows twice grows. -/
theorem trans (h : Grows s s') (h' : Grows s' s'') : Grows s s'' := by
  obtain ⟨entries, hs, hfinite⟩ := h
  obtain ⟨more, hs', hfinite'⟩ := h'
  refine ⟨entries ++ more, by rw [hs', hs, List.append_assoc], fun e he => ?_⟩
  rcases List.mem_append.mp he with he | he
  · exact hfinite e he
  · exact hfinite' e he

/-- One thing is reported. -/
theorem single {t : Thread} {n : Note} (h : Entry.HoldsFinite ⟨t, n⟩) (s : Session) :
    Grows s (s.tell t n) := ⟨[⟨t, n⟩], rfl, by simpa using h⟩

/-- Something is reported that is no position. -/
theorem aside {t : Thread} {n : Note} (h : n.position? = none) (s : Session) :
    Grows s (s.tell t n) := single (Entry.holdsFinite_of_none h) s

/-- Something is logged, and then the observer is told something that is no position. -/
theorem announced {t : Thread} {e : Event} (h : e.position? = none) (level : Log.Level)
    (message : String) (s : Session) : Grows s ((s.log t level message).emit t e) :=
  (aside rfl s).trans (aside (n := .event e) h _)

/-- One after the other, each lets the journal grow so. -/
theorem foldl {α : Type} {f : Session → α → Session} {xs : List α}
    (h : ∀ x ∈ xs, ∀ s, Grows s (f s x)) (s : Session) : Grows s (xs.foldl f s) := by
  induction xs generalizing s with
  | nil => exact refl s
  | cons x xs ih =>
    have hfirst := h x List.mem_cons_self s
    exact hfirst.trans (ih (fun y hy => h y (List.mem_cons_of_mem _ hy)) (f s x))

/-- Several things are reported that are no positions. -/
theorem several {t : Thread} {notes : List Note} (h : notes.filterMap Note.position? = [])
    (s : Session) : Grows s (s.tellAll t notes) :=
  foldl (fun n hn => aside (List.filterMap_eq_nil_iff.mp h n hn)) s

/-- What the link reports holds no position. -/
theorem of_adds (h : Adds Entry.OfLink s s') : Grows s s' := by
  obtain ⟨entries, hs, hlink⟩ := h.journal
  exact ⟨entries, hs, fun e he => (hlink e he).holdsFinite⟩

/-- Nor does what it reports of a write. -/
theorem of_writes (h : Writes Entry.OfLink s s') : Grows s s' := by
  obtain ⟨entries, hs, hlink⟩ := h.adds.journal
  exact ⟨entries, hs, fun e he => (hlink e he).holdsFinite⟩

/-- The entries that were there stay as they were, and the new ones are finite. -/
theorem forall_mem (h : Grows s s') (hs : ∀ e ∈ s.journal, e.HoldsFinite) :
    ∀ e ∈ s'.journal, e.HoldsFinite := by
  obtain ⟨entries, hjournal, hfinite⟩ := h
  intro e he
  rw [hjournal] at he
  rcases List.mem_append.mp he with he | he
  · exact hs e he
  · exact hfinite e he

end Grows

/-! ### The jobs and the operator -/

/-- Whoever pauses a job, it is told in words. -/
theorem grows_pauseFrom (s : Session) (t : Thread) (i : Nat) : Grows s (s.pauseFrom t i) := by
  have hset : Grows s (s.setJob i (s.job i).pause.1) := .of_eq rfl
  exact hset.trans (.several (s.job i).positions_of_call.1 _)

/-- A job's thread reports something, and the observer may pause a job because of it. -/
theorem grows_reportFromJob {n : Note} (h : n.position? = none) (s : Session) :
    Grows s (s.reportFromJob n) := by
  have htold : Grows s (s.tell .streamer n) := .aside h s
  rcases s.reportFromJob_cases n with h | ⟨rule, i, h⟩
  · rw [h]
    exact htold
  · rw [h]
    exact (htold.trans (.of_eq rfl)).trans (grows_pauseFrom _ .streamer i)

/-- A job learns how its write went without a word. -/
theorem grows_jobWritten (s : Session) (i : Nat) (j : Job) (line : String) (written : Written) :
    Grows s (s.jobWritten i j line written) := by
  cases written <;> exact .of_eq rfl

/-- A job's thread tells of lines, of its progress and of its end. -/
theorem grows_advance? {s next : Session} {i : Nat} (h : s.advance? i = some next) :
    Grows s next := by
  cases advances_of_advance? h with
  | @own j _ hmove =>
    have hset : Grows s (s.setJob i j) := .of_eq rfl
    have hnone := List.filterMap_eq_nil_iff.mp (Job.positions_of_move hmove)
    exact hset.trans (.foldl (fun n hn => grows_reportFromJob (hnone n hn)) _)
  | @send line _ =>
    have hwrite : Grows s (s.writeLine .streamer line).2 :=
      .of_writes (writes_write s (by decide) (wireLine line) line true)
    exact hwrite.trans (grows_jobWritten _ _ _ _ _)
  | arm | take | release => exact .of_eq rfl

/-- A job is announced by its name and its size. -/
theorem grows_launch (s : Session) (i : Nat) (name : String) (p : Program) :
    Grows s (s.launch .caller i name p) := by
  have hset : Grows s (s.setJob i (Job.launch name p)) := .of_eq rfl
  exact hset.trans (.several rfl _)

/-- One that gets no thread is refused after all. -/
theorem grows_abandonStart (s : Session) (i : Nat) (reason : String) :
    Grows s (s.abandonStart .caller i reason).2 := by
  have hset : Grows s (({ s with link := s.link.release } : Session).setJob i
      (s.job i).abandoned) := .of_eq rfl
  exact hset.trans (.several rfl _)

/-- A stop is told by the operator. -/
theorem grows_requestStop (s : Session) (i : Nat) : Grows s (s.requestStop .caller i) := by
  simp only [requestStop]
  split
  · exact .refl s
  · have hset : Grows s { s.setJob i (s.job i).requestStop.1 with
        link.slot := (s.setJob i (s.job i).requestStop.1).link.slot.cancel } := .of_eq rfl
    exact hset.trans (.several (s.job i).positions_of_call.2.2 _)

/-- That the ports cannot be listed is logged. -/
theorem grows_listPorts (s : Session) : Grows s (s.listPorts .caller).2 := by
  unfold listPorts
  split
  · exact .aside rfl s
  · exact .refl s
  · exact .refl s

/-- A call to open a port tells how that goes. -/
theorem grows_openPort (s : Session) (port : String) (baud : UInt32) :
    Grows s (s.openPort .caller port baud).2 := by
  have hbecome : ∀ (s : Session) (next : Link.ConnectionState),
      Grows s (s.become .caller next) := fun s next => .of_adds (adds_become s .caller next)
  have hfail : ∀ (s : Session) (e : LinkError), Grows s (s.failConnect .caller e).2 := fun s e =>
    (hbecome s .faulted).trans (.announced rfl .error _ _)
  have hstart : ∀ s : Session, Grows s (s.startReader .caller port baud).2 := by
    intro s
    have hthere : Grows s (s.establish .caller port) :=
      hbecome { s with link := s.link.establish port } .connected
    rcases s.startReader_cases .caller port baud with h | ⟨reason, h⟩
    · rw [h]
      refine (hthere.trans ?_).trans (.announced rfl .info _ _)
      exact Grows.aside (t := .reader) rfl { s.establish .caller port with
        device := (s.establish .caller port).device.spawn.2, link.reader := some {} }
    · rw [h]
      refine (hthere.trans ?_).trans (hfail _ _)
      exact .of_eq rfl
  have hbegun : ∀ d : Bench.Device, Grows s ({ (s.become .caller .connecting).log .caller .info
      ("Connecting to " ++ port ++ " at " ++ toString baud.toNat ++ " baud") with device := d } :
      Session) := fun _ => ((hbecome s .connecting).trans (.aside rfl _)).trans (.of_eq rfl)
  simp only [openPort, discardInput, openReader]
  split
  · rename_i e device _
    refine ((hbegun device).trans ?_).trans (hfail _ _)
    cases e with
    | openFailed => exact .aside rfl _
    | notConnected | enumerationFailed | io => exact .refl _
  · rename_i device _
    -- that what was sent before cannot be discarded is reported
    have hdiscarded := hbegun device.discard.2
    split
    · refine Grows.trans ?_ (hfail _ _)
      split
      · exact hdiscarded.trans ((Grows.aside rfl _).trans (.of_eq rfl))
      · exact hdiscarded.trans (.of_eq rfl)
    · refine Grows.trans ?_ (hstart _)
      split
      · exact hdiscarded.trans ((Grows.aside rfl _).trans (.of_eq rfl))
      · exact hdiscarded.trans (.of_eq rfl)

/-! ### The reader -/

/-- A status is told, and an observer may disconnect because of it. -/
theorem grows_reportStatus (s : Session) (t : Thread) (state raw : String) :
    Grows s (s.reportStatus t state raw) :=
  (Grows.aside rfl s).trans (.of_adds (adds_reaction s t state raw))

/-- A report tells its position, which was read and so is finite. -/
theorem grows_handleReport {line : String} {r : Machine.StatusReport}
    (hr : Machine.StatusReport.ofLine? line = some r) (s : Session) :
    Grows s (s.handleReport r) := by
  have hstatus : Grows s ({ s with link.status := some r.status
                                   link.position := r.workPosition.or s.link.position
                          }.reportStatus .reader r.state r.raw) :=
    (Grows.of_eq rfl).trans (grows_reportStatus _ .reader r.state r.raw)
  have hfield : ∀ e ∈ r.fieldErrors, ∀ s, Grows s (s.reportFieldError e) := fun e _ s =>
    .announced rfl .warn _ s
  rw [handleReport]
  refine Grows.trans ?_ (.foldl hfield _)
  -- the errors of fields are told after the position
  generalize reportStatus _ .reader r.state r.raw = reported at hstatus ⊢
  cases hp : r.workPosition with
  | none => exact hstatus
  | some p =>
    refine hstatus.trans (.single (fun q hq => ?_) reported)
    obtain rfl : p = q := Option.some.inj hq
    exact Machine.StatusReport.workPosition_isFinite hr hp

/-- An answer that nobody wants is logged. -/
theorem grows_handleAnswer (s : Session) (line : String) : Grows s (s.handleAnswer line) := by
  simp only [handleAnswer]
  split
  · exact .of_eq rfl
  · exact (Grows.of_eq rfl).trans (.aside rfl _)

/-- Only a report has a position to tell. -/
theorem grows_handleText (s : Session) (line : String) : Grows s (s.handleText line) := by
  have hshown : Grows s
      ((s.log .reader .trace ("GRBL: " ++ line)).emit .reader (.log ("GRBL: " ++ line))) :=
    .announced rfl .trace _ s
  unfold handleText
  refine hshown.trans ?_
  cases hr : Machine.StatusReport.ofLine? line with
  | some r => exact grows_handleReport hr _
  | none =>
    simp only []
    split
    · exact grows_handleAnswer _ line
    · exact .refl _

/-- A line is shown, or it is reported that it cannot be. -/
theorem grows_handleLine (s : Session) (bytes : List UInt8) : Grows s (s.handleLine bytes) := by
  unfold handleLine
  cases Text.decode bytes with
  | error fault => exact .announced rfl .warn _ s
  | ok cs =>
    simp only []
    split
    · exact .refl s
    · exact grows_handleText s _

/-- So with a line that ends what was begun. -/
theorem grows_completeLine (s : Session) (r : Link.Reader) (chunk : List UInt8) :
    Grows s (s.completeLine r chunk) := by
  have hline := grows_handleLine
    { s with link.reader := some { r with pending := [], fresh := false } } (r.pending ++ chunk)
  exact ((Grows.of_eq rfl).trans hline).trans (.of_adds (adds_endIfStopping _))

/-- A broken transport is told as a fault and as a status. -/
theorem grows_fault (s : Session) (reason : String) : Grows s (s.fault reason) := by
  have hreport : Grows s (s.reportFault reason) := by
    have htold : Grows s ((s.log .reader .error ("Serial error: " ++ reason ++ " (" ++
        s.link.label ++ ")")).emit .reader (.error .transport ("Serial error: " ++ reason))) :=
      .announced rfl .error _ s
    exact (htold.trans (grows_reportStatus _ .reader "Error" _)).trans
      (.of_adds (adds_become _ .reader _))
  simp only [fault]
  split
  · split
    · exact hreport.trans (.of_eq rfl)
    · exact hreport
  · exact hreport.trans (.of_adds (adds_closeAfterFault _))

/-- Whatever one read comes to, positions are told from reports alone. -/
theorem grows_readItem (s : Session) (r : Link.Reader) (item : Bench.Item) :
    Grows s (s.readItem r item) := by
  generalize h : s.readItem r item = next
  cases reads_readItem h with
  | nothing | mark => exact .of_eq rfl
  | line chunk => exact grows_completeLine s r chunk
  | fault reason => exact grows_fault s reason

/-- A wait in vain is not reported. -/
theorem grows_timeOut (s : Session) : Grows s s.timeOut := by
  unfold timeOut
  split <;> exact .of_eq rfl

/-- Whoever takes a turn, positions in what is reported are finite. -/
theorem Takes.grows {s next : Session} {t : Turn} (h : s.Takes t next) : Grows s next := by
  -- only the reader's turns tell of positions; in the others nothing is told, or other things
  cases h with
  | job h => exact grows_advance? h
  | @read item rest _ hrest hitem h =>
    obtain ⟨r, -, -, rfl⟩ := read?_cases hitem h
    have hqueue : Grows s { s with device.inbound := leftOver item ++ rest } := .of_eq rfl
    exact hqueue.trans (grows_readItem _ r item)
  | idle => exact grows_timeOut s
  | letGo i => exact .of_writes (writes_letGoJob s i)
  | launch => exact (Grows.of_eq rfl).trans (grows_launch _ _ _ _)
  | spawn => exact .of_eq rfl
  | abandon i reason => exact grows_abandonStart s i reason
  | refuse e => exact .several rfl s
  | pause i => exact grows_pauseFrom s .caller i
  | resume hrest i =>
    have hset : Grows s (s.setJob i (s.job i).resume.1) := .of_eq rfl
    exact hset.trans (.several (s.job i).positions_of_call.2.1 _)
  | stop hrest i => exact grows_requestStop s i
  | overdue ms => exact .aside rfl s
  | sendLine hrest line => exact .of_writes (writes_write s (by decide) (wireLine line) line true)
  | sendRealtime c => exact .of_writes (writes_write s (by decide) [c.byte] c.display false)
  | disconnect => exact .of_adds (adds_teardown s .caller)
  | opening hrest hfree hgone port baud => exact grows_openPort s port baud
  | stay port => exact .aside rfl s
  | listPorts => exact grows_listPorts s
  | meddle | sends | device | arm => exact .of_eq rfl

/-! ### What is remembered -/

/-- A line that is read is remembered if it is a report, and nothing else of it is. -/
theorem cached_readItem (s : Session) (r : Link.Reader) (item : Bench.Item) :
    (s.readItem r item).link.cached = s.link.cached ∨
      ∃ bytes, (s.readItem r item).link.cached = (s.link.remember (report? bytes)).cached := by
  generalize h : s.readItem r item = next
  cases reads_readItem h with
  | nothing | mark => exact .inl rfl
  | line chunk => exact .inr ⟨_, cached_completeLine s r chunk⟩
  | fault reason => exact .inl (cached_fault s reason)

/-- All positions that were told are finite, and so is the one that is remembered. -/
structure HoldsFinite (s : Session) : Prop where
  told : ∀ e ∈ s.journal, e.HoldsFinite
  cached : ∀ p, s.link.position = some p → p.IsFinite

variable {s next last : Session} {t : Turn} {turns : List Turn}

/-- What the link remembers stays finite in every turn. -/
theorem Takes.cached_finite (h : s.Takes t next)
    (hs : ∀ p, s.link.position = some p → p.IsFinite) :
    ∀ p, next.link.position = some p → p.IsFinite := by
  have hkept : next.link.cached = s.link.cached →
      ∀ p, next.link.position = some p → p.IsFinite := by
    intro hcached p hp
    exact hs p ((Prod.mk.inj hcached).2 ▸ hp)
  have hquiet : t.isQuiet = true → ∀ p, next.link.position = some p → p.IsFinite :=
    fun hquiet => hkept (h.cached hquiet)
  cases h with
  | @read item rest _ hrest hitem h =>
    obtain ⟨r, -, -, rfl⟩ := read?_cases hitem h
    rcases cached_readItem { s with device.inbound := leftOver item ++ rest } r item with
      hcached | ⟨bytes, hcached⟩
    · exact hkept hcached
    · have hposition := (Prod.mk.inj hcached).2
      intro p hp
      rw [hp] at hposition
      cases hreport : report? bytes with
      | none =>
        rw [hreport] at hposition
        exact hs p hposition.symm
      | some report =>
        rw [hreport] at hposition
        obtain ⟨line, hline⟩ := exists_line_of_report hreport
        -- the position of the report stands, or the one from before
        rcases Option.or_eq_some_iff.mp hposition.symm with hwork | ⟨-, hbefore⟩
        · exact Machine.StatusReport.workPosition_isFinite hline hwork
        · exact hs p hbefore
  | idle =>
    refine hkept ?_
    unfold timeOut
    split <;> rfl
  | opening hrest hfree hgone port baud =>
    cases hlends : s.device.lends port baud with
    | false => exact hkept (openPort_of_not_lends hlends hgone).1
    | true =>
      -- a port that is opened starts without a position
      have hopens : s.OpensPort (s.openPort .caller port baud).2 := ⟨port, baud, hlends, rfl⟩
      intro p hp
      rw [(Prod.mk.inj (hopens.cases hgone).1).2] at hp
      cases hp
  | arm | device => exact hkept rfl
  | _ => exact hquiet rfl

/-- One turn preserves that all positions are finite. -/
theorem Takes.holdsFinite (h : s.Takes t next) (hs : s.HoldsFinite) : next.HoldsFinite where
  told := h.grows.forall_mem hs.told
  cached := h.cached_finite hs.cached

/-- And so does a run. -/
theorem Runs.holdsFinite (h : s.Runs turns last) (hs : s.HoldsFinite) : last.HoldsFinite :=
  h.invariant (K := fun _ => True) hs (fun _ _ _ htakes _ hbefore => htakes.holdsFinite hbefore)
    fun _ _ => trivial

/-- A session that has only begun holds no position. -/
theorem IsNew.holdsFinite (h : s.IsNew) (hjournal : s.journal = []) : s.HoldsFinite where
  told e he := by
    rw [hjournal] at he
    cases he
  cached p hp := by
    rw [h.link] at hp
    cases hp

/-- What is told is told in the journal. -/
theorem HoldsFinite.of_events (h : s.HoldsFinite) {thread : Thread} {p : Machine.Position}
    (hp : (thread, Event.position p) ∈ s.events) : p.IsFinite := by
  obtain ⟨e, he, hevent⟩ := List.mem_filterMap.mp hp
  obtain ⟨event, hnote, htold⟩ := Option.map_eq_some_iff.mp hevent
  obtain ⟨-, rfl⟩ := Prod.mk.inj htold
  refine h.told e he p ?_
  rw [Note.position?, hnote]
  rfl

open Machine in
/-- Positions are the last valid ones, errors are complete, and no position holds a NaN or an
infinity:

* a report that is read holds the fields of its line, in their order. Its work position is the
  one in the last `WPos:` field that is valid, its machine position the one in the last `MPos:`
  field that is, and neither is there without such a field. Its errors are the fields of both
  kinds that are not valid, each once and in their order, as they stand and with the fault that
  was found. Both positions are finite;
* no other field affects any of this;
* a text is a position just when it has three parts at least and the first three, without blanks
  around them, are finite numbers. Otherwise the fault is that of the first axis at fault, which
  its message names;
* whatever is done in a session that begins with an empty journal, and in whatever order its
  threads take turns, every position that the observer is told is finite, and so is the one that
  is remembered. -/
theorem last_valid_positions :
    (∀ line r, StatusReport.ofLine? line = some r →
      (∃ first fields, StatusReport.Spells (Text.trim line.toList) first fields ∧
        r.fields = fields.map String.ofList) ∧
      r.workPosition = (r.fields.filterMap (positionAfter? "WPos:")).getLast? ∧
      r.machinePosition = (r.fields.filterMap (positionAfter? "MPos:")).getLast? ∧
      r.fieldErrors = r.fields.filterMap fieldError? ∧
      ∀ p, r.workPosition = some p ∨ r.machinePosition = some p → p.IsFinite) ∧
    (∀ line line' r r', StatusReport.ofLine? line = some r → StatusReport.ofLine? line' = some r' →
      r.fields.filter isPositionField = r'.fields.filter isPositionField →
      r.workPosition = r'.workPosition ∧ r.machinePosition = r'.machinePosition ∧
        r.fieldErrors = r'.fieldErrors) ∧
    (∀ cs p, Position.read cs = .ok p ↔
      ∃ px py pz rest, Text.pieces ',' cs = px :: py :: pz :: rest ∧
        IsCoordinate px p.x ∧ IsCoordinate py p.y ∧ IsCoordinate pz p.z) ∧
    (∀ cs fault, Position.read cs = .error fault ↔
      ∃ axis : Axis, (∀ other : Axis, other.index < axis.index →
        other.Readable (Text.pieces ',' cs)) ∧ AtFault (Text.pieces ',' cs) axis fault) ∧
    (∀ parts axis fault, AtFault parts axis fault → ∃ kind ∈ faultKinds, ∃ details,
      fault.message = kind ++ axis.name ++ " coordinate" ++ details) ∧
    ∀ s : Session, s.IsNew → s.journal = [] → ∀ last,
      ((∃ turns, s.Runs turns last) ∨ ∃ steps, last = s.after steps) →
      (∀ p, last.link.position = some p → p.IsFinite) ∧
      ∀ thread p, (thread, Event.position p) ∈ last.events → p.IsFinite := by
  refine ⟨fun line r hr => ⟨?_, StatusReport.workPosition_eq hr, StatusReport.machinePosition_eq hr,
    StatusReport.fieldErrors_eq hr, ?_⟩, fun _ _ _ _ => StatusReport.agree_of_positionFields,
    fun _ _ => read_eq_ok_iff, fun _ _ => read_eq_error_iff, fun _ _ _ => message_of_atFault, ?_⟩
  · obtain ⟨first, fields, hspells, rfl⟩ := StatusReport.ofLine?_eq_some_iff.mp hr
    exact ⟨first, fields, hspells, StatusReport.spelled_fields first fields⟩
  · rintro p (hp | hp)
    · exact StatusReport.workPosition_isFinite hr hp
    · exact StatusReport.machinePosition_isFinite hr hp
  · intro s hnew hjournal last hlast
    have hruns : ∃ turns, s.Runs turns last := by
      rcases hlast with hruns | ⟨steps, rfl⟩
      · exact hruns
      · -- steps are turns too
        have hleads : Leads (fun _ => true) s (s.after steps) :=
          after_leads hnew.calm hnew.stands fun _ _ _ _ => rfl
        obtain ⟨turns, hruns, -⟩ := hleads
        exact ⟨turns, hruns⟩
    obtain ⟨turns, hruns⟩ := hruns
    have hfinite := hruns.holdsFinite (hnew.holdsFinite hjournal)
    exact ⟨hfinite.cached, fun _ _ => hfinite.of_events⟩

/-- A report with two work positions, of which the second is infinite, and two machine positions,
of which the first is too short. -/
def mixedReport : String := "<Idle|WPos:1,2,3|FS:0,0|WPos:1,inf,3|MPos:1,2|MPos:4,5,6,7>"

/-- A port is opened, and the device sends the report. -/
def mixedSteps : List Step :=
  [.connect "COM3" 9600, .deviceSends [.bytes (Text.encode (mixedReport.toList ++ ['\n']))]]

open Machine in
/-- Each valid position stands, the bad fields are the errors, a report without the other field
says the same, and what the session tells and remembers is finite. -/
theorem last_valid_positions_mixedReport :
    (∃ r, StatusReport.ofLine? mixedReport = some r ∧ r.workPosition = some ⟨1, 2, 3⟩ ∧
      r.machinePosition = some ⟨4, 5, 6⟩ ∧
      r.fieldErrors = [⟨"WPos:1,inf,3", .nonFinite .y "inf"⟩, ⟨"MPos:1,2", .missing .z⟩] ∧
      ∃ r', StatusReport.ofLine? "<Run|WPos:1,2,3|WPos:1,inf,3|MPos:1,2|MPos:4,5,6,7>" = some r' ∧
        r.workPosition = r'.workPosition) ∧
    (∃ p, (({} : Session).after mixedSteps).link.position = some p ∧ p.IsFinite) := by
  obtain ⟨hreports, hothers, -, -, -, hsessions⟩ := last_valid_positions
  have hline : StatusReport.ofLine? mixedReport = some (StatusReport.spelled "Idle".toList
      ["WPos:1,2,3".toList, "FS:0,0".toList, "WPos:1,inf,3".toList, "MPos:1,2".toList,
        "MPos:4,5,6,7".toList]) :=
    StatusReport.ofLine?_eq_some_iff.mpr
      ⟨_, _, ⟨by decide, by decide, by decide, ⟨'I', by decide, by decide⟩⟩, rfl⟩
  have hother : StatusReport.ofLine? "<Run|WPos:1,2,3|WPos:1,inf,3|MPos:1,2|MPos:4,5,6,7>" =
      some (StatusReport.spelled "Run".toList
        ["WPos:1,2,3".toList, "WPos:1,inf,3".toList, "MPos:1,2".toList, "MPos:4,5,6,7".toList]) :=
    StatusReport.ofLine?_eq_some_iff.mpr
      ⟨_, _, ⟨by decide, by decide, by decide, ⟨'R', by decide, by decide⟩⟩, rfl⟩
  refine ⟨⟨_, hline, ?_, ?_, ?_, _, hother, ?_⟩, ?_⟩
  · rw [(hreports _ _ hline).2.1, StatusReport.spelled_fields]
    rfl
  · rw [(hreports _ _ hline).2.2.1, StatusReport.spelled_fields]
    rfl
  · rw [(hreports _ _ hline).2.2.2.1, StatusReport.spelled_fields]
    decide +kernel
  · refine (hothers _ _ _ _ hline hother ?_).1
    rw [StatusReport.spelled_fields, StatusReport.spelled_fields]
    decide
  · have hsome : (({} : Session).after mixedSteps).link.position.isSome = true := by decide +kernel
    obtain ⟨p, hp⟩ := Option.isSome_iff_exists.mp hsome
    have hnew : ({} : Session).IsNew := ⟨rfl, by decide⟩
    obtain ⟨hcached, -⟩ :=
      hsessions {} hnew rfl (({} : Session).after mixedSteps) (.inr ⟨mixedSteps, rfl⟩)
    exact ⟨p, hp, hcached p hp⟩

end Session

end GcodeSender
