import GcodeSender.Proofs.Bench.Queue
import GcodeSender.Proofs.Link.Standing

/-!
# `GcodeSender.Proofs.Session.Reports`: who reports what

The journal only grows, the observer's reactions are only used up, and a reader keeps
what it has read of a line until it reads more. `Session.Adds` says so of an operation,
with the kind of entries that it adds to the journal, and `Session.Writes` of one that may
write to the device, which may answer.

* The link's operations, other than what the reader does about a line or a fault, report
  nothing but the link itself (`Entry.OfLink`).
* A job's thread and the operator add entries under their own names (`Entry.Aside`).
* `Takes.writes`: so does every turn in which nothing is read and no port is opened.
* `handleLine_tells`: the reader tells the observer `lineEvents` of a line, whatever the
  observer makes of it.
* `fault_tells`: it tells the observer `faultEvents` of a read that has failed, and goes on
  reading no longer.
-/

set_option autoImplicit false

namespace GcodeSender

/-- What the link reports of itself. A read that has failed is not among it. -/
inductive Entry.OfLink : Entry → Prop
  | record (t : Thread) {r : Log.Record} (h : r.origin = .link) : OfLink ⟨t, .record r⟩
  /-- A connection has ended. -/
  | farewell (t : Thread) (label : String) :
      OfLink ⟨t, .event (.status "Disconnected" ("Disconnected from " ++ label))⟩
  /-- A write has failed. The reader writes nothing. -/
  | fault {t : Thread} (h : t ≠ .reader) (reason : String) :
      OfLink ⟨t, .event (.error .transport ("Serial error: " ++ reason))⟩
  | broken {t : Thread} (h : t ≠ .reader) (raw : String) : OfLink ⟨t, .event (.status "Error" raw)⟩
  /-- Something was written, or was not to be. -/
  | shown {t : Thread} (h : t ≠ .reader) (text : String) : OfLink ⟨t, .event (.log text)⟩

/-- The entry is no report of what was read. -/
def Entry.Aside (e : Entry) : Prop := e.OfLink ∨ e.thread ≠ .reader

/-- What another thread than the reader notes is aside. -/
theorem Entry.aside {t : Thread} (h : t ≠ .reader) (n : Note) : Entry.Aside ⟨t, n⟩ := .inr h

namespace Session

/-- What a reader that goes on reading has of a line, and whether some of it is fresh. -/
def begun? (s : Session) : Option (List UInt8 × Bool) :=
  match s.link.reader with
  | some r => if r.closing then none else some (r.pending, r.fresh)
  | none => none

/-- The journal grows by entries of a kind, the observer is told of no reaction, the device
stays as it is, and so does what a reader has, if it goes on reading. -/
structure Adds (P : Entry → Prop) (s s' : Session) : Prop where
  journal : ∃ entries, s'.journal = s.journal ++ entries ∧ ∀ e ∈ entries, P e
  rules : ∀ rule ∈ s'.rules, rule ∈ s.rules
  begun : s'.begun? = none ∨ s'.begun? = s.begun?
  device : s'.device = s.device

namespace Adds

variable {P Q : Entry → Prop} {s s' s'' : Session}

/-- A session with the same fields has nothing added. -/
theorem of_eq (hjournal : s'.journal = s.journal) (hrules : s'.rules = s.rules)
    (hreader : s'.link.reader = s.link.reader) (hdevice : s'.device = s.device) :
    Adds P s s' where
  journal := ⟨[], by simp [hjournal], by simp⟩
  rules _ h := hrules ▸ h
  begun := .inr (by rw [begun?, begun?, hreader])
  device := hdevice

/-- A session adds nothing to itself. -/
theorem refl (P : Entry → Prop) (s : Session) : Adds P s s := of_eq rfl rfl rfl rfl

/-- Entries are added after others. -/
theorem trans (h : Adds P s s') (h' : Adds P s' s'') : Adds P s s'' where
  journal := by
    obtain ⟨entries, hs, hP⟩ := h.journal
    obtain ⟨more, hs', hP'⟩ := h'.journal
    refine ⟨entries ++ more, by rw [hs', hs, List.append_assoc], fun e he => ?_⟩
    rcases List.mem_append.mp he with he | he
    · exact hP e he
    · exact hP' e he
  rules rule hrule := h.rules rule (h'.rules rule hrule)
  begun := by
    rcases h'.begun with hnone | hsame
    · exact .inl hnone
    · rw [hsame]
      exact h.begun
  device := h'.device.trans h.device

/-- Entries of a kind are entries of a wider one. -/
theorem mono (h : Adds P s s') (hPQ : ∀ e, P e → Q e) : Adds Q s s' where
  journal := by
    obtain ⟨entries, hs, hP⟩ := h.journal
    exact ⟨entries, hs, fun e he => hPQ e (hP e he)⟩
  rules := h.rules
  begun := h.begun
  device := h.device

/-- A note is one entry. -/
theorem single {t : Thread} {n : Note} (h : P ⟨t, n⟩) (s : Session) : Adds P s (s.tell t n) where
  journal := ⟨[⟨t, n⟩], rfl, by simpa using h⟩
  rules _ := id
  begun := .inr rfl
  device := rfl

/-- Several reports of one thread. -/
theorem several {t : Thread} (notes : List Note) (h : ∀ n, P ⟨t, n⟩) (s : Session) :
    Adds P s (s.tellAll t notes) := by
  induction notes generalizing s with
  | nil => exact refl P s
  | cons n notes ih => exact (single (h n) s).trans (ih (s.tell t n))

/-- A reaction of the observer is used up. -/
theorem erase (P : Entry → Prop) (s : Session) (rule : Rule) :
    Adds P s { s with rules := s.rules.erase rule } where
  journal := ⟨[], by simp, by simp⟩
  rules _ h := List.mem_of_mem_erase h
  begun := .inr rfl
  device := rfl

/-- The reader is gone, or is told something. -/
theorem withReader (P : Entry → Prop) (s : Session) (next : Option Link.Reader)
    (h : ({ s with link.reader := next } : Session).begun? = none ∨
      ({ s with link.reader := next } : Session).begun? = s.begun?) :
    Adds P s { s with link.reader := next } where
  journal := ⟨[], by simp, by simp⟩
  rules _ := id
  begun := h
  device := rfl

/-- What does not concern the device does not depend on it. -/
theorem withDevice (h : Adds P s s') (d : Bench.Device) :
    Adds P { s with device := d } { s' with device := d } :=
  ⟨h.journal, h.rules, h.begun, rfl⟩

end Adds

/-- The device may be written to, and may send something, but the next discards go as they would.
All else is as `Adds` says. -/
structure Writes (P : Entry → Prop) (s s' : Session) : Prop where
  adds : Adds P { s with device := s'.device } s'
  queue : s.device.inbound <+: s'.device.inbound
  discards : s'.device.discards = s.device.discards

namespace Writes

variable {P Q : Entry → Prop} {s s' s'' : Session}

/-- To add entries is to write nothing to the device. -/
theorem of_adds (h : Adds P s s') : Writes P s s' where
  adds := by
    rw [h.device]
    exact h
  queue := ⟨[], by rw [h.device, List.append_nil]⟩
  discards := by rw [h.device]

/-- Writes come after others. -/
theorem trans (h : Writes P s s') (h' : Writes P s' s'') : Writes P s s'' where
  adds := (h.adds.withDevice s''.device).trans h'.adds
  queue := h.queue.trans h'.queue
  discards := h'.discards.trans h.discards

/-- Entries of a kind are entries of a wider one. -/
theorem mono (h : Writes P s s') (hPQ : ∀ e, P e → Q e) : Writes Q s s' :=
  ⟨h.adds.mono hPQ, h.queue, h.discards⟩

/-- The device sends something. -/
theorem sends (P : Entry → Prop) (s : Session) {d : Bench.Device}
    (h : s.device.inbound <+: d.inbound) (hdiscards : d.discards = s.device.discards) :
    Writes P s { s with device := d } :=
  ⟨Adds.refl P _, h, hdiscards⟩

end Writes

open Adds

/-! ### The link -/

/-- A line in the log of the link is an entry of it. -/
theorem adds_log (s : Session) (t : Thread) (level : Log.Level) (message : String) :
    Adds Entry.OfLink s (s.log t level message) := single (.record t rfl) s

/-- The state that changes is logged. -/
theorem adds_become (s : Session) (t : Thread) (next : Link.ConnectionState) :
    Adds Entry.OfLink s (s.become t next) := by
  obtain ⟨level, message, h⟩ := s.become_cases t next
  rw [h]
  exact (adds_log s t level message).trans (of_eq rfl rfl rfl rfl)

/-- The end of the reader is logged. -/
theorem adds_endReader (s : Session) : Adds Entry.OfLink s s.endReader :=
  (withReader _ s none (.inl rfl)).trans (adds_log { s with link.reader := none } .reader .debug _)

/-- So is that it is stopped. -/
theorem adds_stopReader (s : Session) (t : Thread) : Adds Entry.OfLink s (s.stopReader t) := by
  unfold stopReader
  split
  · exact refl _ s
  · rename_i r hr
    split
    · exact refl _ s
    · split
      · have hsame : ({ s with link.reader := some { r with stopping := true } } : Session).begun? =
            s.begun? := by simp only [begun?, hr]
        exact (withReader _ s (some { r with stopping := true }) (.inr hsame)).trans
          (adds_log _ t .warn _)
      · exact adds_endReader s

/-- The end of a connection is reported for the link. -/
theorem adds_farewell (s : Session) (t : Thread) :
    Adds Entry.OfLink s (s.emit t (.status "Disconnected" s.farewell)) :=
  single (.farewell t s.link.label) s

/-- It is added once, and logged. -/
theorem adds_becomeDisconnected (s : Session) (t : Thread) {report : Session → Session}
    (h : ∀ s', Adds Entry.OfLink s' (report s')) :
    Adds Entry.OfLink s (s.becomeDisconnected t report) := by
  rcases becomeDisconnected_cases s t report with hs | hs
  · rw [hs]
    exact adds_become s t .disconnected
  · rw [hs]
    exact (adds_become s t .disconnected).trans (h _)

/-- To drop the transport adds nothing. -/
theorem adds_shut (P : Entry → Prop) (s : Session) : Adds P s { s with link := s.link.shut } :=
  of_eq rfl rfl rfl rfl

/-- A connection that is taken down adds entries of the link alone. -/
theorem adds_teardown (s : Session) (t : Thread) : Adds Entry.OfLink s (s.teardown t) := by
  unfold teardown
  refine ((adds_stopReader s t).trans (adds_shut _ _)).trans
    (adds_becomeDisconnected _ t fun s' => ?_)
  exact (adds_log s' t .info _).trans (adds_farewell (s'.log t .info s'.farewell) t)

/-- What the observer makes of a status is reported by the link. -/
theorem adds_reaction (s : Session) (t : Thread) (state raw : String) :
    Adds Entry.OfLink (s.emit t (.status state raw)) (s.reportStatus t state raw) := by
  simp only [reportStatus]
  split
  · exact (erase _ _ (.disconnectOn state t)).trans (adds_teardown _ t)
  · exact refl _ _

/-- So does the reader after a fault. -/
theorem adds_closeAfterFault (s : Session) : Adds Entry.OfLink s s.closeAfterFault := by
  have hdown : Adds Entry.OfLink { s with link := s.link.shut }
      ({ s with link := s.link.shut }.becomeDisconnected .reader fun s =>
        s.reportStatus .reader "Disconnected" s.farewell) :=
    adds_becomeDisconnected _ .reader fun s' =>
      (adds_farewell s' .reader).trans (adds_reaction s' .reader "Disconnected" s'.farewell)
  exact ((adds_shut _ s).trans hdown).trans (adds_endReader _)

/-- So does a reader that ends because it was told to. -/
theorem adds_endIfStopping (s : Session) : Adds Entry.OfLink s s.endIfStopping := by
  unfold endIfStopping
  split
  · split
    · exact adds_endReader s
    · exact refl _ s
  · exact refl _ s

/-! ### Writing -/

/-- A delivery is reported for the link. -/
theorem adds_afterDelivery (s : Session) {t : Thread} (ht : t ≠ .reader) (shown : String)
    (delivery : Bench.Delivery) :
    Adds Entry.OfLink s (s.afterDelivery t shown delivery).2 := by
  cases delivery with
  | delivered => exact (adds_log s t .debug _).trans (single (.shown ht _) _)
  | failed reason =>
    have hfault : Adds Entry.OfLink s
        ((s.log t .error ("Write failed on " ++ s.link.label ++ ": " ++ reason)).emit t
          (.error .transport ("Serial error: " ++ reason))) :=
      (adds_log s t .error _).trans (single (.fault ht reason) _)
    have htold := (hfault.trans (single (.broken ht ("Serial error: " ++ reason)) _)).trans
      (adds_reaction _ t "Error" ("Serial error: " ++ reason))
    exact (htold.trans (adds_become _ t .faulted)).trans (adds_teardown _ t)
  | hanging rest => exact refl _ s

/-- So is a write. -/
theorem writes_write (s : Session) {t : Thread} (ht : t ≠ .reader) (bytes : List UInt8)
    (shown : String) (isLine : Bool) :
    Writes Entry.OfLink s (s.write t bytes shown isLine).2 := by
  unfold write
  split
  -- the line is counted, the device takes it, and the end of the write is told
  · have hnoted : Adds Entry.OfLink s (if isLine then
        ({ s with link.slot := s.link.slot.noteSent } : Session) else s) := by
      cases isLine <;> exact of_eq rfl rfl rfl rfl
    generalize (if isLine then ({ s with link.slot := s.link.slot.noteSent } : Session) else s) =
      noted at hnoted
    have hsent : Writes Entry.OfLink noted
        { noted with device := (noted.device.transmit (t = .streamer) bytes).2 } :=
      .sends _ noted (noted.device.inbound_transmit _ bytes)
        (noted.device.discards_transmit _ bytes)
    exact ((Writes.of_adds hnoted).trans hsent).trans (.of_adds (adds_afterDelivery _ ht shown _))
  · exact .of_adds ((adds_log s t .warn _).trans (single (.shown ht _) _))

/-- What becomes of a job's write adds nothing. -/
theorem adds_jobWritten (P : Entry → Prop) (s : Session) (i : Nat) (j : Job) (line : String)
    (written : Written) : Adds P s (s.jobWritten i j line written) := by
  cases written <;> exact of_eq rfl rfl rfl rfl

/-- A write that is let go is reported by the link alone. -/
theorem writes_letGoJob (s : Session) (i : Nat) : Writes Entry.OfLink s (s.letGoJob i) := by
  rcases s.letGoJob_cases i with ⟨-, h⟩ | ⟨line, rest, -, free, -, hfree, h⟩
  · rw [h]
    exact .of_adds (refl _ s)
  · have hletGo : Writes Entry.OfLink s { s with device := (s.device.letGo rest).2 } :=
      .sends _ s (s.device.inbound_letGo rest) (s.device.discards_letGo rest)
    -- a reader that has waited for the transport takes the connection down first
    have hbefore : Writes Entry.OfLink s free := by
      rcases hfree with ⟨rfl, -⟩ | ⟨rfl, -⟩
      · exact hletGo
      · exact hletGo.trans (.of_adds (adds_closeAfterFault _))
    have hafter := adds_afterDelivery free (show Thread.streamer ≠ .reader by decide) line
      (s.device.letGo rest).1
    rw [h]
    exact hbefore.trans (.of_adds (hafter.trans (adds_jobWritten _ _ _ _ _ _)))

/-! ### Jobs and the operator -/

/-- A pause is told beside the link. -/
theorem adds_pauseFrom (s : Session) {t : Thread} (ht : t ≠ .reader) (i : Nat) :
    Adds Entry.Aside s (s.pauseFrom t i) := by
  have hset : Adds Entry.Aside s (s.setJob i (s.job i).pause.1) := of_eq rfl rfl rfl rfl
  exact hset.trans (several (s.job i).pause.2 (Entry.aside ht) _)

/-- So is what a job reports. -/
theorem adds_foldl_reportFromJob (notes : List Note) (s : Session) :
    Adds Entry.Aside s (notes.foldl reportFromJob s) := by
  -- the observer may pause a job when it is told of its progress
  have hreport : ∀ (s : Session) (n : Note), Adds Entry.Aside s (s.reportFromJob n) := by
    intro s n
    have htold : Adds Entry.Aside s (s.tell .streamer n) := single (Entry.aside (by decide) _) s
    rcases s.reportFromJob_cases n with h | ⟨rule, i, h⟩
    · rw [h]
      exact htold
    · rw [h]
      exact (htold.trans (erase _ _ rule)).trans (adds_pauseFrom _ (by decide) i)
  induction notes generalizing s with
  | nil => exact refl _ s
  | cons n notes ih => exact (hreport s n).trans (ih (s.reportFromJob n))

/-- So a move of a job writes, and adds nothing of the reader's. -/
theorem writes_advance? {s next : Session} {i : Nat} (h : s.advance? i = some next) :
    Writes Entry.Aside s next := by
  cases advances_of_advance? h with
  | @own j notes _ =>
    have hset : Adds Entry.Aside s (s.setJob i j) := of_eq rfl rfl rfl rfl
    exact .of_adds (hset.trans (adds_foldl_reportFromJob notes _))
  | @send line _ =>
    have hwrite : Writes Entry.Aside s (s.writeLine .streamer line).2 :=
      (writes_write s (by decide) (wireLine line) line true).mono fun _ => .inl
    exact hwrite.trans (.of_adds (adds_jobWritten _ _ _ _ _ _))
  | arm | take | release => exact .of_adds (of_eq rfl rfl rfl rfl)

/-- What the operator is told comes from the operator's own thread. -/
theorem adds_answered (s : Session) (notes : List Note) :
    Adds Entry.Aside s (s.tellAll .caller notes) := several notes (Entry.aside (by decide)) s

/-- A job is announced by the operator's thread. -/
theorem adds_launch (s : Session) (i : Nat) (name : String) (p : Program) :
    Adds Entry.Aside s (s.launch .caller i name p) := by
  have hset : Adds Entry.Aside s (s.setJob i (Job.launch name p)) := of_eq rfl rfl rfl rfl
  exact hset.trans (adds_answered _ _)

/-- So is one that is given up. -/
theorem adds_abandonStart (s : Session) (i : Nat) (reason : String) :
    Adds Entry.Aside s (s.abandonStart .caller i reason).2 := by
  have hset : Adds Entry.Aside s
      (({ s with link := s.link.release } : Session).setJob i (s.job i).abandoned) :=
    of_eq rfl rfl rfl rfl
  exact hset.trans (adds_answered _ _)

/-- Taking the link for a job is not reported. -/
theorem adds_claim (P : Entry → Prop) (s : Session) :
    Adds P s { s with link := s.link.claim.2 } := by
  unfold Link.claim
  split <;> exact of_eq rfl rfl rfl rfl

/-- A stop is told beside the link. -/
theorem adds_requestStop (s : Session) (i : Nat) :
    Adds Entry.Aside s (s.requestStop .caller i) := by
  simp only [requestStop]
  split
  · exact refl _ s
  · have hset : Adds Entry.Aside s { s.setJob i (s.job i).requestStop.1 with
        link.slot := (s.setJob i (s.job i).requestStop.1).link.slot.cancel } :=
      of_eq rfl rfl rfl rfl
    exact hset.trans (adds_answered _ _)

/-- So are the ports. -/
theorem adds_listPorts (s : Session) : Adds Entry.Aside s (s.listPorts .caller).2 := by
  unfold listPorts
  split
  · exact single (Entry.aside (by decide) _) s
  · exact refl _ s
  · exact refl _ s

/-- In a quiet turn, what the reader has read of a line stays as it is, what waits to be read
grows at most, and no line is reported. -/
theorem Takes.writes {s next : Session} {t : Turn} (h : s.Takes t next)
    (hquiet : t.isQuiet = true) : Writes Entry.Aside s next := by
  have hlink : ∀ {s' : Session}, Writes Entry.OfLink s s' → Writes Entry.Aside s s' :=
    fun h => h.mono fun _ => .inl
  cases h with
  | job h => exact writes_advance? h
  | read | idle | opening | arm | device => cases hquiet
  -- what the link reports is no line of the reader's
  | letGo i => exact hlink (writes_letGoJob s i)
  | @launch i name p => exact .of_adds ((adds_claim _ s).trans (adds_launch _ i name p))
  | spawn =>
    exact .sends _ s (s.device.inbound_spawn ▸ List.prefix_rfl) s.device.discards_spawn
  | abandon i reason => exact .of_adds (adds_abandonStart s i reason)
  | refuse e => exact .of_adds (adds_answered s _)
  | pause i => exact .of_adds (adds_pauseFrom s (by decide) i)
  | resume hrest i =>
    have hset : Adds Entry.Aside s (s.setJob i (s.job i).resume.1) := of_eq rfl rfl rfl rfl
    exact .of_adds (hset.trans (adds_answered _ _))
  | stop hrest i => exact .of_adds (adds_requestStop s i)
  | overdue ms => exact .of_adds (single (Entry.aside (by decide) _) s)
  | sendLine hrest line => exact hlink (writes_write s (by decide) (wireLine line) line true)
  | sendRealtime c => exact hlink (writes_write s (by decide) [c.byte] c.display false)
  | disconnect => exact hlink (.of_adds (adds_teardown s .caller))
  | stay port => exact hlink (.of_adds (adds_log s .caller .debug _))
  | listPorts => exact .of_adds (adds_listPorts s)
  | meddle => exact .of_adds (of_eq rfl rfl rfl rfl)
  | sends items => exact .sends _ s (List.prefix_append _ _) rfl

/-! ### Lines -/

/-- A field that cannot be read, as the observer is told of it. -/
def fieldEvent (e : Machine.FieldError) : Event :=
  .error .decode ("Could not parse position '" ++ e.field ++ "': " ++ e.fault.message)

/-- What the reader tells the observer of a status report. -/
def reportEvents (r : Machine.StatusReport) : List Event :=
  .status r.state r.raw :: r.workPosition.toList.map .position ++ r.fieldErrors.map fieldEvent

/-- What the reader tells the observer of a line without blanks around it. -/
def textEvents (line : String) : List Event :=
  .log ("GRBL: " ++ line) ::
    match Machine.StatusReport.ofLine? line with
    | some r => reportEvents r
    | none => []

/-- What the reader tells the observer of a line. -/
def lineEvents (bytes : List UInt8) : List Event :=
  match Text.decode bytes with
  | .ok cs => if Text.trim cs = [] then [] else textEvents (String.ofList (Text.trim cs))
  | .error fault => [.error .decode ("Could not decode line: " ++ fault.message)]

/-- What the reader tells the observer of a read that has failed. -/
def faultEvents (reason : String) : List Event :=
  [.error .transport ("Serial error: " ++ reason), .status "Error" ("Serial error: " ++ reason)]

end Session

/-- The event, if the entry is one of the reader's and does not report that the connection
has ended. -/
def Entry.heard? (e : Entry) : Option Event :=
  match e.thread, e.note with
  | .reader, .event event => if e.note.sign? = some .disconnected then none else some event
  | _, _ => none

/-- Only the reader's entries say what was heard. -/
theorem Entry.heard?_of_thread {e : Entry} (h : e.thread ≠ .reader) : e.heard? = none := by
  obtain ⟨t, n⟩ := e
  cases t with
  | reader => exact absurd rfl h
  | _ => rfl

/-- Entries aside do not. -/
theorem Entry.Aside.heard? {e : Entry} (h : e.Aside) : e.heard? = none := by
  rcases h with h | h
  · cases h with
    | record t => cases t <;> rfl
    | farewell t label =>
      cases t with
      | reader => simp [Entry.heard?, Note.sign?_disconnected]
      | _ => rfl
    | fault h | broken h | shown h => exact Entry.heard?_of_thread h
  · exact Entry.heard?_of_thread h

namespace Session

/-- The reader's events so far, but for its reports that a connection has ended. -/
def heard (s : Session) : List Event := s.journal.filterMap Entry.heard?

/-- So they leave what was heard as it is. -/
theorem Adds.heard {s s' : Session} (h : Adds Entry.Aside s s') : s'.heard = s.heard := by
  obtain ⟨entries, hjournal, haside⟩ := h.journal
  have hnone : entries.filterMap Entry.heard? = [] :=
    List.filterMap_eq_nil_iff.mpr fun e he => (haside e he).heard?
  rw [Session.heard, hjournal, List.filterMap_append, hnone, List.append_nil, Session.heard]

/-- The reader tells the observer some events, and all else is aside. -/
structure Tells (events : List Event) (s s' : Session) : Prop where
  adds : Adds (fun _ => True) s s'
  heard : s'.heard = s.heard ++ events

namespace Tells

variable {s s' s'' : Session} {events more : List Event}

/-- To add entries aside tells nothing. -/
theorem of_adds (h : Adds Entry.Aside s s') : Tells [] s s' where
  adds := h.mono fun _ _ => trivial
  heard := by rw [h.heard, List.append_nil]

/-- Neither do entries of the link. -/
theorem of_link (h : Adds Entry.OfLink s s') : Tells [] s s' := of_adds (h.mono fun _ => .inl)

/-- Nothing is told where nothing happens. -/
theorem refl (s : Session) : Tells [] s s := of_adds (Adds.refl _ s)

/-- Events are told after others. -/
theorem trans (h : Tells events s s') (h' : Tells more s' s'') : Tells (events ++ more) s s'' where
  adds := h.adds.trans h'.adds
  heard := by rw [h'.heard, h.heard, List.append_assoc]

/-- What comes before and after the events is aside. -/
theorem after (h' : Tells events s' s'') (h : Tells [] s s') : Tells events s s'' := h.trans h'

/-- Nothing more is told where nothing is told afterwards. -/
theorem before (h : Tells events s s') (h' : Tells [] s' s'') : Tells events s s'' := by
  simpa using h.trans h'

/-- An event is told that is no sign of the link. -/
theorem emit {e : Event} (h : (Note.event e).sign? = none) (s : Session) :
    Tells [e] s (s.emit .reader e) where
  adds := Adds.single trivial s
  heard := by simp [Session.heard, Session.emit, tell, List.filterMap_append, Entry.heard?, h]

/-- A status that is no sign, whatever the observer makes of it. -/
theorem reportStatus {state raw : String} (h : (Note.event (.status state raw)).sign? = none)
    (s : Session) : Tells [.status state raw] s (s.reportStatus .reader state raw) :=
  (emit h s).before (of_link (adds_reaction s .reader state raw))

end Tells

/-- A field that cannot be read is one event. -/
theorem reportFieldError_tells (s : Session) (e : Machine.FieldError) :
    Tells [fieldEvent e] s (s.reportFieldError e) :=
  (Tells.emit (e := fieldEvent e) rfl _).after (.of_link (adds_log s .reader .warn _))

/-- Several are as many events, in their order. -/
theorem foldl_reportFieldError_tells (errors : List Machine.FieldError) (s : Session) :
    Tells (errors.map fieldEvent) s (errors.foldl reportFieldError s) := by
  induction errors generalizing s with
  | nil => exact .refl s
  | cons e errors ih => exact (reportFieldError_tells s e).trans (ih (s.reportFieldError e))

/-- A report is told by its status, its position if it has one, and its bad fields. -/
theorem handleReport_tells {line : String} {r : Machine.StatusReport}
    (hr : Machine.StatusReport.ofLine? line = some r) (s : Session) :
    Tells (reportEvents r) s (s.handleReport r) := by
  have hsign : (Note.event (.status r.state r.raw)).sign? = none :=
    Note.sign?_status (Machine.initial?_raw hr) (by decide) r.state
  -- the status and the position are kept before anything is told of them
  have hcached : Tells [] s { s with link.status := some r.status
                                     link.position := r.workPosition.or s.link.position } :=
    .of_adds (Adds.of_eq rfl rfl rfl rfl)
  have hstatus := (Tells.reportStatus hsign _).after hcached
  rw [handleReport]
  refine Tells.trans ?_ (foldl_reportFieldError_tells r.fieldErrors _)
  generalize reportStatus _ .reader r.state r.raw = reported at hstatus ⊢
  cases r.workPosition with
  | none => exact hstatus
  | some p => exact hstatus.trans (Tells.emit rfl _)

/-- An answer is told to nobody: it goes to the slot. -/
theorem handleAnswer_tells (s : Session) (line : String) : Tells [] s (s.handleAnswer line) := by
  have hslot : ∀ slot : Link.Slot, Tells [] s { s with link.slot := slot } :=
    fun _ => .of_adds (Adds.of_eq rfl rfl rfl rfl)
  simp only [handleAnswer]
  split
  · exact hslot _
  · exact (Tells.of_link (adds_log _ .reader .debug _)).after (hslot _)

/-- A line is told as its text says. -/
theorem handleText_tells (s : Session) (line : String) :
    Tells (textEvents line) s (s.handleText line) := by
  have hshown : Tells [.log ("GRBL: " ++ line)] s
      ((s.log .reader .trace ("GRBL: " ++ line)).emit .reader (.log ("GRBL: " ++ line))) :=
    (Tells.emit rfl _).after (.of_link (adds_log s .reader .trace _))
  unfold handleText textEvents
  refine hshown.trans ?_
  cases hr : Machine.StatusReport.ofLine? line with
  | some r => exact handleReport_tells hr _
  | none =>
    simp only []
    split
    · exact handleAnswer_tells _ _
    · exact .refl _

/-- The reader tells of a line what is said of it, whatever the observer makes of it. -/
theorem handleLine_tells (s : Session) (bytes : List UInt8) :
    Tells (lineEvents bytes) s (s.handleLine bytes) := by
  unfold handleLine lineEvents
  cases Text.decode bytes with
  | error fault =>
    exact (Tells.emit (e := .error .decode _) rfl _).after (.of_link (adds_log s .reader .warn _))
  | ok cs =>
    simp only []
    split
    · exact .refl s
    · exact handleText_tells s _

/-- The reader takes note that it begins a new line, and tells of the one that it has. -/
theorem completeLine_tells (s : Session) (r : Link.Reader) (chunk : List UInt8) :
    Tells (lineEvents (r.pending ++ chunk))
      { s with link.reader := some { r with pending := [], fresh := false } }
      (s.completeLine r chunk) :=
  (handleLine_tells _ _).before (.of_link (adds_endIfStopping _))

/-! ### Reads that fail -/

/-- A broken transport is reported as such, and then as a status. -/
theorem reportFault_tells (s : Session) (reason : String) :
    Tells (faultEvents reason) s (s.reportFault reason) := by
  have hsign : (Note.event (.status "Error" ("Serial error: " ++ reason))).sign? = none :=
    Note.sign?_status (initial?_append (c := 'S') (by decide) reason) (by decide) "Error"
  have herror : Tells [.error .transport ("Serial error: " ++ reason)] s
      ((s.log .reader .error ("Serial error: " ++ reason ++ " (" ++ s.link.label ++ ")")).emit
        .reader (.error .transport ("Serial error: " ++ reason))) :=
    (Tells.emit rfl _).after (.of_link (adds_log s .reader .error _))
  exact (herror.trans (Tells.reportStatus hsign _)).before (.of_link (adds_become _ .reader _))

/-- A fault is told before the connection is taken down. -/
theorem fault_tells (s : Session) (reason : String) :
    Tells (faultEvents reason) s (s.fault reason) := by
  have hreport := reportFault_tells s reason
  simp only [fault]
  split
  · split
    · -- the connection is taken down later, when the write has returned
      rename_i r hr
      exact hreport.before (.of_adds (Adds.withReader _ _ (some { r with closing := true })
        (.inl (by simp [begun?]))))
    · exact hreport
  · exact hreport.before (.of_link (adds_closeAfterFault _))

/-- After a read that has failed, the reader reads no more. -/
theorem begun?_fault (s : Session) (reason : String) : (s.fault reason).begun? = none := by
  simp only [fault]
  split
  · split
    · simp [begun?]
    · rename_i hr
      simp [begun?, hr]
  · rfl

/-! ### Opening a port, and the observer's reactions -/

/-- What is read may make the observer react, and concerns the device no more. -/
theorem readItem_adds (s : Session) (r : Link.Reader) (item : Bench.Item) :
    (∀ rule ∈ (s.readItem r item).rules, rule ∈ s.rules) ∧
      (s.readItem r item).device = s.device := by
  generalize h : s.readItem r item = next
  cases reads_readItem h with
  | nothing | mark => exact ⟨fun _ => id, rfl⟩
  | line chunk =>
    have hline := (completeLine_tells s r chunk).adds
    exact ⟨hline.rules, hline.device⟩
  | fault reason =>
    have hfault := (fault_tells s reason).adds
    exact ⟨hfault.rules, hfault.device⟩

/-- Opening a port is reported by the operator's thread, and by a record of the reader's that
it has started. -/
theorem filterMap_openPort {α : Type} {f : Entry → Option α} (hcaller : ∀ n, f ⟨.caller, n⟩ = none)
    (hrecord : ∀ r, r.origin = .link → f ⟨.reader, .record r⟩ = none) (s : Session)
    (port : String) (baud : UInt32) :
    (s.openPort .caller port baud).2.journal.filterMap f = s.journal.filterMap f := by
  have htell : ∀ (s : Session) (n : Note),
      (s.tell .caller n).journal.filterMap f = s.journal.filterMap f := by
    intro s n
    simp [tell, List.filterMap_append, hcaller]
  have hbecome : ∀ (s : Session) (next : Link.ConnectionState),
      (s.become .caller next).journal.filterMap f = s.journal.filterMap f := by
    intro s next
    obtain ⟨level, message, h⟩ := s.become_cases .caller next
    rw [h]
    exact htell s _
  have hfails : ∀ (s : Session) (e : LinkError),
      (s.failConnect .caller e).2.journal.filterMap f = s.journal.filterMap f :=
    fun s e => (htell _ _).trans ((htell _ _).trans (hbecome s .faulted))
  have hstarts : ∀ s : Session,
      (s.startReader .caller port baud).2.journal.filterMap f = s.journal.filterMap f := by
    intro s
    have hmade : (s.establish .caller port).journal.filterMap f = s.journal.filterMap f :=
      -- each step of the way tells as the operator, but for the record that the reader has started
      hbecome { s with link := s.link.establish port } .connected
    rcases s.startReader_cases .caller port baud with h | ⟨reason, h⟩
    · rw [h, ← hmade]
      refine (htell _ _).trans ((htell _ _).trans ?_)
      simp [Session.log, tell, List.filterMap_append, hrecord]
    · rw [h, ← hmade]
      exact hfails _ _
  have hbegun : ∀ d : Bench.Device, ({ (s.become .caller .connecting).log .caller .info
      ("Connecting to " ++ port ++ " at " ++ toString baud.toNat ++ " baud") with device := d } :
      Session).journal.filterMap f = s.journal.filterMap f :=
    fun _ => (htell _ _).trans (hbecome s .connecting)
  simp only [openPort, discardInput, openReader]
  split
  · rename_i e device _
    rw [hfails, ← hbegun device]
    cases e with
    | openFailed => exact htell _ _
    | notConnected | enumerationFailed | io => rfl
  · rename_i device _
    split
    · refine (hfails _ _).trans ?_
      split
      · exact (htell _ _).trans (hbegun device.discard.2)
      · exact hbegun device.discard.2
    · refine (hstarts _).trans ?_
      split
      · exact (htell _ _).trans (hbegun device.discard.2)
      · exact hbegun device.discard.2

/-- To open a port leaves the observer's rules as they are. -/
theorem rules_openPort (s : Session) (t : Thread) (port : String) (baud : UInt32) :
    (s.openPort t port baud).2.rules = s.rules := by
  obtain ⟨s', -, -, hrules, ⟨-, e, h⟩ | ⟨-, -, h⟩⟩ := openPort_cases s t port baud
  · rw [h, ← hrules]
    exact rules_become s' t .faulted
  · have hmade : (s'.establish t port).rules = s'.rules :=
      rules_become { s' with link := s'.link.establish port } t .connected
    rw [h, ← hrules, ← hmade]
    rcases s'.startReader_cases t port baud with h | ⟨reason, h⟩
    · rw [h]
      rfl
    · rw [h]
      exact rules_become { s'.establish t port with
        device := (s'.establish t port).device.spawn.2
        link := (s'.establish t port).link.shut } t .faulted

/-- Reactions of the observer are only used up, unless it is told of one. -/
theorem Takes.rules {s next : Session} {t : Turn} (h : s.Takes t next)
    (harm : ∀ rule, t ≠ .arm rule) : ∀ rule ∈ next.rules, rule ∈ s.rules := by
  -- a quiet turn only adds to the journal, and at most uses a reaction up
  have hwrites : t.isQuiet = true → ∀ rule ∈ next.rules, rule ∈ s.rules :=
    fun hquiet => (h.writes hquiet).adds.rules
  cases h with
  | @read item rest _ hrest hitem h =>
    obtain ⟨r, -, -, rfl⟩ := read?_cases hitem h
    exact (readItem_adds { s with device.inbound := leftOver item ++ rest } r item).1
  | idle =>
    unfold timeOut
    split <;> exact fun _ => id
  | opening hrest hfree hgone port baud =>
    rw [rules_openPort]
    exact fun _ => id
  | arm rule => exact absurd rfl (harm rule)
  | device => exact fun _ => id
  | _ => exact hwrites rfl

/-- Until a port is opened or the device is changed, the next discards go as they would. -/
theorem Takes.discards {s next : Session} {t : Turn} (h : s.Takes t next)
    (hopens : t.opens = false) (hdevice : t ≠ .device) :
    next.device.discards = s.device.discards := by
  have hwrites : t.isQuiet = true → next.device.discards = s.device.discards :=
    fun hquiet => (h.writes hquiet).discards
  cases h with
  | @read item rest _ hrest hitem h =>
    obtain ⟨r, -, -, rfl⟩ := read?_cases hitem h
    rw [(readItem_adds { s with device.inbound := leftOver item ++ rest } r item).2]
  | idle =>
    unfold timeOut
    split <;> rfl
  | opening => cases hopens
  | device => exact absurd rfl hdevice
  | arm => rfl
  | _ => exact hwrites rfl

end Session

end GcodeSender
