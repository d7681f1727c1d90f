import GcodeSender.Proofs.Link.Slot
import GcodeSender.Proofs.Machine.StatusReport
import GcodeSender.Proofs.Session.Turns

/-!
# `GcodeSender.Proofs.Link.Standing`: how the link stands

Whether there is a connection can be seen at four places: the state that the link says
it is in, the transport, the slot for answers, and the reader. `Standing` holds the four
with the signs that the journal gives of them. Every operation of the link changes the
standing in its own way, whatever else it does, and the lemmas `standing_*` say how:
`become`, `endReader`, `stopReader`, `shut` and `teardown` are operations of a standing
too, and all others are made of these.

A sign is told by how its text begins. What a controller sends is never taken for one:
the text of a report begins with its frame.
-/

set_option autoImplicit false

namespace GcodeSender

/-! ### Signs -/

/-- What a note says about the life of the connection. -/
inductive Link.Sign where
  /-- A connection was made. -/
  | connected
  /-- A connection has ended. -/
  | disconnected
  /-- A connection could not be made. -/
  | failed
  /-- The state was changed in a way that does not belong to the life of a connection. -/
  | unexpected
  /-- A reader was started. -/
  | started
  /-- A reader has ended. -/
  | stopped
deriving DecidableEq, Repr

/-- A text begins with another. -/
def begins (p m : String) : Bool := p.toList.isPrefixOf m.toList

/-- The first character of a text. -/
def initial? (m : String) : Option Char := m.toList.head?

/-- A text begins with the first character of its first part. -/
theorem initial?_append {p : String} {c : Char} (h : initial? p = some c) (m : String) :
    initial? (p ++ m) = some c := by
  rw [initial?] at h ⊢
  rw [String.toList_append, List.head?_append, h]
  rfl

/-- A text begins with its first part. -/
theorem begins_append (p m : String) : begins p (p ++ m) = true := by
  simp [begins, String.toList_append]

/-- Texts that begin with different characters do not begin alike. -/
theorem begins_eq_false {p m : String} {c d : Char} (hm : initial? m = some c)
    (hp : initial? p = some d) (h : c ≠ d) : begins p m = false := by
  refine eq_false_of_ne_true fun hbegins => h ?_
  obtain ⟨rest, hrest⟩ := List.isPrefixOf_iff_prefix.mp hbegins
  rw [initial?] at hm hp
  rw [← hrest, List.head?_append, hp] at hm
  exact (Option.some.inj hm).symm

/-- The sign that a note gives. -/
def Note.sign? : Note → Option Link.Sign
  | .event (.status state raw) =>
    if state = "Connected" && begins "Connected to " raw then some .connected
    else if state = "Disconnected" && begins "Disconnected from " raw then some .disconnected
    else if state = "Error" && begins "Failed to connect: " raw then some .failed
    else none
  | .event (.position _) | .event (.log _) | .event (.progress _) | .event (.error _ _) => none
  | .record r =>
    if r.origin = .link then
      match r.level with
      | .warn =>
        if begins "Unexpected connection state change " r.message then some .unexpected else none
      | .debug =>
        if begins "Reader started on " r.message then some .started
        else if begins "Reader stopped on " r.message then some .stopped
        else none
      | .trace | .info | .error => none
    else none

namespace Note

/-- A status gives a sign only if its text begins like one. -/
theorem sign?_status {raw : String} {c : Char} (hraw : initial? raw = some c)
    (h : c ≠ 'C' ∧ c ≠ 'D' ∧ c ≠ 'F') (state : String) :
    (Note.event (.status state raw)).sign? = none := by
  simp only [sign?, begins_eq_false hraw (show initial? "Connected to " = some 'C' by decide) h.1,
    begins_eq_false hraw (show initial? "Disconnected from " = some 'D' by decide) h.2.1,
    begins_eq_false hraw (show initial? "Failed to connect: " = some 'F' by decide) h.2.2,
    Bool.and_false, Bool.false_eq_true, if_false]

/-- A record gives a sign only if its message begins like one of its level. -/
theorem sign?_record {r : Log.Record} {c : Char} (hmessage : initial? r.message = some c)
    (h : (r.level = .warn → c ≠ 'U') ∧ (r.level = .debug → c ≠ 'R')) :
    (Note.record r).sign? = none := by
  simp only [sign?]
  split
  -- only a warning and a word of debugging are signs at all
  · split
    · rename_i hlevel
      rw [begins_eq_false hmessage
        (show initial? "Unexpected connection state change " = some 'U' by decide) (h.1 hlevel)]
      rfl
    · rename_i hlevel
      rw [begins_eq_false hmessage (show initial? "Reader started on " = some 'R' by decide)
          (h.2 hlevel),
        begins_eq_false hmessage (show initial? "Reader stopped on " = some 'R' by decide)
          (h.2 hlevel)]
      rfl
    · rfl
    · rfl
    · rfl
  · rfl

/-- Records at these levels give no sign. -/
theorem sign?_record_of_level {r : Log.Record} (h : r.level ≠ .warn ∧ r.level ≠ .debug) :
    (Note.record r).sign? = none := by
  simp only [sign?]
  split
  · split <;> simp_all
  · rfl

/-- Only the link's own records give signs. -/
theorem sign?_record_of_origin {r : Log.Record} (h : r.origin ≠ .link) :
    (Note.record r).sign? = none := by
  simp [sign?, h]

/-! Each sign is given by one kind of note. -/

/-- A connection that was made is reported with the sign of it. -/
theorem sign?_connected (m : String) :
    (Note.event (.status "Connected" ("Connected to " ++ m))).sign? = some .connected := by
  simp only [sign?, begins_append, decide_true, Bool.and_true, if_true]

/-- A connection that has ended is, too. -/
theorem sign?_disconnected (m : String) :
    (Note.event (.status "Disconnected" ("Disconnected from " ++ m))).sign? =
      some .disconnected := by
  have hother : begins "Connected to " ("Disconnected from " ++ m) = false :=
    begins_eq_false (initial?_append (c := 'D') (by decide) m) (d := 'C') (by decide) (by decide)
  simp only [sign?, hother, begins_append, Bool.and_false, Bool.false_eq_true, if_false,
    decide_true, Bool.and_true, if_true]

/-- One that could not be made is another sign than a fault. -/
theorem sign?_failed (m : String) :
    (Note.event (.status "Error" ("Failed to connect: " ++ m))).sign? = some .failed := by
  have hmessage : initial? ("Failed to connect: " ++ m) = some 'F' :=
    initial?_append (by decide) m
  have hother : begins "Connected to " ("Failed to connect: " ++ m) = false :=
    begins_eq_false hmessage (d := 'C') (by decide) (by decide)
  have hother' : begins "Disconnected from " ("Failed to connect: " ++ m) = false :=
    begins_eq_false hmessage (d := 'D') (by decide) (by decide)
  simp only [sign?, hother, hother', begins_append, Bool.and_false, Bool.false_eq_true, if_false,
    decide_true, Bool.and_true, if_true]

/-- A change of state that does not belong is a warning in the log. -/
theorem sign?_unexpected (m : String) :
    Note.sign? (.record ⟨.warn, .link, "Unexpected connection state change " ++ m, []⟩) =
      some .unexpected := by
  simp only [sign?, begins_append, if_true]

/-- A reader that was started is seen in the log. -/
theorem sign?_started (m : String) :
    Note.sign? (.record ⟨.debug, .link, "Reader started on " ++ m, []⟩) = some .started := by
  simp only [sign?, begins_append, if_true]

/-- The end of a reader is seen there, too. -/
theorem sign?_stopped (m : String) :
    Note.sign? (.record ⟨.debug, .link, "Reader stopped on " ++ m, []⟩) = some .stopped := by
  have hother : begins "Reader started on " ("Reader stopped on " ++ m) = false := by
    rw [begins, String.toList_append]
    rfl
  simp only [sign?, hother, begins_append, Bool.false_eq_true, if_false, if_true]

end Note

/-- A report holds its line as it was received, without blanks around it, and that line is
framed. -/
theorem Machine.raw_of_report {line : String} {r : StatusReport}
    (h : StatusReport.ofLine? line = some r) :
    r.raw = String.ofList (Text.trim line.toList) ∧
      (inFrame? (Text.trim line.toList)).isSome = true := by
  obtain ⟨first, fields, hspells, rfl⟩ := StatusReport.ofLine?_eq_some_iff.mp h
  refine ⟨?_, ?_⟩
  · rw [StatusReport.spelled_raw, hspells.framed]
  · rw [inFrame?_eq_some_iff.mpr hspells.framed]
    rfl

/-- A report of the controller begins with its frame. -/
theorem Machine.initial?_raw {line : String} {r : StatusReport}
    (h : StatusReport.ofLine? line = some r) : initial? r.raw = some '<' := by
  obtain ⟨hraw, hframed⟩ := raw_of_report h
  obtain ⟨inner, hinner⟩ := Option.isSome_iff_exists.mp hframed
  obtain ⟨rest, hrest⟩ := cons_of_inFrame? hinner
  rw [hraw, initial?, String.toList_ofList, hrest]
  rfl

/-! ### Standings -/

namespace Link

/-- What a reader has been told, or has found. -/
structure Watch where
  /-- It is to end before it reads again. -/
  stopping : Bool
  /-- It waits to take the connection down. -/
  closing : Bool
deriving DecidableEq, Repr

/-- What a standing shows of a reader. -/
def Reader.watch (r : Reader) : Watch := ⟨r.stopping, r.closing⟩

/-- How the link stands. -/
structure Standing where
  state : ConnectionState
  isOpen : Bool
  /-- The slot is closed. -/
  closed : Bool
  reader : Option Watch
  /-- The signs so far, oldest first. -/
  signs : List Sign
deriving DecidableEq, Repr

namespace Standing

/-- A sign is given. -/
def give (x : Standing) (sign : Sign) : Standing := { x with signs := x.signs ++ [sign] }

/-- The connection changes its state. -/
def become (x : Standing) (next : ConnectionState) : Standing :=
  { (if x.state.mayBecome next then x else x.give .unexpected) with state := next }

/-- The reader ends. -/
def endReader (x : Standing) : Standing := { x with reader := none }.give .stopped

/-- The reader is stopped; it marks itself, if it is told so by its own thread. -/
def stopReader (x : Standing) (self : Bool) : Standing :=
  match x.reader with
  | none => x
  | some w =>
    if w.stopping then x
    else if self then { x with reader := some { w with stopping := true } }
    else x.endReader

/-- The transport is dropped. -/
def shut (x : Standing) : Standing := { x with isOpen := false, closed := true }

/-- The connection, if there was one, is reported as ended. -/
def becomeDisconnected (x : Standing) : Standing :=
  if x.state = .disconnected then x.become .disconnected
  else (x.become .disconnected).give .disconnected

/-- A connection is made. -/
def establish (x : Standing) : Standing :=
  { x with isOpen := true, closed := false }.become .connected

/-- The reader of a new connection is started. -/
def beginReading (x : Standing) : Standing :=
  ({ x with reader := some ⟨false, false⟩ }.give .started).give .connected

/-- The reader ends if it was told to. -/
def endIfStopping (x : Standing) : Standing :=
  match x.reader with
  | some w => if w.stopping then x.endReader else x
  | none => x

/-- The reader is to take the connection down later. -/
def markClosing (x : Standing) : Standing :=
  { x with reader := x.reader.map fun w => { w with closing := true } }

/-- The connection is taken down. -/
def teardown (x : Standing) (self : Bool) : Standing := (x.stopReader self).shut.becomeDisconnected

/-- A transport that is dropped, with the state for it, is a connection that is down. -/
theorem down_become_shut (x : Standing) :
    (x.shut.become .disconnected).state = .disconnected ∧
      (x.shut.become .disconnected).isOpen = false ∧
      (x.shut.become .disconnected).closed = true := by
  unfold become
  split <;> exact ⟨rfl, rfl, rfl⟩

/-- Of a connection that is down, only the reader is left to be taken down. -/
theorem teardown_of_down {x : Standing}
    (h : x.state = .disconnected ∧ x.isOpen = false ∧ x.closed = true) (self : Bool) :
    x.teardown self = x.stopReader self := by
  -- to stop the reader changes none of the three
  have hstop : (x.stopReader self).state = .disconnected ∧ (x.stopReader self).isOpen = false ∧
      (x.stopReader self).closed = true := by
    unfold stopReader
    split
    · exact h
    · split
      · exact h
      · split <;> exact h
  rw [teardown]
  generalize x.stopReader self = y at hstop
  obtain ⟨state, isOpen, closed, reader, signs⟩ := y
  obtain ⟨rfl, rfl, rfl⟩ := hstop
  rfl

/-- A reader that ends may have been told to. -/
theorem endReader_stopReader (x : Standing) : (x.stopReader true).endReader = x.endReader := by
  unfold stopReader
  split
  · rfl
  · split <;> rfl

end Standing

end Link

namespace Session

open GcodeSender.Link (Standing Sign)

/-- How the link of a session stands. -/
def standing (s : Session) : Standing where
  state := s.link.state
  isOpen := s.link.isOpen
  closed := s.link.slot.closed
  reader := s.link.reader.map Link.Reader.watch
  signs := s.journal.filterMap fun e => e.note.sign?

/-! ### Reports -/

/-- A note changes the standing by the sign that it gives. -/
theorem standing_tell (s : Session) (t : Thread) (n : Note) :
    (s.tell t n).standing =
      match n.sign? with
      | some sign => s.standing.give sign
      | none => s.standing := by
  simp only [standing, tell, List.filterMap_append, List.filterMap_cons, List.filterMap_nil]
  cases n.sign? <;> simp [Standing.give]

/-- One with a sign gives it. -/
theorem standing_tell_of_sign {n : Note} {sign : Sign} (h : n.sign? = some sign) (s : Session)
    (t : Thread) : (s.tell t n).standing = s.standing.give sign := by
  rw [standing_tell, h]

/-- One without leaves the standing as it is. -/
theorem standing_tell_of_none {n : Note} (h : n.sign? = none) (s : Session) (t : Thread) :
    (s.tell t n).standing = s.standing := by
  rw [standing_tell, h]

/-- A note that gives no sign, with its message split as it is written. -/
theorem standing_log (s : Session) (t : Thread) (level : Log.Level) {p : String} {c : Char}
    (hp : initial? p = some c) (h : (level = .warn → c ≠ 'U') ∧ (level = .debug → c ≠ 'R'))
    (m : String) : (s.log t level (p ++ m)).standing = s.standing := by
  have hsign : Note.sign? (.record { level, origin := .link, message := p ++ m }) = none :=
    Note.sign?_record (r := { level, origin := .link, message := p ++ m }) (initial?_append hp m) h
  exact standing_tell_of_none hsign s t

/-- Lines in the log are no signs, but for warnings and those for debugging. -/
theorem standing_log_of_level (s : Session) (t : Thread) {level : Log.Level}
    (h : level ≠ .warn ∧ level ≠ .debug) (m : String) :
    (s.log t level m).standing = s.standing :=
  standing_tell_of_none (Note.sign?_record_of_level h) s t

/-- Texts for the observer are no signs. -/
theorem standing_emit_log (s : Session) (t : Thread) (text : String) :
    (s.emit t (.log text)).standing = s.standing := standing_tell_of_none rfl s t

/-- Errors are no signs: what they mean for the connection is reported beside them. -/
theorem standing_emit_error (s : Session) (t : Thread) (kind : ErrorKind) (message : String) :
    (s.emit t (.error kind message)).standing = s.standing := standing_tell_of_none rfl s t

/-- Positions are no signs. -/
theorem standing_emit_position (s : Session) (t : Thread) (p : Machine.Position) :
    (s.emit t (.position p)).standing = s.standing := standing_tell_of_none rfl s t

/-- The end of a connection is the sign of one. -/
theorem standing_emit_disconnected (s : Session) (t : Thread) :
    (s.emit t (.status "Disconnected" s.farewell)).standing = s.standing.give .disconnected := by
  unfold emit farewell
  exact standing_tell_of_sign (Note.sign?_disconnected s.link.label) s t

/-- Notes without signs leave the standing as it is, however many. -/
theorem standing_tellAll (s : Session) (t : Thread) {notes : List Note}
    (h : ∀ n ∈ notes, n.sign? = none) : (s.tellAll t notes).standing = s.standing := by
  induction notes generalizing s with
  | nil => rfl
  | cons n notes ih =>
    have hrest := ih (s.tell t n) fun m hm => h m (List.mem_cons_of_mem _ hm)
    exact hrest.trans (standing_tell_of_none (h n (by simp)) s t)

/-! ### Changes of the connection -/

/-- The state of the session's link is that of the standing. -/
theorem standing_become (s : Session) (t : Thread) (next : Link.ConnectionState) :
    (s.become t next).standing = s.standing.become next := by
  have hstate : ∀ s' : Session, ({ s' with link.state := next } : Session).standing =
      { s'.standing with state := next } := fun _ => rfl
  unfold become Standing.become
  simp only [hstate]
  by_cases h : s.link.state.mayBecome next = true
  · have hlog := standing_log_of_level s t (show Log.Level.trace ≠ .warn ∧ _ by decide)
      ("Connection state " ++ (s.link.state.display ++ " -> " ++ next.display))
    rw [if_pos h, if_pos (show s.standing.state.mayBecome next = true from h), hlog]
  · rw [if_neg h, if_neg (show ¬s.standing.state.mayBecome next = true from h), log, standing_tell,
      Note.sign?_unexpected]

/-- The reader of the session ends like that of the standing. -/
theorem standing_endReader (s : Session) : s.endReader.standing = s.standing.endReader := by
  rw [endReader, log, standing_tell, Note.sign?_stopped]
  rfl

/-- It is stopped like that of the standing, by its own thread or by another. -/
theorem standing_stopReader (s : Session) (t : Thread) :
    (s.stopReader t).standing = s.standing.stopReader (t = .reader) := by
  unfold stopReader Standing.stopReader
  -- the three cases of `stopReader`, on both sides
  cases hr : s.link.reader with
  | none =>
    have hnone : s.standing.reader = none := by simp [standing, hr]
    rw [hnone]
  | some r =>
    have hsome : s.standing.reader = some r.watch := by simp [standing, hr]
    simp only [hsome]
    by_cases hstop : r.stopping = true
    · rw [if_pos hstop, if_pos (show r.watch.stopping = true from hstop)]
    · rw [if_neg hstop, if_neg (show ¬r.watch.stopping = true from hstop)]
      by_cases ht : t = .reader
      · rw [if_pos ht, if_pos (by simpa using ht), log, standing_tell_of_none]
        · rfl
        · exact Note.sign?_record (c := 'D') (by decide) (by decide)
      · rw [if_neg ht, if_neg (by simpa using ht), standing_endReader]

/-- To drop the transport is the same in both. -/
theorem standing_shut (s : Session) :
    ({ s with link := s.link.shut } : Session).standing = s.standing.shut := rfl

/-- What reports the end of a connection may be any session operation that gives the
sign of it. -/
theorem standing_becomeDisconnected (s : Session) (t : Thread) {report : Session → Session}
    (h : (report (s.become t .disconnected)).standing =
      (s.standing.become .disconnected).give .disconnected) :
    (s.becomeDisconnected t report).standing = s.standing.becomeDisconnected := by
  unfold becomeDisconnected Standing.becomeDisconnected
  simp only []
  by_cases hs : s.link.state = .disconnected
  · rw [if_pos hs, if_pos (show s.standing.state = .disconnected from hs), standing_become]
  · rw [if_neg hs, if_neg (show ¬s.standing.state = .disconnected from hs), h]

/-- So to take the connection down is the same in both. -/
theorem standing_teardown (s : Session) (t : Thread) :
    (s.teardown t).standing = s.standing.teardown (t = .reader) := by
  unfold teardown Standing.teardown
  rw [← standing_stopReader, ← standing_shut]
  refine standing_becomeDisconnected _ t ?_
  have hlog := standing_log_of_level
    ({ s.stopReader t with link := (s.stopReader t).link.shut }.become t .disconnected) t
    (show Log.Level.info ≠ .warn ∧ _ by decide)
    (({ s.stopReader t with link := (s.stopReader t).link.shut }.become t .disconnected).farewell)
  rw [← standing_become, ← hlog]
  exact standing_emit_disconnected _ t

/-! ### Reading -/

/-- The observer leaves a report as it is, or takes the connection down from the thread that
makes it. -/
theorem standing_reportStatus (s : Session) (t : Thread) (state raw : String) :
    (s.reportStatus t state raw).standing = (s.emit t (.status state raw)).standing ∨
      .disconnectOn state t ∈ s.rules ∧ (s.reportStatus t state raw).standing =
        (s.emit t (.status state raw)).standing.teardown (t = .reader) := by
  simp only [reportStatus]
  split
  · rename_i hrule
    refine .inr ⟨List.contains_iff_mem.mp hrule, ?_⟩
    rw [standing_teardown]
    rfl
  · exact .inl rfl

/-- A status that gives no sign is seen only in what the observer makes of it. -/
theorem standing_reportStatus_of_none {state raw : String}
    (hsign : (Note.event (.status state raw)).sign? = none) (s : Session) (t : Thread) :
    (s.reportStatus t state raw).standing = s.standing ∨
      .disconnectOn state t ∈ s.rules ∧
        (s.reportStatus t state raw).standing = s.standing.teardown (t = .reader) := by
  have hreport := standing_reportStatus s t state raw
  rwa [emit, standing_tell_of_none hsign] at hreport

/-- What a standing can be once a thread has told of a fault: what it was, or what the observer
has made of it from that thread. -/
def Alarmed (s : Session) (t : Thread) (x : Standing) : Prop :=
  x = s.standing ∨ .disconnectOn "Error" t ∈ s.rules ∧ x = s.standing.teardown (t = .reader)

/-- A fault that is told may make the observer disconnect, and nothing else. -/
theorem alarmed_reportStatus (s : Session) (t : Thread) (reason : String) :
    s.Alarmed t (s.reportStatus t "Error" ("Serial error: " ++ reason)).standing :=
  standing_reportStatus_of_none
    (Note.sign?_status (initial?_append (c := 'S') (by decide) reason) (by decide) "Error") s t

/-- A field that cannot be read is reported without a sign. -/
theorem standing_reportFieldError (s : Session) (e : Machine.FieldError) :
    (s.reportFieldError e).standing = s.standing := by
  unfold reportFieldError
  rw [standing_emit_error]
  exact standing_log s .reader .warn (c := 'B')
    (initial?_append (initial?_append (by decide) _) _) (by decide) _

/-- So are any number of them. -/
theorem standing_foldl_reportFieldError (errors : List Machine.FieldError) (s : Session) :
    (errors.foldl reportFieldError s).standing = s.standing := by
  induction errors generalizing s with
  | nil => rfl
  | cons e errors ih => rw [List.foldl_cons, ih, standing_reportFieldError]

/-- A status report leaves the standing as it is, unless the observer disconnects. -/
theorem standing_handleReport {line : String} {r : Machine.StatusReport}
    (h : Machine.StatusReport.ofLine? line = some r) (s : Session) :
    (s.handleReport r).standing = s.standing ∨
      (s.handleReport r).standing = s.standing.teardown true := by
  have hstatus := standing_reportStatus_of_none
    (Note.sign?_status (Machine.initial?_raw h) (by decide) r.state)
    { s with link.status := some r.status, link.position := r.workPosition.or s.link.position }
    .reader
  -- a position and the errors of fields are no signs
  have hrest : (s.handleReport r).standing = (reportStatus { s with
      link.status := some r.status
      link.position := r.workPosition.or s.link.position } .reader r.state r.raw).standing := by
    rw [handleReport, standing_foldl_reportFieldError]
    cases r.workPosition with
    | some p => exact standing_emit_position _ .reader p
    | none => rfl
  rw [hrest]
  exact hstatus.imp_right And.right

/-- An answer goes to the slot, which stays open or closed. -/
theorem standing_handleAnswer (s : Session) (line : String) :
    (s.handleAnswer line).standing = s.standing := by
  have hslot : ({ s with link.slot := (s.link.slot.offer line).2 } : Session).standing =
      s.standing := by
    simp only [standing, (s.link.slot.offer_cases line).2.2.2.1]
  simp only [handleAnswer]
  split
  · exact hslot
  · exact (standing_log _ _ _ (c := 'U') (by decide) (by decide) line).trans hslot

/-- The same holds of any line, report or answer. -/
theorem standing_handleText (s : Session) (line : String) :
    (s.handleText line).standing = s.standing ∨
      (s.handleText line).standing = s.standing.teardown true := by
  have hreceived : ((s.log .reader .trace ("GRBL: " ++ line)).emit .reader
      (.log ("GRBL: " ++ line))).standing = s.standing := by
    rw [standing_emit_log, standing_log_of_level _ _ (by decide)]
  simp only [handleText]
  rw [← hreceived]
  split
  · rename_i r hr
    exact standing_handleReport hr _
  · split
    · exact .inl (standing_handleAnswer _ line)
    · exact .inl rfl

/-- A line changes nothing, unless the observer takes the connection down. -/
theorem standing_handleLine (s : Session) (bytes : List UInt8) :
    (s.handleLine bytes).standing = s.standing ∨
      (s.handleLine bytes).standing = s.standing.teardown true := by
  unfold handleLine
  split
  · simp only []
    split
    · exact .inl rfl
    · exact standing_handleText s _
  · left
    simp only []
    rw [standing_emit_error]
    exact standing_log s .reader .warn (c := 'D')
      (initial?_append (by decide) _) (by decide) _

/-- A reader ends in both if it was told to. -/
theorem standing_endIfStopping (s : Session) :
    s.endIfStopping.standing = s.standing.endIfStopping := by
  unfold endIfStopping Standing.endIfStopping
  -- whether it was told to stop is seen on both sides
  cases hr : s.link.reader with
  | none =>
    have hnone : s.standing.reader = none := by simp [standing, hr]
    rw [hnone]
  | some r =>
    have hsome : s.standing.reader = some r.watch := by simp [standing, hr]
    rw [hsome]
    show (if r.stopping = true then s.endReader else s).standing = _
    by_cases hstop : r.stopping = true
    · rw [if_pos hstop, standing_endReader]
      exact (if_pos hstop).symm
    · rw [if_neg hstop]
      exact (if_neg hstop).symm

/-- What the reader has read so far is not seen in the standing. -/
theorem standing_withReader (s : Session) {r next : Link.Reader} (h : s.link.reader = some r)
    (hwatch : next.watch = r.watch) :
    ({ s with link.reader := some next } : Session).standing = s.standing := by
  simp [standing, h, hwatch]

/-- After a line the reader goes on, or ends if the line has made the observer disconnect. -/
theorem standing_completeLine {s : Session} {r : Link.Reader} (h : s.link.reader = some r)
    (chunk : List UInt8) :
    (s.completeLine r chunk).standing = s.standing.endIfStopping ∨
      (s.completeLine r chunk).standing = (s.standing.teardown true).endIfStopping := by
  have hnext : ({ s with link.reader := some { r with pending := [], fresh := false } } :
      Session).standing = s.standing := standing_withReader s h rfl
  have hline := standing_handleLine
    { s with link.reader := some { r with pending := [], fresh := false } } (r.pending ++ chunk)
  rw [hnext] at hline
  simp only [completeLine, standing_endIfStopping]
  rcases hline with hline | hline
  · exact .inl (by rw [hline])
  · exact .inr (by rw [hline])

/-- A broken transport is reported, and then the state is changed whatever the observer
has made of the report. -/
theorem standing_reportFault (s : Session) (reason : String) :
    ∃ x, s.Alarmed .reader x ∧ (s.reportFault reason).standing = x.become .faulted := by
  let told := (s.log .reader .error
    ("Serial error: " ++ reason ++ " (" ++ s.link.label ++ ")")).emit
    .reader (.error .transport ("Serial error: " ++ reason))
  have htold : told.standing = s.standing := by
    rw [standing_emit_error, standing_log_of_level _ _ (by decide)]
  have halarmed := alarmed_reportStatus told .reader reason
  rw [Alarmed, htold] at halarmed
  exact ⟨_, halarmed, standing_become _ .reader .faulted⟩

/-- The reader ends, whatever the observer makes of the report that the connection has
ended: there is nothing left for it to take down but the reader. -/
theorem standing_closeAfterFault (s : Session) :
    s.closeAfterFault.standing = s.standing.shut.becomeDisconnected.endReader := by
  unfold closeAfterFault becomeDisconnected
  -- the end is told unless the observer has brought it about already
  simp only [standing_endReader]
  by_cases hs : s.link.state = .disconnected
  · have hs' : s.standing.shut.state = .disconnected := hs
    rw [if_pos (show s.link.shut.state = .disconnected from hs), standing_become, standing_shut,
      Standing.becomeDisconnected, if_pos hs']
  · have hs' : ¬s.standing.shut.state = .disconnected := hs
    rw [if_neg (show ¬s.link.shut.state = .disconnected from hs), Standing.becomeDisconnected,
      if_neg hs', ← standing_shut, ← standing_become _ .reader]
    generalize hbecame :
      ({ s with link := s.link.shut } : Session).become .reader .disconnected = s'
    have hdown : s'.standing.state = .disconnected ∧ s'.standing.isOpen = false ∧
        s'.standing.closed = true := by
      rw [← hbecame, standing_become, standing_shut]
      exact Standing.down_become_shut s.standing
    -- to disconnect again is to stop a reader that ends anyhow
    rcases standing_reportStatus s' .reader "Disconnected" s'.farewell with h | ⟨-, h⟩
    · rw [h, standing_emit_disconnected]
    · rw [h, standing_emit_disconnected, Standing.teardown_of_down (by exact hdown)]
      exact Standing.endReader_stopReader _

/-- While a write hangs, the reader waits with taking the connection down. -/
theorem standing_fault (s : Session) (reason : String) : ∃ x, s.Alarmed .reader x ∧
    (s.fault reason).standing =
      if s.isHanging then (x.become .faulted).markClosing
      else (x.become .faulted).shut.becomeDisconnected.endReader := by
  obtain ⟨x, hx, hreport⟩ := standing_reportFault s reason
  -- whether a write hangs is not changed by what is reported
  have hjobs : (s.reportFault reason).jobs = s.jobs :=
    (reportFault_goes s reason).keeps (f := Core.jobs) Core.next_jobs_of_isReading
  have hhang : (s.reportFault reason).isHanging = s.isHanging := by
    rw [isHanging, hjobs, isHanging]
  refine ⟨x, hx, ?_⟩
  rw [← hreport]
  simp only [fault, hhang]
  split
  · rw [Standing.markClosing]
    split
    · rename_i r' hr'
      simp [standing, hr', Link.Reader.watch]
    · rename_i hr'
      simp [standing, hr']
  · exact standing_closeAfterFault _

/-- A read that times out leaves everything as it is. -/
theorem standing_timeOut (s : Session) : s.timeOut.standing = s.standing := by
  unfold timeOut
  split
  · rename_i r hr
    exact standing_withReader s hr rfl
  · rfl

/-! ### Writing -/

/-- A write that fails takes the connection down, whatever the observer has made of the report
of it. -/
theorem standing_failWrite (s : Session) (t : Thread) (reason : String) :
    ∃ x, s.Alarmed t x ∧
      (s.failWrite t reason).standing = (x.become .faulted).teardown (t = .reader) := by
  let told := (s.log t .error ("Write failed on " ++ s.link.label ++ ": " ++ reason)).emit t
    (.error .transport ("Serial error: " ++ reason))
  have htold : told.standing = s.standing := by
    rw [standing_emit_error, standing_log_of_level _ _ (by decide)]
  have halarmed := alarmed_reportStatus told t reason
  rw [Alarmed, htold] at halarmed
  refine ⟨_, halarmed, ?_⟩
  rw [failWrite, standing_teardown, standing_become]

/-- A write that goes well changes nothing, and one that fails takes the connection down. -/
theorem standing_afterDelivery (s : Session) (t : Thread) (shown : String)
    (delivery : Bench.Delivery) :
    (s.afterDelivery t shown delivery).2.standing = s.standing ∨
      ∃ x, s.Alarmed t x ∧ (s.afterDelivery t shown delivery).2.standing =
        (x.become .faulted).teardown (t = .reader) := by
  cases delivery with
  | delivered =>
    left
    show (s.confirmWrite t shown).standing = _
    rw [confirmWrite, standing_emit_log]
    exact standing_log s t .debug (c := 'S') (by decide) (by decide) shown
  | failed reason => exact .inr (standing_failWrite s t reason)
  | hanging rest => exact .inl rfl

/-- A write changes nothing, or it fails, and then there was a connection. -/
theorem standing_write (s : Session) (t : Thread) (bytes : List UInt8) (shown : String)
    (isLine : Bool) :
    (s.write t bytes shown isLine).2.standing = s.standing ∨
      s.link.canSend = true ∧ ∃ x, s.Alarmed t x ∧ (s.write t bytes shown isLine).2.standing =
        (x.become .faulted).teardown (t = .reader) := by
  unfold write
  split
  · rename_i hon
    -- to note a line changes the slot, of which the standing has only whether it is closed
    have hnoted : (if isLine then ({ s with link.slot := s.link.slot.noteSent } : Session)
        else s).standing = s.standing ∧
          (if isLine then ({ s with link.slot := s.link.slot.noteSent } : Session)
            else s).rules = s.rules := by
      cases isLine <;> exact ⟨rfl, rfl⟩
    generalize (if isLine then ({ s with link.slot := s.link.slot.noteSent } : Session) else s) =
      noted at hnoted
    have hafter := standing_afterDelivery
      { noted with device := (noted.device.transmit (t = .streamer) bytes).2 } t shown
      (noted.device.transmit (t = .streamer) bytes).1
    simp only [Alarmed, ← hnoted.1, ← hnoted.2]
    exact hafter.imp_right fun h => ⟨hon, h⟩
  · left
    show (s.refuseWrite t shown).standing = _
    rw [refuseWrite, standing_emit_log]
    exact standing_log s t .warn (c := '[') (by decide) (by decide) shown

/-! ### Jobs -/

/-- A job is announced without a sign. -/
theorem sign?_announce (message shown : String) :
    ∀ n ∈ Job.announce message shown, n.sign? = none := by
  simp [Job.announce, Job.record, Note.sign?]

/-- A pause is no affair of the link. -/
theorem standing_pauseFrom (s : Session) (t : Thread) (i : Nat) :
    (s.pauseFrom t i).standing = s.standing := by
  have hnotes : ∀ n ∈ (s.job i).pause.2, n.sign? = none := by
    unfold Job.pause
    split
    · exact sign?_announce _ _
    · simp
  exact standing_tellAll (s.setJob i (s.job i).pause.1) t hnotes

/-- What a job reports is none, either, unless it is a sign. -/
theorem standing_reportFromJob {n : Note} (h : n.sign? = none) (s : Session) :
    (s.reportFromJob n).standing = s.standing := by
  have htold := standing_tell_of_none h s .streamer
  rcases s.reportFromJob_cases n with hsaid | ⟨rule, i, hsaid⟩
  · rw [hsaid]
    exact htold
  · rw [hsaid, standing_pauseFrom]
    exact htold

/-- The same of all that a move of a job reports. -/
theorem standing_foldl_reportFromJob {notes : List Note} (h : ∀ n ∈ notes, n.sign? = none)
    (s : Session) : (notes.foldl reportFromJob s).standing = s.standing := by
  induction notes generalizing s with
  | nil => rfl
  | cons n notes ih =>
    rw [List.foldl_cons, ih fun m hm => h m (List.mem_cons_of_mem _ hm),
      standing_reportFromJob (h n (by simp))]

/-- No report of a job's thread is a sign. -/
theorem sign?_of_own {j next : Job} {notes : List Note} (h : j.move = .own next notes) :
    ∀ n ∈ notes, n.sign? = none := by
  rcases Job.notes_cases h with rfl | ⟨-, ⟨shot, rfl⟩ | ⟨total, rfl⟩ | ⟨kind, message, rfl⟩⟩
  · simp
  · simp [Job.progressNotes, Note.sign?]
  · exact sign?_announce _ _
  · simp [Job.failureNotes, Job.record, Note.sign?]

/-- What becomes of a job's write is the job's affair. -/
theorem standing_jobWritten (s : Session) (i : Nat) (j : Job) (line : String)
    (written : Written) : (s.jobWritten i j line written).standing = s.standing := by
  cases written <;> rfl

/-- A move of a job's thread changes nothing, unless its line cannot be written. -/
theorem standing_advance? {s next : Session} {i : Nat} (h : s.advance? i = some next) :
    next.standing = s.standing ∨
      s.link.canSend = true ∧ ∃ x, s.Alarmed .streamer x ∧
        next.standing = (x.become .faulted).teardown false := by
  cases advances_of_advance? h with
  | own hmove => exact .inl (standing_foldl_reportFromJob (sign?_of_own hmove) (s.setJob i _))
  | @send line _ =>
    -- the jobs are no part of the standing
    rw [standing_jobWritten]
    exact standing_write s .streamer (wireLine line) line true
  | @take _ _ slot _ hcheck =>
    have hclosed : slot.closed = s.link.slot.closed := by
      rw [(Link.Slot.check?_cases hcheck).1]
    left
    simp only [standing, setJob, hclosed]
  | arm | release => exact .inl rfl

/-! ### Calls of the operator -/

/-- A start that is refused is only reported. -/
theorem standing_refuseStart (s : Session) (t : Thread) (e : JobError) :
    (s.refuseStart t e).2.standing = s.standing :=
  standing_tellAll s t (by simp [Job.refusalNotes, Job.record, Note.sign?])

/-- A job that has the link is announced, which does not touch the connection. -/
theorem standing_launch (s : Session) (t : Thread) (i : Nat) (name : String) (p : Program) :
    (s.launch t i name p).standing = s.standing :=
  standing_tellAll (s.setJob i (Job.launch name p)) t (sign?_announce _ _)

/-- A start that gets no thread gives back the link, which stands as before. -/
theorem standing_abandonStart (s : Session) (t : Thread) (i : Nat) (reason : String) :
    (s.abandonStart t i reason).2.standing = s.standing :=
  standing_refuseStart _ t _

/-- Taking the link for a job readies the slot, and leaves it closed or open. -/
theorem standing_claim (s : Session) :
    ({ s with link := s.link.claim.2 } : Session).standing = s.standing := by
  unfold Link.claim
  split <;> rfl

/-- To resume a job is no affair of the link. -/
theorem standing_resume (s : Session) (t : Thread) (i : Nat) :
    (s.resume t i).standing = s.standing := by
  have hnotes : ∀ n ∈ (s.job i).resume.2, n.sign? = none := by
    unfold Job.resume
    split
    · exact sign?_announce _ _
    · simp
  exact standing_tellAll (s.setJob i (s.job i).resume.1) t hnotes

/-- To stop one calls off waits, and leaves the slot open or closed. -/
theorem standing_requestStop (s : Session) (t : Thread) (i : Nat) :
    (s.requestStop t i).standing = s.standing := by
  have hnotes : ∀ n ∈ (s.job i).requestStop.2, n.sign? = none := by
    unfold Job.requestStop
    split
    · exact sign?_announce _ _
    · simp
  unfold requestStop
  simp only []
  split
  · rfl
  · rw [standing_tellAll _ _ hnotes]
    rfl

/-- To list the ports gives no sign. -/
theorem standing_listPorts (s : Session) (t : Thread) :
    (s.listPorts t).2.standing = s.standing := by
  unfold listPorts
  split
  · exact standing_tell_of_none
      (Note.sign?_record_of_origin (show Log.Origin.serial ≠ .link by decide)) s t
  · rfl
  · rfl

/-! ### Opening a port -/

/-- A connection that cannot be made gives the sign of it, and the state. -/
theorem standing_failConnect (s : Session) (t : Thread) (e : LinkError) :
    (s.failConnect t e).2.standing = (s.standing.become .faulted).give .failed := by
  unfold failConnect emit
  simp only []
  rw [standing_tell_of_sign (Note.sign?_failed e.message), standing_log_of_level _ _ (by decide),
    standing_become]

/-- The reason is only logged. -/
theorem standing_logOpenFailure (s : Session) (t : Thread) (e : LinkError) :
    (s.logOpenFailure t e).standing = s.standing := by
  cases e with
  | openFailed port reason =>
    exact standing_tell_of_none
      (Note.sign?_record_of_origin (show Log.Origin.serial ≠ .link by decide)) s t
  | _ => rfl

/-- To make a connection is the same in both. -/
theorem standing_establish (s : Session) (t : Thread) (port : String) :
    (s.establish t port).standing = s.standing.establish := by
  rw [establish, standing_become]
  rfl

/-- To start its reader is the same in both. -/
theorem standing_beginReading (s : Session) (t : Thread) (port : String) (baud : UInt32) :
    (s.beginReading t port baud).standing = s.standing.beginReading := by
  have hstarted : ({ s with link.reader := some {} }.log .reader .debug
      ("Reader started on " ++ s.link.label)).standing =
        ({ s.standing with reader := some ⟨false, false⟩ } : Standing).give .started :=
    standing_tell_of_sign (Note.sign?_started s.link.label) _ _
  rw [beginReading, emit, standing_tell_of_sign (Note.sign?_connected port),
    standing_log_of_level _ _ (by decide), hstarted]
  rfl

/-- The reader starts, or there is no thread for it, and what was made is given up. -/
theorem standing_startReader (s : Session) (t : Thread) (port : String) (baud : UInt32) :
    (s.startReader t port baud).2.standing = s.standing.establish.beginReading ∨
      (∃ e, (s.startReader t port baud).1 = .error e) ∧ (s.startReader t port baud).2.standing =
        (s.standing.establish.shut.become .faulted).give .failed := by
  rcases s.startReader_cases t port baud with h | ⟨reason, h⟩
  · left
    rw [h, ← standing_establish s t port]
    exact standing_beginReading _ t port baud
  · right
    rw [h, ← standing_establish s t port]
    exact ⟨⟨_, rfl⟩, standing_failConnect _ t _⟩

/-- Opening a port makes a connection, fails before there is one, or fails for want of a
thread that reads it. -/
theorem standing_openPort (s : Session) (t : Thread) (port : String) (baud : UInt32) :
    (s.openPort t port baud).2.standing = (s.standing.become .connecting).establish.beginReading ∨
      (∃ e, (s.openPort t port baud).1 = .error e) ∧
        ((s.openPort t port baud).2.standing =
            ((s.standing.become .connecting).become .faulted).give .failed ∨
          (s.openPort t port baud).2.standing =
            ((s.standing.become .connecting).establish.shut.become .faulted).give .failed) := by
  have hbegun : ∀ message, ((s.become t .connecting).log t .info message).standing =
      s.standing.become .connecting := by
    intro message
    rw [standing_log_of_level _ _ (by decide), standing_become]
  -- what is logged of a discard begins like no sign
  have hdiscard : ∀ (s' : Session) (f : Link.Fault),
      (s'.log t .warn ("Could not discard input on " ++ port ++ ": " ++ f.text)).standing =
        s'.standing := fun s' f => standing_log s' t .warn (c := 'C')
    (initial?_append (initial?_append (by decide) _) _) (by decide) _
  have hfails : ∀ (s' : Session) (e : LinkError), s'.standing = s.standing.become .connecting →
      (s'.failConnect t e).2.standing =
        ((s.standing.become .connecting).become .faulted).give .failed := fun s' e hs' => by
    rw [standing_failConnect, hs']
  have hstarts : ∀ s' : Session, s'.standing = s.standing.become .connecting →
      (s'.startReader t port baud).2.standing =
          (s.standing.become .connecting).establish.beginReading ∨
        (∃ e, (s'.startReader t port baud).1 = .error e) ∧
          ((s'.startReader t port baud).2.standing =
              ((s.standing.become .connecting).become .faulted).give .failed ∨
            (s'.startReader t port baud).2.standing =
              ((s.standing.become .connecting).establish.shut.become .faulted).give .failed) :=
    fun s' hs' => by
      rw [← hs']
      exact (standing_startReader s' t port baud).imp_right fun ⟨herror, h⟩ => ⟨herror, .inr h⟩
  simp only [openPort, discardInput, openReader]
  split
  · exact .inr ⟨⟨_, rfl⟩, .inl (hfails _ _ ((standing_logOpenFailure _ _ _).trans (hbegun _)))⟩
  · rename_i device _
    cases device.discard.1 with
    | error f =>
      simp only []
      split
      · exact .inr ⟨⟨_, rfl⟩, .inl (hfails _ _ ((hdiscard _ f).trans (hbegun _)))⟩
      · exact hstarts _ ((hdiscard _ f).trans (hbegun _))
    | ok =>
      simp only []
      split
      · exact .inr ⟨⟨_, rfl⟩, .inl (hfails _ _ (hbegun _))⟩
      · exact hstarts _ (hbegun _)

end Session

end GcodeSender
