import GcodeSender.Proofs.Link.Failure

/-!
# `GcodeSender.Proofs.Link.Sending`: how a send ends

A line or a single-byte command is written in as many calls as it takes: a call may take a part
of the bytes, may be interrupted and made again, or may fail, and the flush after them may fail
too. `Parcel.ends_one_way` says that the caller sees three ends of all that and no other: the
bytes stand on the wire once and whole (`Sent`), nothing was tried (`Refused`), or the connection
is gone (`Broke`).

What stands on the wire after a delivery is read off `Bench.Device.transmit_takes`. A write that
fails takes the connection down, and with it what was counted for the line, whatever the observer
does when it is told (`link_failWrite`).

A call that blocks does not return, and only the thread of a job is held up so. The reader never
sends; if it did, it could not wait for its own end, and would be left with the word to end.
-/

set_option autoImplicit false

namespace GcodeSender

namespace Session

/-! ### A write that fails -/

/-- What is left of the reader of a connection that a thread takes down. The reader's own thread
can only tell itself to end. -/
def leftReader (t : Thread) (r : Link.Reader) : Option Link.Reader :=
  if t = .reader then some { r with stopping := true } else none

/-- A connection is taken down with its reader, whether or not that was told to end before. -/
theorem link_teardown_leftReader {s : Session} {t : Thread} {r : Link.Reader}
    (h : s.link.reader = some r ∧ r.stopping = false ∨ s.link.reader = leftReader t r) :
    (s.teardown t).link = { s.link.down with reader := leftReader t r } := by
  -- a reader that has stopped itself is left as it is
  have hstopped : (s.stopReader t).link = { s.link with reader := leftReader t r } := by
    rcases h with ⟨hr, hstop⟩ | hr
    · by_cases ht : t = .reader
      · simp [stopReader, leftReader, log, tell, hr, hstop, ht]
      · simp [stopReader, leftReader, hr, hstop, ht, link_endReader]
    · have hsame : s.stopReader t = s := by
        by_cases ht : t = .reader <;> simp [stopReader, hr, leftReader, ht]
      rw [hsame, ← hr]
  unfold teardown
  simp only []
  rw [link_becomeDisconnected, hstopped]
  · rfl
  · exact fun _ => rfl

/-- Whatever the observer does about a write that fails, the connection is taken down with its
reader: it can only have been taken down once before. -/
theorem link_failWrite {s : Session} {r : Link.Reader} (hr : s.link.reader = some r)
    (hstop : r.stopping = false) (t : Thread) (reason : String) :
    (s.failWrite t reason).link = { s.link.down with reader := leftReader t r } := by
  have hdown : ∀ s' : Session, s'.link = s.link ∨
      s'.link = { s.link.down with reader := leftReader t r } →
      ((s'.become t .faulted).teardown t).link = { s.link.down with reader := leftReader t r } := by
    intro s' hs'
    rw [link_teardown_leftReader (r := r), link_become]
    · rcases hs' with hs' | hs' <;> rw [hs'] <;> rfl
    · rw [link_become]
      rcases hs' with hs' | hs'
      · exact .inl ⟨by rw [hs']; exact hr, hstop⟩
      · exact .inr (by rw [hs'])
  -- the observer is told with the link still standing, and may take it down at once
  have htold : ∀ s' : Session, s'.link = s.link →
      (s'.reportStatus t "Error" ("Serial error: " ++ reason)).link = s.link ∨
        (s'.reportStatus t "Error" ("Serial error: " ++ reason)).link =
          { s.link.down with reader := leftReader t r } := by
    intro s' hlink
    simp only [reportStatus]
    split
    · refine .inr ((link_teardown_leftReader (.inl ⟨?_, hstop⟩)).trans ?_)
      · exact (congrArg Link.reader hlink).trans hr
      · show { s'.link.down with reader := leftReader t r } = _
        rw [hlink]
    · exact .inl hlink
  exact hdown _ (htold _ rfl)

/-- The device learns nothing of it. -/
theorem device_failWrite (s : Session) (t : Thread) (reason : String) :
    (s.failWrite t reason).device = s.device := by
  unfold failWrite
  simp only []
  rw [(adds_teardown _ t).device, (adds_become _ t .faulted).device, (adds_reaction _ t _ _).device]
  rfl

/-! ### What is sent, and how that can end -/

/-- What is sent to the controller. -/
inductive Parcel where
  | line (text : String)
  | command (c : Machine.Realtime)

namespace Parcel

/-- A line goes with its end, and a command is one byte. -/
def bytes : Parcel → List UInt8
  | .line text => Text.encode text.toList ++ [10]
  | .command c => [c.byte]

/-- The text by which it is reported. -/
def label : Parcel → String
  | .line text => text
  | .command c => c.display

/-- The number of answers that the controller will owe for it. -/
def answers : Parcel → Nat
  | .line _ => 1
  | .command _ => 0

/-- The operator's call. -/
def send (s : Session) (t : Thread) : Parcel → Except LinkError Unit × Session
  | .line text => s.sendLine t text
  | .command c => s.sendRealtime t c

/-- The write that the call comes down to. A job makes it without the call. -/
def write (s : Session) (t : Thread) : Parcel → Written × Session
  | .line text => s.writeLine t text
  | .command c => s.write t [c.byte] c.display false

/-- It was sent: it stands on the wire behind what stood there, its answers are owed and wait to
be read behind what waited, nothing else has changed on the link, and it is reported once. -/
structure Sent (s : Session) (t : Thread) (p : Parcel) (next : Session) : Prop where
  wire : next.device.wire = s.device.wire ++ p.bytes
  inbound : s.device.inbound <+: next.device.inbound
  link : next.link = { s.link with slot.owed := s.link.slot.owed + p.answers }
  events : next.events = s.events ++ [(t, .log ("Sent: " ++ p.label))]

/-- Nothing was tried, and that is reported once. -/
structure Refused (s : Session) (t : Thread) (p : Parcel) (next : Session) : Prop where
  device : next.device = s.device
  link : next.link = s.link
  events : next.events =
    s.events ++ [(t, .log ("[Not connected] Cannot send: " ++ p.label))]

/-- The connection is gone: there is no transport, nothing is owed, and no reader is left but the
thread that sends, if it is the reader itself, and that one is to end. -/
structure Broke (s : Session) (t : Thread) (p : Parcel) (next : Session) : Prop where
  wire : ∃ taken, taken <+: p.bytes ∧ next.device.wire = s.device.wire ++ taken
  state : next.link.state = .disconnected
  transport : next.link.isOpen = false
  reader : ∀ r, next.link.reader = some r → t = .reader ∧ r.stopping = true
  closed : next.link.slot.closed = true
  owed : next.link.slot.owed = 0

/-- A parcel is written by the write that all writes go through. -/
theorem write_eq (s : Session) (t : Thread) (p : Parcel) :
    p.write s t = Session.write s t p.bytes p.label (p.answers = 1) := by
  cases p with
  | line text =>
    have hbytes : wireLine text = (Parcel.line text).bytes := by
      rw [wireLine, Text.encode, List.flatMap_append]
      rfl
    rw [write, writeLine, hbytes]
    rfl
  | command c => rfl

/-- What the operator's call returns. -/
theorem send_eq {s next : Session} {t : Thread} {p : Parcel} {result : Except LinkError Unit}
    (h : p.write s t = (.returned result, next)) : p.send s t = (result, next) := by
  cases p with
  | line text =>
    rw [send, sendLine, show s.writeLine t text = _ from h]
    rfl
  | command c =>
    rw [send, sendRealtime, show s.write t [c.byte] c.display false = _ from h]
    rfl

variable {s : Session} {t : Thread}

/-- Without a connection nothing is tried. -/
theorem write_of_off (hoff : s.link.canSend = false) (p : Parcel) :
    ∃ next, p.write s t = (.returned (.error .notConnected), next) ∧ p.Refused s t next := by
  refine ⟨s.refuseWrite t p.label, ?_, rfl, rfl, ?_⟩
  · rw [write_eq, Session.write, hoff]
    rfl
  · simp [refuseWrite]

/-- On a connection the answers are counted first, and the delivery decides. -/
theorem write_of_on (hon : s.link.canSend = true) (p : Parcel) :
    p.write s t = ({ s with
      link.slot.owed := s.link.slot.owed + p.answers
      device := (s.device.transmit (t = .streamer) p.bytes).2 } : Session).afterDelivery t p.label
        (s.device.transmit (t = .streamer) p.bytes).1 := by
  rw [write_eq, Session.write, if_pos hon]
  cases p <;> rfl

/-- On a connection whose reader reads, it is sent or the connection breaks. -/
theorem write_of_reader {r : Link.Reader} (hon : s.link.canSend = true)
    (hr : s.link.reader = some r) (hstop : r.stopping = false)
    (hwrites : t = .streamer → .block ∉ s.device.writes) (p : Parcel) :
    (∃ next, p.write s t = (.returned (.ok ()), next) ∧ p.Sent s t next) ∨
      ∃ reason next, p.write s t = (.returned (.error (.io reason)), next) ∧ p.Broke s t next := by
  have hinbound := s.device.inbound_transmit (t = .streamer) p.bytes
  obtain ⟨taken, htakes, hwire⟩ := s.device.transmit_takes (t = .streamer) p.bytes
  rw [write_of_on hon]
  cases hends : (s.device.transmit (t = .streamer) p.bytes).1 with
  | delivered =>
    rw [hends] at htakes
    cases htakes
    refine .inl ⟨_, rfl, hwire, hinbound, rfl, ?_⟩
    rw [confirmWrite, events_emit, events_log]
    rfl
  | failed reason =>
    rw [hends] at htakes
    cases htakes with
    | failed _ htaken =>
      have hlink := link_failWrite (s := { s with
        link.slot.owed := s.link.slot.owed + p.answers
        device := (s.device.transmit (t = .streamer) p.bytes).2 }) hr hstop t reason
      refine .inr ⟨reason, _, rfl, ⟨taken, htaken, by rw [device_failWrite, ← hwire]⟩,
        ?_, ?_, fun r' hr' => ?_, ?_, ?_⟩
      · rw [hlink]
        rfl
      · rw [hlink]
        rfl
      · rw [hlink] at hr'
        simp only [leftReader, Option.ite_none_right_eq_some, Option.some.injEq] at hr'
        exact ⟨hr'.1, hr'.2 ▸ rfl⟩
      · rw [hlink]
        rfl
      · rw [hlink]
        rfl
  | hanging rest =>
    -- only a thread that may hang is held up, and only by a call that blocks
    rw [hends] at htakes
    cases htakes with
    | hanging hmay =>
      have hblock := Bench.Device.block_mem_of_transmit hends
      exact absurd hblock (hwrites (of_decide_eq_true hmay))

/-! ### Main result -/

/-- In every state that a session comes to, a send by any thread ends in one of three ways, however
the calls to write and to flush go, if none of them blocks: it is sent; or nothing was tried,
which happens just when the link is not connected; or the connection broke. -/
theorem ends_one_way {first : Session} (hnew : first.IsNew) (hs : Leads (fun _ => true) first s)
    (hwrites : t = .streamer → .block ∉ s.device.writes) (p : Parcel) :
    ∃ result next, p.write s t = (.returned result, next) ∧ p.send s t = (result, next) ∧
      (result = .ok () ∧ s.link.state = .connected ∧ p.Sent s t next ∨
        result = .error .notConnected ∧ s.link.state ≠ .connected ∧ p.Refused s t next ∨
        ∃ reason, result = .error (.io reason) ∧ s.link.state = .connected ∧
          p.Broke s t next) := by
  have hstands : s.Stands := hs.stands hnew.stands
  -- a connection that is up has a reader that was not stopped
  by_cases hstate : s.link.state = .connected
  · have hup := up_of_connected hstands (by rw [hstate]; rfl)
    obtain ⟨r, hr, hwatch⟩ : ∃ r, s.link.reader = some r ∧ r.watch = ⟨false, false⟩ := by
      have hreader : s.standing.reader = some ⟨false, false⟩ := by rw [hup]; rfl
      exact Option.map_eq_some_iff.mp hreader
    have hstop : r.stopping = false := congrArg Link.Watch.stopping hwatch
    rcases write_of_reader (canSend_of_up hup) hr hstop hwrites p with
      ⟨next, hwrite, hsent⟩ | ⟨reason, next, hwrite, hbroke⟩
    · exact ⟨_, next, hwrite, send_eq hwrite, .inl ⟨rfl, hstate, hsent⟩⟩
    · exact ⟨_, next, hwrite, send_eq hwrite, .inr (.inr ⟨reason, rfl, hstate, hbroke⟩)⟩
  · have hoff : s.link.canSend = false := by
      cases h : s.link.state <;> simp_all [Link.canSend, Link.ConnectionState.isConnected]
    obtain ⟨next, hwrite, hrefused⟩ := write_of_off (t := t) hoff p
    exact ⟨_, next, hwrite, send_eq hwrite, .inr (.inl ⟨rfl, hstate, hrefused⟩)⟩

/-- A device that takes a line in two calls, with an interrupted one between them, and of the next
line no more than two bytes. -/
def moody : Session :=
  { device := { writes := [.some 1, .fail (.usual .interrupted), .all, .some 2, .some 0] } }

/-- Nothing is sent before the link is connected. The first line is sent in parts, and the second
breaks the connection. -/
theorem ends_one_way_moody :
    (∃ next, (Parcel.line "G0").send moody .caller = (.error .notConnected, next) ∧
      (Parcel.line "G0").Refused moody .caller next) ∧
    (∃ next, (Parcel.line "G0").send (moody.after [.connect "COM3" 9600]) .caller =
        (.ok (), next) ∧
      (Parcel.line "G0").Sent (moody.after [.connect "COM3" 9600]) .caller next) ∧
    ∃ next, (Parcel.line "G1").send (moody.after [.connect "COM3" 9600, .send "G0"]) .caller =
        (.error (.io Link.noProgressText), next) ∧
      (Parcel.line "G1").Broke (moody.after [.connect "COM3" 9600, .send "G0"]) .caller next := by
  have hnew : moody.IsNew := ⟨rfl, by decide⟩
  have hleads : ∀ steps, Leads (fun _ => true) moody (moody.after steps) := fun steps =>
    after_leads hnew.calm hnew.stands fun _ _ _ _ => rfl
  refine ⟨?_, ?_, ?_⟩
  -- each of the three ends excludes the others by its result
  · obtain ⟨result, next, -, hsend, hends⟩ :=
      ends_one_way (t := .caller) hnew (hleads []) (fun h => by cases h) (.line "G0")
    have hresult : result = .error .notConnected := (congrArg Prod.fst hsend).symm
    subst hresult
    simp only [reduceCtorEq, Except.error.injEq, false_and, true_and, exists_false, false_or,
      or_false] at hends
    exact ⟨next, hsend, hends.2⟩
  · obtain ⟨result, next, -, hsend, hends⟩ := ends_one_way (t := .caller) hnew
      (hleads [.connect "COM3" 9600]) (fun h => by cases h) (.line "G0")
    have hresult : result = .ok () := (congrArg Prod.fst hsend).symm
    subst hresult
    simp only [reduceCtorEq, false_and, true_and, exists_false, or_false] at hends
    exact ⟨next, hsend, hends.2⟩
  · obtain ⟨result, next, -, hsend, hends⟩ := ends_one_way (t := .caller) hnew
      (hleads [.connect "COM3" 9600, .send "G0"]) (fun h => by cases h) (.line "G1")
    have hresult : result = .error (.io Link.noProgressText) := (congrArg Prod.fst hsend).symm
    subst hresult
    simp only [reduceCtorEq, Except.error.injEq, LinkError.io.injEq, false_and, false_or,
      exists_eq_left'] at hends
    exact ⟨next, hsend, hends.2⟩

end Parcel

end Session

end GcodeSender
