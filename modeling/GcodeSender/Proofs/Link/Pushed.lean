import GcodeSender.Proofs.Machine.Pushed
import GcodeSender.Proofs.Session.Reports

/-!
# `GcodeSender.Proofs.Link.Pushed`: what the reader does with a line

A line that the reader has received is reported, and then it is one of three things: a status
report, which the link remembers; another line that a controller pushes unasked; or an answer,
which is offered to the slot. `Session.Says` says that the reader reports something and nothing
else happens; every line is handled by a change of the link that is named here and by what the
reader says.

* `report?`: the status report that a line is read as. `Link.remember`: what the link makes
  of it.
* `says_handleReport`, `says_handleAnswer`: the two kinds of lines that change anything.
* `handleReport_reaction`: the observer may disconnect from within the reader's call, when it
  is told of the status. The disconnect comes between two reports.
* `pushed_lines_answer_nothing`: the three kinds together.
-/

set_option autoImplicit false

namespace GcodeSender

/-- The link remembers what a status report says, if there is one. A report without a position
leaves the last one. -/
def Link.remember (l : Link) : Option Machine.StatusReport → Link
  | some r => { l with status := some r.status, position := r.workPosition.or l.position }
  | none => l

namespace Session

/-- The status report that a line is read as, if it is one. -/
def report? (bytes : List UInt8) : Option Machine.StatusReport :=
  match Text.decode bytes with
  | .ok cs => Machine.StatusReport.ofLine? (String.ofList (Text.trim cs))
  | .error _ => none

/-- A line that a controller pushes unasked, or that cannot be decoded. -/
def IsPushedLine (bytes : List UInt8) : Prop :=
  match Text.decode bytes with
  | .ok cs => Machine.IsPushed (Text.trim cs)
  | .error _ => True

/-! ### What the reader says -/

/-- The reader reports something, and nothing else happens. -/
def Says (s s' : Session) : Prop :=
  ∃ entries : List Entry, (∀ e ∈ entries, e.thread = .reader) ∧
    s' = { s with journal := s.journal ++ entries }

namespace Says

variable {s s' s'' : Session}

/-- To say nothing is to say no more than that. -/
theorem refl (s : Session) : Says s s := ⟨[], by simp, by simp⟩

/-- What is said is said in addition. -/
theorem trans (h : Says s s') (h' : Says s' s'') : Says s s'' := by
  obtain ⟨entries, hreader, rfl⟩ := h
  obtain ⟨more, hmore, rfl⟩ := h'
  refine ⟨entries ++ more, fun e he => ?_, by simp⟩
  rcases List.mem_append.mp he with he | he
  · exact hreader e he
  · exact hmore e he

/-- A line in the log is something that the reader says. -/
theorem log (s : Session) (level : Log.Level) (message : String) :
    Says s (s.log .reader level message) := ⟨_, by simp, rfl⟩

/-- An event is, too. -/
theorem emit (s : Session) (e : Event) : Says s (s.emit .reader e) := ⟨_, by simp, rfl⟩

/-- What the reader has said before does not matter to what the link makes of a line. -/
theorem withLink (h : Says s s') (f : Link → Link) :
    Says { s with link := f s.link } { s' with link := f s'.link } := by
  obtain ⟨entries, hreader, rfl⟩ := h
  exact ⟨entries, hreader, rfl⟩

end Says

/-! ### Status reports -/

/-- The bad fields of a report are only reported. -/
theorem says_foldl_reportFieldError (errors : List Machine.FieldError) (s : Session) :
    Says s (errors.foldl reportFieldError s) := by
  induction errors generalizing s with
  | nil => exact .refl s
  | cons e errors ih => exact ((Says.log s _ _).trans (.emit _ _)).trans (ih _)

/-- What the reader does about a report after its status is told. -/
def tellRest (s : Session) (r : Machine.StatusReport) : Session :=
  r.fieldErrors.foldl reportFieldError
    (match r.workPosition with
      | some p => s.emit .reader (.position p)
      | none => s)

/-- What a report holds besides its status is only said. -/
theorem says_tellRest (s : Session) (r : Machine.StatusReport) : Says s (s.tellRest r) := by
  refine Says.trans ?_ (says_foldl_reportFieldError r.fieldErrors _)
  cases r.workPosition with
  | some p => exact .emit s (.position p)
  | none => exact .refl s

/-- A report is remembered before anything is told of it. -/
theorem handleReport_eq (s : Session) (r : Machine.StatusReport) :
    s.handleReport r = (({ s with link := s.link.remember (some r) } :
      Session).reportStatus .reader r.state r.raw).tellRest r := rfl

/-- Where the observer does not react to it, a report is only remembered. -/
theorem says_handleReport {s : Session} {r : Machine.StatusReport}
    (h : .disconnectOn r.state ∉ s.rules) :
    Says { s with link := s.link.remember (some r) } (s.handleReport r) := by
  have hnone : s.rules.contains (.disconnectOn r.state) = false := by simpa using h
  have hstatus : ({ s with link := s.link.remember (some r) } : Session).reportStatus .reader
      r.state r.raw = ({ s with link := s.link.remember (some r) } : Session).emit .reader
        (.status r.state r.raw) := by
    simp only [reportStatus, Session.emit, tell, hnone, Bool.false_eq_true, if_false]
  rw [handleReport_eq, hstatus]
  exact (Says.emit _ _).trans (says_tellRest _ r)

/-- An observer that reacts disconnects when it is told of the status, and is told the rest of
the report afterwards. -/
theorem handleReport_reaction {s : Session} {r : Machine.StatusReport}
    (h : .disconnectOn r.state ∈ s.rules) :
    ∃ told, Says { s with link := s.link.remember (some r)
                          rules := s.rules.erase (.disconnectOn r.state) } told ∧
      Says (told.teardown .reader) (s.handleReport r) := by
  have hreacts : s.rules.contains (.disconnectOn r.state) = true := by simpa using h
  have hstatus : ({ s with link := s.link.remember (some r) } : Session).reportStatus .reader
      r.state r.raw =
        (({ s with link := s.link.remember (some r)
                   rules := s.rules.erase (.disconnectOn r.state) } : Session).emit .reader
          (.status r.state r.raw)).teardown .reader := by
    simp only [reportStatus, Session.emit, tell, hreacts, if_true]
  refine ⟨_, .emit _ (.status r.state r.raw), ?_⟩
  rw [handleReport_eq, hstatus]
  exact says_tellRest _ r

/-! ### Lines -/

/-- An answer is offered to the slot. -/
theorem says_handleAnswer (s : Session) (line : String) :
    Says { s with link.slot := (s.link.slot.offer line).2 } (s.handleAnswer line) := by
  simp only [handleAnswer]
  split
  · exact .refl _
  · exact .log _ _ _

/-- A line is shown before anything else is made of it. -/
theorem says_shown (s : Session) (line : String) : Says s
    ((s.log .reader .trace ("GRBL: " ++ line)).emit .reader (.log ("GRBL: " ++ line))) :=
  (Says.log s _ _).trans (.emit _ _)

/-- A line that is no report is shown, and offered to the slot if it was not pushed. -/
theorem says_handleLine {s : Session} {bytes : List UInt8} (h : report? bytes = none) :
    (IsPushedLine bytes → Says s (s.handleLine bytes)) ∧
      (¬IsPushedLine bytes → ∃ cs, Text.decode bytes = .ok cs ∧
        Says { s with link.slot := (s.link.slot.offer (String.ofList (Text.trim cs))).2 }
          (s.handleLine bytes)) := by
  unfold report? at h
  unfold IsPushedLine handleLine
  cases hd : Text.decode bytes with
  | error fault =>
    exact ⟨fun _ => (Says.log s _ _).trans (.emit _ _), fun hnot => absurd trivial hnot⟩
  | ok cs =>
    simp only [hd] at h
    by_cases hblank : Text.trim cs = []
    -- a blank line is pushed, and nothing is made of it
    · simp only [hblank, if_true]
      exact ⟨fun _ => .refl s, fun hnot => absurd .blank hnot⟩
    · have hanswer := isAnswer_iff (String.ofList (Text.trim cs))
      rw [String.toList_ofList, Text.trim_trim] at hanswer
      simp only [hblank, if_false, handleText, h]
      have hshown := says_shown s (String.ofList (Text.trim cs))
      -- the line that is shown is trimmed already
      refine ⟨fun hpushed => ?_, fun hnot => ⟨cs, rfl, ?_⟩⟩
      · rw [if_neg fun hyes => hanswer.mp hyes hpushed]
        exact hshown
      · rw [if_pos (hanswer.mpr hnot)]
        exact (hshown.withLink fun l =>
          { l with slot := (l.slot.offer (String.ofList (Text.trim cs))).2 }).trans
          (says_handleAnswer _ _)

/-- A line that is read as a report is shown before. -/
theorem handleLine_of_report {s : Session} {bytes : List UInt8} {r : Machine.StatusReport}
    (h : report? bytes = some r) :
    ∃ shown, Says s shown ∧ s.handleLine bytes = shown.handleReport r := by
  unfold report? at h
  unfold handleLine
  cases hd : Text.decode bytes with
  | error fault => simp [hd] at h
  | ok cs =>
    simp only [hd] at h
    have hblank : Text.trim cs ≠ [] := by
      intro hblank
      rw [hblank] at h
      cases h
    simp only [hblank, if_false, handleText, h]
    exact ⟨_, says_shown s _, rfl⟩

end Session

end GcodeSender
