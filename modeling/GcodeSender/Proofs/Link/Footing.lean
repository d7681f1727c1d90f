import GcodeSender.Proofs.Link.Standing

/-!
# `GcodeSender.Proofs.Link.Footing`: the four views of a connection agree

The connection is taken down at three places, by the reader, by a thread that writes and
by the operator, and it can fail to come about at two more. After each of them the state,
the transport, the slot and the reader tell the same story again: that there is a
connection (`Standing.up`), that there is none (`Standing.down`), or that the last one
could not be made (`Standing.lost`). Only while a write hangs may the story be left open:
then the reader has found the transport broken and waits (`Standing.Broken`).

* `Shift`: what a turn other than opening a port can do to a standing.
* `Takes.shift`: every such turn does that.
* `Takes.footing`: so after every turn the link stands on one of the four footings.
-/

set_option autoImplicit false

namespace GcodeSender

namespace Link

/-- The state that a sign leaves, if it may be given in the present one. -/
def Sign.tell? : ConnectionState → Sign → Option ConnectionState
  | .disconnected, .connected | .faulted, .connected => some .connected
  | .disconnected, .failed | .faulted, .failed => some .faulted
  | .connected, .disconnected | .faulted, .disconnected => some .disconnected
  | state, .started | state, .stopped => some state
  | _, _ => none

/-- The state that signs lead to, read from first to last, if each may be given in turn. -/
def Sign.told? (state : ConnectionState) (signs : List Sign) : Option ConnectionState :=
  signs.foldlM Sign.tell? state

/-- Signs are read one after the other. -/
theorem Sign.told?_append (state : ConnectionState) (signs more : List Sign) :
    Sign.told? state (signs ++ more) = (Sign.told? state signs).bind (Sign.told? · more) :=
  List.foldlM_append

namespace Standing

/-! ### Readers -/

/-- A reader has started and not ended for each reader that is there. -/
def Balanced (x : Standing) : Prop :=
  x.signs.count .started = x.signs.count .stopped + x.reader.isSome.toNat

namespace Balanced

variable {x : Standing}

/-- No reader comes or goes where the state changes. -/
theorem become (h : x.Balanced) (next : ConnectionState) : (x.become next).Balanced := by
  unfold Standing.become
  split
  · exact h
  · simpa [Balanced, give] using h

/-- None comes or goes where the end of a connection is reported. -/
theorem becomeDisconnected (h : x.Balanced) : x.becomeDisconnected.Balanced := by
  unfold Standing.becomeDisconnected
  split
  · exact h.become _
  · simpa [Balanced, give] using h.become .disconnected

/-- A reader that ends says so. -/
theorem endReader (h : x.Balanced) (hsome : x.reader.isSome = true) : x.endReader.Balanced := by
  simp only [Balanced, hsome, Bool.toNat_true] at h
  simp [Balanced, Standing.endReader, give, h]

/-- One that is stopped ends, or will. -/
theorem stopReader (h : x.Balanced) (self : Bool) : (x.stopReader self).Balanced := by
  unfold Standing.stopReader
  cases hr : x.reader with
  | none => exact h
  | some w =>
    simp only []
    split
    · exact h
    · split
      · simpa [Balanced, hr] using h
      · exact h.endReader (by rw [hr]; rfl)

/-- To take the connection down keeps the count of readers. -/
theorem teardown (h : x.Balanced) (self : Bool) : (x.teardown self).Balanced :=
  becomeDisconnected (x := (x.stopReader self).shut) (h.stopReader self)

/-- A reader that ends because it was told to is no longer counted. -/
theorem endIfStopping (h : x.Balanced) : x.endIfStopping.Balanced := by
  unfold Standing.endIfStopping
  cases hr : x.reader with
  | none => exact h
  | some w =>
    simp only []
    split
    · exact h.endReader (by rw [hr]; rfl)
    · exact h

/-- A reader that is still to take the connection down is counted. -/
theorem markClosing (h : x.Balanced) : x.markClosing.Balanced := by
  simpa [Balanced, Standing.markClosing] using h

end Balanced

/-- There is a connection. -/
def up (signs : List Sign) : Standing := ⟨.connected, true, false, some ⟨false, false⟩, signs⟩

/-- There is no connection. -/
def down (signs : List Sign) : Standing := ⟨.disconnected, false, true, none, signs⟩

/-- There is no connection, because it could not be made. -/
def lost (signs : List Sign) : Standing := ⟨.faulted, false, true, none, signs⟩

/-- The reader has found the transport broken, and waits to take the connection down. -/
def Broken (x : Standing) : Prop :=
  (x.state = .faulted ∨ x.state = .disconnected) ∧ ∃ w, x.reader = some w ∧ w.closing = true

/-- The footings on which the link can stand, while a write hangs or while none does. -/
inductive Footing (hanging : Bool) (x : Standing) : Prop
  | up (h : x = .up x.signs)
  | down (h : x = .down x.signs)
  | lost (h : x = .lost x.signs) (hfree : hanging = false)
  | broken (h : x.Broken) (hhang : hanging = true)

/-- What a turn other than opening a port can do, while a write hangs or while none does,
and whether or not the observer disconnects when it is told of a fault. -/
inductive Shift (hanging : Bool) (hasty : Prop) (x : Standing) : Standing → Prop
  | stay : Shift hanging hasty x x
  /-- The connection ends, or the failure to make one is put aside, and the signs tell so. -/
  | ended (signs : List Sign) (htold : Sign.told? x.state signs = some .disconnected)
      (hreaders : x.Balanced → (down (x.signs ++ signs)).Balanced) :
      Shift hanging hasty x (down (x.signs ++ signs))
  /-- In the cases that are set apart, the connection ends, and nothing is said of how that
  is reported. -/
  | odd (signs : List Sign) (h : hanging = true ∨ hasty)
      (hreaders : x.Balanced → (down signs).Balanced) : Shift hanging hasty x (down signs)
  /-- While a write hangs, the connection waits to be taken down. -/
  | broken {y : Standing} (h : hanging = true) (hy : y.Broken)
      (hreaders : x.Balanced → y.Balanced) : Shift hanging hasty x y

/-- What is the same has not shifted. -/
theorem Shift.of_eq {hanging : Bool} {hasty : Prop} {x y : Standing} (h : y = x) :
    Shift hanging hasty x y := h ▸ .stay

/-! What the operations come to on each footing. -/

/-- A connection that is taken down from another thread ends its reader first. -/
theorem teardown_up (signs : List Sign) :
    (up signs).teardown false = down (signs ++ [.stopped, .disconnected]) := by
  simp [up, down, teardown, stopReader, endReader, shut, becomeDisconnected, become, give,
    ConnectionState.mayBecome]

/-- It makes no difference that it was found broken before. -/
theorem teardown_faulted_up (signs : List Sign) :
    ((up signs).become .faulted).teardown false = down (signs ++ [.stopped, .disconnected]) := by
  simp [up, down, teardown, stopReader, endReader, shut, becomeDisconnected, become, give,
    ConnectionState.mayBecome]

/-- A reader that nobody stops goes on. -/
theorem endIfStopping_up (signs : List Sign) : (up signs).endIfStopping = up signs := by
  simp [up, endIfStopping]

/-- Taken down by its own reader, a connection ends before the reader does. -/
theorem endIfStopping_teardown_up (signs : List Sign) :
    ((up signs).teardown true).endIfStopping = down (signs ++ [.disconnected, .stopped]) := by
  simp [up, down, teardown, stopReader, endReader, shut, becomeDisconnected, become, give,
    endIfStopping, ConnectionState.mayBecome]

/-- A reader that finds a fault reports the end of the connection and ends. -/
theorem fault_up (signs : List Sign) :
    ((up signs).become .faulted).shut.becomeDisconnected.endReader =
      down (signs ++ [.disconnected, .stopped]) := by
  simp [up, down, endReader, shut, becomeDisconnected, become, give, ConnectionState.mayBecome]

/-- While a write hangs, it waits to do so. -/
theorem broken_fault_up (signs : List Sign) : ((up signs).become .faulted).markClosing.Broken :=
  ⟨.inl rfl, ⟨false, true⟩, rfl, rfl⟩

/-- It does so even where the observer has taken the connection down already. -/
theorem broken_fault_teardown_up (signs : List Sign) :
    (((up signs).teardown true).become .faulted).markClosing.Broken :=
  ⟨.inl rfl, ⟨true, true⟩, rfl, rfl⟩

/-- Where there is no connection, none is taken down. -/
theorem teardown_down (signs : List Sign) : (down signs).teardown false = down signs := by
  simp [down, teardown, stopReader, shut, becomeDisconnected, become, ConnectionState.mayBecome]

/-- One that could not be made is put aside, which is reported as its end. -/
theorem teardown_lost (signs : List Sign) :
    (lost signs).teardown false = down (signs ++ [.disconnected]) := by
  simp [lost, down, teardown, stopReader, shut, becomeDisconnected, become, give,
    ConnectionState.mayBecome]

/-- Where there is no connection, one can be made. -/
theorem begin_down (signs : List Sign) :
    ((down signs).become .connecting).establish.beginReading =
      up (signs ++ [.started, .connected]) := by
  simp [up, down, establish, beginReading, become, give, ConnectionState.mayBecome]

/-- One can be made also where the last one could not be. -/
theorem begin_lost (signs : List Sign) :
    ((lost signs).become .connecting).establish.beginReading =
      up (signs ++ [.started, .connected]) := by
  simp [up, lost, establish, beginReading, become, give, ConnectionState.mayBecome]

/-- A call to connect fails in the same way before there is a connection and after. -/
theorem fail_down (signs : List Sign) :
    (((down signs).become .connecting).become .faulted).give .failed = lost (signs ++ [.failed]) ∧
      (((down signs).become .connecting).establish.shut.become .faulted).give .failed =
        lost (signs ++ [.failed]) := by
  simp [lost, down, establish, shut, become, give, ConnectionState.mayBecome]

/-- One that cannot be made, at its port or for want of a reader, leaves the link lost once more.
-/
theorem fail_lost (signs : List Sign) :
    (((lost signs).become .connecting).become .faulted).give .failed = lost (signs ++ [.failed]) ∧
      (((lost signs).become .connecting).establish.shut.become .faulted).give .failed =
        lost (signs ++ [.failed]) := by
  simp [lost, establish, shut, become, give, ConnectionState.mayBecome]

/-- Whatever the standing was, once the transport is dropped only the reader is left. -/
theorem becomeDisconnected_shut (x : Standing) :
    ∃ signs, x.shut.becomeDisconnected = { down signs with reader := x.reader } := by
  unfold becomeDisconnected become
  split <;> split <;> exact ⟨_, rfl⟩

/-- The reader is there until it ends itself. -/
theorem Balanced.closed {x : Standing} (h : x.Balanced) (hsome : x.reader.isSome = true) :
    x.shut.becomeDisconnected.endReader.Balanced := by
  refine (becomeDisconnected (x := x.shut) h).endReader ?_
  obtain ⟨signs, hshut⟩ := becomeDisconnected_shut x
  rw [hshut]
  exact hsome

/-- The reader takes the connection down and ends. -/
theorem down_of_closed (x : Standing) :
    ∃ signs, x.shut.becomeDisconnected.endReader = down signs := by
  obtain ⟨signs, h⟩ := becomeDisconnected_shut x
  exact ⟨signs ++ [.stopped], by rw [h]; rfl⟩

/-- Another thread takes the connection down, and the reader with it, unless the reader has
marked itself. -/
theorem down_of_teardown (x : Standing) (h : ∀ w, x.reader = some w → w.stopping = false) :
    ∃ signs, x.teardown false = down signs := by
  obtain ⟨signs, hsigns⟩ := becomeDisconnected_shut (x.stopReader false)
  have hgone : (x.stopReader false).reader = none := by
    unfold stopReader
    split
    · assumption
    · rename_i w hr
      rw [h w hr]
      rfl
  exact ⟨signs, by rw [teardown, hsigns, hgone]; rfl⟩

/-- A reader that has marked itself and waits is left waiting. -/
theorem down_or_broken_of_teardown {x : Standing} (h : x.Broken) :
    (∃ signs, x.teardown false = down signs) ∨ (x.teardown false).Broken := by
  obtain ⟨-, w, hw, hclosing⟩ := h
  -- a reader that was stopped already is not stopped again
  cases hstop : w.stopping with
  | false =>
    left
    refine x.down_of_teardown fun w' hw' => ?_
    obtain rfl : w = w' := Option.some.inj (hw.symm.trans hw')
    exact hstop
  | true =>
    right
    obtain ⟨signs, hsigns⟩ := becomeDisconnected_shut (x.stopReader false)
    have hleft : (x.stopReader false) = x := by
      simp only [stopReader, hw, hstop, if_true]
    rw [teardown, hsigns, hleft]
    exact ⟨.inr rfl, w, hw, hclosing⟩

/-- A connection that is taken down by another thread than its reader's ends, unless its reader
waits to end it. -/
theorem Footing.shift_teardown {hanging : Bool} {hasty : Prop} {x : Standing}
    (h : Footing hanging x) : Shift hanging hasty x (x.teardown false) := by
  have hreaders : x.Balanced → (x.teardown false).Balanced := fun hx => hx.teardown false
  -- one case for each way to stand; where it is up or lost, the signs say how it ended
  cases h with
  | up h =>
    rw [h, teardown_up] at hreaders ⊢
    exact .ended [.stopped, .disconnected] rfl hreaders
  | down h =>
    rw [h, teardown_down]
    exact .stay
  | lost h =>
    rw [h, teardown_lost] at hreaders ⊢
    exact .ended [.disconnected] rfl hreaders
  | broken h hhang =>
    rcases down_or_broken_of_teardown h with ⟨signs, h⟩ | h
    · rw [h] at hreaders ⊢
      exact .odd signs (.inl hhang) hreaders
    · exact .broken hhang h hreaders

/-- The state is not the reader's affair. -/
theorem reader_become (x : Standing) (next : ConnectionState) :
    (x.become next).reader = x.reader := by
  unfold become
  split <;> rfl

end Standing

end Link

/-! ### What a turn does -/

namespace Session

open GcodeSender.Link (Standing Sign)
open GcodeSender.Link.Standing (Footing Shift Broken)

/-- The observer disconnects when some thread tells it of a fault. -/
def IsHasty (s : Session) : Prop := ∃ t, .disconnectOn "Error" t ∈ s.rules

/-- An observer that does not leaves the standing as it is. -/
theorem Alarmed.of_calm {s : Session} {t : Thread} {x : Standing} (h : s.Alarmed t x)
    (hhasty : ¬s.IsHasty) : x = s.standing :=
  h.resolve_right fun hrule => hhasty ⟨t, hrule.1⟩

/-- What an observer does when it is told of a fault keeps the count of readers. -/
theorem Alarmed.balanced {s : Session} {t : Thread} {x : Standing} (h : s.Alarmed t x)
    (hs : s.standing.Balanced) : x.Balanced := by
  rcases h with rfl | ⟨-, rfl⟩
  · exact hs
  · exact hs.teardown _

/-- A reader that has not marked itself has not done so after another thread has told of a
fault. -/
theorem Alarmed.not_stopping {s : Session} {x : Standing} (h : s.Alarmed .streamer x)
    (hs : ∀ w, s.standing.reader = some w → w.stopping = false) :
    ∀ w, x.reader = some w → w.stopping = false := by
  rcases h with rfl | ⟨-, rfl⟩
  · exact hs
  · obtain ⟨signs, hdown⟩ := Standing.down_of_teardown _ hs
    rw [show decide (Thread.streamer = .reader) = false by decide, hdown]
    intro w hw
    cases hw

/-- Of the footings, only a connection is connected. -/
theorem up_of_connected {s : Session} (hfoot : s.standing.Footing s.isHanging)
    (h : s.link.state.isConnected = true) : s.standing = .up s.standing.signs := by
  have hstate : s.standing.state.isConnected = true := h
  cases hfoot with
  | up h => exact h
  | down h | lost h => rw [h] at hstate; cases hstate
  | broken h =>
    rcases h.1 with h | h <;> (rw [h] at hstate; cases hstate)

/-- A connection takes lines. -/
theorem canSend_of_up {s : Session} (h : s.standing = .up s.standing.signs) :
    s.link.canSend = true := by
  have hopen : s.standing.isOpen = true := by rw [h]; rfl
  have hstate : s.standing.state = .connected := by rw [h]; rfl
  rw [Link.canSend, show s.link.isOpen = true from hopen,
    show s.link.state = .connected from hstate]
  rfl

/-- A reader that reads does so on a connection. -/
theorem up_of_reader {s : Session} (hfoot : s.standing.Footing s.isHanging) {r : Link.Reader}
    (h : s.link.reader = some r) (hclosing : r.closing = false) :
    s.standing = .up s.standing.signs := by
  have hreader : s.standing.reader = some r.watch := by simp [standing, h]
  cases hfoot with
  | up h => exact h
  | down h | lost h => rw [h] at hreader; cases hreader
  | broken h =>
    obtain ⟨w, hw, hclose⟩ := h.2
    obtain rfl : r.watch = w := Option.some.inj (hreader.symm.trans hw)
    rw [show r.watch.closing = r.closing from rfl, hclosing] at hclose
    cases hclose

/-- A write that fails ends the connection. If the observer has ended it before, the signs are
out of order. -/
theorem shift_of_write {s next : Session} {t : Thread} (ht : t ≠ .reader)
    (hfoot : s.standing.Footing s.isHanging)
    (h : next.standing = s.standing ∨ s.link.canSend = true ∧ ∃ x, s.Alarmed t x ∧
      next.standing = (x.become .faulted).teardown (t = .reader)) :
    Shift s.isHanging s.IsHasty s.standing next.standing := by
  rcases h with h | ⟨hon, x, hx, h⟩
  · exact .of_eq h
  · -- lines are taken only on a connection
    have hup := up_of_connected hfoot (Bool.and_eq_true_iff.mp hon).2
    have hreaders : s.standing.Balanced → ((x.become .faulted).teardown false).Balanced :=
      fun hs => ((hx.balanced hs).become .faulted).teardown false
    rw [show decide (t = .reader) = false by simpa using ht] at h
    rw [h]
    rcases hx with rfl | ⟨hrule, rfl⟩
    · generalize s.standing = x at hup hreaders ⊢
      rw [hup, Standing.teardown_faulted_up] at hreaders ⊢
      exact .ended [.stopped, .disconnected] rfl hreaders
    · rw [show decide (t = .reader) = false by simpa using ht, hup,
        Standing.teardown_up] at hreaders ⊢
      obtain ⟨signs, hdown⟩ := Standing.down_of_teardown
        ((Standing.down (s.standing.signs ++ [.stopped, .disconnected])).become .faulted)
        (by simp [Standing.reader_become, Standing.down])
      rw [hdown] at hreaders ⊢
      exact .odd signs (.inr ⟨t, hrule⟩) (hup ▸ hreaders)

/-- A line leaves the connection as it is, or the observer ends it. -/
theorem shift_of_completeLine {s : Session} {r : Link.Reader} (h : s.link.reader = some r)
    (hup : s.standing = .up s.standing.signs) (chunk : List UInt8) :
    Shift s.isHanging s.IsHasty s.standing (s.completeLine r chunk).standing := by
  rcases standing_completeLine h chunk with hline | hline
  · rw [hline, hup, Standing.endIfStopping_up]
    exact .stay
  · rw [hline, hup, Standing.endIfStopping_teardown_up]
    refine .ended [.disconnected, .stopped] rfl fun hreaders => ?_
    exact Standing.endIfStopping_teardown_up _ ▸ (hreaders.teardown true).endIfStopping

/-- A read that fails ends the connection, at once or when the write that hangs returns. -/
theorem shift_of_fault {s : Session} (hup : s.standing = .up s.standing.signs)
    (reason : String) : Shift s.isHanging s.IsHasty s.standing (s.fault reason).standing := by
  obtain ⟨x, hx, hfault⟩ := standing_fault s reason
  rw [hfault]
  have hreaders : s.standing.Balanced → (x.become .faulted).Balanced :=
    fun h => (hx.balanced h).become .faulted
  rw [Alarmed, hup] at hx
  split
  · rename_i hhang
    refine .broken hhang ?_ fun h => (hreaders h).markClosing
    rcases hx with rfl | ⟨-, rfl⟩
    · exact Standing.broken_fault_up _
    · exact Standing.broken_fault_teardown_up _
  · rw [hup] at hreaders ⊢
    have hsome : (x.become .faulted).reader.isSome = true := by
      rcases hx with rfl | ⟨-, rfl⟩ <;> rfl
    have hclosed := fun h => (hreaders h).closed hsome
    rcases hx with rfl | ⟨hrule, -⟩
    · rw [Standing.fault_up] at hclosed ⊢
      exact .ended [.disconnected, .stopped] rfl hclosed
    · -- the observer has taken the connection down before, so the signs are out of order
      obtain ⟨signs, hdown⟩ := Standing.down_of_closed (x.become .faulted)
      rw [hdown] at hclosed ⊢
      exact .odd signs (.inr ⟨.reader, hrule⟩) hclosed

/-- What comes of one read on a connection. -/
theorem shift_of_readItem {s : Session} {r : Link.Reader} (h : s.link.reader = some r)
    (hup : s.standing = .up s.standing.signs) (item : Bench.Item) :
    Shift s.isHanging s.IsHasty s.standing (s.readItem r item).standing := by
  generalize hread : s.readItem r item = next
  cases reads_readItem hread with
  -- only a line at its end or a fault shifts anything, the line by what the observer does
  | nothing => exact .stay
  | mark => exact .of_eq (standing_withReader s h rfl)
  | line chunk => exact shift_of_completeLine h hup chunk
  | fault reason => exact shift_of_fault hup reason

/-- So does a write that is let go. -/
theorem balanced_letGoJob {s : Session} (i : Nat) (h : s.standing.Balanced) :
    (s.letGoJob i).standing.Balanced := by
  rcases s.letGoJob_cases i with ⟨-, hsame⟩ | ⟨line, rest, -, free, -, hfree, hletGo⟩
  · rwa [hsame]
  -- the connection that is lost may be taken down before the write returns
  · have hbefore : free.standing.Balanced := by
      rcases hfree with ⟨rfl, -⟩ | ⟨rfl, r, hr, -⟩
      · exact h
      · rw [standing_closeAfterFault]
        exact Standing.Balanced.closed h (by simp [standing, hr])
    rw [hletGo, standing_jobWritten]
    rcases standing_afterDelivery free .streamer line (s.device.letGo rest).1 with
      hafter | ⟨x, hx, hafter⟩
    · rwa [hafter]
    · rw [hafter]
      exact ((hx.balanced hbefore).become .faulted).teardown _

/-- A write that is let go leaves a connection, or none. A connection that was found broken
is taken down before the write returns. -/
theorem standing_letGoJob {s : Session} (hfoot : s.standing.Footing s.isHanging) (i : Nat) :
    s.letGoJob i = s ∨ s.isHanging = true ∧
      ((s.letGoJob i).standing = .up s.standing.signs ∧ s.standing = .up s.standing.signs ∨
        ∃ signs, (s.letGoJob i).standing = .down signs) := by
  have hdelivered : ∀ (free : Session) (line : String) (delivery : Bench.Delivery) (j : Job),
      (∀ w, free.standing.reader = some w → w.stopping = false) →
      ((free.afterDelivery .streamer line delivery).2.jobWritten i j line
          (free.afterDelivery .streamer line delivery).1).standing = free.standing ∨
        ∃ signs, ((free.afterDelivery .streamer line delivery).2.jobWritten i j line
          (free.afterDelivery .streamer line delivery).1).standing = .down signs := by
    intro free line delivery j hreader
    rw [standing_jobWritten]
    rcases standing_afterDelivery free .streamer line delivery with h | ⟨x, hx, h⟩
    · exact .inl h
    · rw [h]
      refine .inr (Standing.down_of_teardown _ fun w hw => ?_)
      rw [Standing.reader_become] at hw
      exact Alarmed.not_stopping hx hreader w hw
  rcases s.letGoJob_cases i with ⟨-, h⟩ | ⟨line, rest, hs, free, hjobs, hfree, h⟩
  · exact .inl h
  · right
    have hhang : s.isHanging = true := s.isHanging_iff.mpr ⟨i, by rw [Job.isHanging, hs]⟩
    -- before the delivery there is a connection as before, or none any more
    have hbefore : (free.standing = .up s.standing.signs ∧ s.standing = .up s.standing.signs) ∨
        ∃ signs, free.standing = .down signs := by
      rcases hfree with ⟨rfl, hopen⟩ | ⟨rfl, -⟩
      · cases hfoot with
        | up hup => exact .inl ⟨hup, hup⟩
        | down hdown => exact .inr ⟨_, hdown⟩
        | lost _ hfree =>
          rw [hhang] at hfree
          cases hfree
        | broken hbroken =>
          obtain ⟨w, hw, hclosing⟩ := hbroken.2
          obtain ⟨r, hr, rfl⟩ := Option.map_eq_some_iff.mp hw
          rw [show r.watch.closing = r.closing from rfl, hopen r hr] at hclosing
          cases hclosing
      · rw [standing_closeAfterFault]
        exact .inr (Standing.down_of_closed _)
    have hreader : ∀ w, free.standing.reader = some w → w.stopping = false := by
      rcases hbefore with ⟨hup, -⟩ | ⟨signs, hdown⟩
      · rw [hup]
        rintro w ⟨rfl⟩
        rfl
      · rw [hdown]
        intro w hw
        cases hw
    refine ⟨hhang, ?_⟩
    rw [h]
    rcases hdelivered free line (s.device.letGo rest).1 _ hreader with hsame | hdown
    · rw [hsame]
      exact hbefore
    · exact .inr hdown

/-- Without a transport nothing can be sent. -/
theorem canSend_of_not_isOpen {s : Session} (h : s.standing.isOpen = false) :
    s.link.canSend = false := by
  rw [Link.canSend, show s.link.isOpen = false from h]
  rfl

namespace Takes

variable {s next : Session} {t : Turn}

/-- Every turn but the opening of a port shifts the standing in one of three ways. -/
theorem shift (h : s.Takes t next) (hfoot : s.standing.Footing s.isHanging)
    (hopens : t.opens = false) : Shift s.isHanging s.IsHasty s.standing next.standing := by
  cases h with
  | job h => exact shift_of_write (t := .streamer) (by decide) hfoot (standing_advance? h)
  | @read item rest _ hrest hitem h =>
    obtain ⟨r, hr, hclosing, rfl⟩ := read?_cases hitem h
    exact shift_of_readItem (s := { s with device.inbound := leftOver item ++ rest }) hr
      (up_of_reader hfoot hr hclosing) item
  | idle => exact .of_eq (standing_timeOut s)
  | letGo i =>
    -- a write that is let go may find the connection gone, and then what comes of it is odd
    rcases standing_letGoJob hfoot i with h | ⟨hhang, ⟨h, hup⟩ | ⟨signs, hdown⟩⟩
    · exact .of_eq (by rw [h])
    · exact .of_eq (h.trans hup.symm)
    · have hreaders := balanced_letGoJob (s := s) i
      rw [hdown] at hreaders ⊢
      exact .odd signs (.inl hhang) hreaders
  | @launch i name p =>
    exact .of_eq ((standing_launch _ .caller i name p).trans (standing_claim s))
  | abandon i reason => exact .of_eq (standing_abandonStart s .caller i reason)
  | refuse e => exact .of_eq (standing_refuseStart s .caller e)
  | pause i => exact .of_eq (standing_pauseFrom s .caller i)
  | resume hrest i => exact .of_eq (standing_resume s .caller i)
  | stop hrest i => exact .of_eq (standing_requestStop s .caller i)
  | overdue ms =>
    exact .of_eq (standing_tell_of_none
      (Note.sign?_record_of_origin (show Log.Origin.streamer ≠ .link by decide)) s .caller)
  | sendLine hrest line =>
    exact shift_of_write (t := .caller) (by decide) hfoot
      (standing_write s .caller (wireLine line) line true)
  | sendRealtime c =>
    exact shift_of_write (t := .caller) (by decide) hfoot
      (standing_write s .caller [c.byte] c.display false)
  | disconnect =>
    -- the caller is not the reader, which is therefore waited for
    have hdown := standing_teardown s .caller
    rw [show decide (Thread.caller = .reader) = false by decide] at hdown
    rw [Session.disconnect, hdown]
    exact hfoot.shift_teardown
  | opening => cases hopens
  | stay port =>
    exact .of_eq (standing_log s .caller .debug (c := 'A') (by decide) (by decide) port)
  | listPorts => exact .of_eq (standing_listPorts s .caller)
  | meddle slot claimed hclosed =>
    refine .of_eq ?_
    simp only [standing, hclosed]
  | spawn | sends | device | arm => exact .stay

/-- A port that is opened leaves a connection, or the failure to make one, and the signs tell
so. -/
theorem opened (h : s.Takes .opening next) (hfoot : s.standing.Footing s.isHanging) :
    next.isHanging = false ∧ (s.standing.Balanced → next.standing.Balanced) ∧
      ∃ signs, Sign.told? s.standing.state signs = some next.standing.state ∧
        (next.standing = .up (s.standing.signs ++ signs) ∨
          next.standing = .lost (s.standing.signs ++ signs)) := by
  cases h with
  | opening hrest hfree hgone port baud =>
    refine ⟨by rw [Session.isHanging, jobs_openPort]; exact hfree, ?_⟩
    have hopen := standing_openPort s .caller port baud
    -- without a reader there is no connection
    have hoff : s.standing = .down s.standing.signs ∨ s.standing = .lost s.standing.signs := by
      have hreader : s.standing.reader = none := by simp [standing, hgone]
      cases hfoot with
      | up h =>
        rw [h] at hreader
        cases hreader
      | down h => exact .inl h
      | lost h => exact .inr h
      | broken h =>
        obtain ⟨w, hw, -⟩ := h.2
        rw [hreader] at hw
        cases hw
    generalize s.standing = x at hoff hopen ⊢
    generalize (s.openPort .caller port baud).2.standing = y at hopen ⊢
    rcases hoff with hx | hx
    · rw [hx, Standing.begin_down, (Standing.fail_down _).1, (Standing.fail_down _).2,
        or_self] at hopen
      rw [hx]
      rcases hopen with rfl | ⟨-, rfl⟩
      · exact ⟨fun h => by simpa [Standing.Balanced, Standing.up, Standing.down] using h,
          [.started, .connected], rfl, .inl rfl⟩
      · exact ⟨fun h => by simpa [Standing.Balanced, Standing.lost, Standing.down] using h,
          [.failed], rfl, .inr rfl⟩
    · rw [hx, Standing.begin_lost, (Standing.fail_lost _).1, (Standing.fail_lost _).2,
        or_self] at hopen
      rw [hx]
      rcases hopen with rfl | ⟨-, rfl⟩
      · exact ⟨fun h => by simpa [Standing.Balanced, Standing.up, Standing.lost] using h,
          [.started, .connected], rfl, .inl rfl⟩
      · exact ⟨fun h => by simpa [Standing.Balanced, Standing.lost] using h,
          [.failed], rfl, .inr rfl⟩

/-- After every turn the link stands on one of the footings again. -/
theorem footing (h : s.Takes t next) (hfoot : s.standing.Footing s.isHanging) :
    next.standing.Footing next.isHanging := by
  -- a write that hangs goes on hanging where the reader goes on waiting for it
  have hbroken : s.isHanging = true → next.standing.Broken →
      next.standing.Footing next.isHanging := by
    intro hhang hy
    by_cases hletGo : ∃ i, t = .letGo i
    · obtain ⟨i, rfl⟩ := hletGo
      cases h with
      | letGo i =>
        rcases standing_letGoJob hfoot i with h | ⟨-, ⟨h, -⟩ | ⟨signs, h⟩⟩
        · rwa [h]
        · exact .up (by rw [h]; rfl)
        · exact .down (by rw [h]; rfl)
    · obtain ⟨i, hi⟩ := s.isHanging_iff.mp hhang
      have hnext : (next.job i).isHanging = true := h.isHanging hi fun hi => hletGo ⟨i, hi⟩
      exact .broken hy (next.isHanging_iff.mpr ⟨i, hnext⟩)
  cases hopens : t.opens with
  | true =>
    cases t with
    | opening =>
      obtain ⟨hfree, -, signs, -, hup | hlost⟩ := h.opened hfoot
      · exact .up (by rw [hup]; rfl)
      · exact .lost (by rw [hlost]; rfl) hfree
    | _ => cases hopens
  | false =>
    have hshift := h.shift hfoot hopens
    generalize hy : next.standing = y at hshift hbroken ⊢
    cases hshift with
    | stay =>
      cases hfoot with
      | up hup => exact .up hup
      | down hdown => exact .down hdown
      | lost hlost hfree =>
        have hoff : s.link.canSend = false := canSend_of_not_isOpen (by rw [hlost]; rfl)
        exact .lost hlost (h.not_hanging hopens hoff hfree)
      | broken hb hhang => exact hbroken hhang hb
    | ended signs => exact .down rfl
    | odd signs => exact .down rfl
    | broken hhang hb => exact hbroken hhang hb

end Takes

/-! ### Steps are runs of turns -/

/-- The turns that a step can lead to. Whatever the step, the threads run after it. -/
def Step.turns (step : Step) (t : Turn) : Bool :=
  t.isRunning ||
    match step, t with
    | .letGo, .letGo _ => true
    | .letGo, _ => false
    | .start i _ _, .launch k => k = i
    | .arm rule, .arm given => given = rule
    | .connect _ _, .opening | .within _ _ _ _, .opening => true
    | .deviceChanges _, .device => true
    | _, .operator => true
    | _, _ => false

/-- Threads run in every step. -/
theorem Step.turns_of_isRunning (step : Step) (t : Turn) (h : t.isRunning = true) :
    step.turns t = true := by simp [turns, h]

/-- The link stands on one of its footings. -/
def Stands (s : Session) : Prop := s.standing.Footing s.isHanging

/-- However turns lead on, the link stands on one of its footings. -/
theorem Leads.stands {K : Turn → Bool} {s last : Session} (h : Leads K s last) (hs : s.Stands) :
    last.Stands :=
  h.invariant hs fun _ _ _ htakes _ => htakes.footing

/-- The connection is down and no write hangs: this stays so until a port is opened. -/
theorem Leads.down {s last : Session} (h : Leads Turn.isRunning s last)
    (hs : (∃ signs, s.standing = .down signs) ∧ s.isHanging = false) :
    (∃ signs, last.standing = .down signs) ∧ last.isHanging = false := by
  refine h.invariant
    (P := fun s => (∃ signs, s.standing = .down signs) ∧ s.isHanging = false) hs ?_
  rintro s next t htakes hrun ⟨⟨signs, hdown⟩, hfree⟩
  have hopens := Turn.not_opens_of_isRunning hrun
  have hfoot : s.standing.Footing s.isHanging := .down (by rw [hdown]; rfl)
  have hoff : s.link.canSend = false := canSend_of_not_isOpen (by rw [hdown]; rfl)
  refine ⟨?_, htakes.not_hanging hopens hoff hfree⟩
  -- to break down, a connection would have to stand or a write to hang
  have hshift := htakes.shift hfoot hopens
  rw [hdown] at hshift
  generalize next.standing = y at hshift ⊢
  cases hshift with
  | stay => exact ⟨signs, rfl⟩
  | ended signs => exact ⟨_, rfl⟩
  | odd signs => exact ⟨signs, rfl⟩
  | broken hhang =>
    rw [hfree] at hhang
    cases hhang

/-- Where the link is not connected and no write hangs, there is no reader. -/
theorem reader_of_not_connected {s : Session} (hs : s.Stands) (hfree : s.isHanging = false)
    (hoff : s.link.state.isConnected = false) : s.link.reader = none := by
  have hreader : s.standing.reader = none := by
    cases hs with
    | up h =>
      have hstate : s.standing.state = .connected := by rw [h]; rfl
      rw [show s.link.state = .connected from hstate] at hoff
      cases hoff
    | down h | lost h => rw [h]; rfl
    | broken h hhang =>
      rw [hfree] at hhang
      cases hhang
  simpa [standing] using hreader

/-- A call to connect that is not held up by a write finds that there is nothing to do, or opens
a port, after the connection that is in its way is taken down. -/
theorem connect_cases {s : Session} (h : s.core.Calm) (hs : s.Stands) (port : String)
    (baud : UInt32)
    (hfree : s.isHanging = false ∨ (s.link.state.isConnected = true ∧ s.link.port = some port)) :
    ((s.link.state.isConnected = true ∧ s.link.port = some port) ∧
        s.connect .caller port baud =
          (.ok (), s.log .caller .debug ("Already connected to " ++ port))) ∨
      ∃ off : Session, LeadsFairly Step.disconnect.turns s off ∧ off.core.AtRest ∧
        off.isHanging = false ∧ off.link.reader = none ∧
        s.connect .caller port baud = off.openPort .caller port baud := by
  unfold connect
  cases hoff : s.link.state.isConnected with
  | false =>
    -- no write hangs here, since only one on this very port could be left to itself
    have hfree' : s.isHanging = false := hfree.elim id fun h => by rw [hoff] at h; cases h.1
    have hgone := reader_of_not_connected hs hfree' hoff
    have hstop : s.stopReader .caller = s := by
      unfold stopReader
      rw [hgone]
    simp only [Bool.false_eq_true, if_false, hstop]
    exact .inr ⟨s, LeadsFairly.refl _ s, h.rest, hfree', hgone, rfl⟩
  | true =>
    simp only [if_true]
    split
    · rename_i hport
      exact .inl ⟨⟨trivial, hport⟩, rfl⟩
    · rename_i hport
      have hfree' : s.isHanging = false := hfree.elim id fun h => absurd h.2 hport
      have hdown := LeadsFairly.turn (K := Step.disconnect.turns) (.disconnect s) rfl
      have hsettled := settle_leads (s.teardown .caller)
      have hstanding : (∃ signs, (s.teardown .caller).standing = .down signs) ∧
          (s.teardown .caller).isHanging = false := by
        have hjobs : (s.teardown .caller).jobs = s.jobs := congrArg Core.jobs (core_teardown s _)
        refine ⟨?_, by rw [isHanging, hjobs]; exact hfree'⟩
        rw [standing_teardown, up_of_connected hs hoff]
        exact ⟨_, Standing.teardown_up _⟩
      -- the teardown leaves the connection down, and the threads keep it so
      obtain ⟨⟨signs, hlast⟩, hlastfree⟩ := hsettled.down hstanding
      have hgone : (s.teardown .caller).settle.link.reader = none := by
        have hreader : (s.teardown .caller).settle.standing.reader = none := by rw [hlast]; rfl
        simpa [standing] using hreader
      have hgoes : s.core.Goes Act.isRunning (s.teardown .caller).core :=
        teardown_goes s .caller rfl
      have hrest := (settle_goes (hgoes.sound h.sound)).2
      exact .inr ⟨_, hdown.trans (hsettled.fairly.mono (Step.turns_of_isRunning _)), hrest,
        hlastfree, hgone, rfl⟩

/-- So it is a run of fair turns. -/
theorem connect_leads {s : Session} (h : s.core.Calm) (hs : s.Stands) (port : String)
    (baud : UInt32)
    (hfree : s.isHanging = false ∨ (s.link.state.isConnected = true ∧ s.link.port = some port)) :
    LeadsFairly (Step.connect port baud).turns s (s.connect .caller port baud).2 := by
  rcases connect_cases h hs port baud hfree with
    ⟨-, hstay⟩ | ⟨off, hoff, hrest, hfree', hgone, hopen⟩
  · rw [hstay]
    exact LeadsFairly.turn (.stay s port) rfl
  · rw [hopen]
    have hdown := hoff.mono (L := (Step.connect port baud).turns) fun t ht => by
      cases t with
      | opening => rfl
      | _ => exact ht
    exact hdown.trans (LeadsFairly.turn (.opening hrest hfree' hgone port baud) rfl)

/-- Lines are sent in turns of the operator, between which the threads run to rest. -/
theorem sendEach_leads (lines : List String) (s : Session) (h : s.core.Calm) {K : Turn → Bool}
    (hK : ∀ t, t.isRunning = true ∨ t = .operator → K t = true) :
    LeadsFairly K s (s.sendEach .caller lines).2 := by
  induction lines generalizing s with
  | nil => exact LeadsFairly.refl _ s
  -- on the lines: the threads are at rest after each
  | cons line rest ih =>
    have hsend := LeadsFairly.turn (K := K) (.sendLine h.rest line) (hK _ (.inr rfl))
    have hsettled := hsend.trans ((settle_leads (s.sendLine .caller line).2).fairly.mono
      fun t ht => hK t (.inl ht))
    have hgoes := sendLine_goes s (t := .caller) nofun line h.rest
    obtain ⟨hsettle, hrest⟩ := settle_goes (hgoes.sound h.sound)
    have hcalm : (s.sendLine .caller line).2.settle.core.Calm :=
      ⟨hrest, hsettle.sound (hgoes.sound h.sound)⟩
    simp only [sendEach]
    split
    · rename_i hsent
      rw [hsent] at hsettled
      exact hsettled
    · rename_i hsent
      rw [hsent] at hsettled hcalm
      exact hsettled.trans (ih _ hcalm)

/-- A call within a managed connection is a call to connect, a call for each line, and the
disconnection that comes whatever the lines met with. -/
theorem within_leads {s : Session} (h : s.core.Calm) (hs : s.Stands) (hfree : s.isHanging = false)
    (port : String) (baud : UInt32) (lines : List String) (failure : Option LinkError) :
    LeadsFairly (Step.within port baud lines failure).turns s
      (s.act (.within port baud lines failure)).2 := by
  have hconnect := (connect_leads h hs port baud (.inl hfree)).mono
    (L := (Step.within port baud lines failure).turns) fun t ht => by cases t <;> exact ht
  have hopens := connect_opens s .caller port baud h
  have hdown : ∀ s' : Session, LeadsFairly (Step.within port baud lines failure).turns s'
      (s'.disconnect .caller) := fun s' => LeadsFairly.turn (.disconnect s') rfl
  have hsent : ∀ s' : Session, s'.core.Calm →
      LeadsFairly (Step.within port baud lines failure).turns s' (s'.sendEach .caller lines).2 := by
    intro s' hs'
    refine sendEach_leads lines s' hs' fun t ht => ?_
    rcases ht with ht | rfl
    · exact Step.turns_of_isRunning _ t ht
    · rfl
  simp only [act, within]
  split
  · rename_i e s' hc
    rw [hc] at hconnect
    exact hconnect.trans (hdown s')
  · rename_i s' hc
    rw [hc] at hconnect hopens
    refine (hconnect.trans ?_).trans (hdown _)
    -- whatever comes of the lines, the disconnection follows
    have hlines := hsent s' ⟨hopens.rest rfl, hopens.goes.sound h.sound⟩
    split
    · rename_i hfail
      rw [hfail] at hlines
      exact hlines
    · rename_i hall
      rw [hall] at hlines
      split <;> exact hlines

/-- A job that is not refused is launched, and then it gets its thread or is given up. -/
theorem launched_leads_fairly {s : Session} {i : Nat} {name : String} {p : Program}
    (hi : i < s.jobs.length) (hrest : s.core.AtRest) (hfree : (s.job i).isHanging = false)
    (hallowed : (s.job i).refusal? p s.link.state.isConnected = none)
    (hunclaimed : s.link.claimed = false) {K : Turn → Bool} (hlaunch : K (.launch i) = true)
    (hcall : K .operator = true) : LeadsFairly K s
      ((({ s with link := s.link.claim.2 } : Session).launch .caller i name p).spawnJob
        .caller i).2 := by
  have hbegun : LeadsFairly K s
      (({ s with link := s.link.claim.2 } : Session).launch .caller i name p) :=
    LeadsFairly.turn (TakesFairly.launch hi hrest hfree hallowed hunclaimed) hlaunch
  -- the launch alone settles whose job it is; the thread is asked for after it
  have hcore := core_launch_of_claim s .caller (i := i) (p := p) hunclaimed name
  generalize ({ s with link := s.link.claim.2 } : Session).launch .caller i name p = begun
    at hbegun hcore ⊢
  have hspawned := hbegun.trans (LeadsFairly.turn (.spawn begun) hcall)
  rcases spawnJob_cases begun .caller i with hspawn | ⟨reason, hspawn⟩
  · rw [hspawn]
    exact hspawned
  · rw [hspawn]
    have hjob : begun.core.job i = Job.launch name p :=
      (congrArg (Core.job · i) hcore).trans
        (Core.next_job_self (possible_launched hi hrest hallowed hunclaimed name) rfl)
    have hclaimed : begun.core.claimed = true := congrArg Core.claimed hcore
    refine hspawned.trans (LeadsFairly.turn
      (TakesFairly.abandon (s := { begun with device := begun.device.spawn.2 }) ?_ hclaimed reason)
      hlaunch)
    show (Act.abandoned i).Fits (begun.core.job i)
    rw [hjob]
    simp [Act.Fits, Job.launch, Job.Snapshot.launch]

/-- Of a job that does not exist, only the claim is made and given back. -/
theorem launched_leads {s : Session} {i : Nat} {name : String} {p : Program}
    (hrest : s.core.AtRest) (hfree : (s.job i).isHanging = false)
    (hallowed : (s.job i).refusal? p s.link.state.isConnected = none)
    (hunclaimed : s.link.claimed = false) {K : Turn → Bool} (hlaunch : K (.launch i) = true)
    (hcall : K .operator = true) : Leads K s
      ((({ s with link := s.link.claim.2 } : Session).launch .caller i name p).spawnJob
        .caller i).2 := by
  by_cases hi : i < s.jobs.length
  · exact (launched_leads_fairly hi hrest hfree hallowed hunclaimed hlaunch hcall).leads
  -- there is no such job, so nothing of the jobs changes
  · have hbegun : Leads K s
        (({ s with link := s.link.claim.2 } : Session).launch .caller i name p) :=
      Leads.turn (.launch hrest hfree hallowed hunclaimed) hlaunch
    have hlength : (({ s with link := s.link.claim.2 } : Session).launch
        .caller i name p).jobs.length = s.jobs.length := by
      rw [launch, jobs_tellAll]
      exact List.length_set
    generalize ({ s with link := s.link.claim.2 } : Session).launch .caller i name p = begun
      at hbegun hlength ⊢
    have hspawned := hbegun.trans (Leads.turn (.spawn (s := begun)) hcall)
    rcases spawnJob_cases begun .caller i with hspawn | ⟨reason, hspawn⟩
    · rw [hspawn]
      exact hspawned
    · have hshort : begun.jobs.length ≤ i := by omega
      rw [hspawn, abandonStart, setJob, List.set_eq_of_length_le (by exact hshort)]
      exact (hspawned.trans (Leads.turn (.meddle _ false rfl) hcall)).trans
        (Leads.turn (.refuse _) hcall)

/-- A step that makes none of the calls for jobs is, before the threads come to rest, a run of
fair turns. -/
theorem act_leads_fairly {s : Session} (h : s.core.Calm) (hs : s.Stands) (step : Step)
    (hwaits : step.waits s = false) (hmild : step.meddles s.jobs.length = false) :
    LeadsFairly step.turns s (s.act step).2 := by
  cases step with
  | expect | takeResponse | cancelResponse | claim | release => cases hmild
  | connect port baud =>
    refine connect_leads h hs port baud ?_
    cases hfree : s.isHanging with
    | false => exact .inl rfl
    | true => simpa [Step.waits, hfree] using hwaits
  | disconnect => exact LeadsFairly.turn (.disconnect s) rfl
  | send line => exact LeadsFairly.turn (.sendLine h.rest line) rfl
  | realtime text =>
    simp only [act]
    split
    · exact LeadsFairly.turn (.sendRealtime s _) rfl
    · exact LeadsFairly.refl _ s
  | listPorts => exact LeadsFairly.turn (.listPorts s) rfl
  | within port baud lines failure =>
    have hfree : s.isHanging = false := by simpa [Step.waits] using hwaits
    exact within_leads h hs hfree port baud lines failure
  | deviceSends items => exact LeadsFairly.turn (.sends s items) rfl
  | deviceChanges change => exact LeadsFairly.turn (.device rfl) rfl
  | start i name p =>
    have hi : i < s.jobs.length := by simpa [Step.meddles] using hmild
    rcases start_cases s .caller i name p with ⟨e, hstart⟩ | ⟨hallowed, hunclaimed, hstart⟩
    · simp only [act, hstart]
      exact LeadsFairly.turn (.refuse s e) rfl
    · have hfree : (s.job i).isHanging = false := by
        simpa [Step.waits, hallowed] using hwaits
      simp only [act, hstart]
      exact launched_leads_fairly hi h.rest hfree hallowed hunclaimed (by simp [Step.turns]) rfl
  | pause i => exact LeadsFairly.turn (.pause s i) rfl
  | resume i => exact LeadsFairly.turn (.resume h.rest i) rfl
  | stop i => exact LeadsFairly.turn (.stop h.rest i) rfl
  | stopWithin i ms =>
    -- the thread has ended by then, or the wait is given up
    have hstop := (LeadsFairly.turn (K := (Step.stopWithin i ms).turns) (.stop h.rest i) rfl).trans
      ((settle_leads (s.requestStop .caller i)).fairly.mono (Step.turns_of_isRunning _))
    simp only [act, stopWithin]
    split
    · exact hstop.trans (LeadsFairly.turn (.overdue _ ms) rfl)
    · exact hstop
  | letGo =>
    have hfold : ∀ (l : List Nat) (s : Session),
        LeadsFairly Step.letGo.turns s (l.foldl letGoJob s) := by
      intro l
      induction l with
      | nil => exact fun s => LeadsFairly.refl _ s
      | cons i l ih => exact fun s => (LeadsFairly.turn (.letGo s i) rfl).trans (ih _)
    exact hfold _ s
  | await i => exact LeadsFairly.refl _ s
  | arm rule => exact LeadsFairly.turn (.arm s rule) (by simp [Step.turns])

/-- A step before the threads come to rest is a run of turns. -/
theorem act_leads {s : Session} (h : s.core.Calm) (hs : s.Stands) (step : Step)
    (hwaits : step.waits s = false) : Leads step.turns s (s.act step).2 := by
  -- the calls that are for jobs are turns as well, if not fair ones
  cases hmeddles : step.meddles s.jobs.length with
  | false => exact (act_leads_fairly h hs step hwaits hmeddles).leads
  | true =>
    cases step with
    | expect | cancelResponse | release => exact Leads.turn (.meddle _ _ rfl) rfl
    | takeResponse =>
      simp only [act]
      split
      · rename_i outcome slot hc
        have hclosed : slot.closed = s.link.slot.closed := by rw [(Link.Slot.check?_cases hc).1]
        exact Leads.turn (.meddle slot s.link.claimed hclosed) rfl
      · exact Leads.refl _ s
    | claim =>
      simp only [act, Link.claim]
      split
      · exact Leads.refl _ s
      · exact Leads.turn (.meddle s.link.slot.resetCancel true rfl) rfl
    | start i name p =>
      rcases start_cases s .caller i name p with ⟨e, hstart⟩ | ⟨hallowed, hunclaimed, hstart⟩
      · simp only [act, hstart]
        exact Leads.turn (.refuse e) rfl
      · have hfree : (s.job i).isHanging = false := by
          simpa [Step.waits, hallowed] using hwaits
        simp only [act, hstart]
        exact launched_leads h.rest hfree hallowed hunclaimed (by simp [Step.turns]) rfl
    | _ => cases hmeddles

/-- A step, with what the threads do after it, is a run of turns. -/
theorem perform_leads {s : Session} (h : s.core.Calm) (hs : s.Stands) (step : Step) :
    Leads step.turns s (s.perform step).2 := by
  unfold perform
  split
  · exact Leads.refl _ s
  · rename_i hwaits
    exact (act_leads h hs step (eq_false_of_ne_true hwaits)).trans
      ((settle_leads _).mono (Step.turns_of_isRunning step))

/-- A step that makes none of the calls for jobs is, with what the threads do after it, a run of
fair turns. -/
theorem perform_leads_fairly {s : Session} (h : s.core.Calm) (hs : s.Stands) (step : Step)
    (hmild : step.meddles s.jobs.length = false) :
    LeadsFairly step.turns s (s.perform step).2 := by
  unfold perform
  split
  · exact LeadsFairly.refl _ s
  · rename_i hwaits
    exact (act_leads_fairly h hs step (eq_false_of_ne_true hwaits) hmild).trans
      ((settle_leads _).fairly.mono (Step.turns_of_isRunning step))

/-- A new link has no connection. -/
theorem IsNew.stands {s : Session} (h : s.IsNew) : s.Stands := by
  refine .down ?_
  simp only [standing, h.link]
  rfl

/-- So it does after any steps of a session. -/
theorem stands_after {s : Session} (h : s.core.Calm) (hs : s.Stands) (steps : List Step) :
    (s.after steps).Stands := by
  induction steps generalizing s with
  | nil => exact hs
  | cons step steps ih =>
    exact ih (perform_goes s step h).2 ((perform_leads h hs step).stands hs)

/-- Several steps are a run of turns of a kind, if each of them leads to such turns
alone. -/
theorem after_leads {K : Turn → Bool} {s : Session} (h : s.core.Calm) (hs : s.Stands)
    {steps : List Step} (hK : ∀ step ∈ steps, ∀ t, step.turns t = true → K t = true) :
    Leads K s (s.after steps) := by
  induction steps generalizing s with
  | nil => exact Leads.refl K s
  | cons step steps ih =>
    have hstep := perform_leads h hs step
    exact (hstep.mono (hK step (by simp))).trans
      (ih (perform_goes s step h).2 (hstep.stands hs) fun other hother =>
        hK other (List.mem_cons_of_mem _ hother))

/-- Undisturbed, several steps are a run of fair turns. -/
theorem after_leads_fairly {K : Turn → Bool} {s : Session} (h : s.core.Calm) (hs : s.Stands)
    {steps : List Step} (hsteps : s.Undisturbed steps)
    (hK : ∀ step ∈ steps, ∀ t, step.turns t = true → K t = true) :
    LeadsFairly K s (s.after steps) := by
  induction steps generalizing s with
  | nil => exact LeadsFairly.refl K s
  | cons step steps ih =>
    have hstep := perform_leads_fairly h hs step (hsteps step (by simp))
    have hrest : (s.perform step).2.Undisturbed steps := by
      intro other hother
      rw [length_jobs_perform h]
      exact hsteps other (List.mem_cons_of_mem _ hother)
    exact (hstep.mono (hK step (by simp))).trans
      (ih (perform_goes s step h).2 (hstep.leads.stands hs) hrest fun other hother =>
        hK other (List.mem_cons_of_mem _ hother))

end Session

end GcodeSender
