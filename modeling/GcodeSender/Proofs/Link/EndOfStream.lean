import GcodeSender.Proofs.Session.Inbox
import GcodeSender.Proofs.Session.Told

/-!
# `GcodeSender.Proofs.Link.EndOfStream`: two deliveries of the same bytes

The bytes of a controller come in pieces, with waits between them, and then the stream ends. The
reader does two things that others see: it handles a line, and it reports a fault. `deeds` lists
what it will do about what waits to be read, so two deliveries with the same deeds leave two
sessions alike in everything but what was never made a line (`shared`): the same reports in the
same order, the same status and position, the same answers offered, the same moves of the jobs.

* `hear_withInbox`: the reader reads on without a trace up to its next deed.
* `Paired.settle`: so with the same deeds to come, two sessions run to rest alike, whatever the
  jobs do between the reads.
* `deeds_append`, `deeds_ended`: the deeds of a delivery are its lines, a last line without its
  line feed if no wait came after it, and the fault.

The last of these is where two deliveries can differ. What stands at the end without a line feed
is a line if the end of the stream follows it at once. After a wait it is lost
(`staleFragment_not_told`).
-/

set_option autoImplicit false

namespace GcodeSender

/-! ### What the reader will do -/

/-- What a reader does that others see. -/
inductive ReaderDeed where
  /-- It handles a line. -/
  | line (bytes : List UInt8)
  /-- It finds the transport broken. -/
  | fault (reason : String)

namespace Bench.Item

/-- Bytes, or a failed read that passes. -/
def isPassing : Item → Bool
  | .bytes _ => true
  | .fault f => f.isInterrupt || f.isTimeout
  | .ending => false

/-- Whether some of the line that is begun was read since the last wait in vain, after an item. -/
def freshen (fresh : Bool) : Item → Bool
  | .bytes content => if content = [] then fresh else content.getLast? ≠ some 10
  | .fault f => fresh && f.isInterrupt
  | .ending => false

end Bench.Item

/-- Some items end with a part of a line and no wait after it. -/
def endsFresh (items : List Bench.Item) : Bool := items.foldl Bench.Item.freshen false

/-- What a reader will do about some items, with the beginning of a line that it has and whether
some of it is fresh. -/
def deeds : List Bench.Item → List UInt8 → Bool → List ReaderDeed
  | [], _, _ => []
  | .bytes content :: rest, pending, fresh =>
    (content.foldl feed ([], pending)).1.map .line ++
      deeds rest (content.foldl feed ([], pending)).2 ((Bench.Item.bytes content).freshen fresh)
  | .fault f :: rest, pending, fresh =>
    if f.isInterrupt || f.isTimeout then deeds rest pending (fresh && f.isInterrupt)
    else [.fault f.text]
  | .ending :: rest, pending, fresh =>
    if fresh then .line pending :: deeds rest [] false else [.fault Link.endOfStreamText]

/-- What a reader with an inbox will do about it. -/
def Inbox.deeds (x : Inbox) : List ReaderDeed := GcodeSender.deeds x.queue x.pending x.fresh

/-- A read that comes to no line feed takes all. -/
theorem Bench.spanLine_of_body {content : List UInt8} (h : 10 ∉ (Session.spanLine content).1) :
    Session.spanLine content = (content, []) := by
  induction content with
  | nil => rfl
  | cons b content ih =>
    by_cases hb : b = 10
    · simp [Session.spanLine, hb] at h
    · have hspan : Session.spanLine (b :: content) =
          (b :: (Session.spanLine content).1, (Session.spanLine content).2) := by
        simp [Session.spanLine, hb]
      rw [hspan] at h ⊢
      rw [ih fun hmem => h (List.mem_cons_of_mem b hmem)]

/-- Lines that were cut before are kept. -/
theorem foldl_feed_lines (bytes : List UInt8) (lines : List (List UInt8)) (pending : List UInt8) :
    bytes.foldl feed (lines, pending) =
      (lines ++ (bytes.foldl feed ([], pending)).1, (bytes.foldl feed ([], pending)).2) := by
  induction bytes generalizing lines pending with
  | nil => simp
  | cons b bytes ih =>
    simp only [List.foldl_cons]
    by_cases hb : b = 10
    · simp only [feed, if_pos hb]
      rw [ih (lines ++ _), ih ([] ++ _)]
      simp
    · simp only [feed, if_neg hb]
      exact ih lines _

/-- A read that comes to a line feed is the deed of that line. What it leaves is read later. -/
theorem deeds_line {content body : List UInt8} (hbody : 10 ∉ body)
    (hline : (Session.spanLine content).1 = body ++ [10]) (rest : List Bench.Item)
    (pending : List UInt8) (fresh : Bool) :
    deeds (.bytes content :: rest) pending fresh =
      .line (pending ++ (body ++ [10])) ::
        deeds (Session.leftOver (.bytes content) ++ rest) [] false := by
  -- the bytes are those of the line, its feed, and what is read later
  have hcontent : content = body ++ 10 :: (Session.spanLine content).2 := by
    have := Bench.spanLine_append content
    rw [hline] at this
    simpa using this.symm
  simp only [Session.leftOver]
  generalize (Session.spanLine content).2 = after at hcontent ⊢
  have hfeed : content.foldl feed ([], pending) =
      ((pending ++ (body ++ [10])) :: (after.foldl feed ([], [])).1,
        (after.foldl feed ([], [])).2) := by
    rw [hcontent, List.foldl_append, foldl_feed hbody, List.foldl_cons, feed, if_pos rfl,
      foldl_feed_lines]
    simp
  have hlast :
      (Bench.Item.bytes content).freshen fresh = (Bench.Item.bytes after).freshen false := by
    cases after <;> simp [Bench.Item.freshen, hcontent]
  rw [deeds, hfeed, hlast]
  cases after with
  | nil => rfl
  | cons b after => simp [deeds]

/-- Bytes without a line feed go on with the line that is begun. -/
theorem deeds_body {content : List UInt8} (h : 10 ∉ content) (rest : List Bench.Item)
    (pending : List UInt8) (fresh : Bool) :
    deeds (.bytes content :: rest) pending fresh =
      deeds rest (pending ++ content) (fresh || !content.isEmpty) := by
  have hlast : (Bench.Item.bytes content).freshen fresh = (fresh || !content.isEmpty) := by
    cases content with
    | nil => simp [Bench.Item.freshen]
    | cons b content =>
      have hopen : (b :: content).getLast? ≠ some 10 := fun hb => h (List.mem_of_getLast? hb)
      simp [Bench.Item.freshen, hopen]
  rw [deeds, foldl_feed h, hlast]
  rfl

namespace Session

/-! ### A read is a deed, or leaves no trace -/

/-- What a deed comes to. -/
def does (s : Session) : ReaderDeed → Session
  | .line bytes => (s.handleLine bytes).endIfStopping
  | .fault reason => s.fault reason

/-- The session but for what is not a line yet. -/
def shared (s : Session) : Session :=
  { s with
    device.inbound := []
    link.reader := s.link.reader.map fun r => { r with pending := [], fresh := false } }

variable {t : Session} {x : Inbox}

/-- What waits to be read is not shared. -/
@[simp] theorem shared_withInbox (t : Session) (x : Inbox) : (t.withInbox x).shared = t.shared := by
  cases hr : t.link.reader <;> simp [shared, withInbox, Bench.Device.following, hr]

/-- A read that times out changes nothing that is. -/
@[simp] theorem shared_timeOut (t : Session) : t.timeOut.shared = t.shared := by
  unfold timeOut
  cases hr : t.link.reader <;> simp [shared, hr]

/-- Whether a reader is at work does not hang on what waits to be read. -/
theorem begun?_withInbox (t : Session) (x : Inbox) :
    (t.withInbox x).begun? = none ↔ t.begun? = none := by
  unfold begun?
  cases hr : t.link.reader with
  | none => simp [withInbox, hr]
  | some r => cases hclosing : r.closing <;> simp [withInbox, hr, hclosing]

/-- Where a line has begun there is a reader at work. -/
theorem reader_of_begun? (h : t.begun? ≠ none) :
    ∃ r, t.link.reader = some r ∧ r.closing = false := by
  unfold begun? at h
  cases hr : t.link.reader with
  | none => simp [hr] at h
  | some r =>
    cases hclosing : r.closing with
    | true => simp [hr, hclosing] at h
    | false => exact ⟨r, rfl, hclosing⟩

/-- A line that comes to its end is handled as in a session without the inbox. -/
theorem completeLine_withInbox (r : Link.Reader) (chunk : List UInt8)
    (hr : t.link.reader = some r) (queue : List Bench.Item) (pending : List UInt8) (fresh : Bool) :
    (t.withInbox ⟨queue, pending, fresh⟩).completeLine { r with pending, fresh } chunk =
      (t.does (.line (pending ++ chunk))).withInbox ⟨queue, [], false⟩ := by
  have hbegins : { t.withInbox ⟨queue, pending, fresh⟩ with
        link.reader := some { r with pending := [], fresh := false } } =
      t.withInbox ⟨queue, [], false⟩ := by
    simp [withInbox, hr]
  simp only [completeLine, hbegins]
  rw [handleLine_withInbox, endIfStopping_withInbox]
  rfl

/-- What a reader with an inbox finds first in it either is its next deed, or leaves the deeds to
come as they are. -/
theorem readItem_withInbox {r : Link.Reader} (hr : t.link.reader = some r)
    (item : Bench.Item) (rest : List Bench.Item) (pending : List UInt8) (fresh : Bool) :
    ∃ y : Inbox,
      ((t.withInbox ⟨leftOver item ++ rest, pending, fresh⟩).readItem { r with pending, fresh }
          item = t.withInbox y ∧ deeds (item :: rest) pending fresh = y.deeds) ∨
      ∃ d, (t.withInbox ⟨leftOver item ++ rest, pending, fresh⟩).readItem
          { r with pending, fresh } item = (t.does d).withInbox y ∧
        ((∃ bytes, d = .line bytes) ∧ deeds (item :: rest) pending fresh = d :: y.deeds ∨
          (∃ reason, d = .fault reason) ∧ deeds (item :: rest) pending fresh = [d]) := by
  have hholds : ∀ (queue : List Bench.Item) (pending' : List UInt8) (fresh' : Bool),
      { t.withInbox ⟨queue, pending, fresh⟩ with
        link.reader := some { r with pending := pending', fresh := fresh' } } =
      t.withInbox ⟨queue, pending', fresh'⟩ := by
    intro queue pending' fresh'
    simp [withInbox, hr]
  cases item with
  | bytes content =>
    simp only [readItem]
    rcases Bench.spanLine_cases content with hopen | ⟨body, hbody, hline⟩
    · -- no line feed is read, so all of it is
      have hspan := Bench.spanLine_of_body hopen
      simp only [leftOver, hspan] at hopen ⊢
      rw [if_neg fun h => hopen (List.mem_of_getLast? h), hholds]
      exact ⟨_, .inl ⟨rfl, deeds_body hopen rest pending fresh⟩⟩
    · have hended : (spanLine content).1.getLast? = some 10 := by simp [hline]
      rw [if_pos hended, completeLine_withInbox r _ hr]
      refine ⟨_, .inr ⟨_, rfl, .inl ⟨⟨_, rfl⟩, ?_⟩⟩⟩
      rw [deeds_line hbody hline, hline]
      rfl
  | fault f =>
    simp only [readItem, deeds]
    by_cases hinterrupt : f.isInterrupt = true
    · refine ⟨⟨rest, pending, fresh⟩, .inl ⟨by simp [hinterrupt, leftOver], ?_⟩⟩
      simp [hinterrupt, Inbox.deeds]
    by_cases htimeout : f.isTimeout = true
    · refine ⟨⟨rest, pending, false⟩, .inl ⟨?_, ?_⟩⟩
      · simp only [hinterrupt, htimeout, if_true]
        exact hholds rest pending false
      · simp [hinterrupt, htimeout, Inbox.deeds]
    · refine ⟨⟨rest, pending, fresh⟩, .inr ⟨.fault f.text, ?_, .inr ⟨⟨_, rfl⟩, ?_⟩⟩⟩
      · simp only [hinterrupt, htimeout]
        exact fault_withInbox t _ _
      · simp [hinterrupt, htimeout]
  | ending =>
    cases fresh with
    | true =>
      refine ⟨⟨rest, [], false⟩, .inr ⟨.line (pending ++ []), ?_, .inl ⟨⟨_, rfl⟩, ?_⟩⟩⟩
      · exact completeLine_withInbox r [] hr rest pending true
      · rw [List.append_nil]
        rfl
    | false => exact ⟨⟨rest, pending, false⟩, .inr ⟨.fault Link.endOfStreamText,
        fault_withInbox t _ _, .inr ⟨⟨_, rfl⟩, rfl⟩⟩⟩

/-! ### Reading up to the next deed -/

/-- Where the reader cannot go on, or a job can, nothing is read. -/
theorem hear_of_stop {n : Nat} (h : t.work? ≠ none ∨ t.read? = none) : t.hear n = t := by
  cases n with
  | zero => rfl
  | succ n =>
    unfold hear
    rcases h with hwork | hread
    · rw [if_pos (Option.isSome_iff_ne_none.mpr hwork)]
    · rw [hread]
      split <;> rfl

/-- Without a reader at work nothing is read. -/
theorem read?_of_begun? (h : t.begun? = none) : t.read? = none := by
  unfold begun? at h
  unfold read?
  cases hr : t.link.reader with
  | none => rfl
  | some r =>
    cases hclosing : r.closing with
    | false => simp [hr, hclosing] at h
    | true => cases t.device.inbound <;> simp [hclosing]

/-- A reader takes what is first in its inbox. -/
theorem read?_withInbox {r : Link.Reader} (hr : t.link.reader = some r)
    (hclosing : r.closing = false) (item : Bench.Item) (rest : List Bench.Item)
    (pending : List UInt8) (fresh : Bool) :
    (t.withInbox ⟨item :: rest, pending, fresh⟩).read? =
      some ((t.withInbox ⟨leftOver item ++ rest, pending, fresh⟩).readItem
        { r with pending, fresh } item) := by
  simp [read?, withInbox, Bench.Device.following, hr, hclosing, List.append_assoc]

/-- While no job can move, the reader reads on up to its next deed, and all that is seen of that
is the deed. -/
theorem hear_withInbox {n : Nat} (hn : (t.withInbox x).device.backlog ≤ n)
    (hwork : t.work? = none) (hreads : t.begun? ≠ none) {d : ReaderDeed} {ds : List ReaderDeed}
    (hdeeds : x.deeds = d :: ds) :
    ∃ m y, (t.withInbox x).hear n = ((t.does d).withInbox y).hear m ∧
      ((t.does d).withInbox y).device.backlog ≤ m ∧
      ((∃ bytes, d = .line bytes) ∧ y.deeds = ds ∨ ∃ reason, d = .fault reason) := by
  obtain ⟨r, hr, hclosing⟩ := reader_of_begun? hreads
  -- on the reads that are left; each read takes something
  induction n generalizing x with
  | zero =>
    have hnone := Bench.Device.inbound_of_backlog (Nat.le_zero.mp hn)
    have hqueue : x.queue = [] := (List.append_eq_nil_iff.mp hnone).1
    rw [Inbox.deeds, hqueue, deeds] at hdeeds
    cases hdeeds
  | succ n ih =>
    obtain ⟨queue, pending, fresh⟩ := x
    cases queue with
    | nil => cases hdeeds
    | cons item rest =>
      have hread := read?_withInbox hr hclosing item rest pending fresh
      have hstill : ((t.withInbox ⟨item :: rest, pending, fresh⟩).work?.isSome = true) = False := by
        simp [work?_withInbox, hwork]
      have hless : ((t.withInbox ⟨leftOver item ++ rest, pending, fresh⟩).readItem
          { r with pending, fresh } item).device.backlog ≤ n := by
        have hbefore : (t.withInbox ⟨item :: rest, pending, fresh⟩).device.inbound =
          item :: (rest ++ t.device.inbound) := rfl
        have hafter : ((t.withInbox ⟨leftOver item ++ rest, pending, fresh⟩).readItem
            { r with pending, fresh } item).device.inbound =
          leftOver item ++ (rest ++ t.device.inbound) := by
          rw [device_readItem]
          exact List.append_assoc ..
        have hlt := Bench.backlog_lt hbefore hafter
        omega
      simp only [hear, hstill, if_false, hread]
      obtain ⟨y, ⟨hsilent, hsame⟩ | ⟨d', hdone, hnext⟩⟩ :=
        readItem_withInbox hr item rest pending fresh
      · rw [hsilent] at hless ⊢
        exact ih hless (hsame.symm.trans hdeeds)
      · rw [hdone] at hless ⊢
        rcases hnext with ⟨hline, hnext⟩ | ⟨hfault, hnext⟩
        · obtain ⟨rfl, rfl⟩ := List.cons.inj (hnext.symm.trans hdeeds)
          exact ⟨n, y, rfl, hless, .inl ⟨hline, rfl⟩⟩
        · obtain ⟨rfl, -⟩ := List.cons.inj (hnext.symm.trans hdeeds)
          exact ⟨n, y, rfl, hless, .inr hfault⟩

/-- About either of two inboxes the same will be done, and there is an end to it. Where the reader
does not read, nothing will be done about any. -/
def SameAhead (t : Session) (x x' : Inbox) : Prop :=
  t.begun? ≠ none → x.deeds = x'.deeds ∧ ∃ reason, .fault reason ∈ x.deeds

/-- The same session with two inboxes about which the same will be done. -/
def Paired (s s' : Session) : Prop :=
  ∃ (t : Session) (x x' : Inbox), s = t.withInbox x ∧ s' = t.withInbox x' ∧ t.SameAhead x x'

/-- Where nothing is read, nothing comes apart. -/
theorem SameAhead.stop {x' : Inbox} (h : t.SameAhead x x')
    (hstop : t.work? ≠ none ∨ t.begun? = none) (n n' : Nat) :
    ((t.withInbox x).hear n).Paired ((t.withInbox x').hear n') := by
  have hstill : ∀ z : Inbox, (t.withInbox z).work? ≠ none ∨ (t.withInbox z).read? = none := by
    intro z
    rcases hstop with hwork | hreads
    · exact .inl (by simpa [work?_withInbox] using hwork)
    · exact .inr (read?_of_begun? ((begun?_withInbox t z).mpr hreads))
  rw [hear_of_stop (hstill x), hear_of_stop (hstill x')]
  exact ⟨t, x, x', rfl, rfl, h⟩

/-- The reader reads until it cannot go on or a job can, and does the same in both. -/
theorem Paired.hear {s s' : Session} (h : s.Paired s') {n n' : Nat} (hn : s.device.backlog ≤ n)
    (hn' : s'.device.backlog ≤ n') : (s.hear n).Paired (s'.hear n') := by
  obtain ⟨t, x, x', rfl, rfl, h⟩ := h
  -- on what will be done
  generalize hds : x.deeds = ds
  induction ds generalizing t x x' n n' with
  | nil =>
    refine h.stop (.inr ?_) n n'
    by_contra hreads
    obtain ⟨-, reason, hreason⟩ := h hreads
    rw [hds] at hreason
    cases hreason
  | cons d ds ih =>
    by_cases hstop : t.work? ≠ none ∨ t.begun? = none
    · exact h.stop hstop n n'
    obtain ⟨hwork, hreads⟩ := not_or.mp hstop
    obtain ⟨hsame, reason, hreason⟩ := h hreads
    obtain ⟨m, y, hhear, hm, hy⟩ := hear_withInbox hn (not_not.mp hwork) hreads hds
    obtain ⟨m', y', hhear', hm', hy'⟩ :=
      hear_withInbox hn' (not_not.mp hwork) hreads (hsame.symm.trans hds)
    rw [hhear, hhear']
    rcases hy with ⟨⟨bytes, rfl⟩, hy⟩ | ⟨reason', rfl⟩
    · -- a line was handled, and the fault is still to come
      have hy' : y'.deeds = ds := by simpa using hy'
      have hlater : .fault reason ∈ ds := by
        rw [hds] at hreason
        exact (List.mem_cons.mp hreason).resolve_left nofun
      have hahead : (t.does (.line bytes)).SameAhead y y' := fun _ =>
        ⟨hy.trans hy'.symm, reason, hy ▸ hlater⟩
      exact ih _ y y' hm hahead hm' hy
    · -- after a fault the reader is gone
      have hgone : (t.does (.fault reason')).begun? = none := begun?_fault t reason'
      exact SameAhead.stop (fun hreads => absurd hgone hreads) (.inr hgone) m m'

/-- A job moves alike. -/
theorem Paired.work? {s s' : Session} (h : s.Paired s') :
    (s.work? = none ∧ s'.work? = none) ∨
      ∃ next next', s.work? = some next ∧ s'.work? = some next' ∧ next.Paired next' := by
  obtain ⟨t, x, x', rfl, rfl, h⟩ := h
  rw [work?_withInbox, work?_withInbox]
  cases hwork : t.work? with
  | none => exact .inl ⟨rfl, rfl⟩
  | some next =>
    refine .inr ⟨_, _, rfl, rfl, next, x, x', rfl, rfl, fun hreads => h fun hgone => hreads ?_⟩
    -- no job sets a reader to read
    obtain ⟨i, htakes⟩ := takes_of_work? hwork
    rcases (htakes.writes rfl).adds.begun with hnone | hsame
    · exact hnone
    · exact hsame.trans hgone

/-- Two sessions that are paired stay so while they settle. -/
theorem Paired.settleFor {s s' : Session} (h : s.Paired s') (n : Nat) :
    (Session.settleFor n s).Paired (Session.settleFor n s') := by
  induction n generalizing s s' with
  | zero => exact h
  | succ n ih =>
    have hheard := h.hear (Nat.le_refl _) (Nat.le_refl _)
    unfold Session.settleFor
    simp only []
    rcases hheard.work? with ⟨hnone, hnone'⟩ | ⟨next, next', hnext, hnext', hpair⟩
    · rw [hnone, hnone']
      exact hheard
    · rw [hnext, hnext']
      exact ih hpair

/-- Run to rest, the two are alike. -/
theorem Paired.settle {s s' : Session} (h : s.Paired s') : s.settle.shared = s'.settle.shared := by
  have hwork : s'.workLeft = s.workLeft := by
    obtain ⟨t, x, x', rfl, rfl, -⟩ := h
    rfl
  obtain ⟨t, x, x', hs, hs', -⟩ := h.settleFor (s.workLeft + 1)
  rw [Session.settle, Session.settle, hwork, shared_timeOut, shared_timeOut, hs, hs',
    shared_withInbox, shared_withInbox]

end Session

/-! ### Deliveries -/

/-- The stream has ended: every read finds it so. A read that finds it may only end a call that
has read something, and the next call finds it anew. -/
def ended (n : Nat) : List Bench.Item := List.replicate (n + 2) .ending

/-- The bytes of some items. -/
def content (items : List Bench.Item) : List UInt8 := items.flatMap Bench.Item.content

/-- Items that pass come to the lines of their bytes. -/
theorem deeds_append {items : List Bench.Item} (h : ∀ item ∈ items, item.isPassing = true)
    (rest : List Bench.Item) (pending : List UInt8) (fresh : Bool) :
    deeds (items ++ rest) pending fresh =
      ((content items).foldl feed ([], pending)).1.map .line ++
        deeds rest ((content items).foldl feed ([], pending)).2
          (items.foldl Bench.Item.freshen fresh) := by
  induction items generalizing pending fresh with
  | nil => rfl
  | cons item items ih =>
    have hitems := fun pending fresh =>
      ih (fun item hitem => h item (List.mem_cons_of_mem _ hitem)) pending fresh
    have hitem := h item (List.mem_cons_self ..)
    rw [List.cons_append, List.foldl_cons]
    -- waits and interruptions take nothing away, and the bytes of the other items come in order
    cases item with
    | bytes bytes =>
      have hcontent : content (.bytes bytes :: items) = bytes ++ content items := rfl
      rw [deeds, hitems, hcontent, List.foldl_append,
        foldl_feed_lines (content items) (bytes.foldl feed ([], pending)).1]
      simp
    | fault f =>
      have hpasses : (f.isInterrupt || f.isTimeout) = true := hitem
      rw [deeds, if_pos hpasses, hitems]
      rfl
    | ending => cases hitem

/-- At the end of the stream, what is fresh of a line is one, and then a fault is found. -/
theorem deeds_ended (n : Nat) (pending : List UInt8) (fresh : Bool) :
    deeds (ended n) pending fresh =
      (if fresh then [.line pending] else []) ++ [.fault Link.endOfStreamText] := by
  cases fresh <;> rfl

/-- What ends with a line feed does not end with a part of a line. -/
theorem endsFresh_of_getLast? {items : List Bench.Item}
    (h : (content items).getLast? = some 10) : endsFresh items = false := by
  -- on the last item
  induction items using List.reverseRecOn with
  | nil => rfl
  | append_singleton items item ih =>
    have hcontent : content (items ++ [item]) = content items ++ item.content := by
      simp [content]
    rw [hcontent] at h
    unfold endsFresh at ih ⊢
    rw [List.foldl_append, List.foldl_cons, List.foldl_nil]
    cases item with
    | bytes bytes =>
      by_cases hnone : bytes = []
      · subst hnone
        simpa [Bench.Item.freshen] using ih (by simpa [Bench.Item.content] using h)
      · have hlast : bytes.getLast? = some 10 :=
          (List.getLast?_append_of_ne_nil (content items) hnone).symm.trans h
        simp [Bench.Item.freshen, hnone, hlast]
    | fault f =>
      rw [ih (by simpa [Bench.Item.content] using h)]
      rfl
    | ending => rfl

/-- The bytes up to the last line feed come to the same lines. -/
theorem lines_of_whole (bytes pending : List UInt8) :
    ((segments bytes).1.flatten.foldl feed ([], pending)).1 =
      (bytes.foldl feed ([], pending)).1 := by
  obtain ⟨hbytes, -, hrest⟩ := segments_spec bytes
  generalize (segments bytes).1.flatten = whole at hbytes
  rw [← hbytes, List.foldl_append, foldl_feed hrest]

/-- Whole lines, in one piece, leave nothing begun. -/
theorem endsFresh_whole (bytes : List UInt8) :
    endsFresh [.bytes (segments bytes).1.flatten] = false := by
  obtain ⟨-, hlines, -⟩ := segments_spec bytes
  generalize (segments bytes).1 = lines at hlines ⊢
  cases lines using List.reverseRecOn with
  | nil => rfl
  | append_singleton lines line =>
    obtain ⟨body, -, rfl⟩ := hlines line (by simp)
    refine endsFresh_of_getLast? ?_
    simp [content, Bench.Item.content, ← List.append_assoc]

namespace Session

/-- What was sent before and what is sent now together are an inbox. -/
theorem exists_withInbox (s : Session) :
    ∃ (pending : List UInt8) (fresh : Bool), (s.begun? ≠ none → s.begun? = some (pending, fresh)) ∧
      ∀ items : List Bench.Item, ({ s with device.inbound := items } : Session) =
        ({ s with device.inbound := [] } : Session).withInbox ⟨items, pending, fresh⟩ := by
  -- with no reader there is nothing begun, and whatever is taken for it does not matter
  cases hr : s.link.reader with
  | none =>
    refine ⟨[], false, fun h => absurd (by simp [begun?, hr]) h, fun items => ?_⟩
    simp only [withInbox, Bench.Device.following, hr, List.nil_append, List.append_nil,
      Option.map_none]
    rw [← hr]
  | some r =>
    refine ⟨r.pending, r.fresh, fun h => ?_, fun items => ?_⟩
    · obtain ⟨r', hr', hclosing⟩ := reader_of_begun? h
      obtain rfl : r = r' := Option.some.inj (hr.symm.trans hr')
      exact begun?_of_reader hr hclosing
    · simp only [withInbox, Bench.Device.following, hr, List.nil_append, List.append_nil,
        Option.map_some]
      rw [← hr]

/-- Between two steps nothing is fresh, since the reader has waited in vain. -/
theorem begun?_after {s : Session} (hnew : s.IsNew) (steps : List Step) (pending : List UInt8)
    (fresh : Bool) (h : (s.after steps).begun? = some (pending, fresh)) : fresh = false := by
  have hrest : (s.after steps).timeOut = s.after steps := by
    have hsettle := settle_after hnew steps
    rw [← hsettle, settle, timeOut_timeOut]
  rw [← hrest, begun?_timeOut] at h
  obtain ⟨begun, -, hbegun⟩ := Option.map_eq_some_iff.mp h
  exact (congrArg Prod.snd hbegun).symm

/-- Two deliveries about which the same will be done, to an end, leave the session alike. -/
theorem shared_deviceSends {s : Session} (hnew : s.IsNew) (steps : List Step)
    {items items' : List Bench.Item}
    (h : ∀ pending, deeds items pending false = deeds items' pending false ∧
      ∃ reason, .fault reason ∈ deeds items pending false) :
    ((s.after steps).perform (.deviceSends items)).2.shared =
      ((s.after steps).perform (.deviceSends items')).2.shared := by
  have hinbound := inbound_after hnew steps
  have hfresh := begun?_after hnew steps
  generalize s.after steps = u at hinbound hfresh ⊢
  obtain ⟨pending, fresh, hbegun, hinbox⟩ := u.exists_withInbox
  refine Paired.settle ⟨{ u with device.inbound := [] },
    ⟨u.device.inbound ++ items, pending, fresh⟩, ⟨u.device.inbound ++ items', pending, fresh⟩,
    hinbox _, hinbox _, fun hreads => ?_⟩
  have hreads' : u.begun? ≠ none := hreads
  obtain rfl := hfresh pending fresh (hbegun hreads')
  rw [hinbound hreads']
  exact h pending

/-! ### Main result -/

/-- In every session, two deliveries of the same bytes, in whatever pieces and with whatever waits
and interruptions between them, up to the end of the stream: if the bytes end with a line feed,
or what stands after the last one is followed by a wait in both or in neither, the session
goes on alike from both. The same lines are handled and reported, the same status and position
remembered, the same answers offered, the same is made of them by the jobs, and all of it in the
same order. What is followed by a wait is as if it had not been sent. -/
theorem same_bytes_told_alike {s : Session} (hnew : s.IsNew) (steps : List Step)
    {items items' : List Bench.Item} (h : ∀ item ∈ items, item.isPassing = true)
    (h' : ∀ item ∈ items', item.isPassing = true) (hbytes : content items = content items')
    (n : Nat) :
    ((content items).getLast? = some 10 ∨ endsFresh items = endsFresh items' →
      ((s.after steps).perform (.deviceSends (items ++ ended n))).2.shared =
        ((s.after steps).perform (.deviceSends (items' ++ ended n))).2.shared) ∧
    (endsFresh items = false →
      ((s.after steps).perform (.deviceSends (items ++ ended n))).2.shared =
        ((s.after steps).perform
          (.deviceSends (.bytes (segments (content items)).1.flatten :: ended n))).2.shared) := by
  have hends : ∀ pending, ∃ reason, .fault reason ∈ deeds (items ++ ended n) pending false := by
    intro pending
    refine ⟨Link.endOfStreamText, ?_⟩
    rw [deeds_append h, deeds_ended]
    simp
  constructor
  · intro hlast
    -- where the bytes end with a line, no wait behind them matters
    have hsame : endsFresh items = endsFresh items' := by
      rcases hlast with hfeed | hsame
      · rw [endsFresh_of_getLast? hfeed, endsFresh_of_getLast? (hbytes ▸ hfeed)]
      · exact hsame
    refine shared_deviceSends hnew steps fun pending => ⟨?_, hends pending⟩
    have hfresh : items.foldl Bench.Item.freshen false =
      items'.foldl Bench.Item.freshen false := hsame
    rw [deeds_append h, deeds_append h', hbytes, hfresh]
  · intro hstale
    refine shared_deviceSends hnew steps fun pending => ⟨?_, hends pending⟩
    have hpassing : ∀ item ∈ [Bench.Item.bytes (segments (content items)).1.flatten],
        item.isPassing = true := by simp [Bench.Item.isPassing]
    -- the lines alone, in one piece and without a wait, come to the same deeds
    have hwhole := deeds_append hpassing (ended n) pending false
    have hfresh : items.foldl Bench.Item.freshen false = false := hstale
    have hfresh' : [Bench.Item.bytes (segments (content items)).1.flatten].foldl
      Bench.Item.freshen false = false := endsFresh_whole _
    have hcontent : content [.bytes (segments (content items)).1.flatten] =
        (segments (content items)).1.flatten := by simp [content, Bench.Item.content]
    rw [hcontent, hfresh', lines_of_whole, deeds_ended] at hwhole
    rw [List.singleton_append] at hwhole
    rw [hwhole, deeds_append h, hfresh, deeds_ended]
    rfl

/-- A job of one line waits for its answer. -/
def oneLine : List Step := [.connect "COM3" 9600, .start 0 "part" ⟨["G0"]⟩]

/-- The answer without its line feed. -/
def answerAtOnce : List Bench.Item := [.bytes [111, 107]]

/-- The answer in two pieces, and a wait between them. -/
def answerInTwo : List Bench.Item := [.bytes [111], .fault (.usual .timedOut), .bytes [107]]

/-- The answer and a wait. -/
def answerAndWait : List Bench.Item := [.bytes [111, 107], .fault (.usual .timedOut)]

/-- What the stream ends with is told alike in one piece and in two. With a wait after it, it is as
if the stream had just ended. -/
theorem same_bytes_told_alike_oneLine :
    ((({} : Session).after oneLine).perform (.deviceSends (answerAtOnce ++ ended 0))).2.shared =
        ((({} : Session).after oneLine).perform
          (.deviceSends (answerInTwo ++ ended 0))).2.shared ∧
      ((({} : Session).after oneLine).perform
          (.deviceSends (answerAndWait ++ ended 0))).2.shared =
        ((({} : Session).after oneLine).perform
          (.deviceSends (.bytes [] :: ended 0))).2.shared := by
  have hnew : ({} : Session).IsNew := ⟨rfl, by decide⟩
  have hcut := @same_bytes_told_alike {} hnew oneLine answerAtOnce answerInTwo (by decide)
    (by decide) rfl 0
  have hstale := @same_bytes_told_alike {} hnew oneLine answerAndWait answerAtOnce (by decide)
    (by decide) rfl 0
  exact ⟨hcut.1 (.inr (by decide)), hstale.2 (by decide)⟩

/-- Two deliveries of the same bytes before the end of the stream. The first is told as a line,
which is the answer that the job waits for. Of the second, in which a wait comes after the
bytes, nothing is told, and the job fails with the connection. -/
theorem staleFragment_not_told :
    content answerAtOnce = content answerAndWait ∧
      ((({} : Session).after oneLine).perform (.deviceSends (answerAtOnce ++ ended 0))).2.heard =
        .log "GRBL: ok" :: faultEvents Link.endOfStreamText ∧
      ((({} : Session).after oneLine).perform (.deviceSends (answerAndWait ++ ended 0))).2.heard =
        faultEvents Link.endOfStreamText ∧
      (((({} : Session).after oneLine).perform
        (.deviceSends (answerAtOnce ++ ended 0))).2.job 0).snapshot.state = .finished ∧
      (((({} : Session).after oneLine).perform
        (.deviceSends (answerAndWait ++ ended 0))).2.job 0).snapshot.state = .errored := by
  refine ⟨rfl, rfl, rfl, ?_, ?_⟩ <;> decide +kernel

end Session

end GcodeSender
