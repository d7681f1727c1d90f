import GcodeSender.Proofs.Link.Footing
import GcodeSender.Proofs.Session.Reports

/-!
# `GcodeSender.Proofs.Link.Reading`: lines, whatever the reads

What a device sends arrives in pieces, and with waits in between. The reader tells the
observer of whole lines: what it tells depends on the bytes of a connection alone, and not
on how they were cut into reads.

* `segments`: the lines of some bytes, and what follows the last line feed.
* `received`: the bytes that the reads of some turns take, one after the other. What waits
  to be read is received in order and at most once (`Runs.queued`), and at rest nothing is
  left of it (`inbound_after`).
* `Listens`: what the reader has told of the bytes received, and what it has of a line.
  Every turn preserves it (`Takes.listens`), but the end of the stream right after some
  bytes that are no line yet: these are told as a last line.
* `lines_delivered`: what follows for a connection.
-/

set_option autoImplicit false

namespace GcodeSender

/-! ### Bytes and lines -/

/-- Lines, each with its line feed, and the beginning of the next, after one more byte. -/
def feed (cut : List (List UInt8) × List UInt8) (b : UInt8) : List (List UInt8) × List UInt8 :=
  if b = 10 then (cut.1 ++ [cut.2 ++ [b]], []) else (cut.1, cut.2 ++ [b])

/-- The lines of some bytes, each with its line feed, and what follows the last line feed. -/
def segments (bytes : List UInt8) : List (List UInt8) × List UInt8 := bytes.foldl feed ([], [])

/-- Bytes that follow go on where the cut was. -/
theorem segments_append (bytes more : List UInt8) :
    segments (bytes ++ more) = more.foldl feed (segments bytes) := List.foldl_append

/-- The lines and what follows them are the bytes again. A line feed is where a line ends, and
nowhere else. -/
theorem segments_spec (bytes : List UInt8) :
    (segments bytes).1.flatten ++ (segments bytes).2 = bytes ∧
      (∀ line ∈ (segments bytes).1, ∃ body, 10 ∉ body ∧ line = body ++ [10]) ∧
      10 ∉ (segments bytes).2 := by
  -- on the last byte, which goes on with the line that is begun or ends it
  induction bytes using List.reverseRecOn with
  | nil => exact ⟨rfl, by simp [segments], by simp [segments]⟩
  | append_singleton bytes b ih =>
    obtain ⟨hbytes, hlines, hrest⟩ := ih
    rw [segments_append]
    show (feed (segments bytes) b).1.flatten ++ (feed (segments bytes) b).2 = _ ∧
      (∀ line ∈ (feed (segments bytes) b).1, _) ∧ 10 ∉ (feed (segments bytes) b).2
    unfold feed
    split
    · rename_i hb
      refine ⟨by simp [← List.append_assoc, hbytes], fun line hline => ?_, by simp⟩
      rcases List.mem_append.mp hline with hold | hnew
      · exact hlines line hold
      · exact ⟨_, hrest, by rw [List.mem_singleton.mp hnew, hb]⟩
    · rename_i hb
      exact ⟨by simp [← List.append_assoc, hbytes], hlines, by simp [hrest, Ne.symm hb]⟩

/-- Without a line feed, bytes are added to the line that has begun. -/
theorem foldl_feed {body : List UInt8} (h : 10 ∉ body) (cut : List (List UInt8) × List UInt8) :
    body.foldl feed cut = (cut.1, cut.2 ++ body) := by
  induction body generalizing cut with
  | nil => simp
  | cons b body ih =>
    obtain ⟨hb, hbody⟩ := not_or.mp (mt List.mem_cons.mpr h)
    rw [List.foldl_cons, ih hbody, feed, if_neg (Ne.symm hb)]
    simp

/-- Bytes without a line feed go on with the line that is begun. -/
theorem segments_append_body (bytes : List UInt8) {body : List UInt8} (h : 10 ∉ body) :
    segments (bytes ++ body) = ((segments bytes).1, (segments bytes).2 ++ body) := by
  rw [segments_append, foldl_feed h]

/-- A line feed ends the line that is begun. -/
theorem segments_append_line (bytes : List UInt8) {body : List UInt8} (h : 10 ∉ body) :
    segments (bytes ++ (body ++ [10])) =
      ((segments bytes).1 ++ [(segments bytes).2 ++ (body ++ [10])], []) := by
  rw [segments_append, List.foldl_append, foldl_feed h]
  simp [feed]

/-! ### What the turns read -/

/-- The bytes that a turn takes from what waits to be read. -/
def Turn.taken : Turn → List UInt8
  | .read item => item.taken
  | _ => []

/-- The bytes that were read in some turns. -/
def received (turns : List Turn) : List UInt8 := turns.flatMap Turn.taken

/-- Whether some of the line that is begun was read since the last wait in vain, after one
more turn. -/
def Turn.freshen (fresh : Bool) : Turn → Bool
  | .read (.bytes content) =>
    let chunk := (Session.spanLine content).1
    if chunk.getLast? = some 10 then false else fresh || !chunk.isEmpty
  | .read (.fault f) => fresh && f.isInterrupt
  | .read .ending | .idle => false
  | _ => fresh

/-- Whether some of the line that is begun was read since the last wait in vain. -/
def isFresh (turns : List Turn) : Bool := turns.foldl Turn.freshen false

/-- The stream ends right after some bytes that are no line yet. -/
def EndsFresh (turns : List Turn) : Prop :=
  ∃ reads later, turns = reads ++ .read .ending :: later ∧ isFresh reads = true

/-- Where the stream does not end, it does not end right after new bytes. -/
theorem not_endsFresh {turns : List Turn} (h : .read .ending ∉ turns) : ¬EndsFresh turns := by
  rintro ⟨reads, later, rfl, -⟩
  simp at h

/-- Why the transport is found broken in a turn, if it is. -/
def Turn.failure? : Turn → Option String
  | .read (.fault f) => if f.isInterrupt || f.isTimeout then none else some f.text
  | .read .ending => some Link.endOfStreamText
  | _ => none

/-- What the reader tells of the transport, if it was found broken in some turn. -/
def failureEvents (turns : List Turn) : List Event :=
  (turns.findSome? Turn.failure?).elim [] Session.faultEvents

/-- What is received in more turns follows. -/
theorem received_append (turns more : List Turn) :
    received (turns ++ more) = received turns ++ received more := List.flatMap_append

/-- Whether the last bytes are new is up to the last turn. -/
theorem isFresh_append (turns : List Turn) (t : Turn) :
    isFresh (turns ++ [t]) = t.freshen (isFresh turns) := by
  simp [isFresh]

/-- Where nothing is read, nothing is fresh. -/
theorem isFresh_of_received {turns : List Turn} (h : received turns = []) :
    isFresh turns = false := by
  -- on the turns, the last first: it has read nothing either
  induction turns using List.reverseRecOn with
  | nil => rfl
  | append_singleton turns t ih =>
    obtain ⟨hbefore, hlast⟩ := List.append_eq_nil_iff.mp ((received_append turns [t]).symm.trans h)
    rw [isFresh_append, ih hbefore]
    have htaken : t.taken = [] := by simpa [received] using hlast
    cases t with
    | read item =>
      cases item with
      | bytes content =>
        replace htaken : (Session.spanLine content).1 = [] := htaken
        simp [Turn.freshen, htaken]
      | fault | ending => rfl
    | _ => rfl

namespace Session

/-! ### Reads -/

/-- A reader at work has begun the line that is pending. -/
theorem begun?_of_reader {s : Session} {r : Link.Reader} (hr : s.link.reader = some r)
    (hclosing : r.closing = false) : s.begun? = some (r.pending, r.fresh) := by
  simp [begun?, hr, hclosing]

/-- After a read that times out, what has begun is no longer new. -/
theorem begun?_timeOut (s : Session) :
    s.timeOut.begun? = s.begun?.map fun begun => (begun.1, false) := by
  unfold timeOut begun?
  cases hr : s.link.reader with
  | none => simp [hr]
  | some r => cases hclosing : r.closing <;> simp [hclosing]

/-- The device is not concerned. -/
theorem device_timeOut (s : Session) : s.timeOut.device = s.device := by
  unfold timeOut
  split <;> rfl

/-- What the reader does about an item does not concern the device. -/
theorem device_readItem (s : Session) (r : Link.Reader) (item : Bench.Item) :
    (s.readItem r item).device = s.device := (readItem_adds s r item).2

/-- A line is told, and the next one has not begun. -/
theorem completeLine_begun (s : Session) (r : Link.Reader) (chunk : List UInt8)
    (hclosing : r.closing = false) :
    (s.completeLine r chunk).heard = s.heard ++ lineEvents (r.pending ++ chunk) ∧
      ((s.completeLine r chunk).begun? = none ∨
        (s.completeLine r chunk).begun? = some ([], false)) := by
  have htells := completeLine_tells s r chunk
  refine ⟨htells.heard, ?_⟩
  have hbegun : ({ s with link.reader := some { r with pending := [], fresh := false } } :
      Session).begun? = some ([], false) := by simp [begun?, hclosing]
  rw [← hbegun]
  exact htells.adds.begun

/-! ### What waits to be read -/

/-- A turn takes from the front of what waits to be read, and leaves the rest. More may be
added at the end. -/
theorem Takes.queued {s next : Session} {t : Turn} (h : s.Takes t next)
    (hopens : t.opens = false) (hdevice : t ≠ .device) :
    s.device.queued <+: t.taken ++ next.device.queued := by
  have hwrites : t.isQuiet = true → t.taken = [] →
      s.device.queued <+: t.taken ++ next.device.queued := by
    -- a turn that is no read writes to the device at most, which queues its replies behind
    intro hquiet htaken
    obtain ⟨more, hmore⟩ := (h.writes hquiet).queue
    rw [htaken, List.nil_append, Bench.Device.queued, Bench.Device.queued, ← hmore,
      List.flatMap_append]
    exact List.prefix_append _ _
  cases h with
  | @read item rest _ hrest hitem h =>
    obtain ⟨r, -, -, rfl⟩ := read?_cases hitem h
    have hnext : (({ s with device.inbound := leftOver item ++ rest } : Session).readItem r
        item).device.inbound = leftOver item ++ rest := by rw [device_readItem]
    rw [Bench.queued_eq hitem hnext]
    exact List.prefix_rfl
  | idle =>
    rw [device_timeOut]
    exact List.prefix_rfl
  | arm rule => exact List.prefix_rfl
  | opening => cases hopens
  | device => exact absurd rfl hdevice
  | _ => exact hwrites rfl rfl

/-- What waits to be read is received first, in order and at most once. -/
theorem Runs.queued {s last : Session} {turns : List Turn} (h : s.Runs turns last)
    (hopens : ∀ t ∈ turns, t.opens = false) (hdevice : .device ∉ turns) :
    s.device.queued <+: received turns ++ last.device.queued := by
  induction h with
  | nil => exact List.prefix_rfl
  | @cons s next last t turns htakes _ ih =>
    obtain ⟨hne, hnot⟩ := not_or.mp (mt List.mem_cons.mpr hdevice)
    have hfirst := htakes.queued (hopens t (by simp)) (Ne.symm hne)
    have hlater := ih (fun t ht => hopens t (List.mem_cons_of_mem _ ht)) hnot
    have hreceived : received (t :: turns) = t.taken ++ received turns := List.flatMap_cons
    rw [hreceived, List.append_assoc]
    exact hfirst.trans (List.prefix_append_right_inj _ |>.mpr hlater)

/-- Each read leaves less to be read, so the reader stops only when a job can move, or when
there is nothing to be read. -/
theorem hear_stops {n : Nat} {s : Session} (h : s.device.backlog ≤ n) :
    (s.hear n).work?.isSome = true ∨ (s.hear n).read? = none := by
  induction n generalizing s with
  | zero =>
    right
    -- without anything queued there is nothing to be read
    show s.read? = none
    rw [read?, Bench.Device.inbound_of_backlog (Nat.le_zero.mp h)]
    cases s.link.reader <;> rfl
  | succ n ih =>
    unfold hear
    split
    · rename_i hwork
      exact .inl hwork
    · split
      · rename_i hwork _ next hread
        obtain ⟨item, htakes⟩ := takes_of_read? (atRest_of_work? (by simpa using hwork)) hread
        -- a read takes at least one byte, a fault or an end away
        have hlt : next.device.backlog < s.device.backlog := by
          cases htakes with
          | @read _ rest _ _ hitem _ =>
            obtain ⟨r, -, -, rfl⟩ := read?_cases hitem hread
            exact Bench.backlog_lt hitem (congrArg Bench.Device.inbound
              (device_readItem { s with device.inbound := leftOver item ++ rest } r item))
        exact ih (by omega)
      · rename_i hread
        exact .inr hread

/-- At rest, a reader that goes on reading has read all. -/
theorem inbound_settle {s : Session} (hs : s.core.Sound) (h : s.settle.begun? ≠ none) :
    s.settle.device.inbound = [] := by
  obtain ⟨s', -, hend, hwork⟩ := settleFor_ends hs (Nat.lt_succ_self s.core.workLeft)
  -- the reads are bounded by the backlog, so it is not the bound that has stopped the reader
  have hread : (settleFor (s.core.workLeft + 1) s).read? = none := by
    rw [hend] at hwork ⊢
    exact (hear_stops (Nat.le_refl _)).resolve_left (by simp [hwork])
  have hsettle : s.settle = (settleFor (s.core.workLeft + 1) s).timeOut := rfl
  rw [hsettle, begun?_timeOut] at h
  rw [hsettle, device_timeOut]
  generalize settleFor (s.core.workLeft + 1) s = last at h hread
  unfold begun? at h
  unfold read? at hread
  cases hr : last.link.reader with
  | none => simp [hr] at h
  | some r =>
    cases hclosing : r.closing with
    | true => simp [hr, hclosing] at h
    | false =>
      cases hinbound : last.device.inbound with
      | nil => rfl
      | cons item rest => simp [hr, hclosing, hinbound] at hread

/-- At rest a reader at work has left nothing unread. -/
theorem inbound_after {s : Session} (hnew : s.IsNew) (steps : List Step)
    (h : (s.after steps).begun? ≠ none) : (s.after steps).device.inbound = [] := by
  -- on the last step: one that waits changes nothing, and after any other the threads run to rest
  induction steps using List.reverseRecOn with
  | nil =>
    have hreader : s.link.reader = none := by rw [hnew.link]
    exact absurd (show s.begun? = none by simp [begun?, hreader]) h
  | append_singleton steps step ih =>
    have hcalm := calm_after hnew.calm steps
    have hlast : s.after (steps ++ [step]) = ((s.after steps).perform step).2 := by simp [after]
    rw [hlast] at h ⊢
    unfold perform at h ⊢
    split
    · rename_i hwaits
      rw [if_pos hwaits] at h
      exact ih h
    · rename_i hwaits
      rw [if_neg hwaits] at h
      exact inbound_settle ((act_goes _ step hcalm).sound hcalm.sound) h

/-! ### What the reader tells -/

/-- What the reader has told since a connection was opened, and what it has of a line, after
some turns. -/
structure Listens (first : Session) (turns : List Turn) (s : Session) : Prop where
  heard : s.heard = first.heard ++ (segments (received turns)).1.flatMap lineEvents ++
    failureEvents turns
  begun : s.begun? = none ∨ turns.findSome? Turn.failure? = none ∧
    s.begun? = some ((segments (received turns)).2, isFresh turns)

namespace Listens

variable {first s next last : Session} {t : Turn} {turns : List Turn}

/-- A reader that has just begun has read nothing. -/
theorem start (h : first.begun? = none ∨ first.begun? = some ([], false)) :
    Listens first [] first where
  heard := by simp [received, segments, failureEvents]
  begun := h.imp_right fun h => ⟨rfl, h⟩

/-- A reader that goes on reading has told all lines, and has not found the transport broken. -/
theorem of_reader (h : Listens first turns s) {r : Link.Reader} (hr : s.link.reader = some r)
    (hclosing : r.closing = false) :
    s.heard = first.heard ++ (segments (received turns)).1.flatMap lineEvents ∧
      turns.findSome? Turn.failure? = none ∧ r.pending = (segments (received turns)).2 ∧
      r.fresh = isFresh turns := by
  have hbegun := begun?_of_reader hr hclosing
  rcases h.begun with hnone | ⟨hfailure, hsome⟩
  · rw [hbegun] at hnone
    cases hnone
  · obtain ⟨hpending, hfresh⟩ := Prod.mk.inj (Option.some.inj (hbegun.symm.trans hsome))
    refine ⟨?_, hfailure, hpending, hfresh⟩
    rw [h.heard, failureEvents, hfailure]
    exact List.append_nil _

/-- A turn in which nothing is read. -/
theorem pass (h : Listens first turns s) (htaken : t.taken = []) (hfailure : t.failure? = none)
    (hheard : next.heard = s.heard)
    (hbegun : next.begun? = none ∨
      next.begun? = s.begun?.map fun begun => (begun.1, t.freshen begun.2)) :
    Listens first (turns ++ [t]) next := by
  have hreceived : received (turns ++ [t]) = received turns := by
    simp [received, htaken]
  have hfailures : (turns ++ [t]).findSome? Turn.failure? = turns.findSome? Turn.failure? := by
    simp [List.findSome?_append, hfailure]
  refine ⟨?_, ?_⟩
  -- what is told and what has begun, each with the turn appended
  · rw [hheard, h.heard, hreceived, failureEvents, failureEvents, hfailures]
  · rw [hreceived, hfailures, isFresh_append]
    rcases hbegun with hnone | hsame
    · exact .inl hnone
    · rw [hsame]
      rcases h.begun with hnone | ⟨hsome, hbegun⟩
      · exact .inl (by rw [hnone]; rfl)
      · exact .inr ⟨hsome, by rw [hbegun]; rfl⟩

/-- A turn that has nothing to do with reading. -/
theorem keep (h : Listens first turns s) (htaken : t.taken = []) (hfailure : t.failure? = none)
    (hfreshen : ∀ fresh, t.freshen fresh = fresh) (hheard : next.heard = s.heard)
    (hbegun : next.begun? = none ∨ next.begun? = s.begun?) : Listens first (turns ++ [t]) next := by
  refine h.pass htaken hfailure hheard (hbegun.imp_right fun hsame => ?_)
  have hself : (fun begun : List UInt8 × Bool => (begun.1, t.freshen begun.2)) = id :=
    funext fun begun => by rw [hfreshen]; rfl
  rw [hself, Option.map_id]
  exact hsame

/-- A wait in vain. -/
theorem wait (h : Listens first turns s) (htaken : t.taken = []) (hfailure : t.failure? = none)
    (hfreshen : ∀ fresh, t.freshen fresh = false) : Listens first (turns ++ [t]) s.timeOut := by
  have hheard : s.timeOut.heard = s.heard := by
    unfold timeOut
    split <;> rfl
  refine h.pass htaken hfailure hheard (.inr ?_)
  rw [begun?_timeOut]
  simp only [hfreshen]

/-- Bytes that are read go on with the line that is begun, or end it. -/
theorem bytes (h : Listens first turns s) {r : Link.Reader} (hr : s.link.reader = some r)
    (hclosing : r.closing = false) (content : List UInt8) :
    Listens first (turns ++ [.read (.bytes content)]) (s.readItem r (.bytes content)) := by
  obtain ⟨hheard, hfailure, hpending, hfresh⟩ := h.of_reader hr hclosing
  have hreceived : received (turns ++ [.read (.bytes content)]) =
      received turns ++ (spanLine content).1 := by
    simp [received, Turn.taken, Bench.Item.taken]
  have hfailures : (turns ++ [Turn.read (.bytes content)]).findSome? Turn.failure? = none := by
    simp [List.findSome?_append, hfailure, Turn.failure?]
  have hnone : failureEvents (turns ++ [.read (.bytes content)]) = [] := by
    rw [failureEvents, hfailures]
    rfl
  simp only [readItem]
  rcases Bench.spanLine_cases content with hbody | ⟨body, hbody, hline⟩
  · -- no line feed was read, so nothing is told yet
    have hopen : ¬(spanLine content).1.getLast? = some 10 := fun h => hbody (List.mem_of_getLast? h)
    rw [if_neg hopen]
    refine ⟨?_, .inr ⟨hfailures, ?_⟩⟩
    · rw [hreceived, segments_append_body _ hbody, hnone, List.append_nil]
      exact hheard
    · rw [hreceived, segments_append_body _ hbody, isFresh_append]
      simp [begun?, hclosing, Turn.freshen, hopen, hpending, hfresh]
  · -- the line feed ends the line that earlier reads have begun
    have hended : (spanLine content).1.getLast? = some 10 := by simp [hline]
    rw [if_pos hended]
    obtain ⟨htold, hbegun⟩ := completeLine_begun s r (spanLine content).1 hclosing
    refine ⟨?_, hbegun.imp_right fun h => ⟨hfailures, ?_⟩⟩
    · rw [hreceived, hnone, htold, hheard, hpending, hline, segments_append_line _ hbody]
      simp [List.flatMap_append]
    · rw [h, hreceived, isFresh_append, hline, segments_append_line _ hbody]
      simp [Turn.freshen, hended]

/-- A read that fails for good is the last one. -/
theorem fails (h : Listens first turns s) {r : Link.Reader} (hr : s.link.reader = some r)
    (hclosing : r.closing = false) {reason : String} (htaken : t.taken = [])
    (hreason : t.failure? = some reason) : Listens first (turns ++ [t]) (s.fault reason) := by
  obtain ⟨hheard, hfailure, -⟩ := h.of_reader hr hclosing
  have hreceived : received (turns ++ [t]) = received turns := by
    simp [received, htaken]
  have hfailures : failureEvents (turns ++ [t]) = faultEvents reason := by
    simp [failureEvents, List.findSome?_append, hfailure, hreason]
  refine ⟨?_, .inl (begun?_fault s reason)⟩
  rw [(fault_tells s reason).heard, hheard, hreceived, hfailures]

end Listens

/-- What the reader tells, turn by turn: only the end of the stream right after some bytes that
are no line yet is told otherwise. -/
theorem Takes.listens {first s next : Session} {t : Turn} {turns : List Turn}
    (h : s.Takes t next) (hopens : t.opens = false) (hs : Listens first turns s)
    (hending : t = .read .ending → isFresh turns = false) : Listens first (turns ++ [t]) next := by
  have hwrites : t.isQuiet = true → t.taken = [] → t.failure? = none →
      (∀ fresh, t.freshen fresh = fresh) → Listens first (turns ++ [t]) next := by
    intro hquiet htaken hfailure hfreshen
    have hadds := (h.writes hquiet).adds
    exact hs.keep htaken hfailure hfreshen hadds.heard hadds.begun
  cases h with
  | @read item rest _ hrest hitem h =>
    obtain ⟨r, hr, hclosing, rfl⟩ := read?_cases hitem h
    -- what remains queued concerns nothing that is told
    have hs' : Listens first turns { s with device.inbound := leftOver item ++ rest } :=
      ⟨hs.heard, hs.begun⟩
    cases item with
    | bytes content => exact hs'.bytes hr hclosing content
    | fault f =>
      simp only [readItem]
      cases hinterrupt : f.isInterrupt with
      | true =>
        exact hs'.keep rfl (by simp [Turn.failure?, hinterrupt])
          (by simp [Turn.freshen, hinterrupt]) rfl (.inr rfl)
      | false =>
        cases htimeout : f.isTimeout with
        | true =>
          have hwaited := hs'.wait (t := .read (.fault f)) rfl (by simp [Turn.failure?, htimeout])
            (by simp [Turn.freshen, hinterrupt])
          simp only [timeOut, hr] at hwaited
          exact hwaited
        | false => exact hs'.fails hr hclosing rfl (by simp [Turn.failure?, hinterrupt, htimeout])
    | ending =>
      obtain ⟨-, -, -, hfresh⟩ := hs.of_reader hr hclosing
      simp only [readItem, hfresh, hending rfl, Bool.false_eq_true, if_false]
      exact hs'.fails hr hclosing rfl rfl
  | idle => exact hs.wait rfl rfl fun _ => rfl
  | arm | device => exact hs.keep rfl rfl (fun _ => rfl) rfl (.inr rfl)
  | opening => cases hopens
  | _ => exact hwrites rfl rfl rfl fun _ => rfl

/-- What the reader tells, run by run. -/
theorem Runs.listens {first s last : Session} {turns more : List Turn} (h : s.Runs more last)
    (hopens : ∀ t ∈ more, t.opens = false) (hs : Listens first turns s)
    (hending : ¬EndsFresh (turns ++ more)) : Listens first (turns ++ more) last := by
  -- on the turns to come; those that were taken are collected in `turns`
  induction h generalizing turns with
  | nil =>
    rw [List.append_nil]
    exact hs
  | @cons s next last t more htakes _ ih =>
    have hassoc : turns ++ t :: more = turns ++ [t] ++ more := by simp
    have hnext : Listens first (turns ++ [t]) next := by
      refine htakes.listens (hopens t (by simp)) hs fun ht => eq_false_of_ne_true fun hfresh => ?_
      exact hending ⟨turns, more, by rw [ht], hfresh⟩
    rw [hassoc] at hending ⊢
    exact ih (fun t ht => hopens t (List.mem_cons_of_mem _ ht)) hnext hending

/-- A run of turns is a run of the first of them and one of the others. -/
theorem Runs.split {s last : Session} {turns more : List Turn} (h : s.Runs (turns ++ more) last) :
    ∃ mid, s.Runs turns mid ∧ mid.Runs more last := by
  induction turns generalizing s with
  | nil => exact ⟨s, .nil s, h⟩
  | cons t turns ih =>
    cases h with
    | cons htakes hrest =>
      obtain ⟨mid, hturns, hmore⟩ := ih hrest
      exact ⟨mid, .cons htakes hturns, hmore⟩

/-- At the end of the stream, what was just read without a line feed is told as a line. -/
theorem Takes.tells_last {first s next : Session} {turns : List Turn}
    (h : s.Takes (.read .ending) next) (hs : Listens first turns s)
    (hfresh : isFresh turns = true) :
    next.heard = first.heard ++
        ((segments (received turns)).1 ++ [(segments (received turns)).2]).flatMap lineEvents ∧
      (next.begun? = none ∨ next.begun? = some ([], false)) := by
  cases h with
  | read hrest hitem h =>
    obtain ⟨r, hr, hclosing, rfl⟩ := read?_cases hitem h
    obtain ⟨hheard, -, hpending, hfresh'⟩ := hs.of_reader hr hclosing
    simp only [readItem, hfresh', hfresh, if_true]
    obtain ⟨htold, hbegun⟩ := completeLine_begun
      { s with device.inbound := leftOver .ending ++ _ } r [] hclosing
    refine ⟨?_, hbegun⟩
    rw [htold, List.append_nil, hpending, List.flatMap_append]
    show s.heard ++ _ = _
    rw [hheard]
    simp

/-- A port that is opened has a reader that begins anew, or none. -/
theorem Takes.reader_of_opening {s next : Session} (h : s.Takes .opening next) :
    next.link.reader = none ∨ next.link.reader = some {} := by
  have hbecome : ∀ (s : Session) (state : Link.ConnectionState),
      (s.become .caller state).link.reader = s.link.reader := by
    intro s state
    rw [link_become]
  cases h with
  | opening hrest hfree hgone port baud =>
    obtain ⟨s', hlink, -, -, ⟨-, e, h⟩ | ⟨-, -, h⟩⟩ := openPort_cases s .caller port baud
    -- a connect that fails leaves the reader as it was, and there was none
    · left
      rw [h, ← hgone, ← hbecome s .connecting, ← hlink]
      exact hbecome s' .faulted
    · rcases s'.startReader_cases .caller port baud with hstart | ⟨reason, hstart⟩
      · right
        rw [h, hstart]
        rfl
      -- the reader that was to begin got no thread, so there is none again
      · left
        have hmade : (s'.establish .caller port).link.reader = s'.link.reader :=
          hbecome { s' with link := s'.link.establish port } .connected
        rw [h, hstart, ← hgone, ← hbecome s .connecting, ← hlink, ← hmade]
        exact hbecome { s'.establish .caller port with
          device := (s'.establish .caller port).device.spawn.2
          link := (s'.establish .caller port).link.shut } .faulted

/-! ### A connection -/

/-- Every connection, however its bytes are cut into reads and whatever else happens:

* a session is a run of turns. At rest, a reader that goes on reading has received all that was
  to be read;
* what waits to be read at any time is received in order and at most once, until a port is opened
  or the device is changed by other means than what it sends;
* a port that is opened has a reader that begins anew, or none. Until another is opened, the
  reader tells the observer of the lines of what is received, and then of the read that has
  failed, if one has;
* only if the stream ends right after some bytes that are no line yet, these are told as one
  further line. -/
theorem lines_delivered {s : Session} (hnew : s.IsNew) :
    (∀ steps, (∃ turns, s.Runs turns (s.after steps)) ∧
      ((s.after steps).begun? ≠ none → (s.after steps).device.queued = [])) ∧
    (∀ (mid : Session) turns last, mid.Runs turns last → (∀ t ∈ turns, t.opens = false) →
      .device ∉ turns → mid.device.queued <+: received turns ++ last.device.queued) ∧
    ∀ opened first turns last, Takes opened .opening first → first.Runs turns last →
      (∀ t ∈ turns, t.opens = false) →
      (first.link.reader = none ∨ first.link.reader = some {}) ∧
      (¬EndsFresh turns → last.heard = first.heard ++
        (segments (received turns)).1.flatMap lineEvents ++ failureEvents turns) ∧
      ∀ reads more, turns = reads ++ .read .ending :: more → ¬EndsFresh reads →
        isFresh reads = true → received more = [] →
        last.heard = first.heard ++ ((segments (received reads)).1 ++
          [(segments (received reads)).2]).flatMap lineEvents ++ failureEvents more := by
  refine ⟨fun steps => ⟨?_, fun hbegun => ?_⟩, fun mid turns last hrun => hrun.queued,
    fun opened first turns last htakes hrun hopens => ?_⟩
  · have hleads : Leads (fun _ => true) s (s.after steps) :=
      after_leads hnew.calm hnew.stands fun _ _ _ _ => rfl
    obtain ⟨turns, hrun, -⟩ := hleads
    exact ⟨turns, hrun⟩
  · rw [Bench.Device.queued, inbound_after hnew steps hbegun]
    rfl
  · have hreader := htakes.reader_of_opening
    have hstart : Listens first [] first :=
      .start (hreader.imp (fun h => by simp [begun?, h]) fun h => by simp [begun?, h])
    refine ⟨hreader, fun hending => ?_, ?_⟩
    · exact (hrun.listens hopens hstart hending).heard
    · rintro reads more rfl hreads hfresh hnone
      obtain ⟨mid, hbefore, hafter⟩ := hrun.split
      cases hafter with
      | @cons _ told _ _ _ hend hmore =>
        have hlistens : Listens first reads mid :=
          hbefore.listens (fun t ht => hopens t (List.mem_append_left _ ht)) hstart hreads
        obtain ⟨hheard, hbegun⟩ := hend.tells_last hlistens hfresh
        -- no byte comes after the stream has ended, so it cannot end in a line's beginning again
        have hstale : ¬EndsFresh more := by
          rintro ⟨others, later, rfl, hfresh'⟩
          rw [received_append] at hnone
          rw [isFresh_of_received (List.append_eq_nil_iff.mp hnone).1] at hfresh'
          cases hfresh'
        have hlast := hmore.listens (fun t ht => hopens t (by simp [ht])) (.start hbegun) hstale
        rw [hlast.heard, List.nil_append, hnone, hheard]
        simp [segments]

/-- A session that has just opened a port. -/
def listening : Session := (({} : Session).openPort .caller "COM3" 9600).2

/-- The device sends a line with a character in two parts and a wait between them, and the
beginning of another, at which the stream ends. -/
def cutCharacter : List Bench.Item :=
  [.bytes [195], .fault (.usual .timedOut), .bytes [169, 10, 111], .ending]

/-- The turns before the stream ends: the device sends, and the reader reads. -/
def cutReads : List Turn :=
  [.operator, .read (.bytes [195]), .read (.fault (.usual .timedOut)),
    .read (.bytes [169, 10, 111]), .read (.bytes [111])]

/-- The character is put together again, and the beginning of a line is told as a line. -/
theorem lines_delivered_cutCharacter :
    ∃ last, listening.Runs (cutReads ++ [.read .ending]) last ∧
      last.heard = listening.heard ++ [.log "GRBL: é", .log "GRBL: o"] := by
  have hrun : ∃ last, listening.Runs (cutReads ++ [.read .ending]) last :=
    ⟨_, .cons (.sends cutCharacter) <| .cons (.read (by decide +kernel) rfl rfl) <|
      .cons (.read (by decide +kernel) rfl rfl) <| .cons (.read (by decide +kernel) rfl rfl) <|
      .cons (.read (by decide +kernel) rfl rfl) <| .cons (.read (by decide +kernel) rfl rfl) <|
      .nil _⟩
  obtain ⟨last, hrun⟩ := hrun
  obtain ⟨-, -, hconnection⟩ := lines_delivered (s := {}) ⟨rfl, by decide⟩
  obtain ⟨-, -, htold⟩ := hconnection {} listening _ last
    (.opening (by decide) rfl rfl "COM3" 9600) hrun (by decide)
  have hevents : ((segments (received cutReads)).1 ++ [(segments (received cutReads)).2]).flatMap
      lineEvents ++ failureEvents [] = [.log "GRBL: é", .log "GRBL: o"] := rfl
  refine ⟨last, hrun, ?_⟩
  rw [htold cutReads [] rfl (not_endsFresh (by simp [cutReads])) (by decide) rfl,
    List.append_assoc, hevents]

end Session

end GcodeSender
