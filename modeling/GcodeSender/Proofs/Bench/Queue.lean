import GcodeSender.Proofs.Bench.Delivery
import GcodeSender.Session.Reading

/-!
# `GcodeSender.Proofs.Bench.Queue`: what waits to be read

The device appends what it sends to its queue, and the reader takes it from the front, at
most up to the end of a line at a time.

* `Device.inbound_transmit`, `Device.inbound_letGo`: whatever is written to the device, it
  only appends to its queue.
* `content_eq`: one read of an item takes the first of its bytes and leaves the rest.
* `backlog_lt`: each read lowers the bound on the reads to come.
-/

set_option autoImplicit false

namespace GcodeSender.Bench

/-! ### The device sends -/

namespace Device

/-- A device is one with nothing to be read, behind which its queue is put. -/
theorem eq_following_inbound (d : Device) :
    ({ d with inbound := [] } : Device).following { inbound := d.inbound } = d := by
  simp [following]

/-- What is written to the device makes it append to its queue at most. -/
theorem inbound_transmit (d : Device) (mayHang : Bool) (bytes : List UInt8) :
    d.inbound <+: (d.transmit mayHang bytes).2.inbound := by
  have h := transmit_following { d with inbound := [] } { inbound := d.inbound } mayHang bytes
  rw [eq_following_inbound] at h
  rw [h]
  exact List.prefix_append _ _

/-- So does a write that is let go. -/
theorem inbound_letGo (d : Device) (rest : List UInt8) :
    d.inbound <+: (d.letGo rest).2.inbound := by
  have h := letGo_following { d with inbound := [] } { inbound := d.inbound } rest
  rw [eq_following_inbound] at h
  rw [h]
  exact List.prefix_append _ _

/-- Starting a thread leaves the queue as it is. -/
theorem inbound_spawn (d : Device) : d.spawn.2.inbound = d.inbound := by
  unfold spawn
  split <;> rfl

end Device

/-! ### The reader takes -/

/-- The bytes that an item holds. -/
def Item.content : Item → List UInt8
  | .bytes content => content
  | .fault _ | .ending => []

/-- The bytes that one read takes of an item. -/
def Item.taken : Item → List UInt8
  | .bytes content => (Session.spanLine content).1
  | .fault _ | .ending => []

/-- All bytes that wait to be read. -/
def Device.queued (d : Device) : List UInt8 := d.inbound.flatMap Item.content

/-- A line and what is left behind it are the bytes. -/
theorem spanLine_append (bytes : List UInt8) :
    (Session.spanLine bytes).1 ++ (Session.spanLine bytes).2 = bytes := List.take_append_drop _ _

/-- What a read takes has no line feed, except at its end. -/
theorem spanLine_cases (bytes : List UInt8) :
    (10 ∉ (Session.spanLine bytes).1) ∨
      ∃ body, 10 ∉ body ∧ (Session.spanLine bytes).1 = body ++ [10] := by
  induction bytes with
  | nil => exact .inl (by simp [Session.spanLine])
  | cons b bytes ih =>
    by_cases hb : b = 10
    · exact .inr ⟨[], by simp, by simp [Session.spanLine, hb]⟩
    · have hspan : (Session.spanLine (b :: bytes)).1 = b :: (Session.spanLine bytes).1 := by
        simp [Session.spanLine, hb]
      rw [hspan]
      rcases ih with hnone | ⟨body, hbody, heq⟩
      · exact .inl (by simp [hnone, Ne.symm hb])
      · exact .inr ⟨b :: body, by simp [hbody, Ne.symm hb], by rw [heq]; rfl⟩

/-- One read of an item takes the first of its bytes and leaves the rest. -/
theorem content_eq (item : Item) :
    item.content = item.taken ++ (Session.leftOver item).flatMap Item.content := by
  cases item with
  | bytes content =>
    -- what is queued again is the rest of the piece, or nothing where it has been read up
    have hleft : (Session.leftOver (.bytes content)).flatMap Item.content =
        (Session.spanLine content).2 := by
      simp only [Session.leftOver]
      split
      · rename_i hnil
        exact hnil.symm
      · rename_i hcons
        simp [Item.content, hcons]
    rw [hleft]
    exact (spanLine_append content).symm
  | fault | ending => rfl

/-- The reads that an item allows at most. -/
def Item.weight (item : Item) : Nat := item.content.length + 1

/-- The reads that some items allow at most. -/
def reads (items : List Item) : Nat := items.foldr (fun item n => item.weight + n) 0

/-- The reads that items take add up. -/
theorem reads_append (items more : List Item) :
    reads (items ++ more) = reads items + reads more := by
  induction items with
  | nil => exact (Nat.zero_add _).symm
  | cons item items ih =>
    show item.weight + reads (items ++ more) = item.weight + reads items + reads more
    omega

/-- The backlog of a device is what the items in its queue take. -/
theorem Device.backlog_eq (d : Device) : d.backlog = reads d.inbound := by
  -- for any count so far, since the fold carries it along
  have hfold : ∀ (items : List Item) (n : Nat),
      items.foldl (fun n item => n + item.weight) n = n + reads items := by
    intro items
    induction items with
    | nil => exact fun _ => rfl
    | cons item items ih =>
      intro n
      rw [List.foldl_cons, ih]
      exact Nat.add_assoc n item.weight (reads items)
  have hweight : d.backlog = d.inbound.foldl (fun n item => n + item.weight) 0 := by
    unfold backlog
    congr 1
    funext n item
    cases item <;> rfl
  rw [hweight, hfold, Nat.zero_add]

/-- Without a backlog nothing is queued. -/
theorem Device.inbound_of_backlog {d : Device} (h : d.backlog = 0) : d.inbound = [] := by
  rw [backlog_eq] at h
  cases hinbound : d.inbound with
  | nil => rfl
  | cons item items =>
    rw [hinbound] at h
    have hweight : item.content.length + 1 + reads items = 0 := h
    omega

/-- What a read leaves of an item allows fewer reads. -/
theorem weight_leftOver (item : Item) : reads (Session.leftOver item) < item.weight := by
  cases item with
  | bytes content =>
    simp only [Session.leftOver]
    split
    · exact Nat.succ_pos _
    · rename_i b rest hrest
      -- a piece is not empty, so each read takes at least one byte of it
      have hlt : (Session.spanLine content).2.length < content.length := by
        have hne : content ≠ [] := by
          rintro rfl
          cases hrest
        have hpos := List.length_pos_iff.mpr hne
        rw [Session.spanLine, List.length_drop]
        omega
      rw [hrest] at hlt
      exact Nat.succ_lt_succ hlt
  | fault | ending => exact Nat.zero_lt_one

/-- A read leaves less to be read. -/
theorem backlog_lt {d d' : Device} {item : Item} {rest : List Item}
    (h : d.inbound = item :: rest) (h' : d'.inbound = Session.leftOver item ++ rest) :
    d'.backlog < d.backlog := by
  have hweight := weight_leftOver item
  have hreads : reads (item :: rest) = item.weight + reads rest := rfl
  rw [Device.backlog_eq, Device.backlog_eq, h, h', reads_append, hreads]
  omega

/-- The bytes in the queue are those that one read takes, and then those that it leaves. -/
theorem queued_eq {d d' : Device} {item : Item} {rest : List Item}
    (h : d.inbound = item :: rest) (h' : d'.inbound = Session.leftOver item ++ rest) :
    d.queued = item.taken ++ d'.queued := by
  rw [Device.queued, Device.queued, h, h', List.flatMap_cons, List.flatMap_append, content_eq,
    List.append_assoc]

end GcodeSender.Bench
