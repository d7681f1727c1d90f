import GcodeSender.Bench.Device

/-!
# `GcodeSender.Proofs.Bench.Delivery`: what becomes of bytes that are written

A write is made in as many calls as it takes, and each call may take a part, be made again,
fail, or not return. `Delivery.Takes` says which bytes the device has in the end, for each of
the three ways in which a delivery ends; they are always a beginning of what was to be written.

* `transmit_takes`, `letGo_takes`: so the wire grows by a beginning of the bytes, and by all of
  them if they are delivered.
* `transmit_following`, `letGo_following`: what the device has behind it, in its queue and on
  record, makes no difference to a delivery. The device only appends to it.

The second is one statement for all that the device collects. Who wants it for the queue alone,
or for the record alone, puts nothing into the rest.
-/

set_option autoImplicit false

namespace GcodeSender.Bench

/-! ### What is taken -/

/-- The bytes that are taken in a delivery of some bytes that ends like this. Only a thread that
may hang is held up. -/
inductive Delivery.Takes (mayHang : Bool) (bytes : List UInt8) : Delivery → List UInt8 → Prop
  | delivered : Takes mayHang bytes .delivered bytes
  | failed (reason : String) {taken : List UInt8} (h : taken <+: bytes) :
      Takes mayHang bytes (.failed reason) taken
  | hanging {taken rest : List UInt8} (hmay : mayHang = true) (h : taken ++ rest = bytes) :
      Takes mayHang bytes (.hanging rest) taken

/-- A part is taken first, and then more of what is left. -/
theorem Delivery.Takes.prepend {mayHang : Bool} {bytes taken : List UInt8} {ending : Delivery}
    (h : Takes mayHang bytes ending taken) (first : List UInt8) :
    Takes mayHang (first ++ bytes) ending (first ++ taken) := by
  cases h with
  | delivered => exact .delivered
  | failed reason h => exact .failed reason ((List.prefix_append_right_inj first).mpr h)
  | hanging hmay h => exact .hanging hmay (by rw [List.append_assoc, h])

namespace Device

/-- Calls to write take a beginning of what they are given, and all of it unless they fail or
are held up. -/
theorem writeAll_takes (mayHang : Bool) (acts : List WriteAct) (bytes : List UInt8) :
    Delivery.Takes mayHang bytes (writeAll mayHang acts bytes).2.2
      (writeAll mayHang acts bytes).1 := by
  induction acts generalizing bytes with
  | nil => exact .delivered
  | cons act acts ih =>
    cases act with
    | all => exact .delivered
    | some count =>
      simp only [writeAll]
      split
      · exact .failed _ (List.nil_prefix)
      · split
        · exact .delivered
        · -- a part is taken, and the next calls are given what is left
          have hrest := (ih (bytes.drop count)).prepend (bytes.take count)
          rwa [List.take_append_drop] at hrest
    | fail f =>
      simp only [writeAll]
      split
      · exact ih bytes
      · exact .failed _ (List.nil_prefix)
    | block =>
      cases mayHang with
      | true => exact .hanging rfl (List.nil_append bytes)
      | false => exact .delivered

/-- A write is held up by a call that blocks alone. -/
theorem block_mem_of_hanging {mayHang : Bool} {acts : List WriteAct} {bytes rest : List UInt8}
    (h : (writeAll mayHang acts bytes).2.2 = .hanging rest) : .block ∈ acts := by
  induction acts generalizing bytes with
  | nil => cases h
  | cons act acts ih =>
    cases act with
    | all => cases h
    | some count =>
      simp only [writeAll] at h
      split at h
      · cases h
      · split at h
        · cases h
        -- the blocking call is among the later ones, which are given what is left
        · exact List.mem_cons_of_mem _ (ih h)
    | fail f =>
      simp only [writeAll] at h
      split at h
      -- an interrupted call is made again with the same bytes
      · exact List.mem_cons_of_mem _ (ih h)
      · cases h
    | block => exact List.mem_cons_self

/-! ### What is on record, and what is still to be done -/

/-- The device may act and send, but it takes nothing, and its next discards go as they would. -/
structure Spares (d d' : Device) : Prop where
  wire : d'.wire = d.wire
  discards : d'.discards = d.discards

/-- One after the other. -/
theorem Spares.trans {d d' d'' : Device} (h : Spares d d') (h' : Spares d' d'') : Spares d d'' :=
  ⟨h'.wire.trans h.wire, h'.discards.trans h.discards⟩

/-- So it is where the device sends something. -/
theorem spares_reply (d : Device) (content : List UInt8) : Spares d (d.reply content) := by
  unfold reply
  split <;> exact ⟨rfl, rfl⟩

/-- A command is put on record and answered. -/
theorem spares_receiveCommand (d : Device) (c : Machine.Realtime) :
    Spares d (d.receiveCommand c) :=
  ⟨(spares_reply _ _).wire, (spares_reply _ _).discards⟩

/-- A line is put on record and answered. -/
theorem spares_receiveLine (d : Device) (line : List UInt8) : Spares d (d.receiveLine line) :=
  ⟨(spares_reply _ _).wire, (spares_reply _ _).discards⟩

/-- A byte is acted on long after it was taken. -/
theorem spares_receiveByte (d : Device) (b : UInt8) : Spares d (d.receiveByte b) := by
  unfold receiveByte
  simp only []
  split
  · exact spares_receiveCommand d _
  · split
    · exact spares_receiveLine d _
    · exact ⟨rfl, rfl⟩

/-- The device acts on what it has taken and takes nothing more. -/
theorem spares_act (d : Device) : Spares d d.act := by
  have hbytes : ∀ (bytes : List UInt8) (d : Device), Spares d (bytes.foldl receiveByte d) := by
    intro bytes
    induction bytes with
    | nil => exact fun _ => ⟨rfl, rfl⟩
    | cons b bytes ih => exact fun d => (spares_receiveByte d b).trans (ih _)
  have hemptied : Spares d { d with unflushed := [] } := ⟨rfl, rfl⟩
  unfold act
  simp only []
  split
  · exact hemptied.trans (spares_receiveCommand _ _)
  · exact hemptied.trans (hbytes _ _)

/-- A flush, successful or not, has nothing taken. -/
theorem spares_flush (d : Device) : Spares d d.flush.2 := by
  unfold flush
  split
  · exact ⟨rfl, rfl⟩
  · exact ⟨(spares_act _).wire, (spares_act _).discards⟩

/-- A flush succeeds or fails, and does not hang. What it flushes has all been taken. -/
theorem flush_takes (d : Device) (mayHang : Bool) (bytes : List UInt8) :
    Delivery.Takes mayHang bytes d.flush.1 bytes := by
  unfold flush
  split
  · exact .failed _ List.prefix_rfl
  · exact .delivered

/-- The wire grows by what is taken of the bytes. -/
theorem transmit_takes (d : Device) (mayHang : Bool) (bytes : List UInt8) :
    ∃ taken, Delivery.Takes mayHang bytes (d.transmit mayHang bytes).1 taken ∧
      (d.transmit mayHang bytes).2.wire = d.wire ++ taken := by
  have htakes := writeAll_takes mayHang d.writes bytes
  unfold transmit
  generalize writeAll mayHang d.writes bytes = outcome at htakes ⊢
  obtain ⟨taken, writes, ending⟩ := outcome
  cases htakes with
  | delivered =>
    -- all is taken, and the flush decides
    exact ⟨taken, flush_takes _ mayHang taken, (spares_flush _).wire⟩
  | failed reason h => exact ⟨taken, .failed reason h, rfl⟩
  | hanging hmay h => exact ⟨taken, .hanging hmay h, rfl⟩

/-- A delivery is held up only if one of the next calls to write blocks. -/
theorem block_mem_of_transmit {d : Device} {mayHang : Bool} {bytes rest : List UInt8}
    (h : (d.transmit mayHang bytes).1 = .hanging rest) : .block ∈ d.writes := by
  have htakes := writeAll_takes mayHang d.writes bytes
  cases hends : (writeAll mayHang d.writes bytes).2.2 with
  | hanging => exact block_mem_of_hanging hends
  | failed reason => simp [transmit, hends] at h
  | delivered =>
    simp only [transmit, hends] at h
    have hflush := flush_takes
      (({ d with writes := (writeAll mayHang d.writes bytes).2.1 } : Device).take
        (writeAll mayHang d.writes bytes).1) false []
    rw [h] at hflush
    cases hflush with
    | hanging hmay => cases hmay

/-- A write that is let go takes what was missing, and does not hang again. -/
theorem letGo_takes (d : Device) (mayHang : Bool) (rest : List UInt8) :
    Delivery.Takes mayHang rest (d.letGo rest).1 rest ∧
      (d.letGo rest).2.wire = d.wire ++ rest :=
  ⟨flush_takes _ mayHang rest, (spares_flush _).wire⟩

/-- What is written does not change how the next discard goes. -/
theorem discards_transmit (d : Device) (mayHang : Bool) (bytes : List UInt8) :
    (d.transmit mayHang bytes).2.discards = d.discards := by
  unfold transmit
  generalize writeAll mayHang d.writes bytes = outcome
  obtain ⟨taken, writes, ending⟩ := outcome
  cases ending with
  | delivered => exact (spares_flush _).discards
  | failed | hanging => rfl

/-- Nor does a write that is let go. -/
theorem discards_letGo (d : Device) (rest : List UInt8) :
    (d.letGo rest).2.discards = d.discards := (spares_flush _).discards

/-! The calls around a connection put nothing on the wire. -/

/-- Opening a port. -/
theorem wire_connect (d : Device) (port : String) (baud : UInt32) :
    (d.connect port baud).2.wire = d.wire := by
  unfold connect
  split <;> rfl

/-- Discarding what waits to be read. -/
theorem wire_discard (d : Device) : d.discard.2.wire = d.wire := by
  unfold discard
  split <;> rfl

/-- Making a second handle. -/
theorem wire_clone (d : Device) : d.clone.2.wire = d.wire := by
  unfold clone
  split <;> rfl

/-- Starting a thread. -/
theorem wire_spawn (d : Device) : d.spawn.2.wire = d.wire := by
  unfold spawn
  split <;> rfl

/-- Starting a thread does not change how the next discard goes. -/
theorem discards_spawn (d : Device) : d.spawn.2.discards = d.discards := by
  unfold spawn
  split <;> rfl

/-- Whether a discard succeeds is laid down in the device. -/
theorem discard_of_discards {d d' : Device} (h : d'.discards = d.discards) :
    d'.discard.1 = d.discard.1 := by
  unfold discard
  rw [h]
  split <;> rfl

/-! ### What a device has behind it -/

/-- What a device remembers of what it was given. -/
structure Log where
  bauds : List UInt32 := []
  wire : List UInt8 := []
  lines : List (List UInt8) := []
  commands : List Machine.Realtime := []
deriving DecidableEq

/-- All that a device collects: with what it remembers, what waits to be read. -/
structure Collected extends Log where
  inbound : List Item := []

/-- The device with something that it has collected earlier. -/
def following (d : Device) (c : Collected) : Device :=
  { d with
    bauds := c.bauds ++ d.bauds
    wire := c.wire ++ d.wire
    lines := c.lines ++ d.lines
    commands := c.commands ++ d.commands
    inbound := c.inbound ++ d.inbound }

variable (d : Device) (c : Collected)

/-- The device appends what it sends to its queue. -/
theorem reply_following (content : List UInt8) :
    (d.following c).reply content = (d.reply content).following c := by
  unfold reply
  split
  · rfl
  · simp [following]

/-- It appends a line to those on record, and answers by its table alone. -/
theorem receiveLine_following (line : List UInt8) :
    (d.following c).receiveLine line = (d.receiveLine line).following c := by
  simp only [receiveLine, ← reply_following]
  simp [following]

/-- So with a single-byte command. -/
theorem receiveCommand_following (r : Machine.Realtime) :
    (d.following c).receiveCommand r = (d.receiveCommand r).following c := by
  simp only [receiveCommand, ← reply_following]
  simp [following]

/-- What a byte means depends on the line begun, and on nothing collected. -/
theorem receiveByte_following (b : UInt8) :
    (d.following c).receiveByte b = (d.receiveByte b).following c := by
  have hcarry : (d.following c).carry = d.carry := rfl
  have hrecognition : (d.following c).recognition = d.recognition := rfl
  simp only [receiveByte, hcarry, hrecognition]
  split
  · exact receiveCommand_following d c _
  · split
    · exact receiveLine_following d c _
    · rfl

/-- So with several bytes. -/
theorem foldl_receiveByte_following (bytes : List UInt8) :
    bytes.foldl receiveByte (d.following c) = (bytes.foldl receiveByte d).following c := by
  induction bytes generalizing d with
  | nil => rfl
  | cons b bytes ih => rw [List.foldl_cons, List.foldl_cons, receiveByte_following, ih]

/-- What the device makes of the bytes taken does not depend on what it has collected. -/
theorem act_following : (d.following c).act = d.act.following c := by
  simp only [act]
  have hlone : ({ d.following c with unflushed := [] } : Device).loneCommand?
      (d.following c).unflushed =
        ({ d with unflushed := [] } : Device).loneCommand? d.unflushed := rfl
  rw [hlone]
  split
  · exact receiveCommand_following { d with unflushed := [] } c _
  · exact foldl_receiveByte_following { d with unflushed := [] } c _

/-- A flush goes the same way whatever was collected. -/
theorem flush_following : (d.following c).flush = (d.flush.1, d.flush.2.following c) := by
  simp only [flush]
  have hflushes : (d.following c).flushes = d.flushes := rfl
  rw [hflushes]
  split
  · rfl
  · rename_i flushes _
    rw [← act_following]
    rfl

/-- Bytes are taken behind those on record. -/
theorem take_following (bytes : List UInt8) :
    (d.following c).take bytes = (d.take bytes).following c := by
  simp [take, following]

/-- A delivery goes the same way whatever the device has behind it. -/
theorem transmit_following (mayHang : Bool) (bytes : List UInt8) :
    (d.following c).transmit mayHang bytes =
      ((d.transmit mayHang bytes).1, (d.transmit mayHang bytes).2.following c) := by
  simp only [transmit]
  have hwrites : (d.following c).writes = d.writes := rfl
  rw [hwrites]
  have htake : ∀ (writes : List WriteAct) (taken : List UInt8),
      ({ d.following c with writes } : Device).take taken =
        (({ d with writes } : Device).take taken).following c :=
    fun writes taken => take_following { d with writes } c taken
  simp only [htake]
  split
  · exact flush_following _ c
  · rfl
  · rfl

/-- So does a write that is let go. -/
theorem letGo_following (rest : List UInt8) :
    (d.following c).letGo rest = ((d.letGo rest).1, (d.letGo rest).2.following c) := by
  simp only [letGo, take_following, flush_following]

end Device

end GcodeSender.Bench
