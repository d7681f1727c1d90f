import GcodeSender.Proofs.Link.Numbering

/-!
# `GcodeSender.Proofs.Link.Counters`: an armed slot is never stuck behind its counters

A device may send answers that no line has asked for. The counters of the slot then move under
different conditions: `owed` stops at zero, and `skip` goes down only while an answer is wanted
and none is there. `GcodeSender.Proofs.Link.Numbering` sets such devices aside. Here the histories
of a slot are any lists of uses.

* `owed_of_wanting`: while an answer is wanted, what is owed are the answers to be let pass and
  those to the lines counted since the slot was armed. `Balanced` is the invariant behind it. In
  this state `owed` never stops at zero, because an answer to be let pass is always an owed one.
* `results_of_wanting`: from any slot where an answer is wanted, whether or not a history leads
  there, the first `skip` offers are let pass, the next one is taken, and no later one is.
* `armed_never_stuck` puts the two together.
-/

set_option autoImplicit false

namespace GcodeSender.Link

namespace SlotUse

/-- The lines counted since the slot was last armed. -/
def notedSinceArm (uses : List SlotUse) : Nat := (uses.rtakeWhile (!·.isArm)).countP isNote

/-- The count begins again where the slot is armed, and goes on with each line. -/
theorem notedSinceArm_concat (uses : List SlotUse) (u : SlotUse) :
    notedSinceArm (uses ++ [u]) =
      if u.isArm then 0 else notedSinceArm uses + if u.isNote then 1 else 0 := by
  unfold notedSinceArm
  rw [List.rtakeWhile_concat]
  by_cases ha : u.isArm = true
  · simp [ha]
  · simp [ha, List.countP_singleton]

/-- The result of a use that has one: whether an offered answer is the wanted one. -/
def result? : SlotUse → Slot → Option Bool
  | .op o, s => o.result? s
  | .look, _ => none

/-- The use ends what was wanted so far: the slot is armed anew, a wait returns, or the connection
ends or begins. -/
def disturbs : SlotUse → Slot → Bool
  | .op .arm, _ | .op .close, _ | .op .reopen, _ => true
  | .look, s => s.check?.isSome
  | .op .noteSent, _ | .op (.offer _), _ | .op .cancel, _ | .op .resetCancel, _ => false

/-- An offer is the offer of a line. -/
theorem isOffer_iff {u : SlotUse} : u.isOffer = true ↔ ∃ line, u = .op (.offer line) := by
  unfold isOffer
  split <;> simp_all

end SlotUse

open SlotUse

namespace Slot

/-- An answer is wanted and none is there. -/
def Wanting (s : Slot) : Prop := s.armed = true ∧ s.response = none

/-- None of the uses ends what is wanted. -/
def Undisturbed (s : Slot) : List SlotUse → Prop
  | [] => True
  | u :: uses => u.disturbs s = false ∧ (u.on s).Undisturbed uses

/-- What the offers among the uses return, in order. -/
def results (s : Slot) : List SlotUse → List Bool
  | [] => []
  | u :: uses => (u.result? s).toList ++ (u.on s).results uses

/-! ### Offers -/

section

variable {s : Slot}

/-- No answer is wanted, or one is there already. -/
def Idle (s : Slot) : Prop := s.armed = false ∨ s.response.isSome = true

/-- Any slot either wants an answer or does not. -/
theorem idle_or_wanting (s : Slot) : s.Idle ∨ s.Wanting := by
  unfold Idle Wanting
  cases s.armed <;> cases s.response <;> simp

/-- None does both. -/
theorem Idle.not_wanting (h : s.Idle) : ¬s.Wanting := by
  rintro ⟨harmed, hnone⟩
  simp [Idle, harmed, hnone] at h

/-- An idle slot lets every answer pass, and counts it. -/
theorem offer_of_idle (h : s.Idle) (line : String) : s.offer line = (false, s.credit) := by
  rcases h with harmed | hheld
  · simp [offer, credit, harmed]
  · simp [offer, credit, hheld]

/-- A slot that wants a later answer lets this one pass. -/
theorem offer_of_pass (h : s.Wanting) (hskip : 0 < s.skip) (line : String) :
    s.offer line = (false, { s.credit with skip := s.skip - 1 }) := by
  simp [offer, credit, h.1, h.2, hskip]

/-- A slot that lets no more pass takes the answer. -/
theorem offer_of_take (h : s.Wanting) (hskip : s.skip = 0) (line : String) :
    s.offer line = (true, { s.credit with response := some line }) := by
  simp [offer, credit, h.1, h.2, hskip]

end

end Slot

/-! ### What is owed while an answer is wanted -/

/-- How the counters of a slot stand to each other, whatever was offered. -/
structure Balanced (uses : List SlotUse) (s : Slot) : Prop where
  /-- An answer is kept only where it was wanted and none was to be let pass. -/
  held : s.response.isSome = true → s.armed = true ∧ s.skip = 0
  /-- What is owed comes after what is to be let pass. -/
  owed : s.Wanting → s.owed = s.skip + notedSinceArm uses

namespace Balanced

variable {uses : List SlotUse} {s : Slot}

/-- In a new slot the counters are balanced. -/
theorem new : Balanced [] {} where
  held h := absurd h (by decide)
  owed h := absurd h.1 (by decide)

/-- Where nothing is wanted and nothing kept, the counters may be anything. -/
theorem unarmed (harmed : s.armed = false) (hnone : s.response = none) : Balanced uses s where
  held h := by simp [hnone] at h
  owed h := absurd h.1 (by simp [harmed])

/-- An answer arrives, owed or not. -/
theorem offer (h : Balanced uses s) (line : String) :
    Balanced (uses ++ [.op (.offer line)]) (s.offer line).2 := by
  have hnoted : notedSinceArm (uses ++ [.op (.offer line)]) = notedSinceArm uses := by
    simp [notedSinceArm_concat, isArm, isNote]
  rcases s.idle_or_wanting with hidle | hwanting
  · -- Dropped. Only `owed` may go down, and nothing is wanted.
    rw [Slot.offer_of_idle hidle]
    exact ⟨h.held, fun hwanting => absurd hwanting hidle.not_wanting⟩
  have howed := h.owed hwanting
  by_cases hskip : 0 < s.skip
  · -- Let pass. It is owed, since the slot has answers to let pass, so both counters go down.
    rw [Slot.offer_of_pass hwanting hskip]
    constructor
    · intro hheld
      exact absurd (show s.response.isSome = true from hheld) (by simp [hwanting.2])
    · intro _
      show s.owed - 1 = s.skip - 1 + notedSinceArm (uses ++ [.op (.offer line)])
      omega
  · -- Taken, by a slot with none to let pass.
    have hzero : s.skip = 0 := by omega
    rw [Slot.offer_of_take hwanting hzero]
    exact ⟨fun _ => ⟨hwanting.1, hzero⟩, fun htaken => absurd htaken.2 (by simp)⟩

/-- Every use keeps the balance. -/
theorem add (h : Balanced uses s) (u : SlotUse) : Balanced (uses ++ [u]) (u.on s) := by
  cases u with
  | look =>
    show Balanced _ ((s.check?.map Prod.snd).getD s)
    cases hcheck : s.check? with
    | none =>
      -- the wait goes on
      refine ⟨h.held, fun hwanting => ?_⟩
      rw [notedSinceArm_concat]
      exact h.owed hwanting
    | some ended =>
      obtain ⟨outcome, after⟩ := ended
      obtain ⟨rfl, -⟩ := Slot.check?_cases hcheck
      exact unarmed rfl rfl
  | op o =>
    cases o with
    | offer line => exact h.offer line
    | arm =>
      refine ⟨fun hheld => absurd hheld (by simp [SlotUse.on, SlotOp.on, Slot.arm]), fun _ => ?_⟩
      show s.owed = s.owed + notedSinceArm (uses ++ [.op .arm])
      rw [notedSinceArm_concat]
      rfl
    | noteSent =>
      refine ⟨h.held, fun hwanting => ?_⟩
      have hbefore := h.owed hwanting
      show s.owed + 1 = s.skip + notedSinceArm (uses ++ [.op .noteSent])
      rw [notedSinceArm_concat]
      show s.owed + 1 = s.skip + (notedSinceArm uses + 1)
      omega
    | cancel | resetCancel =>
      refine ⟨h.held, fun hwanting => ?_⟩
      rw [notedSinceArm_concat]
      exact h.owed hwanting
    | close | reopen => exact unarmed rfl rfl

end Balanced

namespace Slot

/-- The counters of a new slot balance after any uses. -/
theorem balanced (uses : List SlotUse) : Balanced uses (after {} uses) := by
  -- induction on the end of the history: each use is added to those before it
  induction uses using List.reverseRecOn with
  | nil => exact .new
  | append_singleton uses u ih =>
    rw [after_append]
    exact ih.add u

/-- A slot that wants an answer owes those that it lets pass, and those to the lines since. -/
theorem owed_of_wanting {uses : List SlotUse} (h : (after {} uses).Wanting) :
    (after {} uses).owed = (after {} uses).skip + notedSinceArm uses :=
  (balanced uses).owed h

/-! ### Offers to a slot that wants an answer -/

variable {s : Slot}

/-- A use that disturbs nothing and offers nothing leaves alone what decides about an offer. -/
theorem on_of_not_offer {u : SlotUse} (hu : u.disturbs s = false) (ho : u.isOffer = false) :
    (u.on s).armed = s.armed ∧ (u.on s).response = s.response ∧ (u.on s).skip = s.skip ∧
      u.result? s = none := by
  cases u with
  | look =>
    have hcheck : s.check? = none := by simpa [disturbs] using hu
    have hon : SlotUse.look.on s = s := by simp [SlotUse.on, hcheck]
    rw [hon]
    exact ⟨rfl, rfl, rfl, rfl⟩
  | op o =>
    cases o with
    | offer line => cases ho
    | noteSent | cancel | resetCancel => exact ⟨rfl, rfl, rfl, rfl⟩
    | arm | close | reopen => cases hu

/-- Once an answer is there, no other one is taken. -/
theorem results_of_held (h : s.response.isSome = true) {later : List SlotUse}
    (hlater : s.Undisturbed later) :
    s.results later = List.replicate (later.countP isOffer) false := by
  -- on the uses: an offer is refused, and every other use keeps the answer
  induction later generalizing s with
  | nil => rfl
  | cons u later ih =>
    obtain ⟨hu, hlater⟩ := hlater
    by_cases ho : u.isOffer = true
    · obtain ⟨line, rfl⟩ := isOffer_iff.mp ho
      have hheld : s.credit.response.isSome = true := h
      change (s.offer line).2.Undisturbed later at hlater
      show (s.offer line).1 :: (s.offer line).2.results later = _
      rw [offer_of_idle (.inr h)] at hlater ⊢
      rw [ih hheld hlater, List.countP_cons_of_pos ho, List.replicate_succ]
    · obtain ⟨-, hresponse, -, hnone⟩ := on_of_not_offer hu (by simpa using ho)
      rw [← hresponse] at h
      rw [results, hnone, ih h hlater, List.countP_cons_of_neg ho]
      rfl

/-- As many offers are let pass as the slot has to let pass, and then one is taken. -/
theorem results_of_wanting (h : s.Wanting) {later : List SlotUse} (hlater : s.Undisturbed later) :
    s.results later = (List.range (later.countP isOffer)).map fun i => decide (i = s.skip) := by
  induction later generalizing s with
  | nil => rfl
  | cons u later ih =>
    obtain ⟨hu, hlater⟩ := hlater
    by_cases ho : u.isOffer = true
    · obtain ⟨line, rfl⟩ := isOffer_iff.mp ho
      change (s.offer line).2.Undisturbed later at hlater
      show (s.offer line).1 :: (s.offer line).2.results later = _
      rw [List.countP_cons_of_pos ho, List.range_succ_eq_map, List.map_cons, List.map_map]
      by_cases hskip : 0 < s.skip
      · -- one less is to be let pass, and an answer is still wanted
        have hwanting : ({ s.credit with skip := s.skip - 1 } : Slot).Wanting := h
        rw [offer_of_pass h hskip] at hlater ⊢
        rw [ih hwanting hlater]
        refine congrArg₂ List.cons (decide_eq_false (by omega)).symm ?_
        refine List.map_congr_left fun i _ => decide_eq_decide.mpr ?_
        show i = s.skip - 1 ↔ i + 1 = s.skip
        omega
      · -- this is the one, and it stays in the slot
        have hzero : s.skip = 0 := by omega
        rw [offer_of_take h hzero] at hlater ⊢
        rw [results_of_held rfl hlater, hzero]
        simp [Function.comp_def]
    · obtain ⟨harmed, hnone, hskip, hresult⟩ := on_of_not_offer hu (by simpa using ho)
      have hwanting : (u.on s).Wanting := ⟨harmed.trans h.1, hnone.trans h.2⟩
      rw [results, hresult, ih hwanting hlater, hskip, List.countP_cons_of_neg ho]
      rfl

/-- **An armed slot is never stuck behind its counters**, whatever the device sends. After any
uses of a new slot:

* An answer is kept only by a slot that is armed and has none to let pass.
* While an answer is wanted, no more answers are to be let pass than are owed, and fewer if a line
  was counted since the slot was armed.
* From any slot at all where an answer is wanted, as long as nothing ends what is wanted, the next
  `skip` offers are let pass, the one after them is taken, and no later one is.
* So where a line was counted since the slot was armed, an answer is taken by the time the device
  has sent as many as it owes. -/
theorem armed_never_stuck (uses : List SlotUse) :
    (∀ line, (after {} uses).response = some line →
      (after {} uses).armed = true ∧ (after {} uses).skip = 0) ∧
    ((after {} uses).Wanting → (after {} uses).skip ≤ (after {} uses).owed ∧
      (0 < notedSinceArm uses → (after {} uses).skip < (after {} uses).owed)) ∧
    (∀ s : Slot, s.Wanting → ∀ later, s.Undisturbed later →
      s.results later = (List.range (later.countP isOffer)).map fun i => decide (i = s.skip)) ∧
    ((after {} uses).Wanting → 0 < notedSinceArm uses →
      ∀ later, (after {} uses).Undisturbed later →
        (after {} uses).owed ≤ later.countP isOffer → true ∈ (after {} uses).results later) := by
  -- a line counted since the slot was armed has its own answer yet to come
  have hbehind (hwanting : (after {} uses).Wanting) (hnoted : 0 < notedSinceArm uses) :
      (after {} uses).skip < (after {} uses).owed := by
    have howed := owed_of_wanting hwanting
    omega
  refine ⟨?_, ?_, ?_, ?_⟩
  · intro line hline
    exact (balanced uses).held (by rw [hline]; rfl)
  · intro hwanting
    have howed := owed_of_wanting hwanting
    exact ⟨by omega, hbehind hwanting⟩
  · intro s hwanting later hlater
    exact results_of_wanting hwanting hlater
  · intro hwanting hnoted later hlater hmany
    have hskip := hbehind hwanting hnoted
    rw [results_of_wanting hwanting hlater, List.mem_map]
    exact ⟨_, List.mem_range.mpr (Nat.lt_of_lt_of_le hskip hmany), decide_eq_true rfl⟩

/-- The device answers what nobody has asked, before and after a line that nobody waits for. Then
the slot is armed for the next line. -/
def unsolicited : List SlotUse :=
  [.op .reopen, .op (.offer "ok"), .op .arm, .op (.offer "ok"), .op (.offer "ok"), .look,
    .op .noteSent, .op .arm, .op .noteSent]

/-- Both lines are answered, and one that was not sent. Waits are called off and allowed again
meanwhile. -/
def meanwhile : List SlotUse :=
  [.op .cancel, .op (.offer "ok"), .op .resetCancel, .look, .op .noteSent, .op (.offer "error:2"),
    .op (.offer "ok")]

/-- The answers that nobody asked for are let pass, the next one is taken, and the one after it is
not. -/
theorem armed_never_stuck_unsolicited :
    ¬InTurn {} unsolicited ∧ (after {} unsolicited).Wanting ∧
      (after {} unsolicited).skip < (after {} unsolicited).owed ∧
      (after {} unsolicited).results meanwhile = [false, true, false] := by
  have hwanting : (after {} unsolicited).Wanting := by
    constructor <;> decide
  have hmeanwhile : (after {} unsolicited).Undisturbed meanwhile :=
    ⟨rfl, rfl, rfl, rfl, rfl, rfl, rfl, trivial⟩
  obtain ⟨-, hcounters, hresults, -⟩ := armed_never_stuck unsolicited
  refine ⟨by decide, hwanting, (hcounters hwanting).2 (by decide), ?_⟩
  exact hresults _ hwanting meanwhile hmeanwhile

end Slot

end GcodeSender.Link
