import GcodeSender.Link.Waiter
import GcodeSender.Proofs.Link.Slot
import Mathlib.Data.List.DropRight
import Mathlib.Data.List.Induction

/-!
# `GcodeSender.Proofs.Link.Numbering`: the counters number the lines

A controller answers lines in order, so on one connection the `n`-th answer is for the
`n`-th line. A slot has no numbers. It has the counters `owed` and `skip`, which run up
and down and are set back by different operations. This module numbers the lines and the
answers from the history of a slot and shows that the counters come to the same:

* `noted`, `offered`, `mark` and `accepted` are read off the list of uses alone, and so are
  `calledOff` and `isOver`, which say how a wait without an answer ends (`flags_after`);
* `Numbered` says how the slot's fields follow from them, and `Numbered.add` that every
  use keeps it, provided that no answer comes while none is owed;
* `acceptance_exact` says which answer is accepted, and what a wait returns.

A wait is the series of its looks: a look that finds nothing leaves the slot as it is.
-/

set_option autoImplicit false

namespace GcodeSender.Link

/-! ### The history of a slot -/

/-- One use of a slot. -/
inductive SlotUse where
  | op (o : SlotOp)
  /-- A thread that waits looks whether its wait can end. -/
  | look
deriving DecidableEq, Repr

namespace SlotUse

/-- The slot after a use. -/
def on : SlotUse → Slot → Slot
  | .op o, s => o.on s
  | .look, s => (s.check?.map Prod.snd).getD s

/-- The connection ends, or a new one begins. -/
def isBreak : SlotUse → Bool
  | .op .close | .op .reopen => true
  | _ => false

/-- The answer to the next line is wanted. -/
def isArm : SlotUse → Bool
  | .op .arm => true
  | _ => false

/-- A line is counted. -/
def isNote : SlotUse → Bool
  | .op .noteSent => true
  | _ => false

/-- An answer arrives. -/
def isOffer : SlotUse → Bool
  | .op (.offer _) => true
  | _ => false

/-- It counts nothing and begins nothing: the thread that waits looks, or its wait is called
off or allowed again. -/
def isQuiet : SlotUse → Bool
  | .look | .op .cancel | .op .resetCancel => true
  | _ => false

/-- Waits are called off, or allowed again. -/
def isCall : SlotUse → Bool
  | .op .cancel | .op .resetCancel => true
  | _ => false

/-- It takes nothing out of the slot: an answer that is there remains. -/
def leaves : SlotUse → Bool
  | .op .noteSent | .op (.offer _) | .op .cancel | .op .resetCancel => true
  | _ => false

/-- The answer that the slot takes in this use. -/
def accepted? : SlotUse → Slot → Option String
  | .op (.offer line), s => if (s.offer line).1 then some line else none
  | _, _ => none

end SlotUse

namespace Slot

/-- The slot after some uses. -/
def after (s : Slot) (uses : List SlotUse) : Slot := uses.foldl (fun s u => u.on s) s

/-- Without a use the slot is as it was. -/
@[simp] theorem after_nil (s : Slot) : s.after [] = s := rfl

/-- The first use comes first. -/
@[simp] theorem after_cons (s : Slot) (u : SlotUse) (uses : List SlotUse) :
    s.after (u :: uses) = (u.on s).after uses := rfl

/-- Later uses find the slot as the earlier ones have left it. -/
@[simp] theorem after_append (s : Slot) (uses more : List SlotUse) :
    s.after (uses ++ more) = (s.after uses).after more := List.foldl_append

/-- No answer arrives while none is owed. -/
def InTurn (s : Slot) : List SlotUse → Prop
  | [] => True
  | u :: uses => (u.isOffer = true → 0 < s.owed) ∧ InTurn (u.on s) uses

instance decidableInTurn : (s : Slot) → (uses : List SlotUse) → Decidable (s.InTurn uses)
  | _, [] => inferInstanceAs (Decidable True)
  | s, u :: uses =>
    haveI := decidableInTurn (u.on s) uses
    inferInstanceAs (Decidable ((u.isOffer = true → 0 < s.owed) ∧ (u.on s).InTurn uses))

/-- Uses are in turn if those before the last are and it is no answer out of its turn. -/
theorem inTurn_concat {s : Slot} {uses : List SlotUse} {u : SlotUse} :
    s.InTurn (uses ++ [u]) ↔ s.InTurn uses ∧ (u.isOffer = true → 0 < (s.after uses).owed) := by
  induction uses generalizing s with
  | nil => simp [InTurn]
  | cons v uses ih => simp [InTurn, ih, and_assoc]

/-- The answers that a slot takes in the course of some uses. -/
def takes (s : Slot) : List SlotUse → List String
  | [] => []
  | u :: uses => (u.accepted? s).toList ++ (u.on s).takes uses

/-- What is taken last is taken in the last use. -/
theorem takes_concat (s : Slot) (uses : List SlotUse) (u : SlotUse) :
    s.takes (uses ++ [u]) = s.takes uses ++ (u.accepted? (s.after uses)).toList := by
  induction uses generalizing s with
  | nil => simp [takes]
  | cons v uses ih => simp [takes, ih]

end Slot

/-! ### What the history numbers -/

namespace SlotUse

/-- The uses since the last connection ended or the present one began. -/
def sinceBreak (uses : List SlotUse) : List SlotUse := uses.rtakeWhile (!·.isBreak)

/-- The lines counted on the present connection. -/
def noted (uses : List SlotUse) : Nat := (sinceBreak uses).countP isNote

/-- The answers offered on the present connection. -/
def offered (uses : List SlotUse) : Nat := (sinceBreak uses).countP isOffer

/-- The lines counted on the present connection before the slot was last armed. -/
def mark (uses : List SlotUse) : Nat :=
  ((sinceBreak uses).rdropWhile (!·.isArm)).countP isNote

/-- The answers that a new slot has taken since it was last armed. -/
def accepted (uses : List SlotUse) : List String :=
  (Slot.after {} (uses.rdropWhile (!·.isArm))).takes (uses.rtakeWhile (!·.isArm))

/-- Waits were called off, and not allowed again since. -/
def calledOff (uses : List SlotUse) : Bool := (uses.filter isCall).getLast? = some (.op .cancel)

/-- No connection has begun, or the last one has ended. -/
def isOver (uses : List SlotUse) : Bool := (uses.filter isBreak).getLast? ≠ some (.op .reopen)

section

variable (uses : List SlotUse) (u : SlotUse)

/-- The last call decides whether waits are called off. -/
theorem calledOff_concat : calledOff (uses ++ [u]) =
    if u.isCall then decide (u = .op .cancel) else calledOff uses := by
  unfold calledOff
  rw [List.filter_append]
  by_cases hu : u.isCall = true <;> simp [hu]

/-- The last end or beginning of a connection decides whether there is one. -/
theorem isOver_concat : isOver (uses ++ [u]) =
    if u.isBreak then decide (u ≠ .op .reopen) else isOver uses := by
  unfold isOver
  rw [List.filter_append]
  by_cases hu : u.isBreak = true <;> simp [hu]

/-- A line more is counted, or the count begins again. -/
theorem noted_concat : noted (uses ++ [u]) =
    if u.isBreak then 0 else noted uses + if u.isNote then 1 else 0 := by
  unfold noted sinceBreak
  rw [List.rtakeWhile_concat]
  by_cases hb : u.isBreak = true
  · simp [hb]
  · simp [hb, List.countP_singleton]

/-- So are answers. -/
theorem offered_concat : offered (uses ++ [u]) =
    if u.isBreak then 0 else offered uses + if u.isOffer then 1 else 0 := by
  unfold offered sinceBreak
  rw [List.rtakeWhile_concat]
  by_cases hb : u.isBreak = true
  · simp [hb]
  · simp [hb, List.countP_singleton]

/-- The mark is set anew where the slot is armed. -/
theorem mark_concat : mark (uses ++ [u]) =
    if u.isBreak then 0 else if u.isArm then noted uses else mark uses := by
  unfold mark noted sinceBreak
  rw [List.rtakeWhile_concat]
  by_cases hb : u.isBreak = true
  · simp [hb]
  · by_cases ha : u.isArm = true
    · -- arming is no line itself
      have hn : u.isNote = false := by
        unfold isArm at ha
        split at ha <;> first | rfl | exact absurd ha (by decide)
      simp [hb, ha, hn]
    · simp [hb, ha]

/-- What was accepted is forgotten where the slot is armed, and goes on with each answer taken. -/
theorem accepted_concat : accepted (uses ++ [u]) =
    if u.isArm then [] else accepted uses ++ (u.accepted? (Slot.after {} uses)).toList := by
  unfold accepted
  rw [List.rtakeWhile_concat, List.rdropWhile_concat]
  by_cases ha : u.isArm = true
  · simp [ha, Slot.takes]
  · simp only [ha, Bool.not_false, if_true, Bool.false_eq_true, if_false]
    rw [Slot.takes_concat, ← Slot.after_append, List.rdropWhile_append_rtakeWhile]

end

end SlotUse

/-! ### The counters follow the numbers -/

open SlotUse

/-- What the fields of a slot say, in terms of its history. -/
structure Numbered (uses : List SlotUse) (s : Slot) : Prop where
  /-- Each line counted was answered or is owed its answer. -/
  owed : s.owed + offered uses = noted uses
  /-- The answers to be let pass are those to the lines before the armed one. -/
  skip : s.armed = true → s.response = none → s.skip + offered uses = mark uses
  wanted : s.armed = true → s.response = none → accepted uses = []
  held : ∀ line ∈ s.response, accepted uses = [line]

namespace Numbered

/-- In a new slot nothing is counted, and nothing is wanted. -/
theorem new : Numbered [] {} where
  owed := rfl
  skip h := absurd h (by decide)
  wanted h := absurd h (by decide)
  held line h := absurd h (by simp)

variable {uses : List SlotUse}

/-- An answer arrives. It is one more and one less owed; what else it changes depends on
whether it is let pass, taken or dropped. -/
theorem offer (h : Numbered uses (Slot.after {} uses)) (line : String)
    (hturn : 0 < (Slot.after {} uses).owed) :
    Numbered (uses ++ [.op (.offer line)]) ((Slot.after {} uses).offer line).2 := by
  generalize hs : Slot.after {} uses = s at h hturn
  have hmark : mark (uses ++ [.op (.offer line)]) = mark uses := by
    simp [mark_concat, isBreak, isArm]
  have hoffered : offered (uses ++ [.op (.offer line)]) = offered uses + 1 := by
    simp [offered_concat, isBreak, isOffer]
  have hnoted : noted (uses ++ [.op (.offer line)]) = noted uses := by
    simp [noted_concat, isBreak, isNote]
  have haccepted : accepted (uses ++ [.op (.offer line)]) =
      accepted uses ++ if (s.offer line).1 then [line] else [] := by
    simp only [accepted_concat, hs, isArm, accepted?, Bool.false_eq_true, if_false]
    split <;> rfl
  have howed := h.owed
  obtain ⟨harmed, hless, -, -, hcase⟩ := s.offer_cases line
  have hcount : (s.offer line).2.owed + (offered uses + 1) = noted uses := by omega
  obtain ⟨ha, hr, hpos, hresponse, hskip⟩ | ⟨ha, hr, hzero, hresponse⟩ | ⟨hidle, hresponse⟩ := hcase
  · -- let pass
    have hfalse : (s.offer line).1 = false := by simp [Slot.offer, Slot.credit, ha, hr, hpos]
    have hplace := h.skip ha hr
    have hnone := h.wanted ha hr
    refine ⟨by rw [hoffered, hnoted]; exact hcount, fun _ _ => ?_, fun _ _ => ?_, ?_⟩
    · rw [hskip, hoffered, hmark]
      omega
    · simp [haccepted, hfalse, hnone]
    · simp [hresponse]
  · -- taken
    have htrue : (s.offer line).1 = true := by simp [Slot.offer, Slot.credit, ha, hr, hzero]
    have hnone := h.wanted ha hr
    refine ⟨by rw [hoffered, hnoted]; exact hcount, ?_, ?_, ?_⟩
    · simp [hresponse]
    · simp [hresponse]
    · simp [hresponse, haccepted, htrue, hnone]
  · -- dropped
    have hfalse : (s.offer line).1 = false := by
      rcases hidle with ha | hr
      · simp [Slot.offer, Slot.credit, ha]
      · simp [Slot.offer, Slot.credit, hr]
    have hbusy : s.armed = true → s.response = none → False := by
      rintro ha hr
      simp [ha, hr] at hidle
    rw [← harmed, ← hresponse] at hbusy
    refine ⟨by rw [hoffered, hnoted]; exact hcount, fun ha hr => (hbusy ha hr).elim,
      fun ha hr => (hbusy ha hr).elim, ?_⟩
    rw [hresponse]
    simpa [haccepted, hfalse] using h.held

/-- A use that counts nothing keeps the numbering if it leaves the counters alone and an
empty armed slot was one before. -/
theorem quiet (h : Numbered uses (Slot.after {} uses)) {u : SlotUse} (hu : u.isQuiet = true)
    {s : Slot} (howed : s.owed = (Slot.after {} uses).owed)
    (hskip : s.skip = (Slot.after {} uses).skip)
    (hempty : s.armed = true → s.response = none →
      (Slot.after {} uses).armed = true ∧ (Slot.after {} uses).response = none)
    (hheld : ∀ line ∈ s.response, line ∈ (Slot.after {} uses).response) :
    Numbered (uses ++ [u]) s := by
  obtain ⟨hnoted, hoffered, hmark, haccepted⟩ : noted (uses ++ [u]) = noted uses ∧
      offered (uses ++ [u]) = offered uses ∧ mark (uses ++ [u]) = mark uses ∧
      accepted (uses ++ [u]) = accepted uses := by
    match u, hu with
    | .look, _ | .op .cancel, _ | .op .resetCancel, _ =>
      simp [noted_concat, offered_concat, mark_concat, accepted_concat, isBreak, isNote, isOffer,
        isArm, accepted?]
  constructor
  -- none of the numbers has changed, so each clause is what it was
  · rw [howed, hoffered, hnoted]
    exact h.owed
  · intro harmed hnone
    obtain ⟨harmed, hnone⟩ := hempty harmed hnone
    rw [hskip, hoffered, hmark]
    exact h.skip harmed hnone
  · intro harmed hnone
    obtain ⟨harmed, hnone⟩ := hempty harmed hnone
    rw [haccepted]
    exact h.wanted harmed hnone
  · intro line hline
    rw [haccepted]
    exact h.held line (hheld line hline)

/-- Every use keeps the numbering, if an answer comes in its turn. -/
theorem add (h : Numbered uses (Slot.after {} uses)) {u : SlotUse}
    (hturn : u.isOffer = true → 0 < (Slot.after {} uses).owed) :
    Numbered (uses ++ [u]) (u.on (Slot.after {} uses)) := by
  cases u with
  | look =>
    cases hcheck : (Slot.after {} uses).check? with
    | none =>
      -- the wait goes on
      have hon : SlotUse.look.on (Slot.after {} uses) = Slot.after {} uses := by
        simp [SlotUse.on, hcheck]
      rw [hon]
      exact h.quiet rfl rfl rfl (fun ha hr => ⟨ha, hr⟩) fun _ hline => hline
    | some ended =>
      obtain ⟨outcome, next⟩ := ended
      obtain ⟨hnext, -⟩ := Slot.check?_cases hcheck
      have hon : SlotUse.look.on (Slot.after {} uses) = next := by simp [SlotUse.on, hcheck]
      rw [hon, hnext]
      exact h.quiet rfl rfl rfl (by simp) (by simp)
  | op o =>
    cases o with
    | offer line => exact h.offer line (hturn rfl)
    | arm =>
      -- what is owed when the slot is armed are the answers before the wanted one
      have howed := h.owed
      constructor <;> simp [SlotUse.on, SlotOp.on, Slot.arm, noted_concat, offered_concat,
        mark_concat, accepted_concat, isBreak, isNote, isOffer, isArm, howed]
    | noteSent =>
      have howed := h.owed
      refine ⟨?_, ?_, ?_, ?_⟩
      · simp only [SlotUse.on, SlotOp.on, Slot.noteSent, noted_concat, offered_concat, isBreak,
          isNote, isOffer, Bool.false_eq_true, if_false, if_true]
        omega
      · simpa [SlotUse.on, SlotOp.on, Slot.noteSent, offered_concat, mark_concat, isBreak, isOffer,
          isArm] using h.skip
      · simpa [SlotUse.on, SlotOp.on, Slot.noteSent, accepted_concat, isArm, accepted?]
          using h.wanted
      · simpa [SlotUse.on, SlotOp.on, Slot.noteSent, accepted_concat, isArm, accepted?]
          using h.held
    | cancel | resetCancel =>
      exact h.quiet rfl rfl rfl (fun ha hr => ⟨ha, hr⟩) fun _ hline => hline
    | close | reopen =>
      -- nothing is counted, owed or kept on a connection that has not begun
      constructor <;> simp [SlotUse.on, SlotOp.on, Slot.close, Slot.reopen, noted_concat,
        offered_concat, isBreak]

end Numbered

/-- The history of a new slot numbers its fields. -/
theorem Slot.numbered {uses : List SlotUse} (h : Slot.InTurn {} uses) :
    Numbered uses (Slot.after {} uses) := by
  -- induction on the end of the history: a use depends on all that came before it
  induction uses using List.reverseRecOn with
  | nil => exact .new
  | append_singleton uses u ih =>
    obtain ⟨hbefore, hturn⟩ := Slot.inTurn_concat.mp h
    rw [Slot.after_append]
    exact (ih hbefore).add hturn

/-- The flags of a new slot say what its history says: whether waits are called off, and whether
the connection is over. -/
theorem Slot.flags_after (uses : List SlotUse) :
    (Slot.after {} uses).cancelled = calledOff uses ∧
      (Slot.after {} uses).closed = isOver uses := by
  induction uses using List.reverseRecOn with
  | nil => exact ⟨rfl, rfl⟩
  | append_singleton uses u ih =>
    rw [Slot.after_append, Slot.after_cons, Slot.after_nil, calledOff_concat, isOver_concat, ← ih.1,
      ← ih.2]
    generalize Slot.after {} uses = s
    cases u with
    | look =>
      -- a look that ends the wait takes out what is there, and no more
      cases hcheck : s.check? with
      | none => simp [SlotUse.on, hcheck, isCall, isBreak]
      | some ended =>
        obtain ⟨hnext, -⟩ := Slot.check?_cases hcheck
        simp [SlotUse.on, hcheck, hnext, isCall, isBreak]
    | op o =>
      cases o with
      | offer line =>
        obtain ⟨-, -, hcancelled, hclosed, -⟩ := s.offer_cases line
        exact ⟨hcancelled, hclosed⟩
      | arm | noteSent | cancel | resetCancel | close | reopen => exact ⟨rfl, rfl⟩

/-! ### Which answer is accepted, and what a wait returns -/

namespace Slot

/-- An answer is accepted if one is wanted, none is there and none is to be let pass. -/
theorem offer_eq_true (s : Slot) (line : String) :
    (s.offer line).1 = true ↔ s.armed = true ∧ s.response = none ∧ s.skip = 0 := by
  cases harmed : s.armed <;> cases hresponse : s.response <;> by_cases hskip : 0 < s.skip <;>
    simp [offer, credit, harmed, hresponse, hskip]
  · omega
  · omega

/-- An answer that is there stays there while nothing takes it out. -/
theorem response_of_leaves {s : Slot} {line : String} (h : s.response = some line)
    {later : List SlotUse} (hlater : ∀ u ∈ later, u.leaves = true) :
    (s.after later).response = some line := by
  induction later generalizing s with
  | nil => exact h
  | cons u later ih =>
    refine ih ?_ fun v hv => hlater v (List.mem_cons_of_mem u hv)
    have hu := hlater u List.mem_cons_self
    match u, hu with
    | .op .noteSent, _ | .op .cancel, _ | .op .resetCancel, _ => exact h
    | .op (.offer other), _ =>
      show (s.offer other).2.response = some line
      simp [offer, credit, h]

/-- How a wait ends while no answer is there, if it ends. -/
theorem check?_of_empty {s : Slot} (h : s.response = none) :
    s.check?.map Prod.fst =
      if s.cancelled then some .cancelled else if s.closed then some .closed else none := by
  simp only [check?, h]
  split
  · rfl
  · split <;> rfl

/-- **Acceptance is exact.** Number the lines counted on a connection, and the answers
that arrive. As long as no answer comes while none is owed, an answer is accepted exactly
if the slot is armed and empty and the answer has the number of the line that follows
those counted when the slot was last armed. What is owed is the difference of the two
counts. A wait returns the one answer accepted since the slot was last armed, also where it
was called off afterwards; without one it ends if waits were called off, and not allowed again
since, or, failing that, if the connection has ended, and otherwise goes on. -/
theorem acceptance_exact {uses : List SlotUse} (h : Slot.InTurn {} uses) :
    (Slot.after {} uses).owed + offered uses = noted uses ∧
    (∀ line, ((Slot.after {} uses).offer line).1 = true ↔
      (Slot.after {} uses).armed = true ∧ (Slot.after {} uses).response = none ∧
        offered uses + 1 = mark uses + 1) ∧
    (∀ line next, (Slot.after {} uses).check? = some (.answer line, next) →
      accepted uses = [line]) ∧
    (∀ earlier line later, uses = earlier ++ .op (.offer line) :: later →
      ((Slot.after {} earlier).offer line).1 = true → (∀ u ∈ later, u.leaves = true) →
      (Slot.after {} uses).check?.map Prod.fst = some (.answer line)) ∧
    ((Slot.after {} uses).response = none →
      (Slot.after {} uses).check?.map Prod.fst =
        if calledOff uses then some .cancelled
        else if isOver uses then some .closed else none) := by
  have hnumbered := numbered h
  refine ⟨hnumbered.owed, ?_, ?_, ?_, ?_⟩
  · intro line
    rw [offer_eq_true]
    constructor
    · rintro ⟨harmed, hnone, hskip⟩
      -- the skipped answers are those between the next number and the mark
      have hplace := hnumbered.skip harmed hnone
      exact ⟨harmed, hnone, by omega⟩
    · rintro ⟨harmed, hnone, hnumber⟩
      have hplace := hnumbered.skip harmed hnone
      exact ⟨harmed, hnone, by omega⟩
  · intro line next hcheck
    obtain ⟨-, hresponse⟩ := check?_cases hcheck
    exact hnumbered.held line (by simp [hresponse])
  · rintro earlier line later rfl haccepted hlater
    have hheld : ((after {} earlier).offer line).2.response = some line := by
      obtain ⟨harmed, hnone, hskip⟩ := (offer_eq_true _ line).mp haccepted
      simp [offer, credit, harmed, hnone, hskip]
    -- what leaves the response in the slot leaves it for the next look
    have hkept := response_of_leaves hheld hlater
    have hafter : after {} (earlier ++ .op (.offer line) :: later) =
        ((after {} earlier).offer line).2.after later := by
      rw [after_append]
      rfl
    simp [hafter, check?, hkept]
  · intro hnone
    obtain ⟨hcancelled, hclosed⟩ := flags_after uses
    rw [check?_of_empty hnone, hcancelled, hclosed]

/-- A line is given up; the answer to it comes after the next line was written, and that
line's own answer just before its wait is called off. -/
def givenUp : List SlotUse :=
  [.op .reopen, .op .arm, .op .noteSent, .op .cancel, .look, .op .resetCancel, .op .arm,
    .op .noteSent, .look, .op (.offer "error:2"), .op (.offer "ok"), .op .cancel]

/-- The late answer is let pass, and the line's own is returned though its wait is called off. -/
theorem acceptance_exact_givenUp :
    (after {} givenUp).owed = 0 ∧ accepted givenUp = ["ok"] ∧
      (after {} givenUp).check?.map Prod.fst = some (.answer "ok") ∧
      ((after {} (givenUp.take 9)).offer "error:2").1 = false ∧
      ((after {} (givenUp.take 10)).offer "ok").1 = true := by
  have hall := acceptance_exact (show Slot.InTurn {} givenUp by decide)
  have hlate := acceptance_exact (show Slot.InTurn {} (givenUp.take 9) by decide)
  have hown := acceptance_exact (show Slot.InTurn {} (givenUp.take 10) by decide)
  have haccepted : ((after {} (givenUp.take 10)).offer "ok").1 = true :=
    (hown.2.1 "ok").mpr (by decide)
  have hpassed : ¬((after {} (givenUp.take 9)).offer "error:2").1 = true := fun h =>
    absurd ((hlate.2.1 "error:2").mp h) (by decide)
  refine ⟨?_, ?_, ?_, by simpa using hpassed, haccepted⟩
  · have howed : (after {} givenUp).owed + 2 = 2 := hall.1
    omega
  · exact hall.2.2.1 "ok" _ rfl
  · exact hall.2.2.2.1 (givenUp.take 10) "ok" [.op .cancel] rfl haccepted (by decide)

end Slot

end GcodeSender.Link
