import GcodeSender.Link.Slot

/-!
# `GcodeSender.Proofs.Link.Slot`: the two ways through the slot

An answer goes into the slot by `offer`, and a wait gets it out by `check?`. Each has
one lemma here that says all that it can do.
-/

set_option autoImplicit false

namespace GcodeSender.Link.Slot

/-- An answer is let pass because an earlier one was to come, is kept as the wanted
one, or is nothing that anyone waits for. -/
theorem offer_cases (s : Slot) (line : String) :
    (s.offer line).2.armed = s.armed ∧ (s.offer line).2.owed = s.owed - 1 ∧
      (s.offer line).2.cancelled = s.cancelled ∧ (s.offer line).2.closed = s.closed ∧
      ((s.armed = true ∧ s.response = none ∧ 0 < s.skip ∧
          (s.offer line).2.response = none ∧ (s.offer line).2.skip = s.skip - 1) ∨
        (s.armed = true ∧ s.response = none ∧ s.skip = 0 ∧
          (s.offer line).2.response = some line) ∨
        ((s.armed = false ∨ s.response.isSome = true) ∧
          (s.offer line).2.response = s.response)) := by
  unfold offer credit
  cases harmed : s.armed with
  | false => simp
  | true =>
    cases hresponse : s.response with
    | some kept => simp
    | none =>
      by_cases hskip : 0 < s.skip
      · simp [hskip]
      · simp [Nat.eq_zero_of_not_pos hskip]

/-- A wait that ends leaves nothing wanted. It ends with the answer that is kept, or
because waits are called off, or because the connection has ended. -/
theorem check?_cases {s after : Slot} {outcome : Outcome}
    (h : s.check? = some (outcome, after)) :
    after = { s with armed := false, response := none } ∧
      (match outcome with
        | .answer line => s.response = some line
        | .cancelled => s.cancelled = true ∧ s.response = none
        | .closed => s.closed = true ∧ s.cancelled = false ∧ s.response = none) := by
  unfold check? at h
  -- an answer comes before a cancel, and a cancel before a close
  cases hresponse : s.response with
  | some line =>
    obtain ⟨rfl, rfl⟩ : .answer line = outcome ∧ _ = after := by simpa [hresponse] using h
    simp
  | none =>
    by_cases hcancelled : s.cancelled = true
    · obtain ⟨rfl, rfl⟩ : .cancelled = outcome ∧ _ = after := by
        simpa [hresponse, hcancelled] using h
      simp [hcancelled]
    · by_cases hclosed : s.closed = true
      · obtain ⟨rfl, rfl⟩ : .closed = outcome ∧ _ = after := by
          simpa [hresponse, hcancelled, hclosed] using h
        simp [hcancelled, hclosed]
      · simp [hresponse, hcancelled, hclosed] at h

end GcodeSender.Link.Slot
