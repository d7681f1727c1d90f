import GcodeSender.Files.Path
import Mathlib.Data.List.Basic
import Mathlib.Tactic.Common

/-!
# `GcodeSender.Proofs.Files.Extension`: what the extension of a path is

The extension is found from the end of the last name. Read forwards, it is what follows the last
point of the name, if something stands before that point (`extension?_eq_some_iff`). So a name
that begins with its only point has none, like `.json`.
-/

set_option autoImplicit false

namespace GcodeSender.Files

/-- The last name of a path ends in a point and the extension, and something precedes the
point. -/
def HasExtension (path extension : String) : Prop :=
  ∃ stem, stem ≠ "" ∧ lastName? path = some (stem ++ "." ++ extension)

/-- A name has an extension without dots just if it ends in a dot and the extension, behind
something else. -/
theorem extensionOfName?_eq_some_iff {name extension : String} (h : '.' ∉ extension.toList) :
    extensionOfName? name = some extension ↔
      ∃ stem, stem ≠ "" ∧ name = stem ++ "." ++ extension := by
  unfold extensionOfName?
  dsimp only
  constructor
  · intro hname
    -- the name is its ending and what stands before, both read backwards
    obtain ⟨before, hbefore⟩ : name.toList.reverse.takeWhile (· ≠ '.') <+: name.toList.reverse :=
      List.takeWhile_prefix _
    generalize name.toList.reverse.takeWhile (· ≠ '.') = ending at hname hbefore
    rw [← hbefore, List.drop_left] at hname
    split at hname
    · rename_i last stem
      cases hname
      refine ⟨String.ofList (last :: stem).reverse, by simp, ?_⟩
      rw [← String.toList_inj, ← List.reverse_inj, ← hbefore]
      simp
    · cases hname
  · rintro ⟨stem, hstem, rfl⟩
    have hbackwards : (stem ++ "." ++ extension).toList.reverse =
        extension.toList.reverse ++ '.' :: stem.toList.reverse := by simp
    have hending : (extension.toList.reverse ++ '.' :: stem.toList.reverse).takeWhile (· ≠ '.') =
        extension.toList.reverse := by
      rw [List.takeWhile_append_of_pos, List.takeWhile_cons_of_neg (by decide), List.append_nil]
      intro c hc
      rw [List.mem_reverse] at hc
      exact decide_eq_true (ne_of_mem_of_not_mem hc h)
    obtain ⟨last, before, hlast⟩ := List.exists_cons_of_ne_nil
      (show stem.toList.reverse ≠ [] by simpa using hstem)
    rw [hbackwards, hending, List.drop_left, hlast]
    simp

/-- The same of a path, by its last segment. -/
theorem extension?_eq_some_iff {path extension : String} (h : '.' ∉ extension.toList) :
    extension? path = some extension ↔ HasExtension path extension := by
  rw [extension?, Option.bind_eq_some_iff]
  constructor
  · rintro ⟨name, hname, hextension⟩
    obtain ⟨stem, hstem, rfl⟩ := (extensionOfName?_eq_some_iff h).mp hextension
    exact ⟨stem, hstem, hname⟩
  · rintro ⟨stem, hstem, hname⟩
    exact ⟨_, hname, (extensionOfName?_eq_some_iff h).mpr ⟨stem, hstem, rfl⟩⟩

end GcodeSender.Files
