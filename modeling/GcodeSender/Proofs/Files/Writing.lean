import GcodeSender.Files.Tree
import Mathlib.Data.List.Basic
import Mathlib.Tactic.Common

/-!
# `GcodeSender.Proofs.Files.Writing`: a file that was written is there

What is written to a path is read from the same path afterwards (`read_of_write`). A path leads
through directories only, and a file is never put in the place of one, so the way to the file is
the same before and after (`follow_put`). A path that ends in a slash is no way to a file, which
is why a new file is not written there.
-/

set_option autoImplicit false

namespace GcodeSender.Files

/-- A path whose last segment is empty ends in a slash. -/
theorem getLast?_of_segments {path : String} (hpath : path ≠ "")
    (h : (segments path).getLast? = some "") : path.toList.getLast? = some '/' := by
  have hjoined := Text.joined_cut '/' path.toList
  rw [segments, Text.pieces] at h
  generalize Text.cut '/' path.toList = parts at h hjoined
  obtain ⟨piece, later⟩ := parts
  rcases List.eq_nil_or_concat' later with rfl | ⟨later, last, rfl⟩
  · -- there is no slash, and so nothing at all
    simp only [List.map_cons, List.map_nil, List.getLast?_singleton, Option.some.injEq,
      String.ofList_eq_empty_iff] at h
    rw [h] at hjoined
    exact absurd (String.toList_eq_nil_iff.mp hjoined.symm) hpath
  · rw [List.map_cons, List.map_append, List.map_singleton, ← List.cons_append,
      List.getLast?_concat, Option.some.injEq, String.ofList_eq_empty_iff] at h
    rw [← hjoined, h, Text.joined, List.flatMap_append, ← List.append_assoc,
      List.flatMap_singleton, List.getLast?_concat]

namespace Tree

variable {t : Tree} {dir names : List String} {node : Node}

/-- To leave out the entries of one path keeps those of another. -/
theorem lookup_filter_ne {other : List String} (h : other ≠ names)
    (entries : List (List String × Node)) :
    (entries.filter (·.1 ≠ names)).lookup other = entries.lookup other := by
  induction entries with
  | nil => rfl
  | cons entry entries ih =>
    obtain ⟨key, value⟩ := entry
    by_cases hkey : key = names
    · subst hkey
      rw [List.filter_cons_of_neg (by simp), ih, List.lookup_cons, beq_eq_false_iff_ne.mpr h]
    · rw [List.filter_cons_of_pos (by simpa using hkey), List.lookup_cons, List.lookup_cons, ih]

/-- What is put in a place is found there. -/
theorem node?_put_self (h : names ≠ []) : (t.put names node).node? names = some node := by
  simp [node?, put, h]

/-- And everything else is found where it was. -/
theorem node?_put_of_ne {other : List String} (h : other ≠ names) :
    (t.put names node).node? other = t.node? other := by
  have hlookup := lookup_filter_ne h t.entries
  simp only [node?, put, List.lookup_cons, beq_eq_false_iff_ne.mpr h, hlookup]

/-- A path that leads to a file, or to where one may be, leads to no directory. -/
theorem node?_of_follow {segs : List String} {place : Place}
    (h : t.follow dir segs = .ok place) :
    (∀ names content, place = .present names (.file content) →
        t.node? names = some (.file content)) ∧
      ∀ names, place = .vacant names → t.node? names = none := by
  induction segs generalizing dir with
  | nil =>
    cases h
    exact ⟨nofun, nofun⟩
  | cons segment rest ih =>
    unfold follow at h
    -- the branches of the walk: silent segments, the way up, then what stands at the next name
    split at h
    · exact ih h
    · split at h
      · exact ih h
      · split at h
        · cases h
        · dsimp only at h
          split at h
          · exact ih h
          · rename_i hnode
            split at h
            · cases h
              refine ⟨?_, nofun⟩
              rintro names content ⟨⟩
              exact hnode
            · cases h
          · rename_i hnode
            split at h
            · cases h
              refine ⟨nofun, ?_⟩
              rintro names ⟨⟩
              exact hnode
            · cases h

/-- Where the last segment is not empty, that holds of the rest, too. -/
theorem getLast?_ne_of_cons {segment : String} {rest : List String}
    (h : (segment :: rest).getLast? ≠ some "") : rest.getLast? ≠ some "" := by
  cases rest with
  | nil => nofun
  | cons next rest => rwa [List.getLast?_cons_cons] at h

/-- Where nothing but empty segments follows, and the last one is not empty, nothing does. -/
theorem eq_nil_of_all_empty {rest : List String} (hall : rest.all (· = "") = true)
    (hlast : rest.getLast? ≠ some "") : rest = [] := by
  by_contra hne
  refine hlast ?_
  rw [List.getLast?_eq_some_getLast hne]
  simpa using List.all_eq_true.mp hall _ (List.getLast_mem hne)

/-- The way to a file is the same when the file is there. -/
theorem follow_put {segs : List String} {place : Place} {content : List UInt8}
    (hnode : t.node? names ≠ some .directory) (h : t.follow dir segs = .ok place)
    (hplace : (∃ old, place = .present names (.file old)) ∨
      place = .vacant names ∧ segs.getLast? ≠ some "") :
    (t.put names (.file content)).follow dir segs = .ok (.present names (.file content)) := by
  induction segs generalizing dir with
  | nil =>
    cases h
    rcases hplace with ⟨old, hplace⟩ | ⟨hplace, -⟩ <;> cases hplace
  | cons segment rest ih =>
    have hnext (dir : List String) (h : t.follow dir rest = .ok place) :
        (t.put names (.file content)).follow dir rest = .ok (.present names (.file content)) :=
      ih h (hplace.imp_right fun hplace => ⟨hplace.1, getLast?_ne_of_cons hplace.2⟩)
    unfold follow at h ⊢
    split at h
    · rename_i hsilent
      rw [if_pos hsilent]
      exact hnext _ h
    rename_i hsilent
    rw [if_neg hsilent]
    split at h
    · rename_i hup
      rw [if_pos hup]
      exact hnext _ h
    rename_i hup
    rw [if_neg hup]
    split at h
    · cases h
    rename_i hlength
    rw [if_neg hlength]
    dsimp only at h ⊢
    split at h
    · -- a directory on the way is not where the file is put
      rename_i hdirectory
      have hother : dir ++ [segment] ≠ names := by
        rintro rfl
        exact hnode hdirectory
      rw [node?_put_of_ne hother, hdirectory]
      exact hnext _ h
    · -- a file ends the way, so it is the one that is overwritten
      split at h
      · rename_i hrest
        cases h
        rcases hplace with ⟨old, hplace⟩ | ⟨hplace, -⟩ <;> cases hplace
        rw [node?_put_self (by simp)]
        exact if_pos hrest
      · cases h
    · -- nothing is there yet: empty segments may follow a directory, but not the new file
      split at h
      · rename_i hall
        cases h
        rcases hplace with ⟨old, hplace⟩ | ⟨hplace, hlast⟩ <;> cases hplace
        rw [node?_put_self (by simp)]
        exact if_pos (eq_nil_of_all_empty hall (getLast?_ne_of_cons hlast))
      · cases h

/-- A path leads to a file that was put where it leads. -/
theorem read_put {path : String} {place : Place} {content : List UInt8}
    (h : t.find path = .ok place)
    (hplace : (∃ old, place = .present names (.file old)) ∨
      place = .vacant names ∧ path.toList.getLast? ≠ some '/') :
    (t.put names (.file content)).read path = .ok content := by
  unfold find at h
  split at h
  · cases h
  rename_i hempty
  split at h
  · cases h
  rename_i hnul
  split at h
  · cases h
  rename_i hlength
  -- what stands at the place is a file or nothing, so the walk there finds no directory
  have hnode : t.node? names ≠ some .directory := by
    obtain ⟨hpresent, hvacant⟩ := node?_of_follow h
    rcases hplace with ⟨old, rfl⟩ | ⟨rfl, -⟩
    · rw [hpresent _ _ rfl]
      nofun
    · rw [hvacant _ rfl]
      nofun
  have hfind : (t.put names (.file content)).find path =
      .ok (.present names (.file content)) := by
    rw [find, if_neg hempty, if_neg hnul, if_neg hlength]
    exact follow_put hnode h (hplace.imp_right fun hplace =>
      ⟨hplace.1, fun hlast => hplace.2 (getLast?_of_segments hempty hlast)⟩)
  rw [read, lookup, hfind]

/-- What was written to a path is read from it. -/
theorem read_of_write {t' : Tree} {path : String} {content : List UInt8}
    (h : t.write path content = .ok t') : t'.read path = .ok content := by
  -- a path is written to where it leads to a file, or to a name that is still free there
  unfold write at h
  split at h
  · rename_i hfind
    cases h
    exact read_put hfind (.inl ⟨_, rfl⟩)
  · cases h
  · rename_i hfind
    split at h
    · cases h
    · rename_i hslash
      cases h
      exact read_put hfind (.inr ⟨rfl, hslash⟩)
  · cases h

end Tree

end GcodeSender.Files
