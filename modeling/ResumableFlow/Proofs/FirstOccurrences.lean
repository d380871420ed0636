import Mathlib.Data.List.Induction
import Mathlib.Data.List.Nodup

/-!
# First occurrences

What is numbered or grouped as it turns up comes in the order of its first occurrence. That order
without the repetitions is `List.eraseDups`. Here is how it grows by one more occurrence, and what
it is said by the places of its members alone (`eraseDups_firstOccurrences`).
-/

namespace ResumableFlow

variable {α : Type} [DecidableEq α]

/-- The list holds each member of the other one once, in the order in which
they first occur there. -/
structure FirstOccurrences (firsts occurrences : List α) : Prop where
  nodup : firsts.Nodup
  mem_iff : ∀ x, x ∈ firsts ↔ x ∈ occurrences
  ordered : firsts.Pairwise fun a b => occurrences.idxOf a < occurrences.idxOf b

variable {occurrences : List α} {x : α}

theorem eraseDups_concat_of_mem (known : x ∈ occurrences) :
    (occurrences ++ [x]).eraseDups = occurrences.eraseDups := by
  simp [List.eraseDups_append, List.removeAll, known]

theorem eraseDups_concat_of_notMem (new : x ∉ occurrences) :
    (occurrences ++ [x]).eraseDups = occurrences.eraseDups ++ [x] := by
  simp [List.eraseDups_append, List.removeAll, new, List.eraseDups_cons]

/-- A member keeps its place when there are more occurrences. -/
theorem idxOf_eraseDups_concat (mem : x ∈ occurrences) (next : α) :
    (occurrences ++ [next]).eraseDups.idxOf x = occurrences.eraseDups.idxOf x := by
  by_cases known : next ∈ occurrences
  · rw [eraseDups_concat_of_mem known]
  · rw [eraseDups_concat_of_notMem known, List.idxOf_append_of_mem (List.mem_eraseDups.mpr mem)]

theorem eraseDups_firstOccurrences (occurrences : List α) :
    FirstOccurrences occurrences.eraseDups occurrences := by
  induction occurrences using List.reverseRecOn with
  | nil => exact ⟨List.nodup_nil, fun _ => .rfl, .nil⟩
  | append_singleton occurrences last ih =>
    have earlier : ∀ x ∈ occurrences.eraseDups,
        (occurrences ++ [last]).idxOf x = occurrences.idxOf x := fun x mem =>
      List.idxOf_append_of_mem (List.mem_eraseDups.mp mem)
    have ordered : occurrences.eraseDups.Pairwise fun a b =>
        (occurrences ++ [last]).idxOf a < (occurrences ++ [last]).idxOf b :=
      ih.ordered.imp_of_mem fun {a b} memA memB before => by
        rwa [earlier a memA, earlier b memB]
    by_cases known : last ∈ occurrences
    · refine ⟨?_, fun x => List.mem_eraseDups, ?_⟩ <;> rw [eraseDups_concat_of_mem known]
      exacts [ih.nodup, ordered]
    · have new : last ∉ occurrences.eraseDups := mt List.mem_eraseDups.mp known
      refine ⟨?_, fun x => List.mem_eraseDups, ?_⟩ <;> rw [eraseDups_concat_of_notMem known]
      · rw [← List.concat_eq_append]
        exact List.Nodup.concat new ih.nodup
      · rw [List.pairwise_append]
        refine ⟨ordered, List.pairwise_singleton _ _, fun x mem next isLast => ?_⟩
        rw [List.mem_singleton.mp isLast, earlier x mem, List.idxOf_append_of_notMem known]
        exact Nat.lt_add_right _ (List.idxOf_lt_length_of_mem (List.mem_eraseDups.mp mem))

end ResumableFlow
