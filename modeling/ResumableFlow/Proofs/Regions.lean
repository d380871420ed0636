import ResumableFlow.Scope

/-!
# Regions of paths

The region of a scope is its own path and all paths below it. A region lies in that of the enclosing
scope, never holds the path of the enclosing scope, and shares no path with the region of a sibling:
here it matters that a name is not empty and holds no slash.
-/

namespace ResumableFlow

theorem isName_plain {name : String} (h : isName name = true) : '/' ∉ name.toList := by
  simp only [isName, Bool.and_eq_true, Bool.not_eq_true', List.contains_eq_mem,
    decide_eq_false_iff_not] at h
  exact h.2

namespace Scope

/-- The path is that of the scope, or it goes on from there with a slash. -/
def Encloses (scope : Scope) (path : String) : Prop :=
  path = scope.path ∨ ∃ rest, path = scope.path ++ "/" ++ rest

theorem encloses_path (scope : Scope) : scope.Encloses scope.path := Or.inl rfl

theorem Encloses.of_within {scope : Scope} {name path : String}
    (h : (scope.within name).Encloses path) : scope.Encloses path := by
  rcases h with rfl | ⟨rest, rfl⟩
  · exact Or.inr ⟨name, rfl⟩
  · exact Or.inr ⟨name ++ "/" ++ rest, by simp only [path, String.append_assoc]⟩

/-- The path of a scope is outside the regions below it. -/
theorem not_within_encloses_path (scope : Scope) (name : String) :
    ¬(scope.within name).Encloses scope.path := by
  intro h
  have shorter : scope.path.length < (scope.within name).path.length := by
    simp only [path, String.length_append]
    have : "/".length = 1 := rfl
    omega
  rcases h with h | ⟨rest, h⟩
  · rw [← h] at shorter
    omega
  · have longer := congrArg String.length h
    simp only [String.length_append] at longer
    omega

/-- A text that ends or goes on with a slash after a name begins with that name alone. -/
theorem takeWhile_append_of_closed {name tail : List Char} (plain : '/' ∉ name)
    (closed : tail = [] ∨ ∃ rest, tail = '/' :: rest) :
    (name ++ tail).takeWhile (· ≠ '/') = name := by
  induction name with
  | nil =>
    rcases closed with rfl | ⟨rest, rfl⟩
    · rfl
    · simp
  | cons c name ih =>
    obtain ⟨hc, plain⟩ := not_or.mp (mt List.mem_cons.mpr plain)
    rw [List.cons_append, List.takeWhile_cons_of_pos (by simpa using Ne.symm hc), ih plain]

theorem Encloses.toList_eq {scope : Scope} {name path : String}
    (h : (scope.within name).Encloses path) :
    ∃ tail, (tail = [] ∨ ∃ rest, tail = '/' :: rest) ∧
      path.toList = scope.path.toList ++ '/' :: (name.toList ++ tail) := by
  rcases h with rfl | ⟨rest, rfl⟩
  · exact ⟨[], Or.inl rfl, by simp [Scope.path]⟩
  · exact ⟨'/' :: rest.toList, Or.inr ⟨_, rfl⟩, by simp [Scope.path]⟩

/-- The regions of two siblings share no path. -/
theorem name_eq_of_encloses {scope : Scope} {a b path : String} (ha : isName a = true)
    (hb : isName b = true) (inA : (scope.within a).Encloses path)
    (inB : (scope.within b).Encloses path) : a = b := by
  obtain ⟨tailA, closedA, eqA⟩ := inA.toList_eq
  obtain ⟨tailB, closedB, eqB⟩ := inB.toList_eq
  have same : a.toList ++ tailA = b.toList ++ tailB := by
    rw [eqA] at eqB
    exact (List.cons.inj (List.append_cancel_left eqB)).2
  have firstName := congrArg (List.takeWhile (· ≠ '/')) same
  rw [takeWhile_append_of_closed (isName_plain ha) closedA,
    takeWhile_append_of_closed (isName_plain hb) closedB] at firstName
  exact String.toList_inj.mp firstName

end Scope

end ResumableFlow
