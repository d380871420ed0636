import ResumableFlow.Proofs.Naming
import ResumableFlow.Proofs.Paths

/-!
# Scopes by their names

Scopes are compared by text, but stand for places in a tree. The two are the same where every name
can name an item: the path of a chain of such names is split at its slashes into just these names,
so that chains are equal, start alike and are completed alike just if their names are the same
(`Scope.chain_determines_names`).
-/

namespace ResumableFlow

variable {ε : Type}

theorem validateName_eq_ok_iff {text : String} :
    validateName (ε := ε) text = .ok () ↔ CanName text := by
  rw [← isName_iff, validateName]
  cases isName text <;> simp

namespace Scope

open Console.Directory (segments segments_intercalate)

/-- The scope that is reached when each name is nested in the one before it, if there is a name. -/
def chain? (names : List String) : Option Scope :=
  names.foldl (fun parent name => some (nest parent name)) none

theorem foldl_nest (scope : Scope) (names : List String) :
    names.foldl (fun parent name => some (nest parent name)) (some scope) =
      some (names.foldl within scope) := by
  induction names generalizing scope with
  | nil => rfl
  | cons name names ih => exact ih (scope.within name)

theorem chain?_cons (first : String) (rest : List String) :
    chain? (first :: rest) = some (chain first rest) :=
  foldl_nest (root first) rest

theorem chain_concat (first : String) (rest : List String) (last : String) :
    chain first (rest ++ [last]) = (chain first rest).within last := by
  rw [chain, List.foldl_append, chain, List.foldl_cons, List.foldl_nil]

theorem path_foldl_within (scope : Scope) (names : List String) :
    (names.foldl within scope).path = "/".intercalate (scope.path :: names) := by
  induction names generalizing scope with
  | nil => exact String.intercalate_singleton.symm
  | cons name names ih =>
    rw [List.foldl_cons, ih, path, String.intercalate_cons_append, String.intercalate_cons_cons]

theorem path_chain (first : String) (rest : List String) :
    (chain first rest).path = "/".intercalate (first :: rest) :=
  path_foldl_within (root first) rest

theorem depth_chain (first : String) (rest : List String) :
    (chain first rest).depth = rest.length := by
  induction rest using List.reverseRecOn with
  | nil => rfl
  | append_singleton rest last ih =>
    rw [chain_concat, depth, ih, List.length_append, List.length_singleton]

theorem parent?_chain (first : String) (rest : List String) :
    (chain first rest).parent? = chain? (first :: rest).dropLast := by
  rcases List.eq_nil_or_concat' rest with rfl | ⟨rest, last, rfl⟩
  · rfl
  · rw [chain_concat, ← List.cons_append, List.dropLast_concat, chain?_cons, parent?]

section named

variable {first second : String} {rest others : List String}

theorem segments_path_chain (named : ∀ name ∈ first :: rest, CanName name) :
    segments (chain first rest).path = first :: rest := by
  rw [path_chain]
  exact segments_intercalate (List.cons_ne_nil first rest) fun name mem => (named name mem).2

theorem path_chain_eq_iff (named : ∀ name ∈ first :: rest, CanName name)
    (named' : ∀ name ∈ second :: others, CanName name) :
    (chain first rest).path = (chain second others).path ↔ first :: rest = second :: others := by
  constructor
  · intro same
    rw [← segments_path_chain named, same, segments_path_chain named']
  · intro same
    rw [path_chain, path_chain, same]

end named

theorem start_eq_iff {a b : Scope} : a.start = b.start ↔ a.path = b.path := by
  simp [start]

theorem completed_eq_iff {a b : Scope} : a.completed = b.completed ↔ a.path = b.path := by
  simp [completed]

/-- Names that pass validation can be read off the scope at the end of their chain, and off
either of its events: its path is split into them, it lies as deep as there are names
before the last, and its parents are the chain of these. Scopes that are equal have the
same hash, whatever their names. -/
theorem chain_determines_names {first second : String} {rest others : List String}
    (valid : ∀ name ∈ first :: rest, validateName (ε := ε) name = .ok ())
    (valid' : ∀ name ∈ second :: others, validateName (ε := ε) name = .ok ()) :
    ((chain first rest == chain second others) = true ↔ first :: rest = second :: others) ∧
    ((chain first rest).start = (chain second others).start ↔
      first :: rest = second :: others) ∧
    ((chain first rest).completed = (chain second others).completed ↔
      first :: rest = second :: others) ∧
    (∀ a b : Scope, (a == b) = true → hash a = hash b) ∧
    chain? (first :: rest) = some (chain first rest) ∧
    segments (chain first rest).path = first :: rest ∧
    (chain first rest).depth + 1 = (first :: rest).length ∧
    (chain first rest).parent? = chain? (first :: rest).dropLast := by
  have named : ∀ name ∈ first :: rest, CanName name := fun name mem =>
    validateName_eq_ok_iff.mp (valid name mem)
  have named' : ∀ name ∈ second :: others, CanName name := fun name mem =>
    validateName_eq_ok_iff.mp (valid' name mem)
  have paths := path_chain_eq_iff named named'
  refine ⟨(beq_iff_path_eq _ _).trans paths, start_eq_iff.trans paths, completed_eq_iff.trans paths,
    fun _ _ => hash_eq_of_beq, chain?_cons first rest, segments_path_chain named, ?_,
    parent?_chain first rest⟩
  rw [depth_chain, List.length_cons]

/-- Two chains that differ in their last name alone. -/
theorem chain_determines_names_deploy :
    (∀ name ∈ ["deploy", "a:b", "."], validateName (ε := String) name = .ok ()) ∧
    (∀ name ∈ ["deploy", "a:b", "c"], validateName (ε := String) name = .ok ()) ∧
    (chain "deploy" ["a:b", "."]).completed ≠ (chain "deploy" ["a:b", "c"]).completed ∧
    segments "deploy/a:b/." = ["deploy", "a:b", "."] ∧
    (chain "deploy" ["a:b", "."]).parent? = some (chain "deploy" ["a:b"]) := by
  have valid : ∀ name ∈ ["deploy", "a:b", "."], validateName (ε := String) name = .ok () := by
    decide +kernel
  have valid' : ∀ name ∈ ["deploy", "a:b", "c"], validateName (ε := String) name = .ok () := by
    decide +kernel
  obtain ⟨_, _, completed, _, _, split, _, parent⟩ := chain_determines_names valid valid'
  exact ⟨valid, valid', completed.not.mpr (by decide), split, parent⟩

/-- Names with slashes are not told apart. -/
example : (root "deploy/upload" == chain "deploy" ["upload"]) = true := by decide +kernel

end Scope

end ResumableFlow
