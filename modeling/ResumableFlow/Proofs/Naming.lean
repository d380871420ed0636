import Mathlib.Tactic.Tauto
import ResumableFlow.Proofs.Compilation

/-!
# Names that compile

Compilation can fail for its names alone. A tree of the library's own kinds compiles just if each
text in it that should name an item can do so and no two items of a sequence have the same name
(`Item.WellNamed`). `Item.offences` lists everything that is wrong with the names, depth first; of
several offences the first one is reported (`compile_iff_wellNamed`).
-/

namespace ResumableFlow

variable {σ ε : Type}

/-- The text can name an item. -/
def CanName (text : String) : Prop := text ≠ "" ∧ '/' ∉ text.toList

instance (text : String) : Decidable (CanName text) :=
  inferInstanceAs (Decidable (text ≠ "" ∧ '/' ∉ text.toList))

theorem isName_iff {text : String} : isName text = true ↔ CanName text := by
  simp [isName, CanName]

namespace Item

/-! ## Names of a tree -/

mutual

/-- The names that are examined, one for each node that has a scope of its own. -/
def names : Item σ ε → List String
  | activity name _ => [name]
  | steps name items => name :: namesOf items
  | gate name body _ => name :: body.names
  | loopUntil name body _ => name :: body.names
  | retry body _ => body.names
  | waitFor name _ => [name]
  | custom _ _ => []

def namesOf : List (Item σ ε) → List String
  | [] => []
  | item :: items => item.names ++ namesOf items

end

mutual

/-- The names of the items of each sequence in the tree. A retry has the name of the item in it. -/
def siblings : Item σ ε → List (List String)
  | activity _ _ => []
  | steps _ items => items.map name :: siblingsOf items
  | gate _ body _ => body.siblings
  | loopUntil _ body _ => body.siblings
  | retry body _ => body.siblings
  | waitFor _ _ => []
  | custom _ _ => []

def siblingsOf : List (Item σ ε) → List (List String)
  | [] => []
  | item :: items => item.siblings ++ siblingsOf items

end

structure WellNamed (item : Item σ ε) : Prop where
  canName : ∀ name ∈ item.names, CanName name
  nodup : ∀ names ∈ item.siblings, names.Nodup

/-! ## Offences -/

def nameOffences (name : String) : List (FlowError ε) :=
  if CanName name then [] else [.invalidName name]

/-- What is wrong with the name of an item of the sequence `scope` after items with the names
`taken`. -/
def repeatOffences (scope : Scope) (taken : List String) (name : String) : List (FlowError ε) :=
  if name ∈ taken then [.duplicateName scope.path name] else []

mutual

/-- Everything that is wrong with the names of the tree below `parent`: the name of a node comes
before what is in the node. -/
def offences (parent : Option Scope) : Item σ ε → List (FlowError ε)
  | activity name _ => nameOffences name
  | steps name items => nameOffences name ++ offencesOf (.nest parent name) [] items
  | gate name body _ => nameOffences name ++ body.offences (some (.nest parent name))
  | loopUntil name body _ => nameOffences name ++ body.offences (some (.nest parent name))
  | retry body _ => body.offences parent
  | waitFor name _ => nameOffences name
  | custom _ _ => []

/-- The same for the items of the sequence `scope` after items with the names `taken`, from left to
right. That an item repeats a name comes after what is wrong within the item. -/
def offencesOf (scope : Scope) (taken : List String) : List (Item σ ε) → List (FlowError ε)
  | [] => []
  | item :: items =>
    item.offences (some scope) ++ (repeatOffences scope taken item.name ++
      offencesOf scope (item.name :: taken) items)

end

theorem nameOffences_eq_nil_iff {name : String} :
    nameOffences (ε := ε) name = [] ↔ CanName name := by
  by_cases h : CanName name <;> simp [nameOffences, h]

theorem repeatOffences_eq_nil_iff {scope : Scope} {taken : List String} {name : String} :
    repeatOffences (ε := ε) scope taken name = [] ↔ name ∉ taken := by
  by_cases h : name ∈ taken <;> simp [repeatOffences, h]

mutual

theorem offences_eq_nil_iff : ∀ (item : Item σ ε) (parent : Option Scope),
    item.offences parent = [] ↔
      (∀ name ∈ item.names, CanName name) ∧ ∀ names ∈ item.siblings, names.Nodup
  | activity name _, _ => by simp [offences, names, siblings, nameOffences_eq_nil_iff]
  | steps name items, parent => by
    rw [offences, List.append_eq_nil_iff, nameOffences_eq_nil_iff, offencesOf_eq_nil_iff items]
    simp only [names, siblings, List.forall_mem_cons, List.not_mem_nil, not_false_eq_true,
      implies_true, and_true]
    tauto
  | gate name body _, parent => by
    simp only [offences, names, siblings, List.append_eq_nil_iff, nameOffences_eq_nil_iff,
      offences_eq_nil_iff body, List.forall_mem_cons, and_assoc]
  | loopUntil name body _, parent => by
    simp only [offences, names, siblings, List.append_eq_nil_iff, nameOffences_eq_nil_iff,
      offences_eq_nil_iff body, List.forall_mem_cons, and_assoc]
  | retry body _, parent => offences_eq_nil_iff body parent
  | waitFor name _, _ => by simp [offences, names, siblings, nameOffences_eq_nil_iff]
  | custom _ _, _ => by simp [offences, names, siblings]

theorem offencesOf_eq_nil_iff : ∀ (items : List (Item σ ε)) (scope : Scope) (taken : List String),
    offencesOf scope taken items = [] ↔
      (∀ name ∈ namesOf items, CanName name) ∧ (∀ names ∈ siblingsOf items, names.Nodup) ∧
        (items.map name).Nodup ∧ ∀ item ∈ items, item.name ∉ taken
  | [], _, _ => by simp [offencesOf, namesOf, siblingsOf]
  | item :: items, scope, taken => by
    have fresh : (∀ other ∈ items, other.name ∉ item.name :: taken) ↔
        item.name ∉ items.map name ∧ ∀ other ∈ items, other.name ∉ taken := by
      simp only [List.mem_cons, not_or, List.mem_map, not_exists, not_and, forall_and]
    simp only [offencesOf, namesOf, siblingsOf, List.append_eq_nil_iff, offences_eq_nil_iff item,
      repeatOffences_eq_nil_iff, offencesOf_eq_nil_iff items, List.forall_mem_append,
      List.map_cons, List.nodup_cons, List.forall_mem_cons, fresh]
    tauto

end

end Item

/-! ## The first offence -/

/-- The outcome of what is judged by these offences: the first one, or success if there is none. -/
inductive Judged {α : Type} : List (FlowError ε) → Except (FlowError ε) α → Prop
  | accepted (a : α) : Judged [] (.ok a)
  | refused (offence : FlowError ε) (more : List (FlowError ε)) :
    Judged (offence :: more) (.error offence)

namespace Judged

variable {α β : Type} {offences more : List (FlowError ε)} {first : Except (FlowError ε) α}

/-- What comes after a success is judged by the offences that come after. -/
theorem bind {second : α → Except (FlowError ε) β} (h : Judged offences first)
    (next : ∀ a, first = .ok a → Judged more (second a)) :
    Judged (offences ++ more) (first >>= second) := by
  cases h with
  | accepted a => exact next a rfl
  | refused offence later => exact .refused offence (later ++ more)

theorem map {f : α → β} (h : Judged offences first) :
    Judged offences (first >>= fun a => pure (f a)) := by
  have judged : Judged (offences ++ []) (first >>= fun a => pure (f a)) :=
    h.bind fun a _ => .accepted (f a)
  rwa [List.append_nil] at judged

theorem validateName (name : String) :
    Judged (ε := ε) (Item.nameOffences name) (validateName name) := by
  rw [ResumableFlow.validateName, Item.nameOffences]
  by_cases h : CanName name
  · rw [if_pos h, if_pos (isName_iff.mpr h)]
    exact .accepted ()
  · rw [if_neg h, if_neg (mt isName_iff.mp h)]
    exact .refused _ []

theorem eq_error_iff (h : Judged offences first) {error : FlowError ε} :
    first = .error error ↔ offences.head? = some error := by
  cases h <;> simp

theorem exists_ok_iff (h : Judged offences first) : (∃ a, first = .ok a) ↔ offences = [] := by
  cases h <;> simp

end Judged

namespace Item

mutual

theorem compile_judged : ∀ (item : Item σ ε) (parent : Option Scope), item.isBuiltIn = true →
    Judged (item.offences parent) (item.compile parent)
  | activity name run, parent, _ => by
    rw [offences, compile]
    exact (Judged.validateName name).map
  | steps name items, parent, builtIn => by
    rw [offences, compile]
    exact (Judged.validateName name).bind fun _ _ => (compileSteps_judged items _ _ _ builtIn).map
  | gate name body condition, parent, builtIn => by
    rw [offences, compile]
    exact (Judged.validateName name).bind fun _ _ => (body.compile_judged _ builtIn).map
  | loopUntil name body condition, parent, builtIn => by
    rw [offences, compile]
    exact (Judged.validateName name).bind fun _ _ => (body.compile_judged _ builtIn).map
  | retry body handler, parent, builtIn => by
    rw [offences, compile]
    exact (body.compile_judged parent builtIn).map
  | waitFor name condition, parent, _ => by
    rw [offences, compile]
    exact (Judged.validateName name).map

theorem compileSteps_judged : ∀ (items : List (Item σ ε)) (scope : Scope) (taken : List String)
    (last : Event), areBuiltIn items = true →
    Judged (offencesOf scope taken items) (compileSteps scope taken last items)
  | [], _, _, _, _ => .accepted _
  | item :: items, scope, taken, last, builtIn => by
    rw [areBuiltIn, Bool.and_eq_true] at builtIn
    rw [offencesOf, compileSteps]
    refine (item.compile_judged _ builtIn.1).bind fun child compiles => ?_
    have name : child.scope.name = item.name := by
      rw [scope_of_compile builtIn.1 compiles, Scope.name_nest]
    rw [name, repeatOffences]
    by_cases repeated : item.name ∈ taken
    · simp only [if_pos repeated]
      exact .refused _ _
    · simp only [if_neg repeated]
      exact (compileSteps_judged items scope _ _ builtIn.2).map

end

/-- A tree of the library's own kinds compiles, wherever it stands, just if it is well named, and
otherwise fails with the first of its offences. -/
theorem compile_iff_wellNamed {item : Item σ ε} (builtIn : item.isBuiltIn = true)
    (parent : Option Scope) :
    ((∃ compiled, item.compile parent = .ok compiled) ↔ item.WellNamed) ∧
      ∀ error, item.compile parent = .error error ↔ (item.offences parent).head? = some error := by
  have judged := item.compile_judged parent builtIn
  refine ⟨?_, fun error => judged.eq_error_iff⟩
  rw [judged.exists_ok_iff, offences_eq_nil_iff]
  exact ⟨fun ⟨canName, nodup⟩ => ⟨canName, nodup⟩, fun h => ⟨h.canName, h.nodup⟩⟩

/-- A sequence in which the second item repeats the name of the first one and holds a text that is
no name, and the third one has no name. -/
def misnamed : Item Unit String :=
  .steps "order" [.activity "pack" fun context => (.ok (), context),
    .retry (.steps "pack" [.waitFor "a/b" fun context => (.ok true, context)])
      fun _ context => (.ok false, context),
    .activity "" fun context => (.ok (), context)]

theorem compile_iff_wellNamed_misnamed : misnamed.isBuiltIn = true ∧ ¬misnamed.WellNamed ∧
    misnamed.compile (some (.root "shop")) = .error (.invalidName "a/b") ∧
    (misnamed.offences (some (.root "shop"))).tail =
      [.duplicateName "shop/order" "pack", .invalidName ""] := by
  have builtIn : misnamed.isBuiltIn = true := rfl
  obtain ⟨compiles, fails⟩ := compile_iff_wellNamed builtIn (some (.root "shop"))
  have failed : misnamed.compile (some (.root "shop")) = .error (.invalidName "a/b") :=
    (fails _).mpr (by decide +kernel)
  refine ⟨builtIn, fun named => ?_, failed, by decide +kernel⟩
  obtain ⟨compiled, compiled_eq⟩ := compiles.mpr named
  rw [failed] at compiled_eq
  cases compiled_eq

end Item

end ResumableFlow
