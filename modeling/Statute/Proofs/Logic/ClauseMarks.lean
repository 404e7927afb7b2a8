import Statute.Proofs.Logic.Grammar

/-!
# The marks of clauses

Necks and stops are marks of the clause itself. No term, goal or body has one among its tokens, so
that a clause has one stop and no more.
-/

namespace Statute.Logic

open Grammar

/-- Necks and stops. -/
def Token.isMark : Token → Bool
  | neck | stop => true
  | _ => false

/-- No derivation by a rule has a neck or a stop among its tokens. -/
def Unmarked {α : Type} (phrase : Phrase α) : Prop :=
  ∀ ⦃tokens value⦄, phrase tokens value → ∀ token ∈ tokens, token.isMark = false

namespace Unmarked

variable {α : Type} {primary : Phrase Term}

/-- A mark is none of the tokens of such a derivation. -/
theorem notMem {phrase : Phrase α} (unmarked : Unmarked phrase) {tokens : List Token} {value : α}
    (derives : phrase tokens value) {mark : Token} (isMark : mark.isMark = true) :
    mark ∉ tokens := by
  intro member
  rw [unmarked derives mark member] at isMark
  cases isMark

/-- Items without marks, with separators that are none, have no marks together. -/
theorem separated {separator : Token} {item : Phrase α} (unmarked : Unmarked item)
    (apart : separator.isMark = false) : Unmarked (Separated separator item) := by
  intro tokens values derives
  induction derives with
  | single only => exact unmarked only
  | cons first _ inductionHypothesis =>
    exact List.forall_mem_append.mpr
      ⟨unmarked first, List.forall_mem_cons.mpr ⟨apart, inductionHypothesis⟩⟩

/-- Operators are no marks, so operands have none together. -/
theorem operandsWith {spellings : List String} (unmarked : Unmarked primary) :
    Unmarked (OperandsWith spellings primary) := by
  intro tokens term derives
  induction derives with
  | single only => exact unmarked only
  | operation _ _ last inductionHypothesis =>
    exact List.forall_mem_append.mpr
      ⟨inductionHypothesis, List.forall_mem_cons.mpr ⟨rfl, unmarked last⟩⟩

/-- Sums have no marks when primaries have none. -/
theorem sum (unmarked : Unmarked primary) : Unmarked (IsSum primary) :=
  unmarked.operandsWith.operandsWith

/-- Goals have no marks, as operators of comparison are none. -/
theorem goal (unmarked : Unmarked primary) : Unmarked (IsGoal primary) := by
  intro tokens term derives
  cases derives with
  | sum only => exact unmarked.sum only
  | comparison before compares behind =>
    refine List.forall_mem_append.mpr
      ⟨unmarked.sum before, List.forall_mem_cons.mpr ⟨?_, unmarked.sum behind⟩⟩
    cases compares <;> rfl

/-- Names are no marks. -/
theorem names {token : Token} {name : String} (named : Names token name) :
    token.isMark = false := by
  cases named <;> rfl

/-- Brackets around tokens without marks are no marks either. -/
theorem bracketed {opening closing : Token} {tokens : List Token} (opens : opening.isMark = false)
    (inside : ∀ token ∈ tokens, token.isMark = false) (closes : closing.isMark = false) :
    ∀ token ∈ opening :: tokens ++ [closing], token.isMark = false :=
  List.forall_mem_append.mpr
    ⟨List.forall_mem_cons.mpr ⟨opens, inside⟩, List.forall_mem_singleton.mpr closes⟩

/-- A primary has no marks in its brackets, and its brackets are none. -/
theorem inPrimary (unmarked : Unmarked primary) : Unmarked (InPrimary primary) := by
  have goals : Unmarked (AreGoals primary) := unmarked.goal.separated rfl
  intro tokens term derives
  cases derives with
  | atom named => exact List.forall_mem_singleton.mpr (names named)
  | compound named inside =>
    exact List.forall_mem_cons.mpr ⟨names named, bracketed rfl (goals inside) rfl⟩
  | list inside => exact bracketed rfl (goals inside) rfl
  | listWithTail inside behind =>
    refine List.forall_mem_append.mpr ⟨?_, List.forall_mem_singleton.mpr rfl⟩
    exact List.forall_mem_append.mpr ⟨List.forall_mem_cons.mpr ⟨rfl, goals inside⟩,
      List.forall_mem_cons.mpr ⟨rfl, unmarked.sum behind⟩⟩
  | grouped inside => exact bracketed rfl (unmarked.sum inside) rfl
  | negative | emptyList => simp [Token.isMark]
  | _ => exact List.forall_mem_singleton.mpr rfl

/-- Primaries have no marks, however many levels they may enter. -/
theorem isPrimary (levels : Nat) : Unmarked (IsPrimary levels) := by
  induction levels with
  | zero => exact fun _ _ derives => derives.elim
  | succ levels inductionHypothesis => exact inductionHypothesis.inPrimary

/-- Unaries and bodies have no marks, however many levels they may enter. -/
theorem bodies {admits : List Token → Prop} (levels : Nat) :
    Unmarked (IsUnary admits levels) ∧ Unmarked (IsBody admits levels) := by
  induction levels with
  | zero => exact ⟨fun _ _ derives => derives.elim, fun _ _ derives => derives.elim⟩
  | succ levels inductionHypothesis =>
    obtain ⟨unaries, bodies⟩ := inductionHypothesis
    constructor
    · intro tokens part derives
      cases derives with
      | notProvable behind => exact List.forall_mem_cons.mpr ⟨rfl, unaries behind⟩
      | negation inside =>
        exact List.forall_mem_cons.mpr ⟨rfl, bracketed rfl (bodies inside) rfl⟩
      | grouped inside => exact bracketed rfl (bodies inside) rfl
      | goal admitted only => exact (isPrimary levels).goal only
    · have conjunctions : Unmarked (IsConjunction (IsUnary admits levels)) := by
        rintro tokens part ⟨parts, inside, -⟩
        exact unaries.separated rfl inside
      rintro tokens part ⟨parts, inside, -⟩
      exact conjunctions.separated rfl inside

end Unmarked

/-- A clause has one stop, which is its last token. -/
theorem Grammar.IsClause.count_stop {admits : List Token → Prop} {tokens : List Token}
    {clause : Clause} (derives : IsClause admits tokens clause) : tokens.count .stop = 1 := by
  cases derives with
  | fact begins _ =>
    rw [List.count_append, List.count_eq_zero.mpr ((Unmarked.isPrimary _).notMem begins rfl)]
    rfl
  | rule begins _ behind =>
    rw [List.count_append, List.count_append, List.count_cons,
      List.count_eq_zero.mpr ((Unmarked.isPrimary _).notMem begins rfl),
      List.count_eq_zero.mpr ((Unmarked.bodies _).2.notMem behind rfl)]
    rfl

end Statute.Logic
