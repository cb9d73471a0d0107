import DotGraph.Proofs.Stepping.Phrases
import Mathlib.Data.Prod.Lex
import Mathlib.Logic.Relation
import Mathlib.Order.WellFounded

/-!
# Stages of reading

Where reading stands is told by what is left to be read and by the index of the next token. A step
looks at the token at that index, or at the last one if the index is beyond it, and moves on the
first phrase. Every step leaves fewer tokens, or as many and fewer moves before the next one is
taken (`remaining_lt_of_steps`), so there is no run without end, whatever the tokens are.
-/

namespace DotGraph.Reader

open Relation (ReflTransGen TransGen)
open Phrase (mayBeEmpty delayAll)

structure Stage where
  phrases : List Phrase
  index : Nat

/-- What a step comes to. -/
inductive Outcome
  | moves (taken : Option Token) (next : Stage)
  | ends
  | rejects (reason : Reason)
  | outOfRange

def ahead? (tokens : List Token) (index : Nat) : Option Token :=
  tokens[min index (tokens.length - 1)]?

namespace Stage

def start : Stage := ⟨[.declarations], 0⟩

/-- A token is taken from the index itself, whether or not there is one. -/
def step (tokens : List Token) : Stage → Outcome
  | ⟨[], _⟩ => .ends
  | ⟨phrase :: phrases, index⟩ =>
    match ahead? tokens index with
    | none => .outOfRange
    | some token =>
      match phrase.move token with
      | .reject reason => .rejects reason
      | .stay more => .moves none ⟨more ++ phrases, index⟩
      | .take more =>
        match tokens[index]? with
        | none => .outOfRange
        | some taken => .moves (some taken) ⟨more ++ phrases, index + 1⟩

end Stage

variable {tokens : List Token} {stage next last : Stage} {taken : Option Token} {outcome : Outcome}

/-- What steps come to, case by case. -/
inductive Does (tokens : List Token) : Stage → Outcome → Prop
  | ends {index : Nat} : Does tokens ⟨[], index⟩ .ends
  | blind {phrase : Phrase} {phrases : List Phrase} {index : Nat} :
      ahead? tokens index = none → Does tokens ⟨phrase :: phrases, index⟩ .outOfRange
  | rejects {phrase : Phrase} {phrases : List Phrase} {index : Nat} {token : Token}
      {reason : Reason} : ahead? tokens index = some token → phrase.move token = .reject reason →
      Does tokens ⟨phrase :: phrases, index⟩ (.rejects reason)
  | stays {phrase : Phrase} {phrases more : List Phrase} {index : Nat} {token : Token} :
      ahead? tokens index = some token → phrase.move token = .stay more →
      Does tokens ⟨phrase :: phrases, index⟩ (.moves none ⟨more ++ phrases, index⟩)
  | beyond {phrase : Phrase} {phrases more : List Phrase} {index : Nat} {token : Token} :
      ahead? tokens index = some token → phrase.move token = .take more →
      tokens[index]? = none → Does tokens ⟨phrase :: phrases, index⟩ .outOfRange
  | takes {phrase : Phrase} {phrases more : List Phrase} {index : Nat} {token taken : Token} :
      ahead? tokens index = some token → phrase.move token = .take more →
      tokens[index]? = some taken →
      Does tokens ⟨phrase :: phrases, index⟩ (.moves (some taken) ⟨more ++ phrases, index + 1⟩)

theorem does_step (tokens : List Token) (stage : Stage) :
    Does tokens stage (stage.step tokens) := by
  obtain ⟨_ | ⟨phrase, phrases⟩, index⟩ := stage
  · exact .ends
  · simp only [Stage.step]
    split
    · next unseen => exact .blind unseen
    · next token seen =>
      split
      · next rejects => exact .rejects seen rejects
      · next stays => exact .stays seen stays
      · next takes =>
        split
        · next absent => exact .beyond seen takes absent
        · next there => exact .takes seen takes there

theorem step_eq_iff : stage.step tokens = outcome ↔ Does tokens stage outcome := by
  constructor
  · rintro rfl
    exact does_step tokens stage
  · intro does
    cases does <;> simp only [Stage.step, *]

theorem phrases_of_ends (ended : stage.step tokens = .ends) : stage.phrases = [] := by
  cases step_eq_iff.mp ended with
  | ends => rfl

theorem index_of_moves (moved : stage.step tokens = .moves taken next) :
    next.index = stage.index + taken.toList.length := by
  cases step_eq_iff.mp moved <;> rfl

def Steps (tokens : List Token) (stage next : Stage) : Prop :=
  ∃ taken, stage.step tokens = .moves taken next

theorem reaches_of_step (moved : stage.step tokens = .moves taken next)
    (run : ReflTransGen (Steps tokens) next last) : ReflTransGen (Steps tokens) stage last :=
  .head ⟨taken, moved⟩ run

/-! ### More to read afterwards -/

/-- The stage at which something else is still to be read after all that is left. -/
def Stage.before (rest : List Phrase) (stage : Stage) : Stage :=
  ⟨stage.phrases ++ rest, stage.index⟩

theorem moves_before (rest : List Phrase) (moved : stage.step tokens = .moves taken next) :
    (stage.before rest).step tokens = .moves taken (next.before rest) := by
  rw [step_eq_iff] at moved ⊢
  cases moved with
  | stays seen stays =>
    rw [Stage.before, Stage.before, List.append_assoc]
    exact .stays seen stays
  | takes seen takes there =>
    rw [Stage.before, Stage.before, List.append_assoc]
    exact .takes seen takes there

theorem reaches_before (rest : List Phrase) (run : ReflTransGen (Steps tokens) stage last) :
    ReflTransGen (Steps tokens) (stage.before rest) (last.before rest) := by
  refine run.lift (Stage.before rest) ?_
  rintro _ _ ⟨taken, moved⟩
  exact ⟨taken, moves_before rest moved⟩

theorem rejects_before (rest : List Phrase) {reason : Reason}
    (rejected : stage.step tokens = .rejects reason) :
    (stage.before rest).step tokens = .rejects reason := by
  rw [step_eq_iff] at rejected ⊢
  cases rejected with
  | rejects seen rejects => exact .rejects seen rejects

/-! ### What remains -/

/-- What is left: the tokens, and then the moves before the next one is taken. -/
def remaining (tokens : List Token) (stage : Stage) : Nat ×ₗ Nat :=
  toLex (tokens.length - stage.index, delayAll stage.phrases)

theorem remaining_lt_of_steps (step : Steps tokens stage next) :
    remaining tokens next < remaining tokens stage := by
  obtain ⟨taken, moved⟩ := step
  rw [remaining, remaining, Prod.Lex.toLex_lt_toLex]
  cases step_eq_iff.mp moved with
  | stays seen stays => exact .inr ⟨rfl, Phrase.delayAll_lt_of_stay stays _⟩
  | takes seen takes there =>
    obtain ⟨inside, -⟩ := List.getElem?_eq_some_iff.mp there
    exact .inl (Nat.sub_lt_sub_left inside (Nat.lt_succ_self _))

theorem wellFounded_steps (tokens : List Token) :
    WellFounded fun next stage => Steps tokens stage next :=
  Subrelation.wf remaining_lt_of_steps (InvImage.wf (remaining tokens) wellFounded_lt)

/-- Every run can be brought to its end. -/
theorem exists_final (tokens : List Token) (stage : Stage) :
    ∃ final, ReflTransGen (Steps tokens) stage final ∧ ∀ next, ¬ Steps tokens final next := by
  induction stage using (wellFounded_steps tokens).induction with
  | _ stage ih =>
    by_cases more : ∃ next, Steps tokens stage next
    · obtain ⟨next, step⟩ := more
      obtain ⟨final, run, ends⟩ := ih next step
      exact ⟨final, .head step run, ends⟩
    · exact ⟨stage, .refl, not_exists.mp more⟩

theorem remaining_lt_of_transGen (run : TransGen (Steps tokens) stage last) :
    remaining tokens last < remaining tokens stage := by
  induction run with
  | single step => exact remaining_lt_of_steps step
  | tail _ step ih => exact (remaining_lt_of_steps step).trans ih

/-! ### Rounds of loops -/

/-- Phrases that are left to be read by one loop. -/
inductive SameLoop : Phrase → Phrase → Prop
  | declarations : SameLoop .declarations .declarations
  | statements : SameLoop .statements .statements
  | attrLists : SameLoop .attrLists .attrLists
  | pairs : SameLoop .pairs .pairs
  | links : SameLoop .links .links
  | ports {most left : Nat} : SameLoop (.ports most) (.ports left)
  | joinedStrings : SameLoop .joinedStrings .joinedStrings

variable {rest : List Phrase} {index later : Nat}

/-- From one round of a loop to another one a token is taken, as no fewer moves are left. -/
theorem index_lt_of_sameLoop {head again : Phrase} (loop : SameLoop head again)
    (run : TransGen (Steps tokens) ⟨head :: rest, index⟩ ⟨again :: rest, later⟩) :
    index < later := by
  have same : delayAll (again :: rest) = delayAll (head :: rest) := by cases loop <;> rfl
  have less := remaining_lt_of_transGen run
  rw [remaining, remaining, Prod.Lex.toLex_lt_toLex] at less
  dsimp only at less
  omega

/-! ### Phrases that cannot be empty -/

/-- Something that cannot be empty is left before the rest. -/
def Unfinished (rest : List Phrase) (stage : Stage) : Prop :=
  ∃ front, stage.phrases = front ++ rest ∧ front.all mayBeEmpty = false

theorem not_unfinished (rest : List Phrase) (index : Nat) : ¬ Unfinished rest ⟨rest, index⟩ := by
  rintro ⟨front, same, unfinished⟩
  rw [List.self_eq_append_left.mp same] at unfinished
  cases unfinished

theorem Unfinished.stays (unfinished : Unfinished rest stage)
    (moved : stage.step tokens = .moves none next) : Unfinished rest next := by
  obtain ⟨front, split, needed⟩ := unfinished
  cases step_eq_iff.mp moved with
  | @stays phrase phrases more index token seen stays =>
    cases front with
    | nil => cases needed
    | cons first front =>
      obtain ⟨rfl, rfl⟩ := List.cons.inj split
      refine ⟨more ++ front, (List.append_assoc ..).symm, ?_⟩
      rw [List.all_append]
      cases empty : more.all mayBeEmpty with
      | false => rfl
      | true => rwa [List.all_cons, Phrase.mayBeEmpty_of_stay stays empty] at needed

/-- Until a token is taken it is left. -/
theorem Unfinished.reaches (unfinished : Unfinished rest stage)
    (run : ReflTransGen (Steps tokens) stage last) :
    stage.index < last.index ∨ stage.index = last.index ∧ Unfinished rest last := by
  induction run with
  | refl => exact .inr ⟨rfl, unfinished⟩
  | tail _ step ih =>
    obtain ⟨taken, moved⟩ := step
    have grown := index_of_moves moved
    rcases ih with before | ⟨same, unfinished⟩
    · exact .inl (by omega)
    · cases taken with
      | some token =>
        rw [Option.toList_some, List.length_singleton] at grown
        exact .inl (by omega)
      | none => exact .inr ⟨same.trans grown.symm, unfinished.stays moved⟩

theorem index_lt_of_not_mayBeEmpty {phrase : Phrase} (needed : phrase.mayBeEmpty = false)
    (run : ReflTransGen (Steps tokens) ⟨phrase :: rest, index⟩ ⟨rest, later⟩) : index < later := by
  have unfinished : Unfinished rest ⟨phrase :: rest, index⟩ :=
    ⟨[phrase], rfl, by rw [List.all_cons, needed]; rfl⟩
  rcases unfinished.reaches run with before | ⟨-, unfinished⟩
  · exact before
  · exact absurd unfinished (not_unfinished rest later)

end DotGraph.Reader
