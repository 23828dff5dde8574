import TaskWatch.Metadata.Question

/-!
# Searches

The extractors of metadata are written for any way to decode a text. Whatever that way is, it only
meets them where they decode a text and go on with the object of it. So each extractor is one
`Search`, a tree whose nodes are the texts to decode, and running the extractor with some decoder is
running its search with it:

* `Search.bind_eq_run`: two steps are run one after the other;
* `Question.answers_eq_run`: the answers to some questions are one search, run with the decoder.
-/

namespace TaskWatch.Metadata

/-- A search for something in texts. -/
inductive Search (α : Type) where
  | done (result : α)
  /-- Decodes a text and goes on with its object. -/
  | decode (text : String) (next : Option Members → Search α)

namespace Search

variable {α β : Type}

/-- One search, and another that depends on its result. -/
def bind : Search α → (α → Search β) → Search β
  | done result, f => f result
  | decode text next, f => decode text fun found => (next found).bind f

instance : Monad Search where
  pure := done
  bind := bind

/-- The search that decodes one text. -/
def look (text : String) : Search (Option Members) := decode text done

section

variable {m : Type → Type} [Monad m] (decoder : String → m (Option Members))

/-- Runs a search with a way to decode texts. -/
def run : Search α → m α
  | done result => pure result
  | decode text next => do run (next (← decoder text))

variable [LawfulMonad m]

@[simp] theorem run_look (text : String) : (look text).run decoder = decoder text := by
  rw [look, run]
  exact bind_pure (decoder text)

/-- Two steps are run one after the other. -/
theorem bind_eq_run {x : m α} {f : α → m β} {s : Search α} {g : α → Search β}
    (hx : x = s.run decoder) (hf : ∀ a, f a = (g a).run decoder) :
    x >>= f = (s >>= g).run decoder := by
  subst hx
  induction s with
  | done result => exact (pure_bind result f).trans (hf result)
  | decode text next ih =>
    have hnext : (decode text next >>= g).run decoder =
        decoder text >>= fun found => (next found >>= g).run decoder := rfl
    rw [hnext, run, bind_assoc]
    exact congrArg (decoder text >>= ·) (funext ih)

end

end Search

/-! ## The extractors as searches -/

section

open Search

variable {m : Type → Type} [Monad m] [LawfulMonad m] (decoder : String → m (Option Members))

theorem nestedObject_run (members : Members) (key : String) :
    nestedObject decoder members key = (nestedObject look members key).run decoder := by
  unfold nestedObject
  split
  · rfl
  · exact (run_look decoder _).symm
  · rfl

theorem runSteps_run {again : Members → m (Option String)}
    {search : Members → Search (Option String)}
    (hagain : ∀ inner, again inner = (search inner).run decoder) (members : Members) (steps : List Step) :
    runSteps decoder again members steps = (runSteps look search members steps).run decoder := by
  induction steps with
  | nil => rfl
  | cons step rest ih =>
    cases step with
    | direct keys => exact bind_eq_run decoder rfl (Option.forall.2 ⟨ih, fun _ => rfl⟩)
    | nested key fields =>
      exact bind_eq_run decoder (nestedObject_run decoder members key) fun inner =>
        bind_eq_run decoder rfl (Option.forall.2 ⟨ih, fun _ => rfl⟩)
    | reencoded key =>
      rw [runSteps, runSteps]
      split
      · refine bind_eq_run decoder (run_look decoder _).symm ?_
        rintro (_ | inner)
        · exact bind_eq_run decoder rfl (Option.forall.2 ⟨ih, fun _ => rfl⟩)
        · exact bind_eq_run decoder (hagain inner) (Option.forall.2 ⟨ih, fun _ => rfl⟩)
      · exact bind_eq_run decoder rfl (Option.forall.2 ⟨ih, fun _ => rfl⟩)

theorem runChain_run (chain : List Step) (level : Nat) (members : Members) :
    runChain decoder chain level members = (runChain look chain level members).run decoder := by
  induction level generalizing members with
  | zero => rfl
  | succ level ih => exact runSteps_run decoder ih members chain

theorem valueLines_run {again : Members → m (List String)} {search : Members → Search (List String)}
    (hagain : ∀ inner, again inner = (search inner).run decoder) (value : Json) :
    valueLines decoder again value = (valueLines look search value).run decoder := by
  cases value with
  | string text =>
    refine bind_eq_run decoder (run_look decoder text).symm ?_
    rintro (_ | inner)
    · rfl
    · exact hagain inner
  | _ => rfl

theorem gatherLines_run (level : Nat) (members : Members) :
    gatherLines decoder level members = (gatherLines look level members).run decoder := by
  induction level generalizing members with
  | zero => rfl
  | succ level ih =>
    rw [gatherLines, gatherLines]
    -- the lines of the object itself come first, then those of the document stored in it
    split
    all_goals refine bind_eq_run decoder ?_ fun own => ?_
    case h_1.refine_1 => exact valueLines_run decoder ih _
    case h_2.refine_1 => rfl
    all_goals
      split
      · refine bind_eq_run decoder (run_look decoder _).symm ?_
        rintro (_ | inner)
        · rfl
        · exact bind_eq_run decoder (ih inner) fun _ => rfl
      · rfl

theorem progressLines_run (members : Members) :
    progressLines decoder members = (progressLines look members).run decoder :=
  bind_eq_run decoder (gatherLines_run decoder levels members) fun _ => rfl

/-! ## The readings of a text -/

theorem taskIdIn?_run (text : String) :
    taskIdIn? decoder text = (taskIdIn? look text).run decoder := by
  refine bind_eq_run decoder (run_look decoder text).symm ?_
  rintro (_ | members)
  · rfl
  · exact runChain_run decoder taskIdChain levels members

theorem labelIn?_run (text : String) : labelIn? decoder text = (labelIn? look text).run decoder := by
  refine bind_eq_run decoder (run_look decoder text).symm ?_
  rintro (_ | members)
  · rfl
  · exact runChain_run decoder labelChain levels members

theorem progressLinesIn_run (text : String) :
    progressLinesIn decoder text = (progressLinesIn look text).run decoder := by
  refine bind_eq_run decoder (run_look decoder text).symm ?_
  rintro (_ | members)
  · rfl
  · exact progressLines_run decoder members

/-- A question is answered by running its search. -/
theorem Question.answer_eq_run (question : Question) :
    question.answer decoder = (question.answer look).run decoder := by
  cases question with
  | object text => exact bind_eq_run decoder (run_look decoder text).symm fun _ => rfl
  | taskId text => exact bind_eq_run decoder (taskIdIn?_run decoder text) fun _ => rfl
  | label text => exact bind_eq_run decoder (labelIn?_run decoder text) fun _ => rfl
  | lines text => exact bind_eq_run decoder (progressLinesIn_run decoder text) fun _ => rfl

/-- So are some questions, one after the other. -/
theorem Question.answers_eq_run (questions : List Question) :
    Question.answers decoder questions = (Question.answers look questions).run decoder := by
  induction questions with
  | nil => rfl
  | cons question rest ih =>
    exact bind_eq_run decoder (question.answer_eq_run decoder) fun _ =>
      bind_eq_run decoder ih fun _ => rfl

end

end TaskWatch.Metadata
