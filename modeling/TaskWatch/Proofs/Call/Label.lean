import Mathlib.Data.List.SplitBy
import TaskWatch.Proofs.Call.Effects

/-!
# The label of a call

The label of a call follows from the labels offered to it, in the order in which they were offered,
those that are blank left out (`Offer.labels`). Its tier is the highest at which a label was offered
(`highestTier`). Below the external tier the first label of that tier stays; an external label may
be corrected, so there it is the first of the last labels that are the same up to ASCII case
(`standingLabel`).

* `CallState.Stands.offer`: what one offer does to the label that stands;
* `CallSession.label_exact`: the label after any actions on a call.
-/

namespace TaskWatch

/-! ## The labels that were offered -/

/-- The label of an offer, trimmed, with its tier. A blank one does not count. -/
def Offer.label? (o : Offer) : Option (String × LabelTier) :=
  (Text.nonBlank? o.candidate).map (·, o.tier)

/-- The labels of some offers. -/
def Offer.labels (offers : List Offer) : List (String × LabelTier) :=
  offers.filterMap Offer.label?

/-- The highest tier at which a label was offered. -/
def highestTier (labels : List (String × LabelTier)) : LabelTier :=
  labels.foldl (fun tier label => if tier.rank < label.2.rank then label.2 else tier) .none

/-- The labels that were offered at a tier. -/
def labelsAt (tier : LabelTier) (labels : List (String × LabelTier)) : List String :=
  labels.filterMap fun label => if label.2 = tier then some label.1 else none

/-- The label that stands after some labels were offered. -/
def standingLabel (labels : List (String × LabelTier)) : String :=
  match highestTier labels with
  | .external =>
    (((labelsAt .external labels).splitBy Text.eqIgnoringAsciiCase).getLast?.bind List.head?).getD ""
  | tier => (labelsAt tier labels).head?.getD ""

theorem LabelTier.eq_of_rank {tier tier' : LabelTier} (h : tier.rank = tier'.rank) : tier = tier' := by
  cases tier <;> cases tier' <;> first | rfl | cases h

theorem highestTier_concat (labels : List (String × LabelTier)) (label : String × LabelTier) :
    highestTier (labels ++ [label]) =
      if (highestTier labels).rank < label.2.rank then label.2 else highestTier labels := by
  rw [highestTier, List.foldl_append]
  rfl

theorem rank_le_highestTier {labels : List (String × LabelTier)} {label : String × LabelTier}
    (h : label ∈ labels) : label.2.rank ≤ (highestTier labels).rank := by
  induction labels using List.reverseRecOn with
  | nil => cases h
  | append_singleton labels last ih =>
    rw [highestTier_concat]
    obtain h | h := List.mem_append.1 h
    · have hle := ih h
      split <;> omega
    · obtain rfl := List.mem_singleton.1 h
      split <;> omega

theorem labelsAt_concat (tier : LabelTier) (labels : List (String × LabelTier))
    (label : String × LabelTier) :
    labelsAt tier (labels ++ [label]) =
      labelsAt tier labels ++ if label.2 = tier then [label.1] else [] := by
  rw [labelsAt, List.filterMap_append]
  by_cases h : label.2 = tier <;> simp [labelsAt, h]

/-- Nothing was offered above the highest tier. -/
theorem labelsAt_eq_nil {tier : LabelTier} {labels : List (String × LabelTier)}
    (h : (highestTier labels).rank < tier.rank) : labelsAt tier labels = [] := by
  refine List.filterMap_eq_nil_iff.2 fun label hlabel => if_neg ?_
  rintro rfl
  exact absurd (rank_le_highestTier hlabel) (Nat.not_le.2 h)

theorem nonBlank?_of_mem_labels {offers : List Offer} {label : String × LabelTier}
    (h : label ∈ Offer.labels offers) : Text.nonBlank? label.1 = some label.1 := by
  obtain ⟨o, -, ho⟩ := List.mem_filterMap.1 h
  obtain ⟨kept, hkept, rfl⟩ := Option.map_eq_some_iff.1 ho
  exact Text.nonBlank?_of_eq_some hkept

namespace CallState

/-! ## The label that stands -/

/-- The last of some external labels, where those that follow it are the same up to ASCII case and
the one before it is not. -/
def Corrected (label : String) (labels : List String) : Prop :=
  ∃ earlier same, labels = earlier ++ label :: same ∧
    (∀ l ∈ same, Text.eqIgnoringAsciiCase label l = true) ∧
    ∀ l, earlier.getLast? = some l → Text.eqIgnoringAsciiCase l label = false

/-- The label of a call and its tier are those that stand after some labels were offered. -/
structure Stands (labels : List (String × LabelTier)) (s : CallState) : Prop where
  tier : s.tier = highestTier labels
  first : s.tier ≠ .external → s.label = (labelsAt s.tier labels).head?.getD ""
  corrected : s.tier = .external → Corrected s.label (labelsAt .external labels)

theorem Corrected.ne_nil {label : String} {labels : List String} (h : Corrected label labels) :
    labels ≠ [] := by
  obtain ⟨earlier, same, rfl, -⟩ := h
  exact List.append_ne_nil_of_right_ne_nil earlier (List.cons_ne_nil label same)

theorem Corrected.mem {label : String} {labels : List String} (h : Corrected label labels) :
    label ∈ labels := by
  obtain ⟨earlier, same, rfl, -⟩ := h
  exact List.mem_append_right earlier List.mem_cons_self

theorem Corrected.singleton (label : String) : Corrected label [label] :=
  ⟨[], [], rfl, nofun, nofun⟩

/-- A label that is the same up to case changes nothing. -/
theorem Corrected.same {label next : String} {labels : List String} (h : Corrected label labels)
    (hnext : Text.eqIgnoringAsciiCase label next = true) : Corrected label (labels ++ [next]) := by
  obtain ⟨earlier, same, rfl, hsame, hearlier⟩ := h
  refine ⟨earlier, same ++ [next], by simp, fun l hl => ?_, hearlier⟩
  obtain hl | hl := List.mem_append.1 hl
  · exact hsame l hl
  · obtain rfl := List.mem_singleton.1 hl
    exact hnext

/-- Another label takes the place of the one that stands. -/
theorem Corrected.other {label next : String} {labels : List String} (h : Corrected label labels)
    (hnext : Text.eqIgnoringAsciiCase label next = false) : Corrected next (labels ++ [next]) := by
  obtain ⟨earlier, same, rfl, hsame, hearlier⟩ := h
  refine ⟨earlier ++ label :: same, [], rfl, nofun, fun l hl => ?_⟩
  have hmem : l = label ∨ l ∈ same := by
    rw [List.getLast?_append, List.getLast?_cons] at hl
    cases hlast : same.getLast? with
    | none =>
      rw [hlast] at hl
      exact .inl (Option.some.inj hl).symm
    | some last =>
      rw [hlast] at hl
      obtain rfl := Option.some.inj hl
      exact .inr (List.mem_of_getLast? hlast)
  -- all of them are the same up to case, so the last differs from the new one as the first does
  have hl : Text.asciiLower label = Text.asciiLower l := by
    obtain rfl | hmem := hmem
    · rfl
    · exact (Text.eqIgnoringAsciiCase_iff label l).1 (hsame l hmem)
  rw [Bool.eq_false_iff, Ne, Text.eqIgnoringAsciiCase_iff] at hnext ⊢
  rw [← hl]
  exact hnext

namespace Stands

variable {labels : List (String × LabelTier)} {s : CallState}

theorem new (callId : String) (capacity : Nat) : Stands [] (.new callId capacity) :=
  ⟨rfl, fun _ => rfl, nofun⟩

theorem of_named {s' : CallState} (hs : s'.named = s.named) (h : Stands labels s) :
    Stands labels s' := by
  have hlabel : s'.label = s.label := congrArg Prod.fst hs
  have htier : s'.tier = s.tier := congrArg Prod.snd hs
  refine ⟨htier.trans h.tier, fun hne => ?_, fun heq => ?_⟩
  · rw [hlabel, htier]
    exact h.first (htier ▸ hne)
  · rw [hlabel]
    exact h.corrected (htier ▸ heq)

/-- There is no label as long as none was offered at the tier. -/
theorem isBlank_iff (h : Stands labels s)
    (hkept : ∀ label ∈ labels, Text.nonBlank? label.1 = some label.1) :
    Text.isBlank s.label = true ↔ labelsAt s.tier labels = [] := by
  have hmem {tier : LabelTier} {label : String} (hlabel : label ∈ labelsAt tier labels) :
      ¬Text.isBlank label = true := by
    obtain ⟨l, hl, heq⟩ := List.mem_filterMap.1 hlabel
    split at heq
    · obtain rfl := Option.some.inj heq
      exact Bool.eq_false_iff.1 (Text.isBlank_of_nonBlank? (hkept l hl))
    · cases heq
  by_cases htier : s.tier = .external
  · have hcorrected := h.corrected htier
    rw [htier]
    exact iff_of_false (hmem hcorrected.mem) hcorrected.ne_nil
  · have hfirst := h.first htier
    cases hlabels : labelsAt s.tier labels with
    | nil =>
      rw [hlabels] at hfirst
      rw [hfirst]
      exact iff_of_true rfl rfl
    | cons label rest =>
      rw [hlabels] at hfirst
      have hfirst : s.label = label := hfirst
      rw [hfirst]
      exact iff_of_false (hmem (hlabels ▸ List.mem_cons_self)) (List.cons_ne_nil _ _)

/-- The first label of a tier stands when nothing was offered above it. -/
theorem promote (h : Stands labels s) {label : String} {tier : LabelTier}
    (hrank : s.tier.rank ≤ tier.rank) (hnone : labelsAt tier labels = []) :
    Stands (labels ++ [(label, tier)]) { s with label := label, tier := tier } := by
  have hlabels : labelsAt tier (labels ++ [(label, tier)]) = [label] := by
    rw [labelsAt_concat, hnone, if_pos rfl]
    rfl
  refine ⟨?_, fun _ => ?_, fun (htier : tier = .external) => ?_⟩
  · show tier = highestTier (labels ++ [(label, tier)])
    rw [highestTier_concat, ← h.tier]
    split
    · rfl
    · next hle =>
      have hle : ¬s.tier.rank < tier.rank := hle
      exact LabelTier.eq_of_rank (by omega)
  · show label = (labelsAt tier (labels ++ [(label, tier)])).head?.getD ""
    rw [hlabels]
    rfl
  · show Corrected label (labelsAt .external (labels ++ [(label, tier)]))
    rw [← htier, hlabels]
    exact .singleton label

/-- A label below the tier changes nothing. -/
theorem lower (h : Stands labels s) {label : String} {tier : LabelTier}
    (hrank : ¬s.tier.rank < tier.rank) (htier : tier ≠ s.tier) :
    Stands (labels ++ [(label, tier)]) s := by
  have hlabels : labelsAt s.tier (labels ++ [(label, tier)]) = labelsAt s.tier labels := by
    rw [labelsAt_concat, if_neg htier, List.append_nil]
  refine ⟨?_, fun hne => ?_, fun heq => ?_⟩
  · rw [highestTier_concat, ← h.tier, if_neg hrank]
  · rw [hlabels]
    exact h.first hne
  · rw [← heq, hlabels, heq]
    exact h.corrected heq

end Stands

/-- When a label takes the place of the one that stands. -/
theorem accepts_iff {s : CallState} {label : String} {tier : LabelTier} :
    s.accepts label tier = true ↔ s.tier.rank < tier.rank ∨
      tier = s.tier ∧ (Text.isBlank s.label = true ∨
        tier = .external ∧ Text.eqIgnoringAsciiCase s.label label = false) := by
  simp [accepts]

namespace Stands

variable {labels : List (String × LabelTier)} {s : CallState}

/-- What one more label does to the one that stands. -/
theorem updateLabel (h : Stands labels s)
    (hkept : ∀ label ∈ labels, Text.nonBlank? label.1 = some label.1) (label : String)
    (tier : LabelTier) :
    Stands (labels ++ [(label, tier)])
      (if s.accepts label tier then { s with label := label, tier := tier } else s) := by
  by_cases hrank : s.tier.rank < tier.rank
  · rw [if_pos (accepts_iff.2 (.inl hrank))]
    exact h.promote (Nat.le_of_lt hrank) (labelsAt_eq_nil (h.tier ▸ hrank))
  by_cases htier : tier = s.tier
  · subst htier
    by_cases hblank : Text.isBlank s.label = true
    · rw [if_pos (accepts_iff.2 (.inr ⟨rfl, .inl hblank⟩))]
      exact h.promote (Nat.le_refl _) ((h.isBlank_iff hkept).1 hblank)
    have hhighest : s.tier = highestTier (labels ++ [(label, s.tier)]) := by
      rw [highestTier_concat, ← h.tier, if_neg hrank]
    have hlabels : labelsAt s.tier (labels ++ [(label, s.tier)]) =
        labelsAt s.tier labels ++ [label] := by
      rw [labelsAt_concat, if_pos rfl]
    by_cases hexternal : s.tier = .external
    · have hcorrected := h.corrected hexternal
      rw [hexternal] at hlabels
      cases hsame : Text.eqIgnoringAsciiCase s.label label with
      | true =>
        have hnot : ¬s.accepts label s.tier = true := by
          rw [accepts_iff]
          simp [hblank, hsame]
        rw [if_neg hnot]
        refine ⟨hhighest, fun hne => absurd hexternal hne, fun _ => ?_⟩
        rw [hexternal, hlabels]
        exact hcorrected.same hsame
      | false =>
        rw [if_pos (accepts_iff.2 (.inr ⟨rfl, .inr ⟨hexternal, hsame⟩⟩))]
        refine ⟨hhighest, fun hne => absurd hexternal hne, fun _ => ?_⟩
        show Corrected label (labelsAt .external (labels ++ [(label, s.tier)]))
        rw [hexternal, hlabels]
        exact hcorrected.other hsame
    · have hnot : ¬s.accepts label s.tier = true := by
        rw [accepts_iff]
        simp [hblank, hexternal]
      rw [if_neg hnot]
      refine ⟨hhighest, fun _ => ?_, fun heq => absurd heq hexternal⟩
      rw [hlabels, h.first hexternal]
      cases hfirst : labelsAt s.tier labels with
      | nil => exact absurd ((h.isBlank_iff hkept).2 hfirst) hblank
      | cons first rest => rfl
  · have hnot : ¬s.accepts label tier = true := by
      rw [accepts_iff]
      simp [hrank, htier]
    rw [if_neg hnot]
    exact h.lower hrank htier

/-- What an offer does to the label that stands. -/
theorem offer {offers : List Offer} (h : Stands (Offer.labels offers) s) (o : Offer) :
    Stands (Offer.labels (offers ++ [o])) (s.offer o) := by
  rw [Offer.labels, List.filterMap_append]
  unfold CallState.offer CallState.updateLabel
  cases hlabel : Text.nonBlank? o.candidate with
  | none =>
    have hnone : [o].filterMap Offer.label? = [] := by simp [Offer.label?, hlabel]
    rw [hnone, List.append_nil]
    exact h
  | some label =>
    have hsome : [o].filterMap Offer.label? = [(label, o.tier)] := by simp [Offer.label?, hlabel]
    have hstands := h.updateLabel (fun l hl => nonBlank?_of_mem_labels hl) label o.tier
    rw [hsome]
    dsimp only
    split
    · next haccepts =>
      rw [if_pos haccepts] at hstands
      exact hstands
    · next haccepts =>
      rw [if_neg haccepts] at hstands
      exact hstands

theorem offers {offers : List Offer} (h : Stands (Offer.labels offers) s) (more : List Offer) :
    Stands (Offer.labels (offers ++ more)) (more.foldl CallState.offer s) := by
  induction more generalizing s offers with
  | nil =>
    rw [List.append_nil]
    exact h
  | cons o rest ih =>
    have hrest := ih (h.offer o)
    rw [List.append_assoc] at hrest
    exact hrest

/-- The label that stands, in closed form. -/
theorem label (h : Stands labels s) : s.label = standingLabel labels := by
  unfold standingLabel
  rw [← h.tier]
  split
  · next hexternal =>
    obtain ⟨earlier, same, hlabels, hsame, hearlier⟩ := h.corrected hexternal
    have hlower {l : String} (hl : l ∈ s.label :: same) :
        Text.asciiLower l = Text.asciiLower s.label := by
      obtain rfl | hl := List.mem_cons.1 hl
      · rfl
      · exact ((Text.eqIgnoringAsciiCase_iff s.label l).1 (hsame l hl)).symm
    have hlast : (s.label :: same).splitBy Text.eqIgnoringAsciiCase = [s.label :: same] := by
      refine List.splitBy_of_isChain (List.cons_ne_nil _ _) (List.Pairwise.isChain ?_)
      refine List.pairwise_iff_getElem.2 fun i j _ _ _ => ?_
      rw [Text.eqIgnoringAsciiCase_iff, hlower (List.getElem_mem _), hlower (List.getElem_mem _)]
    rw [hlabels, List.splitBy_append_cons same hearlier, hlast]
    simp
  · next tier hne =>
    exact h.first fun heq => hne heq

end Stands

end CallState

namespace CallSession

open CallState

/-- The label of a call over some actions. -/
structure Labelled (s : CallSession) (actions : List Action) : Prop where
  tier : (s.run actions).call.tier = highestTier (Offer.labels (actions.flatMap Action.offers))
  label : (s.run actions).call.label = standingLabel (Offer.labels (actions.flatMap Action.offers))
  /-- An offer is answered with whether it changed the label or its tier. -/
  answer : ∀ before candidate tier after, actions = before ++ .updateLabel candidate tier :: after →
    ∃ taken, ((s.run before).act (.updateLabel candidate tier)).1 = .flag taken ∧
      (taken = true ↔ (s.run (before ++ [.updateLabel candidate tier])).call.named ≠
        (s.run before).call.named)
  rises : ∀ more, (s.run actions).call.tier.rank ≤ (s.run (actions ++ more)).call.tier.rank
  stays : ∀ more, Text.isBlank (s.run actions).call.label = false →
    Text.isBlank (s.run (actions ++ more)).call.label = false

/-- The label after some actions stands after what they offered. -/
theorem stands_run {s : CallSession} {offers : List Offer}
    (h : Stands (Offer.labels offers) s.call) (actions : List Action) :
    Stands (Offer.labels (offers ++ actions.flatMap Action.offers)) (s.run actions).call := by
  induction actions generalizing s offers with
  | nil =>
    rw [List.flatMap_nil, List.append_nil]
    exact h
  | cons action rest ih =>
    have hnamed : (s.act action).2.call.named = (action.offers.foldl offer s.call).named :=
      congrArg (·.2.2.1) (known_act s action)
    have hrest := ih (.of_named hnamed (h.offers action.offers))
    rw [List.append_assoc] at hrest
    exact hrest

theorem stands_new (callId : String) (capacity : Nat) (tokens : Tokens) (actions : List Action) :
    Stands (Offer.labels (actions.flatMap Action.offers))
      (run (.new callId capacity tokens) actions).call := by
  have h : Stands (Offer.labels []) (new callId capacity tokens).call := .new callId capacity
  exact stands_run h actions

/-- A label that is taken is another, or is of another tier. -/
theorem updateLabel_eq_true (s : CallState) (candidate : String) (tier : LabelTier) :
    (s.updateLabel candidate tier).1 = true ↔
      (s.updateLabel candidate tier).2.named ≠ s.named := by
  unfold CallState.updateLabel
  cases hlabel : Text.nonBlank? candidate with
  | none => exact iff_of_false nofun fun h => h rfl
  | some label =>
    dsimp only
    split
    · next haccepts =>
      refine iff_of_true rfl fun hsame => ?_
      have hlabel' : label = s.label := congrArg Prod.fst hsame
      have htier : tier = s.tier := congrArg Prod.snd hsame
      obtain hrank | ⟨-, hblank | ⟨-, hother⟩⟩ := accepts_iff.1 haccepts
      · exact absurd (htier ▸ hrank) (Nat.lt_irrefl _)
      · have hkept := Text.isBlank_of_nonBlank? (Text.nonBlank?_of_eq_some hlabel)
        rw [hlabel', hblank] at hkept
        cases hkept
      · rw [hlabel', Text.eqIgnoringAsciiCase_refl] at hother
        cases hother
    · exact iff_of_false nofun fun h => h rfl

/-- An offer takes the tier no lower, and leaves no blank in the place of a label. -/
theorem offer_improves (s : CallState) (o : Offer) :
    s.tier.rank ≤ (s.offer o).tier.rank ∧
      (Text.isBlank s.label = false → Text.isBlank (s.offer o).label = false) := by
  unfold CallState.offer CallState.updateLabel
  cases hlabel : Text.nonBlank? o.candidate with
  | none => exact ⟨Nat.le_refl _, id⟩
  | some label =>
    dsimp only
    split
    · next haccepts =>
      refine ⟨?_, fun _ => ?_⟩
      · show s.tier.rank ≤ o.tier.rank
        obtain hrank | ⟨htier, -⟩ := accepts_iff.1 haccepts
        · exact Nat.le_of_lt hrank
        · exact Nat.le_of_eq (congrArg LabelTier.rank htier.symm)
      · show Text.isBlank label = false
        exact Text.isBlank_of_nonBlank? (Text.nonBlank?_of_eq_some hlabel)
    · exact ⟨Nat.le_refl _, id⟩

/-- What every offer keeps of a label and its tier, every action keeps. -/
theorem named_run (kept : String × LabelTier → Prop)
    (hoffer : ∀ (s : CallState) o, kept s.named → kept (s.offer o).named) {s : CallSession}
    (h : kept s.call.named) (actions : List Action) : kept (s.run actions).call.named := by
  have hoffers (offers : List Offer) {call : CallState} (h : kept call.named) :
      kept (offers.foldl offer call).named := by
    induction offers generalizing call with
    | nil => exact h
    | cons o rest ih => exact ih (hoffer call o h)
  induction actions generalizing s with
  | nil => exact h
  | cons action rest ih =>
    have hnamed : (s.act action).2.call.named = (action.offers.foldl offer s.call).named :=
      congrArg (·.2.2.1) (known_act s action)
    exact ih (hnamed ▸ hoffers action.offers h)

/-- The label of a call is what the labels offered to it make it, whatever else is done. -/
theorem label_exact (callId : String) (capacity : Nat) (tokens : Tokens) (actions : List Action) :
    Labelled (.new callId capacity tokens) actions where
  tier := (stands_new callId capacity tokens actions).tier
  label := (stands_new callId capacity tokens actions).label
  answer before candidate tier after _ := by
    refine ⟨_, rfl, ?_⟩
    rw [run_append]
    exact updateLabel_eq_true _ candidate tier
  rises more := by
    rw [run_append]
    apply named_run (fun named => _ ≤ named.2.rank) _ (Nat.le_refl _) more
    intro call o h
    exact Nat.le_trans h (offer_improves call o).1
  stays more h := by
    rw [run_append]
    apply named_run (fun named => Text.isBlank named.1 = false) _ h more
    intro call o
    exact (offer_improves call o).2

example : standingLabel [("Building", .fallback), ("Build", .external), ("Tests", .external),
    ("tests", .external), ("test", .metadata)] = "Tests" := by decide +kernel

end CallSession

end TaskWatch
