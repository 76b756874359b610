import CoffeeGrading.Proofs.Passing

/-!
Sheets of scores against a cupping form.  One complaint is made for each attribute that fails, and a
sheet that passes keeps passing when the form asks for less or the sheet says more.
-/

namespace CoffeeGrading

def Scale.Refuses (tolerance score : Binary64) (scale : Scale) : Prop :=
  scale.accepts score tolerance = .ok false

instance (tolerance score : Binary64) (scale : Scale) :
    Decidable (scale.Refuses tolerance score) :=
  match answer : scale.accepts score tolerance with
  | .ok false => isTrue answer
  | .ok true => isFalse (by simp [Scale.Refuses, answer])
  | .error _ => isFalse (by simp [Scale.Refuses, answer])

namespace Cupping

variable {scores : List (String × Option Binary64)} {tolerance : Binary64}
  {item : CuppingAttribute} {attributes : List CuppingAttribute}

/-- A score is required and missing, or it is not on the scale, or below the lowest one that is
accepted. -/
def Fails (scores : List (String × Option Binary64)) (tolerance : Binary64)
    (item : CuppingAttribute) : Prop :=
  (item.isRequired = true ∧ scoreOf scores item.name = none) ∨
    (∃ score ∈ scoreOf scores item.name, item.scale.Refuses tolerance score) ∨
    ∃ score ∈ scoreOf scores item.name, ∃ rule ∈ item.rule, score < rule.minValue - tolerance

instance (scores : List (String × Option Binary64)) (tolerance : Binary64) :
    DecidablePred (Fails scores tolerance) :=
  fun _ => inferInstanceAs (Decidable (_ ∨ _ ∨ _))

/-- The scale can tell of the score, if there is one, whether it accepts it. -/
def Judged (scores : List (String × Option Binary64)) (tolerance : Binary64)
    (item : CuppingAttribute) : Prop :=
  ∀ score ∈ scoreOf scores item.name, ∃ accepted, item.scale.accepts score tolerance = .ok accepted

theorem exists_complaint_iff :
    (∃ complaint, complaint? scores tolerance item = .ok complaint) ↔
      Judged scores tolerance item := by
  cases scored : scoreOf scores item.name with
  | none => simp [complaint?, Judged, scored]
  | some score =>
      simp only [complaint?, Judged, scored, Option.mem_some_iff, forall_eq']
      constructor
      · rintro ⟨complaint, answer⟩
        obtain ⟨accepted, judged, _⟩ := exists_of_bind_eq_ok answer
        exact ⟨accepted, judged⟩
      · rintro ⟨accepted, judged⟩
        simp only [judged, bind, Except.bind]
        repeat' split
        all_goals exact ⟨_, rfl⟩

theorem isSome_iff_fails {complaint : Option String}
    (answer : complaint? scores tolerance item = .ok complaint) :
    complaint.isSome = true ↔ Fails scores tolerance item := by
  cases scored : scoreOf scores item.name with
  | none =>
      simp only [complaint?, scored, Except.ok.injEq] at answer
      cases required : item.isRequired with
      | false => simp [Fails, scored, required, ← answer]
      | true => simp [Fails, scored, required, ← answer]
  | some score =>
      simp only [complaint?, scored] at answer
      obtain ⟨accepted, judged, answer⟩ := exists_of_bind_eq_ok answer
      cases accepted with
      | false =>
          obtain rfl := Except.ok.inj answer
          simp [Fails, scored, Scale.Refuses, judged]
      | true =>
          cases ruled : item.rule with
          | none =>
              simp only [ruled, Bool.not_true, Bool.false_eq_true, if_false, Except.ok.injEq]
                at answer
              simp [Fails, scored, Scale.Refuses, judged, ruled, ← answer]
          | some rule =>
              by_cases low : score < rule.minValue - tolerance
              · simp only [ruled, low, Bool.not_true, Bool.false_eq_true, if_false, if_true,
                  Except.ok.injEq] at answer
                simp [Fails, scored, ruled, low, ← answer]
              · simp only [ruled, low, Bool.not_true, Bool.false_eq_true, if_false,
                  Except.ok.injEq] at answer
                simp [Fails, scored, Scale.Refuses, judged, ruled, low, ← answer]

theorem complaint?_eq_none_iff :
    complaint? scores tolerance item = .ok none ↔
      Judged scores tolerance item ∧ ¬ Fails scores tolerance item := by
  constructor
  · intro silent
    refine ⟨exists_complaint_iff.1 ⟨none, silent⟩, ?_⟩
    rw [← isSome_iff_fails silent]
    exact Bool.false_ne_true
  · rintro ⟨judged, passes⟩
    obtain ⟨complaint, answer⟩ := exists_complaint_iff.2 judged
    rw [← isSome_iff_fails answer, Option.not_isSome_iff_eq_none] at passes
    rw [answer, passes]

theorem accepted_iff (attributes : List CuppingAttribute) :
    evaluate attributes scores tolerance = .ok [] ↔
      ∀ item ∈ attributes, Judged scores tolerance item ∧ ¬ Fails scores tolerance item := by
  rw [evaluate_eq_nil_iff]
  simp only [complaint?_eq_none_iff]

/-! ### Forms that ask for less -/

/-- An attribute that asks for no more than another one of the same name: on the same scale, only
required where the other is, and with the rule of the other or none. -/
structure Laxer (item laxer : CuppingAttribute) : Prop where
  name : laxer.name = item.name
  scale : laxer.scale = item.scale
  required : laxer.isRequired = true → item.isRequired = true
  rule : ∀ rule, laxer.rule = some rule → item.rule = some rule

theorem Laxer.judged {laxer : CuppingAttribute} (relation : Laxer item laxer)
    (judged : Judged scores tolerance item) : Judged scores tolerance laxer := by
  rw [Judged, relation.name, relation.scale]
  exact judged

theorem Laxer.fails {laxer : CuppingAttribute} (relation : Laxer item laxer)
    (fails : Fails scores tolerance laxer) : Fails scores tolerance item := by
  rw [Fails, relation.name, relation.scale] at fails
  rcases fails with ⟨required, missing⟩ | refused | ⟨score, scored, rule, ruled, low⟩
  · exact .inl ⟨relation.required required, missing⟩
  · exact .inr (.inl refused)
  · exact .inr (.inr ⟨score, scored, rule, relation.rule rule ruled, low⟩)

theorem accepted_of_laxer {laxer : List CuppingAttribute}
    (relation : List.Forall₂ Laxer attributes laxer)
    (accepted : evaluate attributes scores tolerance = .ok []) :
    evaluate laxer scores tolerance = .ok [] := by
  rw [accepted_iff] at accepted ⊢
  induction relation with
  | nil => exact accepted
  | cons first _ ih =>
      rw [List.forall_mem_cons] at accepted ⊢
      obtain ⟨⟨judged, passes⟩, others⟩ := accepted
      exact ⟨⟨first.judged judged, fun fails => passes (first.fails fails)⟩, ih others⟩

theorem accepted_of_sublist {fewer : List CuppingAttribute} (among : fewer.Sublist attributes)
    (accepted : evaluate attributes scores tolerance = .ok []) :
    evaluate fewer scores tolerance = .ok [] := by
  rw [accepted_iff] at accepted ⊢
  exact fun item listed => accepted item (among.subset listed)

def unexacting (attributes : List CuppingAttribute) : List CuppingAttribute :=
  attributes.map fun item => { item with isRequired := false, rule := none }

theorem laxer_unexacting (attributes : List CuppingAttribute) :
    List.Forall₂ Laxer attributes (unexacting attributes) := by
  rw [unexacting, List.forall₂_map_right_iff, List.forall₂_same]
  exact fun item _ => ⟨rfl, rfl, by simp, by simp⟩

theorem scoreOf_append {added : List (String × Option Binary64)} {name : String}
    (absent : ∀ entry ∈ added, entry.1 ≠ name) :
    scoreOf (added ++ scores) name = scoreOf scores name := by
  have missing : added.lookup name = none := by
    rw [List.lookup_eq_none_iff]
    intro entry listed
    simpa using (absent entry listed).symm
  rw [scoreOf, scoreOf, List.lookup_append, missing, Option.none_or]

theorem accepted_of_added {added : List (String × Option Binary64)}
    (absent : ∀ entry ∈ added, ∀ item ∈ attributes, entry.1 ≠ item.name)
    (accepted : evaluate attributes scores tolerance = .ok []) :
    evaluate attributes (added ++ scores) tolerance = .ok [] := by
  rw [accepted_iff] at accepted ⊢
  intro item listed
  rw [Judged, Fails, scoreOf_append fun entry member => absent entry member item listed]
  exact accepted item listed

/-- A sheet that can be evaluated has one complaint for each attribute that fails, in the order of
the attributes.  A sheet without complaints stays without when attributes are removed, when
attributes are no longer required or lose their rules, and when scores are added under names that no
attribute has. -/
theorem complaints_name_failing_attributes (attributes : List CuppingAttribute)
    (scores : List (String × Option Binary64)) (tolerance : Binary64) :
    (∀ complaints, evaluate attributes scores tolerance = .ok complaints →
      List.Forall₂ (fun item complaint => complaint? scores tolerance item = .ok (some complaint))
        (attributes.filter fun item => Fails scores tolerance item) complaints) ∧
    (evaluate attributes scores tolerance = .ok [] →
      (∀ name, evaluate (remove attributes name) scores tolerance = .ok []) ∧
      (∀ laxer, List.Forall₂ Laxer attributes laxer →
        evaluate laxer scores tolerance = .ok []) ∧
      ∀ added, (∀ entry ∈ added, ∀ item ∈ attributes, entry.1 ≠ item.name) →
        evaluate attributes (added ++ scores) tolerance = .ok []) := by
  constructor
  · intro complaints evaluated
    rw [evaluate_eq_collect] at evaluated
    exact forall₂_of_collect (fun _ _ _ answer => isSome_iff_fails answer) evaluated
  · intro accepted
    exact ⟨fun name => accepted_of_sublist List.filter_sublist accepted,
      fun laxer relation => accepted_of_laxer relation accepted,
      fun added absent => accepted_of_added absent accepted⟩

def quarterPoints : Scale := .numeric { min := 6, max := 10, increment := 0.25 }

def cupLevels : Scale := .wording [
  { label := "Clean", value := 3 }, { label := "Dull", value := 2 }, { label := "Dirty", value := 1 }]

def tastingForm : List CuppingAttribute := [
  { name := "Aroma", scale := quarterPoints },
  { name := "Cup"
    scale := cupLevels
    rule := some { minValue := 2, validationMessage := some "The cup is dirty" } },
  { name := "Finish", scale := cupLevels, isRequired := false },
  { name := "Flavor", scale := quarterPoints, rule := some { minValue := 7 } }]

def hastySheet : List (String × Option Binary64) :=
  [("Aroma", some 7.1), ("Cup", some 1), ("Finish", none), ("Flavor", none)]

def hastyComplaints : List String := [
  "Score 7.1 is not valid for \"Aroma\"",
  "The cup is dirty",
  "Missing score for required attribute \"Flavor\""]

def carefulSheet : List (String × Option Binary64) :=
  [("Aroma", some 7.25), ("Cup", some 2), ("Flavor", some 7)]

def strayScores : List (String × Option Binary64) :=
  [("Color", some 40), ("aroma", some 3)]

theorem tastingForm_complaints :
    (evaluate tastingForm hastySheet = .ok hastyComplaints ∧
      (tastingForm.filter fun item => Fails hastySheet defaultTolerance item).map (·.name) =
        ["Aroma", "Cup", "Flavor"] ∧
      List.Forall₂
        (fun item complaint => complaint? hastySheet defaultTolerance item = .ok (some complaint))
        (tastingForm.filter fun item => Fails hastySheet defaultTolerance item)
        hastyComplaints) ∧
    evaluate tastingForm carefulSheet = .ok [] ∧
    evaluate (remove tastingForm " AROMA") carefulSheet = .ok [] ∧
    evaluate (unexacting tastingForm) carefulSheet = .ok [] ∧
    (∀ entry ∈ strayScores, ∀ item ∈ tastingForm, entry.1 ≠ item.name) ∧
    evaluate tastingForm (strayScores ++ carefulSheet) = .ok [] := by
  have complained : evaluate tastingForm hastySheet = .ok hastyComplaints :=
    toOption_eq_some_iff.1 (by decide +kernel)
  have accepted : evaluate tastingForm carefulSheet = .ok [] :=
    toOption_eq_some_iff.1 (by decide +kernel)
  have absent : ∀ entry ∈ strayScores, ∀ item ∈ tastingForm, entry.1 ≠ item.name := by
    decide +kernel
  obtain ⟨named, _⟩ := complaints_name_failing_attributes tastingForm hastySheet defaultTolerance
  obtain ⟨_, relaxed⟩ :=
    complaints_name_failing_attributes tastingForm carefulSheet defaultTolerance
  obtain ⟨removed, loosened, added⟩ := relaxed accepted
  exact ⟨⟨complained, by decide +kernel, named _ complained⟩, accepted, removed " AROMA",
    loosened _ (laxer_unexacting tastingForm), absent, added strayScores absent⟩

end Cupping
end CoffeeGrading
