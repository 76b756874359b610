import CoffeeGrading.Cupping
import CoffeeGrading.Proofs.Scale.Sound

/-!
What a usable cupping form is.  The search for flaws finds nothing exactly on such a form; on any
other one it finds a flaw or, where steps cannot be counted, fails.
-/

namespace CoffeeGrading

namespace CuppingAttribute

/-- An attribute with a usable scale, whose lowest score is one of its scores. -/
def Scored (tolerance : Binary64) (item : CuppingAttribute) : Prop :=
  item.scale.Sound ∧ ∀ rule, item.rule = some rule → item.scale.Reaches tolerance rule.minValue

theorem ruleFlaw?_eq_none_iff (item : CuppingAttribute) (tolerance : Binary64) (rule : ScoreRule)
    (sound : item.scale.Sound) :
    item.ruleFlaw? tolerance rule = .ok none ↔ item.scale.Reaches tolerance rule.minValue := by
  rw [← Scale.accepts_iff sound]
  cases answer : item.scale.accepts rule.minValue tolerance with
  | error reason => simp [ruleFlaw?, answer, bind, Except.bind]
  | ok accepted =>
      cases accepted with
      | true => simp [ruleFlaw?, answer, bind, Except.bind]
      | false =>
          simp only [ruleFlaw?, answer, bind, Except.bind, Bool.false_eq_true, if_false,
            Except.ok.injEq, iff_false]
          split <;> simp

theorem flaw?_eq_none_iff (item : CuppingAttribute) (tolerance : Binary64) :
    item.flaw? tolerance = .ok none ↔ Text.nameKey item.name ≠ "" ∧ item.Scored tolerance := by
  rw [Ne, Text.nameKey_eq_empty_iff, Scored, ← Scale.flaw?_eq_none_iff]
  by_cases blank : Text.blank item.name
  · simp [flaw?, blank]
  · cases unsound : item.scale.flaw? with
    | some flaw => simp [flaw?, blank, unsound]
    | none =>
        cases ruled : item.rule with
        | none => simp [flaw?, blank, unsound, ruled]
        | some rule =>
            have reached := item.ruleFlaw?_eq_none_iff tolerance rule
              ((Scale.flaw?_eq_none_iff _).1 unsound)
            simp [flaw?, blank, unsound, ruled, reached]

end CuppingAttribute

namespace Cupping

theorem firstFlaw?_eq_none_iff (tolerance : Binary64) (attributes : List CuppingAttribute) :
    firstFlaw? tolerance attributes = .ok none ↔
      ∀ item ∈ attributes, item.flaw? tolerance = .ok none := by
  induction attributes with
  | nil => simp [firstFlaw?]
  | cons item rest ih =>
      rw [List.forall_mem_cons, ← ih]
      cases answer : item.flaw? tolerance with
      | error reason => simp [firstFlaw?, answer, bind, Except.bind]
      | ok flaw =>
          cases flaw with
          | some flaw => simp [firstFlaw?, answer, bind, Except.bind]
          | none => simp [firstFlaw?, answer, bind, Except.bind]

/-- Attributes whose names tell them apart, each of them scored. -/
structure Sound (tolerance : Binary64) (attributes : List CuppingAttribute) : Prop where
  names : NamesApart (attributes.map (·.name))
  scored : ∀ item ∈ attributes, item.Scored tolerance

theorem distinct_keys_iff (attributes : List CuppingAttribute) :
    distinct (attributes.map CuppingAttribute.key) = true ↔
      ((attributes.map (·.name)).map Text.nameKey).Nodup := by
  rw [distinct_iff_nodup, List.map_map]
  rfl

theorem flaw?_eq_none_iff (tolerance : Binary64) (attributes : List CuppingAttribute) :
    flaw? attributes tolerance = .ok none ↔ Sound tolerance attributes := by
  have keys := distinct_keys_iff attributes
  by_cases apart : distinct (attributes.map CuppingAttribute.key) = true
  · rw [flaw?, apart, Bool.not_true, if_neg Bool.false_ne_true, firstFlaw?_eq_none_iff]
    constructor
    · intro flawless
      refine ⟨⟨?_, keys.1 apart⟩, ?_⟩
      · intro name member
        obtain ⟨item, listed, rfl⟩ := List.mem_map.1 member
        exact ((item.flaw?_eq_none_iff tolerance).1 (flawless item listed)).1
      · intro item listed
        exact ((item.flaw?_eq_none_iff tolerance).1 (flawless item listed)).2
    · intro sound item listed
      exact (item.flaw?_eq_none_iff tolerance).2
        ⟨sound.names.present _ (List.mem_map_of_mem listed), sound.scored item listed⟩
  · constructor
    · intro flawless
      simp [flaw?, apart] at flawless
    · intro sound
      exact absurd (keys.2 sound.names.apart) apart

end Cupping
end CoffeeGrading
