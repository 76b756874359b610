import CoffeeGrading.Variant

/-!
Names of variants: a rule for a screen is found by its own name and by no other, and a name that no
rule has is refused.  A sharing scope that is known by the name of its variant alone is written
with flags that name no laboratory.
-/

namespace CoffeeGrading

namespace ScreenRule

variable {name : String} {rule : ScreenRule}

theorem lookup_name (rule : ScreenRule) : choices.lookup rule.name = some rule := by
  cases rule <;> rfl

theorem name_of_mem_choices (listed : (name, rule) ∈ choices) : rule.name = name := by
  simp only [choices, List.mem_cons, Prod.mk.injEq, List.not_mem_nil, or_false] at listed
  rcases listed with ⟨rfl, rfl⟩ | ⟨rfl, rfl⟩ | ⟨rfl, rfl⟩ | ⟨rfl, rfl⟩
  all_goals rfl

theorem ofName_eq_ok_iff : ofName name = .ok rule ↔ rule.name = name := by
  constructor
  · intro found
    unfold ofName at found
    split at found
    · next other lookup =>
        obtain rfl := Except.ok.inj found
        obtain ⟨front, back, listed, _⟩ := List.lookup_eq_some_iff.1 lookup
        exact name_of_mem_choices (by simp [listed])
    · cases found
  · rintro rfl
    rw [ofName, lookup_name]

theorem exists_unsupported_iff :
    (∃ unsupported, ofName name = .error unsupported) ↔ ∀ rule : ScreenRule, rule.name ≠ name := by
  constructor
  · rintro ⟨unsupported, refused⟩ rule named
    rw [ofName_eq_ok_iff.2 named] at refused
    cases refused
  · intro unnamed
    cases answer : ofName name with
    | error unsupported => exact ⟨unsupported, rfl⟩
    | ok rule => exact absurd (ofName_eq_ok_iff.1 answer) (unnamed rule)

end ScreenRule

theorem SharingScope.toFlags_of_ofVariant {variant : String} {scope : SharingScope}
    (known : ofVariant variant = .ok scope) :
    scope.toFlags = (variant == "GlobalScope", []) := by
  unfold ofVariant at known
  split at known
  · next same =>
      obtain rfl := Except.ok.inj known
      subst same
      rfl
  · split at known
    · next same =>
        obtain rfl := Except.ok.inj known
        subst same
        rfl
    · cases known

end CoffeeGrading
