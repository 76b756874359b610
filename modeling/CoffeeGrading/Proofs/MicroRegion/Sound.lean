import CoffeeGrading.MicroRegion
import CoffeeGrading.Proofs.Limits
import CoffeeGrading.Proofs.Names

/-!
What usable micro-region requirements are: origins that are told apart, and shares within the
limits whose lowest is not above the highest.
-/

namespace CoffeeGrading

structure RegionShare.Sound (limits : Limits) (share : RegionShare) : Prop where
  min : ∀ low, share.min = some low → limits.Allows low
  max : ∀ high, share.max = some high → limits.Allows high
  ordered : ∀ low high, share.min = some low → share.max = some high → ¬ high < low

namespace MicroRegionRequirement

theorem shareFlaw?_eq_none_iff (limits : Limits) (region : String) (share : RegionShare) :
    shareFlaw? limits region share = none ↔ share.Sound limits := by
  obtain ⟨min, max⟩ := share
  simp only [shareFlaw?, ite_eq_iff, reduceCtorEq, and_false, false_or, and_true]
  constructor
  · rintro ⟨first, second, ordered⟩
    refine ⟨?_, ?_, ?_⟩
    · simpa [Option.any_eq_true, Limits.allowsPercentage_iff] using first
    · simpa [Option.any_eq_true, Limits.allowsPercentage_iff] using second
    · rintro low high rfl rfl
      simpa [RegionShare.isReversed] using ordered
  · rintro ⟨first, second, ordered⟩
    refine ⟨?_, ?_, ?_⟩
    · simpa [Option.any_eq_true, Limits.allowsPercentage_iff] using first
    · simpa [Option.any_eq_true, Limits.allowsPercentage_iff] using second
    · cases min with
      | none => simp [RegionShare.isReversed]
      | some low =>
          cases max with
          | none => simp [RegionShare.isReversed]
          | some high => simpa [RegionShare.isReversed] using ordered low high rfl rfl

theorem sharesFlaw?_eq_none_iff (limits : Limits) (requirement : MicroRegionRequirement) :
    requirement.sharesFlaw? limits = none ↔
      ∀ entry ∈ requirement.shares, entry.2.Sound limits := by
  simp only [sharesFlaw?, List.findSome?_eq_none_iff, shareFlaw?_eq_none_iff]

end MicroRegionRequirement

namespace MicroRegionConfiguration

def originKey (requirement : MicroRegionRequirement) : String :=
  Text.nameKey requirement.origin

/-- Origins that are told apart, each with usable shares. -/
structure Sound (limits : Limits) (configuration : MicroRegionConfiguration) : Prop where
  origins : NamesApart (configuration.requirements.map (·.origin))
  shares : ∀ requirement ∈ configuration.requirements, ∀ entry ∈ requirement.shares,
    entry.2.Sound limits

theorem flawAfter?_eq_none_iff (limits : Limits) (seen : List String)
    (requirements : List MicroRegionRequirement) :
    flawAfter? limits seen requirements = none ↔
      (∀ requirement ∈ requirements, ¬ Text.blank requirement.origin = true) ∧
      firstRepeat? originKey seen requirements = none ∧
      ∀ requirement ∈ requirements, requirement.sharesFlaw? limits = none := by
  induction requirements generalizing seen with
  | nil => simp [flawAfter?, firstRepeat?]
  | cons requirement rest ih =>
      rw [List.forall_mem_cons, List.forall_mem_cons]
      by_cases blank : Text.blank requirement.origin = true
      · simp [flawAfter?, blank]
      · by_cases met : Text.nameKey requirement.origin ∈ seen
        · simp [flawAfter?, firstRepeat?, originKey, blank, met]
        · simp only [flawAfter?, firstRepeat?, originKey, blank, met, ih, Option.or_eq_none_iff,
            List.contains_iff_mem, Bool.false_eq_true, if_false, not_false_eq_true, true_and]
          constructor
          · rintro ⟨shares, present, apart, others⟩
            exact ⟨present, apart, shares, others⟩
          · rintro ⟨present, apart, shares, others⟩
            exact ⟨shares, present, apart, others⟩

theorem flaw?_eq_none_iff (limits : Limits) (configuration : MicroRegionConfiguration) :
    configuration.flaw? limits = none ↔ configuration.Sound limits := by
  rw [flaw?, flawAfter?_eq_none_iff, firstRepeat?_eq_none_iff]
  simp only [MicroRegionRequirement.sharesFlaw?_eq_none_iff]
  constructor
  · rintro ⟨present, ⟨apart, _⟩, shares⟩
    refine ⟨⟨?_, by rwa [List.map_map]⟩, shares⟩
    intro origin member
    obtain ⟨requirement, listed, rfl⟩ := List.mem_map.1 member
    exact mt (Text.nameKey_eq_empty_iff _).1 (present requirement listed)
  · intro sound
    refine ⟨?_, ⟨?_, fun _ _ => List.not_mem_nil⟩, sound.shares⟩
    · intro requirement listed
      exact mt (Text.nameKey_eq_empty_iff _).2
        (sound.origins.present _ (List.mem_map_of_mem listed))
    · have apart := sound.origins.apart
      rwa [List.map_map] at apart

end MicroRegionConfiguration
end CoffeeGrading
