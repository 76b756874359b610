import CoffeeGrading.Proofs.Template.Verdict
import Mathlib.Data.List.Forall2
import Mathlib.Data.Option.Basic

/-!
Templates that differ in the order of what they list.  What is asked of a part does not depend on
the order in which its entries are searched, so a search that starts at another entry may find
another flaw, but it finds one in the same parts.
-/

namespace CoffeeGrading

/-! ### Lists in another order -/

theorem ne_nil_iff_of_length {Entry : Type} {before after : List Entry}
    (same : before.length = after.length) : before ≠ [] ↔ after ≠ [] := by
  rw [Ne, Ne, ← List.length_eq_zero_iff, same, List.length_eq_zero_iff]

theorem forall_mem_iff_of_perm {Entry : Type} (Fit : Entry → Prop) {before after : List Entry}
    (same : before.Perm after) : (∀ entry ∈ before, Fit entry) ↔ ∀ entry ∈ after, Fit entry :=
  forall_congr' fun _ => by rw [same.mem_iff]

theorem exists_mem_iff_of_perm {Entry : Type} (Fit : Entry → Prop) {before after : List Entry}
    (same : before.Perm after) : (∃ entry ∈ before, Fit entry) ↔ ∃ entry ∈ after, Fit entry :=
  exists_congr fun _ => by rw [same.mem_iff]

theorem namesApart_iff_of_perm {before after : List String} (same : before.Perm after) :
    NamesApart before ↔ NamesApart after := by
  have present := forall_mem_iff_of_perm (fun name => Text.nameKey name ≠ "") same
  have apart := (same.map Text.nameKey).nodup_iff
  exact ⟨fun names => ⟨present.1 names.present, apart.1 names.apart⟩,
    fun names => ⟨present.2 names.present, apart.2 names.apart⟩⟩

/-- The entries of one list in some order, each in the form in which the other list has it. -/
def Rearranged {Entry : Type} (Alike : Entry → Entry → Prop) (before after : List Entry) : Prop :=
  ∃ reordered, before.Perm reordered ∧ List.Forall₂ Alike reordered after

namespace Rearranged

variable {Entry : Type} {Alike : Entry → Entry → Prop} {before after : List Entry}

theorem length_eq (same : Rearranged Alike before after) : before.length = after.length := by
  obtain ⟨reordered, perm, alike⟩ := same
  rw [perm.length_eq, alike.length_eq]

theorem isEmpty_eq (same : Rearranged Alike before after) : before.isEmpty = after.isEmpty := by
  rw [Bool.eq_iff_iff, List.isEmpty_iff_length_eq_zero, List.isEmpty_iff_length_eq_zero,
    same.length_eq]

theorem map_perm {Image : Type} (same : Rearranged Alike before after) (image : Entry → Image)
    (kept : ∀ first second, Alike first second → image first = image second) :
    (before.map image).Perm (after.map image) := by
  obtain ⟨reordered, perm, alike⟩ := same
  have images : reordered.map image = after.map image := by
    rw [← List.forall₂_eq_eq_eq, List.forall₂_map_left_iff, List.forall₂_map_right_iff]
    exact alike.imp kept
  exact images ▸ perm.map image

theorem forall_mem_iff (same : Rearranged Alike before after) (Fit : Entry → Prop)
    (kept : ∀ first second, Alike first second → (Fit first ↔ Fit second)) :
    (∀ entry ∈ before, Fit entry) ↔ ∀ entry ∈ after, Fit entry := by
  obtain ⟨reordered, perm, alike⟩ := same
  rw [forall_mem_iff_of_perm Fit perm]
  clear perm
  induction alike with
  | nil => exact Iff.rfl
  | cons head _ ih => rw [List.forall_mem_cons, List.forall_mem_cons, kept _ _ head, ih]

end Rearranged

theorem usableIfFilled_iff_of_rel {Part : Type} {isEmpty : Part → Bool} {Usable : Part → Prop}
    {Alike : Part → Part → Prop} {before after : Option Part}
    (same : Option.Rel Alike before after)
    (empty_eq : ∀ first second, Alike first second → isEmpty first = isEmpty second)
    (usable_iff : ∀ first second, Alike first second → (Usable first ↔ Usable second)) :
    UsableIfFilled isEmpty Usable before ↔ UsableIfFilled isEmpty Usable after := by
  cases same with
  | none => exact Iff.rfl
  | some alike => simp [UsableIfFilled, empty_eq _ _ alike, usable_iff _ _ alike]

/-! ### Scales and cupping forms -/

inductive Scale.Reordered : Scale → Scale → Prop where
  | numeric (range : NumericScale) : Reordered (.numeric range) (.numeric range)
  | wording {before after : List WordingOption} (same : before.Perm after) :
      Reordered (.wording before) (.wording after)

namespace Scale.Reordered

variable {before after : Scale}

theorem sound_iff (same : before.Reordered after) : before.Sound ↔ after.Sound := by
  cases same with
  | numeric range => exact Iff.rfl
  | wording same =>
      exact and_congr (ne_nil_iff_of_length same.length_eq) (namesApart_iff_of_perm (same.map _))

theorem reaches_iff (same : before.Reordered after) (tolerance score : Binary64) :
    before.Reaches tolerance score ↔ after.Reaches tolerance score := by
  cases same with
  | numeric range => exact Iff.rfl
  | wording same => exact exists_mem_iff_of_perm _ same

end Scale.Reordered

inductive CuppingAttribute.Reordered (before : CuppingAttribute) : CuppingAttribute → Prop where
  | of {scale : Scale} (same : before.scale.Reordered scale) :
      before.Reordered { before with scale }

theorem CuppingAttribute.Reordered.scored_iff {before after : CuppingAttribute}
    (same : before.Reordered after) (tolerance : Binary64) :
    before.Scored tolerance ↔ after.Scored tolerance := by
  obtain ⟨same⟩ := same
  exact and_congr same.sound_iff
    (forall₂_congr fun rule _ => same.reaches_iff tolerance rule.minValue)

theorem Cupping.sound_iff_of_rearranged {before after : List CuppingAttribute}
    (same : Rearranged CuppingAttribute.Reordered before after) (tolerance : Binary64) :
    Cupping.Sound tolerance before ↔ Cupping.Sound tolerance after := by
  have names := namesApart_iff_of_perm (same.map_perm (·.name) fun _ _ ⟨_⟩ => rfl)
  have scored := same.forall_mem_iff (·.Scored tolerance)
    fun _ _ alike => alike.scored_iff tolerance
  exact ⟨fun sound => ⟨names.1 sound.names, scored.1 sound.scored⟩,
    fun sound => ⟨names.2 sound.names, scored.2 sound.scored⟩⟩

/-! ### The other lists -/

namespace ScreenRequirements

inductive Reordered (before : ScreenRequirements) : ScreenRequirements → Prop where
  | of {constraints : List ScreenConstraint} (same : before.constraints.Perm constraints) :
      before.Reordered { before with constraints }

theorem Reordered.sound_iff {before after : ScreenRequirements} (same : before.Reordered after)
    (limits : Limits) : before.Sound limits ↔ after.Sound limits := by
  obtain ⟨same⟩ := same
  have names := namesApart_iff_of_perm (same.map (·.screenSize))
  have bounded := forall_mem_iff_of_perm (·.Bounded limits) same
  exact ⟨fun sound => ⟨names.1 sound.names, bounded.1 sound.bounded⟩,
    fun sound => ⟨names.2 sound.names, bounded.2 sound.bounded⟩⟩

end ScreenRequirements

namespace AspectConfiguration

inductive Reordered (before : AspectConfiguration) : AspectConfiguration → Prop where
  | of {wordings : List AspectWording} (same : before.wordings.Perm wordings) :
      before.Reordered { before with wordings }

namespace Reordered

variable {before after : AspectConfiguration}

theorem isEmpty_eq (same : before.Reordered after) : before.isEmpty = after.isEmpty := by
  obtain ⟨same⟩ := same
  rw [isEmpty, isEmpty, same.isEmpty_eq]

theorem values_iff (same : before.Reordered after) :
    ((before.wordings.map (·.value)).Pairwise fun left right => (left == right) = false) ↔
      (after.wordings.map (·.value)).Pairwise fun left right => (left == right) = false := by
  obtain ⟨same⟩ := same
  refine List.Perm.pairwise_iff ?_ (same.map (·.value))
  intro left right unlike
  rwa [Binary64.beq_comm]

theorem sound_iff (same : before.Reordered after) (limits : Limits) :
    before.Sound limits ↔ after.Sound limits := by
  have values := same.values_iff
  obtain ⟨same⟩ := same
  have labels := namesApart_iff_of_perm (same.map (·.label))
  have within := forall_mem_iff_of_perm
    (fun wording => limits.aspectValueMin ≤ wording.value ∧
      wording.value ≤ limits.aspectValueMax) same
  have matched (threshold : AspectThreshold) := exists_mem_iff_of_perm
    (fun wording => (wording.value == threshold.minAcceptableValue) = true) same
  constructor
  · intro sound
    exact ⟨labels.1 sound.labels, values.1 sound.values, within.1 sound.within,
      fun threshold chosen => (matched threshold).1 (sound.threshold threshold chosen)⟩
  · intro sound
    exact ⟨labels.2 sound.labels, values.2 sound.values, within.2 sound.within,
      fun threshold chosen => (matched threshold).2 (sound.threshold threshold chosen)⟩

end Reordered

end AspectConfiguration

namespace DefectConfiguration

inductive Reordered (before : DefectConfiguration) : DefectConfiguration → Prop where
  | of {defects : List DefectDefinition} (same : before.defects.Perm defects) :
      before.Reordered { before with defects }

namespace Reordered

variable {before after : DefectConfiguration}

theorem isEmpty_eq (same : before.Reordered after) : before.isEmpty = after.isEmpty := by
  obtain ⟨same⟩ := same
  rw [isEmpty, isEmpty, same.isEmpty_eq]

theorem sound_iff (same : before.Reordered after) (limits : Limits) :
    before.Sound limits ↔ after.Sound limits := by
  obtain ⟨same⟩ := same
  have listed := ne_nil_iff_of_length same.length_eq
  have names (category : DefectCategory) := namesApart_iff_of_perm
    ((same.filter fun definition => definition.category = category).map (·.name))
  have weights := forall_mem_iff_of_perm
    (fun definition => 0 < definition.weight ∧
      ¬ limits.maxDefectWeight < definition.weight) same
  constructor
  · intro sound
    exact ⟨listed.1 sound.listed, fun category => (names category).1 (sound.names category),
      weights.1 sound.weights, sound.thresholds⟩
  · intro sound
    exact ⟨listed.2 sound.listed, fun category => (names category).2 (sound.names category),
      weights.2 sound.weights, sound.thresholds⟩

end Reordered

end DefectConfiguration

inductive OffFlavourDefinition.Reordered (before : OffFlavourDefinition) :
    OffFlavourDefinition → Prop where
  | of {scale : Scale} (same : before.scale.Reordered scale) :
      before.Reordered { before with scale }

namespace OffFlavourConfiguration

inductive Reordered (before : OffFlavourConfiguration) : OffFlavourConfiguration → Prop where
  | of {taints faults : List OffFlavourDefinition}
      (sameTaints : Rearranged OffFlavourDefinition.Reordered before.taints taints)
      (sameFaults : Rearranged OffFlavourDefinition.Reordered before.faults faults) :
      before.Reordered { before with taints, faults }

theorem listSound_iff_of_rearranged {before after : List OffFlavourDefinition}
    (same : Rearranged OffFlavourDefinition.Reordered before after)
    (list : OffFlavourCategory) : ListSound list before ↔ ListSound list after := by
  have placed := same.forall_mem_iff (fun definition => definition.category = list)
    fun _ _ ⟨_⟩ => Iff.rfl
  have names := namesApart_iff_of_perm (same.map_perm (·.name) fun _ _ ⟨_⟩ => rfl)
  have scales := same.forall_mem_iff (fun definition => definition.scale.Sound)
    fun _ _ ⟨alike⟩ => alike.sound_iff
  exact ⟨fun sound => ⟨placed.1 sound.placed, names.1 sound.names, scales.1 sound.scales⟩,
    fun sound => ⟨placed.2 sound.placed, names.2 sound.names, scales.2 sound.scales⟩⟩

namespace Reordered

variable {before after : OffFlavourConfiguration}

theorem isEmpty_eq (same : before.Reordered after) : before.isEmpty = after.isEmpty := by
  obtain ⟨sameTaints, sameFaults⟩ := same
  rw [isEmpty, isEmpty, sameTaints.isEmpty_eq, sameFaults.isEmpty_eq]

theorem sound_iff (same : before.Reordered after) : before.Sound ↔ after.Sound := by
  obtain ⟨sameTaints, sameFaults⟩ := same
  have taints := listSound_iff_of_rearranged sameTaints .taint
  have faults := listSound_iff_of_rearranged sameFaults .fault
  exact ⟨fun sound => ⟨taints.1 sound.taints, faults.1 sound.faults, sound.rules⟩,
    fun sound => ⟨taints.2 sound.taints, faults.2 sound.faults, sound.rules⟩⟩

end Reordered

end OffFlavourConfiguration

/-- The shares of the regions under other positions of the same keys. -/
inductive MicroRegionRequirement.Reordered (before : MicroRegionRequirement) :
    MicroRegionRequirement → Prop where
  | of {shares : Option RegionShares}
      (same : Option.Rel (fun left right => left.entries.Perm right.entries)
        before.percentagePerRegion shares) :
      before.Reordered { before with percentagePerRegion := shares }

theorem MicroRegionRequirement.Reordered.shares_perm {before after : MicroRegionRequirement}
    (same : before.Reordered after) : before.shares.Perm after.shares := by
  obtain ⟨origin, regions, percentages, allowMix, notes⟩ := before
  obtain ⟨same⟩ := same
  cases same with
  | none => exact .refl _
  | some same => exact same

namespace MicroRegionConfiguration

inductive Reordered (before : MicroRegionConfiguration) : MicroRegionConfiguration → Prop where
  | of {requirements : List MicroRegionRequirement}
      (same : Rearranged MicroRegionRequirement.Reordered before.requirements requirements) :
      before.Reordered { before with requirements }

namespace Reordered

variable {before after : MicroRegionConfiguration}

theorem isEmpty_eq (same : before.Reordered after) : before.isEmpty = after.isEmpty := by
  obtain ⟨same⟩ := same
  rw [isEmpty, isEmpty, same.isEmpty_eq]

theorem sound_iff (same : before.Reordered after) (limits : Limits) :
    before.Sound limits ↔ after.Sound limits := by
  obtain ⟨same⟩ := same
  have origins := namesApart_iff_of_perm (same.map_perm (·.origin) fun _ _ ⟨_⟩ => rfl)
  have shares := same.forall_mem_iff
    (fun requirement => ∀ entry ∈ requirement.shares, entry.2.Sound limits)
    fun _ _ alike => forall_mem_iff_of_perm _ alike.shares_perm
  exact ⟨fun sound => ⟨origins.1 sound.origins, shares.1 sound.shares⟩,
    fun sound => ⟨origins.2 sound.origins, shares.2 sound.shares⟩⟩

end Reordered

end MicroRegionConfiguration

/-! ### Whole templates -/

inductive TemplateParameters.Reordered (before : TemplateParameters) :
    TemplateParameters → Prop where
  | of {screenSizeRequirements : ScreenRequirements} {cuppingAttributes : List CuppingAttribute}
      {greenAspectConfiguration roastAspectConfiguration : Option AspectConfiguration}
      {defectConfiguration : Option DefectConfiguration}
      {taintFaultConfiguration : Option OffFlavourConfiguration}
      {microRegionConfiguration : Option MicroRegionConfiguration}
      (screens : before.screenSizeRequirements.Reordered screenSizeRequirements)
      (cupping : Rearranged CuppingAttribute.Reordered before.cuppingAttributes cuppingAttributes)
      (greenAspect : Option.Rel AspectConfiguration.Reordered before.greenAspectConfiguration
        greenAspectConfiguration)
      (roastAspect : Option.Rel AspectConfiguration.Reordered before.roastAspectConfiguration
        roastAspectConfiguration)
      (defects : Option.Rel DefectConfiguration.Reordered before.defectConfiguration
        defectConfiguration)
      (offFlavours : Option.Rel OffFlavourConfiguration.Reordered before.taintFaultConfiguration
        taintFaultConfiguration)
      (microRegions : Option.Rel MicroRegionConfiguration.Reordered
        before.microRegionConfiguration microRegionConfiguration) :
      before.Reordered
        { before with
          screenSizeRequirements, cuppingAttributes, greenAspectConfiguration,
          roastAspectConfiguration, defectConfiguration, taintFaultConfiguration,
          microRegionConfiguration }

namespace QualityTemplate

/-- A template and the same with its lists, and the keys of its region shares, in another order. -/
inductive Reordered (before : QualityTemplate) : QualityTemplate → Prop where
  | of {parameters : TemplateParameters} (same : before.parameters.Reordered parameters) :
      before.Reordered { before with parameters }

theorem Reordered.holds_iff {before after : QualityTemplate} (same : before.Reordered after)
    (limits : Limits) (part : TemplatePart) :
    before.Holds limits part ↔ after.Holds limits part := by
  obtain ⟨screens, cupping, greenAspect, roastAspect, defects, offFlavours, microRegions⟩ := same
  cases part with
  | name | origin | sampleSize | roastSampleSize | quakers => exact Iff.rfl
  | moisture =>
      constructor
      · rintro ⟨min, max, ordered⟩
        exact ⟨min, max, ordered⟩
      · rintro ⟨min, max, ordered⟩
        exact ⟨min, max, ordered⟩
  | screenSizes =>
      have sound_iff := screens.sound_iff limits
      obtain ⟨same⟩ := screens
      exact and_congr (ne_nil_iff_of_length same.length_eq) sound_iff
  | cupping =>
      exact and_congr (ne_nil_iff_of_length cupping.length_eq)
        (Cupping.sound_iff_of_rearranged cupping limits.scoreTolerance)
  | greenAspect =>
      exact usableIfFilled_iff_of_rel greenAspect (fun _ _ alike => alike.isEmpty_eq)
        fun _ _ alike => alike.sound_iff limits
  | roastAspect =>
      exact usableIfFilled_iff_of_rel roastAspect (fun _ _ alike => alike.isEmpty_eq)
        fun _ _ alike => alike.sound_iff limits
  | defects =>
      exact usableIfFilled_iff_of_rel defects (fun _ _ alike => alike.isEmpty_eq)
        fun _ _ alike => alike.sound_iff limits
  | offFlavours =>
      exact usableIfFilled_iff_of_rel offFlavours (fun _ _ alike => alike.isEmpty_eq)
        fun _ _ alike => alike.sound_iff
  | microRegions =>
      exact usableIfFilled_iff_of_rel microRegions (fun _ _ alike => alike.isEmpty_eq)
        fun _ _ alike => alike.sound_iff limits

/-- Wherever the lists of a template are taken in another order and both are validated to the end,
the reports agree on the verdict and on the parts with a flaw. -/
theorem verdict_of_reordered {limits : Limits} {template reordered : QualityTemplate}
    {report other : TemplateReport} (same : template.Reordered reordered)
    (returned : template.validate limits = .ok report)
    (alsoReturned : reordered.validate limits = .ok other) :
    report.isValid = other.isValid ∧
      ∃ flaws others,
        template.flaws limits = .ok flaws ∧ report.errors = flaws.map TemplateFlaw.message ∧
        reordered.flaws limits = .ok others ∧ other.errors = others.map TemplateFlaw.message ∧
        flaws.map TemplateFlaw.part = others.map TemplateFlaw.part := by
  obtain ⟨flaws, searched, errors⟩ := flaws_of_validate returned
  obtain ⟨others, alsoSearched, otherErrors⟩ := flaws_of_validate alsoReturned
  have verdict : report.isValid = true ↔ other.isValid = true := by
    rw [isValid_iff_holds returned, isValid_iff_holds alsoReturned]
    exact forall_congr' (same.holds_iff limits)
  have parts : flaws.map TemplateFlaw.part = others.map TemplateFlaw.part := by
    rw [parts_of_flaws searched, parts_of_flaws alsoSearched]
    simp only [same.holds_iff limits]
  exact ⟨Bool.eq_iff_iff.2 verdict, flaws, others, searched, errors, alsoSearched, otherErrors,
    parts⟩

def unboundedScreens : List ScreenConstraint :=
  [{ screenSize := "17", rule := .minimum }, { screenSize := "14", rule := .maximum }]

def body (options : List WordingOption) : CuppingAttribute where
  name := "Body"
  scale := .wording options

def fullOrLight : List WordingOption :=
  [⟨"Full", 8, 0⟩, ⟨"Light", 6, 1⟩]

def unbounded : QualityTemplate where
  templateId := ⟨1⟩
  name := { en := "Lot" }
  origin := "Brazil"
  parameters := {
    screenSizeRequirements := { constraints := unboundedScreens }
    cuppingAttributes := [body fullOrLight]
  }
  createdBy := ⟨2⟩
  createdAt := newYear
  updatedAt := newYear

def unboundedReversed : QualityTemplate :=
  { unbounded with
    parameters := { unbounded.parameters with
      screenSizeRequirements := { constraints := unboundedScreens.reverse }
      cuppingAttributes := [body fullOrLight.reverse] } }

theorem unbounded_reordered : unbounded.Reordered unboundedReversed :=
  .of (.of (.of (List.reverse_perm _).symm)
    ⟨_, .refl _, .cons (.of (.wording (List.reverse_perm _).symm)) .nil⟩
    .none .none .none .none .none)

theorem verdict_of_unbounded_reversed :
    unbounded.Reordered unboundedReversed ∧
    unbounded.validate {} = .ok ⟨["Screen sizes: 17: minimum constraint requires min_value"], []⟩ ∧
    unboundedReversed.validate {} =
      .ok ⟨["Screen sizes: 14: maximum constraint requires max_value"], []⟩ ∧
    ∃ flaws others,
      unbounded.flaws {} = .ok flaws ∧ unboundedReversed.flaws {} = .ok others ∧
      flaws.map TemplateFlaw.part = others.map TemplateFlaw.part := by
  have first : unbounded.validate {} =
      .ok ⟨["Screen sizes: 17: minimum constraint requires min_value"], []⟩ := rfl
  have second : unboundedReversed.validate {} =
      .ok ⟨["Screen sizes: 14: maximum constraint requires max_value"], []⟩ := rfl
  obtain ⟨_, flaws, others, searched, _, alsoSearched, _, parts⟩ :=
    verdict_of_reordered unbounded_reordered first second
  exact ⟨unbounded_reordered, first, second, flaws, others, searched, alsoSearched, parts⟩

end QualityTemplate
end CoffeeGrading
