import CoffeeGrading.Proofs.Aspect.Sound
import CoffeeGrading.Proofs.Aspect.Threshold
import CoffeeGrading.Proofs.Cupping.Sound
import CoffeeGrading.Proofs.Defect.Editing
import CoffeeGrading.Proofs.Defect.Sound
import CoffeeGrading.Proofs.Number.Order
import CoffeeGrading.Proofs.OffFlavour.Editing
import CoffeeGrading.Proofs.OffFlavour.Sound
import CoffeeGrading.Proofs.ScreenSize.Sound

/-!
Edits that only remove or reorder.  They leave some of the entries that were there, numbered anew,
and what is asked of the entries of a sound configuration is asked of some of them as well; only a
threshold that names a value, and a list that may not be empty, ask for the entries themselves.
-/

namespace CoffeeGrading

open DisplayOrder

/-! ### Names -/

theorem NamesApart.chosen {Entry : Type} {name : Entry → String} {entries fewer : List Entry}
    (apart : NamesApart (entries.map name)) (among : fewer.Subperm entries) :
    NamesApart (fewer.map name) := by
  refine ⟨?_, Unrepeated.of_subperm apart.apart among⟩
  intro text listed
  exact apart.present text (List.map_subset name among.subset listed)

/-! ### Aspects -/

namespace AspectConfiguration

variable {configuration next : AspectConfiguration} {limits : Limits}

theorem Sound.chosen {wordings : List AspectWording} {threshold : Option AspectThreshold}
    (sound : configuration.Sound limits) (among : wordings.Subperm configuration.wordings)
    (anchored : Anchored { configuration with wordings := renumber wordings, threshold }) :
    Sound limits { configuration with wordings := renumber wordings, threshold } := by
  have labels : (renumber wordings).map (·.label) = wordings.map (·.label) :=
    map_renumber (fun _ _ => rfl) wordings
  have placeless : Placeless fun wording : AspectWording =>
      limits.aspectValueMin ≤ wording.value ∧ wording.value ≤ limits.aspectValueMax :=
    fun _ _ within => within
  refine ⟨?_, ?_, placeless.chosen sound.within among, anchored⟩
  · rw [labels]
    exact sound.labels.chosen among
  · rw [values_renumber, List.pairwise_map]
    have apart := List.pairwise_map.1 sound.values
    refine pairwise_of_subperm ?_ among apart
    intro left right unlike
    rwa [Binary64.beq_comm]

theorem Sound.reordered {wordings : List AspectWording} (sound : configuration.Sound limits)
    (same : wordings.Perm configuration.wordings) :
    Sound limits { configuration with wordings := renumber wordings } :=
  sound.chosen same.subperm (Anchored.reordered sound.threshold same)

theorem Sound.remove {id : String} (sound : configuration.Sound limits)
    (removed : configuration.remove id = .ok next) : next.Sound limits := by
  have anchored : next.Anchored := Anchored.remove sound.threshold removed
  obtain ⟨before, gone, after, addressed, rfl⟩ := remove_eq_ok removed
  exact sound.chosen addressed.sublist.subperm anchored

theorem Sound.swap {first second : Int} (sound : configuration.Sound limits)
    (swapped : configuration.swap first second = .ok next) : next.Sound limits := by
  obtain ⟨reordered, same, rfl⟩ := AspectConfiguration.swap_eq_ok swapped
  exact sound.reordered same

theorem Sound.move {index direction : Int} (sound : configuration.Sound limits)
    (moved : configuration.move index direction = .ok next) : next.Sound limits := by
  obtain ⟨reordered, same, rfl⟩ := AspectConfiguration.move_eq_ok moved
  exact sound.reordered same

theorem Sound.setThreshold {value : Option Binary64} {validationMessage : Option String}
    (sound : configuration.Sound limits)
    (changed : configuration.setThreshold value validationMessage = .ok next) :
    next.Sound limits := by
  have anchored := anchored_of_setThreshold changed
  obtain ⟨rfl, _⟩ := setThreshold_eq_ok changed
  exact ⟨sound.labels, sound.values, sound.within, anchored⟩

end AspectConfiguration

/-! ### Screens -/

namespace ScreenRequirements

variable {requirements next : ScreenRequirements} {limits : Limits}

theorem Sound.chosen {constraints : List ScreenConstraint} (sound : requirements.Sound limits)
    (among : constraints.Subperm requirements.constraints) :
    Sound limits { requirements with constraints := renumber constraints } := by
  have screens : (renumber constraints).map (·.screenSize) = constraints.map (·.screenSize) :=
    map_renumber (fun _ _ => rfl) constraints
  have placeless : Placeless (ScreenConstraint.Bounded limits) := fun _ _ bounded => bounded
  refine ⟨?_, placeless.chosen sound.bounded among⟩
  rw [screens]
  exact sound.names.chosen among

theorem Sound.remove (sound : requirements.Sound limits) (screenSize : String) :
    (requirements.remove screenSize).Sound limits :=
  sound.chosen List.filter_sublist.subperm

theorem Sound.move {index direction : Int} (sound : requirements.Sound limits)
    (moved : requirements.move index direction = .ok next) : next.Sound limits := by
  obtain ⟨constraints, exchanged, done⟩ := exists_of_bind_eq_ok moved
  obtain rfl := Except.ok.inj done
  obtain ⟨reordered, same, rfl⟩ := move_eq_ok exchanged
  exact sound.chosen same.subperm

end ScreenRequirements

/-! ### Off-flavours -/

namespace OffFlavourConfiguration

variable {configuration next : OffFlavourConfiguration} {category : OffFlavourCategory}

theorem ListSound.chosen {definitions fewer : List OffFlavourDefinition}
    (sound : ListSound category definitions) (among : fewer.Subperm definitions) :
    ListSound category (renumber fewer) := by
  have named : (renumber fewer).map (·.name) = fewer.map (·.name) :=
    map_renumber (fun _ _ => rfl) fewer
  have placeless_category : Placeless fun definition : OffFlavourDefinition =>
      definition.category = category := fun _ _ placed => placed
  have placeless_scale : Placeless fun definition : OffFlavourDefinition =>
      definition.scale.Sound := fun _ _ scaled => scaled
  refine ⟨placeless_category.chosen sound.placed among, ?_,
    placeless_scale.chosen sound.scales among⟩
  rw [named]
  exact sound.names.chosen among

theorem Sound.withList {definitions : List OffFlavourDefinition} (sound : configuration.Sound)
    (listSound : ListSound category definitions) :
    (configuration.withList category definitions).Sound := by
  cases category with
  | taint => exact ⟨listSound, sound.faults, sound.rules⟩
  | fault => exact ⟨sound.taints, listSound, sound.rules⟩

theorem Sound.remove {index : Int} (sound : configuration.Sound)
    (removed : configuration.remove category index = .ok next) : next.Sound := by
  obtain ⟨definitions, left, done⟩ := exists_of_bind_eq_ok removed
  obtain rfl := Except.ok.inj done
  obtain ⟨gone, _, _, rfl⟩ := removeAt_eq_ok left
  exact sound.withList ((sound.list category).chosen (List.eraseIdx_sublist _ gone).subperm)

theorem Sound.move {index direction : Int} (sound : configuration.Sound)
    (moved : configuration.move category index direction = .ok next) : next.Sound := by
  obtain ⟨definitions, exchanged, done⟩ := exists_of_bind_eq_ok moved
  obtain rfl := Except.ok.inj done
  obtain ⟨reordered, same, rfl⟩ := move_eq_ok exchanged
  exact sound.withList ((sound.list category).chosen same.subperm)

end OffFlavourConfiguration

/-! ### Defects -/

namespace DefectConfiguration

variable {configuration next : DefectConfiguration} {category : DefectCategory} {limits : Limits}

theorem Sound.replaceCategory {members : List DefectDefinition}
    (sound : configuration.Sound limits)
    (among : members.Subperm (defectsByCategory category configuration.defects))
    (listed : (configuration.replaceCategory category (renumber members)).defects ≠ []) :
    (configuration.replaceCategory category (renumber members)).Sound limits := by
  have amongOwn : members.Subperm (ofCategory category configuration.defects) :=
    among.trans (List.mergeSort_perm _ _).subperm
  have amongAll : members.Subperm configuration.defects :=
    amongOwn.trans List.filter_sublist.subperm
  have placeless_weight : Placeless fun definition : DefectDefinition =>
      0 < definition.weight ∧ ¬ limits.maxDefectWeight < definition.weight :=
    fun _ _ weighed => weighed
  have own : ∀ definition ∈ ofCategory category configuration.defects,
      definition.category = category :=
    fun definition listed => of_decide_eq_true (List.mem_filter.1 listed).2
  refine ⟨listed, ?_, ?_, sound.thresholds⟩
  · intro other
    rw [ofCategory_replaceCategory _ (placeless_category.chosen own amongOwn)]
    by_cases same : other = category
    · subst same
      rw [if_pos rfl, map_renumber fun _ _ => rfl, map_renumber fun _ _ => rfl]
      exact (sound.names other).chosen amongOwn
    · rw [if_neg same]
      exact sound.names other
  · exact placeless_replaceCategory placeless_weight sound.weights
      (placeless_weight.chosen sound.weights amongAll) category

theorem Sound.remove_iff {index : Int} (sound : configuration.Sound limits)
    (removed : configuration.remove category index = .ok next) :
    next.Sound limits ↔ configuration.defects.length ≠ 1 := by
  obtain ⟨members, left, done⟩ := exists_of_bind_eq_ok removed
  obtain rfl := Except.ok.inj done
  obtain ⟨gone, _, bound, rfl⟩ := removeAt_eq_ok left
  have fewer : (configuration.replaceCategory category (renumber
      ((defectsByCategory category configuration.defects).eraseIdx gone))).defects.length + 1 =
        configuration.defects.length := by
    have parted := length_defectsByCategory_add category configuration.defects
    rw [length_replaceCategory, length_renumber, List.length_eraseIdx_of_lt bound]
    omega
  constructor
  · intro nextSound single
    exact nextSound.listed (List.length_eq_zero_iff.1 (by omega))
  · intro several
    refine sound.replaceCategory (List.eraseIdx_sublist _ gone).subperm fun none_left => several ?_
    rw [← fewer, none_left, List.length_nil]

theorem Sound.move {index direction : Int} (sound : configuration.Sound limits)
    (moved : configuration.move category index direction = .ok next) : next.Sound limits := by
  obtain ⟨members, exchanged, done⟩ := exists_of_bind_eq_ok moved
  obtain rfl := Except.ok.inj done
  obtain ⟨reordered, same, rfl⟩ := move_eq_ok exchanged
  refine sound.replaceCategory same.subperm fun none_left => sound.listed ?_
  have asMany : (configuration.replaceCategory category (renumber reordered)).defects.length =
      configuration.defects.length := by
    rw [length_replaceCategory, length_renumber, same.length_eq,
      length_defectsByCategory_add category]
  rw [← List.length_eq_zero_iff, ← asMany, none_left, List.length_nil]

end DefectConfiguration

/-! ### Cupping -/

theorem Cupping.Sound.remove {tolerance : Binary64} {attributes : List CuppingAttribute}
    (sound : Cupping.Sound tolerance attributes) (name : String) :
    Cupping.Sound tolerance (Cupping.remove attributes name) :=
  ⟨sound.names.chosen List.filter_sublist.subperm,
    fun item listed => sound.scored item (List.mem_filter.1 listed).1⟩

/-- Edits that remove or reorder entries, or set a threshold, lead from configurations without a
flaw to such configurations, with one exception: a configuration of defects is not left without
any. -/
theorem structural_edits_keep_acceptance (limits : Limits) (tolerance : Binary64) :
    (∀ configuration : AspectConfiguration, configuration.flaw? limits = none →
      (∀ id next, configuration.remove id = .ok next → next.flaw? limits = none) ∧
      (∀ first second next, configuration.swap first second = .ok next →
        next.flaw? limits = none) ∧
      (∀ index direction next, configuration.move index direction = .ok next →
        next.flaw? limits = none) ∧
      ∀ value validationMessage next,
        configuration.setThreshold value validationMessage = .ok next →
          next.flaw? limits = none) ∧
    (∀ requirements : ScreenRequirements, requirements.flaw? limits = none →
      (∀ screenSize, (requirements.remove screenSize).flaw? limits = none) ∧
      ∀ index direction next, requirements.move index direction = .ok next →
        next.flaw? limits = none) ∧
    (∀ configuration : OffFlavourConfiguration, configuration.flaw? = none →
      (∀ category index next, configuration.remove category index = .ok next →
        next.flaw? = none) ∧
      ∀ category index direction next, configuration.move category index direction = .ok next →
        next.flaw? = none) ∧
    (∀ configuration : DefectConfiguration, configuration.flaw? limits = none →
      (∀ category index next, configuration.remove category index = .ok next →
        (next.flaw? limits = none ↔ configuration.defects.length ≠ 1)) ∧
      ∀ category index direction next, configuration.move category index direction = .ok next →
        next.flaw? limits = none) ∧
    ∀ attributes, Cupping.flaw? attributes tolerance = .ok none →
      ∀ name, Cupping.flaw? (Cupping.remove attributes name) tolerance = .ok none := by
  refine ⟨?aspects, ?screens, ?offFlavours, ?defects, ?cupping⟩
  case aspects =>
    intro configuration accepted
    have sound := (configuration.flaw?_eq_none_iff limits).1 accepted
    have kept {next : AspectConfiguration} := (next.flaw?_eq_none_iff limits).2
    exact ⟨fun _ _ removed => kept (sound.remove removed),
      fun _ _ _ swapped => kept (sound.swap swapped),
      fun _ _ _ moved => kept (sound.move moved),
      fun _ _ _ changed => kept (sound.setThreshold changed)⟩
  case screens =>
    intro requirements accepted
    have sound := (requirements.flaw?_eq_none_iff limits).1 accepted
    have kept {next : ScreenRequirements} := (next.flaw?_eq_none_iff limits).2
    exact ⟨fun screenSize => kept (sound.remove screenSize),
      fun _ _ _ moved => kept (sound.move moved)⟩
  case offFlavours =>
    intro configuration accepted
    have sound := configuration.flaw?_eq_none_iff.1 accepted
    have kept {next : OffFlavourConfiguration} := next.flaw?_eq_none_iff.2
    exact ⟨fun _ _ _ removed => kept (sound.remove removed),
      fun _ _ _ _ moved => kept (sound.move moved)⟩
  case defects =>
    intro configuration accepted
    have sound := (configuration.flaw?_eq_none_iff limits).1 accepted
    constructor
    · intro category index next removed
      rw [next.flaw?_eq_none_iff]
      exact sound.remove_iff removed
    · intro category index direction next moved
      exact (next.flaw?_eq_none_iff limits).2 (sound.move moved)
  case cupping =>
    intro attributes accepted name
    have sound := (Cupping.flaw?_eq_none_iff tolerance attributes).1 accepted
    exact (Cupping.flaw?_eq_none_iff tolerance _).2 (sound.remove name)

def pale : AspectWording := { id := "pale", label := "Pale", value := 2 }

def bluish : AspectWording := { id := "bluish", label := "Bluish", value := 8, displayOrder := 1 }

def greenAppearance : AspectConfiguration where
  wordings := [pale, bluish]
  threshold := some { minAcceptableValue := 2 }

def bluishOnly : AspectConfiguration where
  wordings := [{ bluish with displayOrder := 0 }]

def mediumBeans : ScreenRequirements where
  constraints := [
    { screenSize := "16", rule := .range, minValue := some 20, maxValue := some 80 },
    { screenSize := "12", rule := .any, displayOrder := 1 }]

def moulds : OffFlavourConfiguration where
  taints := [{ id := "mould", name := "Mould", category := .taint, scale := .numeric ⟨1, 5, 0.5⟩ }]
  rules := { maxTaints := some 1 }

def blackBean : DefectDefinition := { name := "Black bean", category := .primary, weight := 1 }

def shell : DefectDefinition := { name := "Shell", category := .secondary, weight := 0.2 }

def body : CuppingAttribute := { name := "Body", scale := .numeric ⟨0, 10, 0.5⟩ }

theorem remove_pale : greenAppearance.remove "pale" = .ok bluishOnly := by
  have same : ((2 : Binary64) == 2) = true := by decide +kernel
  simp [AspectConfiguration.remove, AspectConfiguration.positionOf, greenAppearance,
    List.findIdx?_cons, bind, Except.bind, pale, same, renumber, HasDisplayOrder.placedAt,
    bluishOnly]

theorem remove_blackBean :
    DefectConfiguration.remove { defects := [blackBean, shell] } .primary 0 =
      .ok { defects := [shell] } := by
  simp [DefectConfiguration.remove, defectsByCategory, ofCategory, sort, removeAt,
    DisplayOrder.position, DefectConfiguration.replaceCategory, renumber, blackBean, shell, bind,
    Except.bind]

theorem removals_keep_acceptance :
    greenAppearance.flaw? {} = none ∧
      greenAppearance.remove "pale" = .ok bluishOnly ∧ bluishOnly.flaw? {} = none ∧
    mediumBeans.flaw? {} = none ∧ (mediumBeans.remove " 12").flaw? {} = none ∧
    moulds.flaw? = none ∧
      moulds.remove .taint 0 = .ok { rules := { maxTaints := some 1 } } ∧
      OffFlavourConfiguration.flaw? { rules := { maxTaints := some 1 } } = none ∧
    DefectConfiguration.flaw? {} { defects := [blackBean, shell] } = none ∧
      DefectConfiguration.remove { defects := [blackBean, shell] } .primary 0 =
        .ok { defects := [shell] } ∧
      (DefectConfiguration.flaw? {} { defects := [shell] } = none ↔
        [blackBean, shell].length ≠ 1) ∧
    Cupping.flaw? [body] defaultTolerance = .ok none ∧
      Cupping.flaw? (Cupping.remove [body] "BODY") defaultTolerance = .ok none := by
  have graded : greenAppearance.flaw? {} = none := by decide +kernel
  have screened : mediumBeans.flaw? {} = none := by decide +kernel
  have tasted : moulds.flaw? = none := by decide +kernel
  have unmoulded : moulds.remove .taint 0 = .ok { rules := { maxTaints := some 1 } } := rfl
  have counted : DefectConfiguration.flaw? {} { defects := [blackBean, shell] } = none := by
    decide +kernel
  have cupped : Cupping.flaw? [body] defaultTolerance = .ok none := by
    have named : Text.blank body.name = false := by decide +kernel
    have scaled : body.scale.flaw? = none := by decide +kernel
    have unruled : body.rule = none := rfl
    simp [Cupping.flaw?, Cupping.firstFlaw?, CuppingAttribute.flaw?, distinct, named, scaled,
      unruled, bind, Except.bind]
  obtain ⟨aspects, screens, offFlavours, defects, cupping⟩ :=
    structural_edits_keep_acceptance {} defaultTolerance
  exact ⟨graded, remove_pale, (aspects _ graded).1 _ _ remove_pale,
    screened, (screens _ screened).1 " 12",
    tasted, unmoulded, (offFlavours _ tasted).1 _ _ _ unmoulded,
    counted, remove_blackBean, (defects _ counted).1 _ _ _ remove_blackBean,
    cupped, cupping _ cupped "BODY"⟩

end CoffeeGrading
