import CoffeeGrading.Proofs.Template.Verdict

/-!
The parameters of a template on their own.  What is asked of them does not depend on the rest of the
template, so that parameters which passed once pass in every template that has them.
-/

namespace CoffeeGrading

namespace TemplatePart

def ofParameters : List TemplatePart :=
  [sampleSize, moisture, roastSampleSize, quakers, screenSizes, cupping, greenAspect, roastAspect,
    defects, offFlavours, microRegions]

end TemplatePart

namespace QualityTemplate

theorem parameterFlaws_eq_nil_iff (limits : Limits) (template : QualityTemplate) :
    template.parameters.flaws limits = .ok [] ↔
      ∀ part ∈ TemplatePart.ofParameters, template.Holds limits part := by
  simp only [← partFlaw?_eq_none_iff, TemplatePart.ofParameters, List.forall_mem_cons,
    List.not_mem_nil, false_implies, implies_true, partFlaw?, Except.ok.injEq]
  cases searched : template.parameters.cuppingFlaw? limits with
  | error reason => simp [TemplateParameters.flaws, searched, bind, Except.bind]
  | ok cupping => simp [TemplateParameters.flaws, searched, bind, Except.bind]

theorem parameterFlaws_of_valid {limits : Limits} {template : QualityTemplate}
    {report : TemplateReport} (returned : template.validate limits = .ok report)
    (valid : report.isValid = true) : template.parameters.flaws limits = .ok [] := by
  rw [parameterFlaws_eq_nil_iff]
  intro part _
  exact (isValid_iff_holds returned).1 valid part

end QualityTemplate
end CoffeeGrading
