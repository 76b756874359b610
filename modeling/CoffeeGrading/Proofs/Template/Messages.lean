import CoffeeGrading.Template.Validation

/-!
The messages of a report, by the character that they start with.  That is enough to tell the
messages on zero tolerance from all others.
-/

namespace CoffeeGrading

theorem head?_ofList (initial : Char) (rest : List Char) :
    (String.ofList (initial :: rest)).toList.head? = some initial := by
  rw [String.toList_ofList]
  rfl

theorem not_mem_ofList {initials letters : List Char} {initial : Char}
    (apart : initials.any letters.contains = false) (among : initial ∈ initials) :
    initial ∉ (String.ofList letters).toList := by
  rw [String.toList_ofList]
  intro listed
  exact List.any_eq_false.1 apart initial among (List.contains_iff_mem.2 listed)

theorem head?_append {first second : String} {initial : Char}
    (starts : first.toList.head? = some initial) :
    (first ++ second).toList.head? = some initial := by
  rw [String.toList_append, List.head?_append, starts]
  rfl

def Cause.initial : Cause → Char
  | missing => 'F'
  | unexpected => 'E'
  | emptyList => 'L'
  | untagged _ | wholeRange | notIdentifier => 'U'
  | _ => 'I'

theorem Cause.head?_message (cause : Cause) :
    cause.message.toList.head? = some cause.initial := by
  cases cause with
  | notRecord name => exact head?_append (head?_ofList _ _)
  | untagged key => exact head?_append (head?_append (head?_ofList _ _))
  | unknownTag found key expected =>
      exact head?_append (head?_append (head?_append (head?_append (head?_append
        (head?_ofList _ _)))))
  | notAmong choices => exact head?_append (head?_ofList _ _)
  | identifier fault => exact head?_append (head?_ofList _ _)
  | timestampText fault => exact head?_append (head?_ofList _ _)
  | timestampValue fault => exact head?_append (head?_ofList _ _)
  | _ => exact head?_ofList _ _

theorem Fault.initial_mem_message (fault : Fault) :
    fault.cause.initial ∈ fault.message.toList := by
  have starts := List.mem_of_mem_head? fault.cause.head?_message
  simp only [message]
  split
  · exact starts
  · rw [String.toList_append]
    exact List.mem_append_right _ starts

def OffFlavourFlaw.initial : OffFlavourFlaw → Char
  | misplaced list .. | blankName list | scale list .. =>
    match list with
    | .taint => 'T'
    | .fault => 'F'
  | repeatedName _ => 'D'
  | limitsUnderZeroTolerance => 'Z'
  | negativeTaints | negativeFaults | negativeCombined | noTaintIntensity | noFaultIntensity => 'M'

theorem OffFlavourFlaw.head?_message (flaw : OffFlavourFlaw) :
    flaw.message.toList.head? = some flaw.initial := by
  have title (list : OffFlavourCategory) :
      (toString list.title).toList.head? = some (blankName list).initial := by
    cases list <;> exact head?_ofList _ _
  cases flaw with
  | misplaced list name category =>
      simp only [message, String.append_assoc]
      exact head?_append (title list)
  | blankName list => exact head?_append (title list)
  | scale list name flaw =>
      simp only [message, String.append_assoc]
      exact head?_append (title list)
  | repeatedName list =>
      simp only [message, String.append_assoc]
      exact head?_append (head?_ofList _ _)
  | _ => exact head?_ofList _ _

theorem OffFlavourFlaw.eq_of_message {flaw : OffFlavourFlaw}
    (same : flaw.message = limitsUnderZeroTolerance.message) : flaw = limitsUnderZeroTolerance := by
  have starts := flaw.head?_message
  rw [same, head?_message, Option.some.injEq] at starts
  cases flaw with
  | limitsUnderZeroTolerance => rfl
  | misplaced list name category => cases list <;> simp [initial] at starts
  | blankName list => cases list <;> simp [initial] at starts
  | scale list name flaw => cases list <;> simp [initial] at starts
  | _ => simp [initial] at starts

def TemplateFlaw.initial : TemplateFlaw → Char
  | noScreens | noCupping => 'A'
  | cupping _ => 'C'
  | defects _ => 'D'
  | greenAspect _ => 'G'
  | moistureMinimum .. | moistureMaximum .. | moistureOrder | quakers | microRegions _ => 'M'
  | noOrigin => 'O'
  | roastSampleSize | roastAspect _ => 'R'
  | sampleSize | screens _ => 'S'
  | noName | offFlavours _ => 'T'

theorem TemplateFlaw.head?_message (flaw : TemplateFlaw) :
    flaw.message.toList.head? = some flaw.initial := by
  cases flaw with
  | moistureMinimum low high =>
      exact head?_append (head?_append (head?_append (head?_ofList _ _)))
  | moistureMaximum low high =>
      exact head?_append (head?_append (head?_append (head?_ofList _ _)))
  | screens flaw => exact head?_append (head?_ofList _ _)
  | cupping flaw => exact head?_append (head?_ofList _ _)
  | greenAspect flaw => exact head?_append (head?_ofList _ _)
  | roastAspect flaw => exact head?_append (head?_ofList _ _)
  | defects flaw => exact head?_append (head?_ofList _ _)
  | offFlavours flaw => exact head?_append (head?_ofList _ _)
  | microRegions flaw => exact head?_append (head?_ofList _ _)
  | _ => exact head?_ofList _ _

theorem TemplateFlaw.eq_of_message {flaw : TemplateFlaw}
    (same : flaw.message = (offFlavours .limitsUnderZeroTolerance).message) :
    flaw = offFlavours .limitsUnderZeroTolerance := by
  have starts := flaw.head?_message
  rw [same, head?_message, Option.some.injEq] at starts
  cases flaw with
  | noName => exact absurd same (by decide)
  | offFlavours flaw =>
      have rest := (String.append_right_inj _).1 same
      rw [OffFlavourFlaw.eq_of_message rest]
  | _ => simp [initial] at starts

theorem TemplateFlaw.message_ne (flaw : TemplateFlaw) :
    flaw.message ≠ OffFlavourFlaw.limitsUnderZeroTolerance.message := by
  intro same
  have starts := flaw.head?_message
  rw [same, OffFlavourFlaw.head?_message, Option.some.injEq] at starts
  cases flaw <;> simp [initial, OffFlavourFlaw.initial] at starts

end CoffeeGrading
