import CoffeeGrading.Proofs.Document.LookUp
import CoffeeGrading.Proofs.Document.Yields

/-!
Where the parts of a record come from.  A part is what the entry under its key reads as, or what
stands in for an entry that is not there, and the entries of parts of parts are found along paths
of keys.
-/

namespace CoffeeGrading

variable {Value : Type}

namespace Document

def at? : List String → Document → Option Document
  | [], document => some document
  | key :: later, .object entries => (lookup? key entries).bind (at? later)
  | _ :: _, _ => none

end Document

open Document (lookup?)

/-- A value that is unset where nothing stands or null does, and otherwise what stands there reads
as. -/
inductive Reading.Given (read : Document → Reading Value) : Option Document → Option Value → Prop
  | absent : Given read none none
  | null : Given read (some .null) none
  | read {document : Document} {supply : Supply Timestamp} {value : Value} : document ≠ .null →
      (read document supply).1 = .good value → Given read (some document) (some value)

namespace Fields

variable {key : String} {read : Document → Reading Value} {entries : List (String × Document)}

theorem optional_yields_from (Source : Option Document → Option Value → Prop)
    (absent : Source none none) (null : Source (some .null) none)
    (present : ∀ document, document ≠ .null →
      (read document).Yields fun value => Source (some document) (some value)) :
    ((optional key read).read entries).Yields (Source (lookup? key entries)) := by
  cases entry : lookup? key entries with
  | none =>
      rw [optional_read_of_none entry]
      exact .pure absent
  | some document =>
      by_cases nothing : document = .null
      · subst nothing
        have unset : (optional key read).read entries = pure none := by simp [optional, entry]
        rw [unset]
        exact .pure null
      · have taken : (optional key read).read entries = some <$> (read document).under key := by
          simp [optional, entry]
        rw [taken]
        exact .map (fun _ source => source) (present document nothing).under

theorem withDefault_yields_from (key : String) (entries : List (String × Document))
    {fallback : Reading Value} (Source : Option Document → Value → Prop)
    (absent : fallback.Yields (Source none))
    (present : ∀ document, (read document).Yields (Source (some document))) :
    ((withDefault key fallback read).read entries).Yields (Source (lookup? key entries)) := by
  cases entry : lookup? key entries with
  | none => simpa [withDefault, entry] using absent
  | some document => simpa [withDefault, entry] using (present document).under

theorem optional_given (key : String) (read : Document → Reading Value)
    (entries : List (String × Document)) :
    ((optional key read).read entries).Yields (Reading.Given read (lookup? key entries)) :=
  optional_yields_from _ .absent .null fun _ present _ _ good => .read present good

end Fields

end CoffeeGrading
