import CoffeeGrading.Proofs.EditSession
import Mathlib.Data.List.Forall2

/-!
Walks along a list that look at one entry after the other and keep what they find.  Looking may fail,
and then the whole walk does.  What a walk keeps stands in the order of the entries it was found at.
-/

namespace CoffeeGrading

variable {Entry Found Reason : Type}

def collect (look : Entry → Except Reason (Option Found)) :
    List Entry → Except Reason (List Found)
  | [] => .ok []
  | entry :: rest => do
    let found ← look entry
    let others ← collect look rest
    .ok (found.toList ++ others)

variable {look : Entry → Except Reason (Option Found)} {entries : List Entry}
  {collected : List Found}

theorem collect_cons_eq_ok_iff {entry : Entry} :
    collect look (entry :: entries) = .ok collected ↔
      ∃ found others, look entry = .ok found ∧ collect look entries = .ok others ∧
        found.toList ++ others = collected := by
  constructor
  · intro walked
    obtain ⟨found, answer, walked⟩ := exists_of_bind_eq_ok walked
    obtain ⟨others, answers, done⟩ := exists_of_bind_eq_ok walked
    exact ⟨found, others, answer, answers, Except.ok.inj done⟩
  · rintro ⟨found, others, answer, answers, rfl⟩
    simp [collect, answer, answers, bind, Except.bind]

theorem collect_append {front back : List Entry} {first last : List Found}
    (walkedFront : collect look front = .ok first) (walkedBack : collect look back = .ok last) :
    collect look (front ++ back) = .ok (first ++ last) := by
  induction front generalizing first with
  | nil =>
      obtain rfl := Except.ok.inj walkedFront
      exact walkedBack
  | cons entry rest ih =>
      obtain ⟨found, others, answer, answers, rfl⟩ := collect_cons_eq_ok_iff.1 walkedFront
      exact collect_cons_eq_ok_iff.2 ⟨found, others ++ last, answer, ih answers, by simp⟩

theorem collect_eq_nil_iff :
    collect look entries = .ok [] ↔ ∀ entry ∈ entries, look entry = .ok none := by
  induction entries with
  | nil => simp [collect]
  | cons entry rest ih =>
      rw [List.forall_mem_cons, ← ih, collect_cons_eq_ok_iff]
      constructor
      · rintro ⟨found, others, answer, answers, nothing⟩
        obtain ⟨silent, rfl⟩ := List.append_eq_nil_iff.1 nothing
        exact ⟨by rw [answer, Option.toList_eq_nil_iff.1 silent], answers⟩
      · rintro ⟨answer, answers⟩
        exact ⟨none, [], answer, answers, rfl⟩

theorem exists_collect_iff :
    (∃ collected, collect look entries = .ok collected) ↔
      ∀ entry ∈ entries, ∃ found, look entry = .ok found := by
  induction entries with
  | nil => simp [collect]
  | cons entry rest ih =>
      rw [List.forall_mem_cons, ← ih]
      constructor
      · rintro ⟨collected, walked⟩
        obtain ⟨found, others, answer, answers, _⟩ := collect_cons_eq_ok_iff.1 walked
        exact ⟨⟨found, answer⟩, others, answers⟩
      · rintro ⟨⟨found, answer⟩, others, answers⟩
        exact ⟨_, collect_cons_eq_ok_iff.2 ⟨found, others, answer, answers, rfl⟩⟩

theorem collect_perm {others : List Entry} (same : entries.Perm others)
    (walked : collect look entries = .ok collected) :
    ∃ other, collect look others = .ok other ∧ collected.Perm other := by
  induction same generalizing collected with
  | nil => exact ⟨collected, walked, .refl _⟩
  | cons entry _ ih =>
      obtain ⟨found, kept, answer, answers, rfl⟩ := collect_cons_eq_ok_iff.1 walked
      obtain ⟨other, walked, perm⟩ := ih answers
      exact ⟨_, collect_cons_eq_ok_iff.2 ⟨found, other, answer, walked, rfl⟩, perm.append_left _⟩
  | swap first second rest =>
      obtain ⟨last, _, lastAnswer, later, rfl⟩ := collect_cons_eq_ok_iff.1 walked
      obtain ⟨found, kept, answer, answers, rfl⟩ := collect_cons_eq_ok_iff.1 later
      have exchanged := collect_cons_eq_ok_iff.2 ⟨last, kept, lastAnswer, answers, rfl⟩
      refine ⟨_, collect_cons_eq_ok_iff.2 ⟨found, _, answer, exchanged, rfl⟩, ?_⟩
      rw [← List.append_assoc, ← List.append_assoc]
      exact List.perm_append_comm.append_right _
  | trans _ _ ihFirst ihSecond =>
      obtain ⟨middle, middleWalked, toMiddle⟩ := ihFirst walked
      obtain ⟨other, otherWalked, fromMiddle⟩ := ihSecond middleWalked
      exact ⟨other, otherWalked, toMiddle.trans fromMiddle⟩

theorem collect_forall₂ {Related : Entry → Entry → Prop} {others : List Entry}
    (related : List.Forall₂ Related entries others)
    (agree : ∀ entry other found, Related entry other → look entry = .ok found →
      ∃ otherFound, look other = .ok otherFound ∧ (otherFound = none ↔ found = none))
    (walked : collect look entries = .ok collected) :
    ∃ other, collect look others = .ok other ∧ (other = [] ↔ collected = []) := by
  induction related generalizing collected with
  | nil => exact ⟨collected, walked, .rfl⟩
  | cons first _ ih =>
      obtain ⟨found, kept, answer, answers, rfl⟩ := collect_cons_eq_ok_iff.1 walked
      obtain ⟨otherFound, otherAnswer, silent⟩ := agree _ _ found first answer
      obtain ⟨other, walked, allSilent⟩ := ih answers
      refine ⟨_, collect_cons_eq_ok_iff.2 ⟨otherFound, other, otherAnswer, walked, rfl⟩, ?_⟩
      rw [List.append_eq_nil_iff, List.append_eq_nil_iff, Option.toList_eq_nil_iff,
        Option.toList_eq_nil_iff, silent, allSilent]

theorem forall₂_of_collect {Hit : Entry → Prop} [DecidablePred Hit]
    (hit : ∀ entry ∈ entries, ∀ found, look entry = .ok found →
      (found.isSome = true ↔ Hit entry))
    (walked : collect look entries = .ok collected) :
    List.Forall₂ (fun entry found => look entry = .ok (some found))
      (entries.filter fun entry => Hit entry) collected := by
  induction entries generalizing collected with
  | nil =>
      obtain rfl := Except.ok.inj walked
      exact .nil
  | cons entry rest ih =>
      obtain ⟨found, others, answer, answers, rfl⟩ := collect_cons_eq_ok_iff.1 walked
      obtain ⟨first, later⟩ := List.forall_mem_cons.1 hit
      have here := first found answer
      cases found with
      | none =>
          have missed : ¬ Hit entry := by simpa using here
          rw [List.filter_cons_of_neg (by simpa using missed)]
          exact ih later answers
      | some found =>
          have struck : Hit entry := by simpa using here
          rw [List.filter_cons_of_pos (by simpa using struck)]
          exact .cons answer (ih later answers)

end CoffeeGrading
