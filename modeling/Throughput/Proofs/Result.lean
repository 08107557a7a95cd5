import Mathlib.Data.List.Forall2

/-! When computations that may fail succeed, and when they fail. -/

namespace Throughput

variable {ε δ α β : Type}

theorem bind_eq_ok_iff {first : Except ε α} {next : α → Except ε β} {result : β} :
    first >>= next = .ok result ↔ ∃ value, first = .ok value ∧ next value = .ok result := by
  cases first with
  | error error => simp [bind, Except.bind]
  | ok value => simp [bind, Except.bind]

theorem bind_eq_error_iff {first : Except ε α} {next : α → Except ε β} {cause : ε} :
    first >>= next = .error cause ↔
      first = .error cause ∨ ∃ value, first = .ok value ∧ next value = .error cause := by
  cases first with
  | error error => simp [bind, Except.bind]
  | ok value => simp [bind, Except.bind]

theorem bind_congr_of_ok {first : Except ε α} {next other : α → Except ε β}
    (same : ∀ value, first = .ok value → next value = other value) :
    first >>= next = first >>= other := by
  cases first with
  | error error => rfl
  | ok value => exact same value rfl

theorem mapError_eq_ok_iff {context : ε → δ} {computation : Except ε α} {result : α} :
    computation.mapError context = .ok result ↔ computation = .ok result := by
  cases computation with
  | error error =>
      constructor
      · rintro ⟨⟩
      · rintro ⟨⟩
  | ok value =>
      constructor
      · rintro ⟨⟩
        rfl
      · rintro ⟨⟩
        rfl

theorem mapError_eq_error_iff {context : ε → δ} {computation : Except ε α} {cause : δ} :
    computation.mapError context = .error cause ↔
      ∃ error, computation = .error error ∧ context error = cause := by
  cases computation with
  | error error =>
      constructor
      · rintro ⟨⟩
        exact ⟨error, rfl, rfl⟩
      · rintro ⟨_, ⟨⟩, rfl⟩
        rfl
  | ok value =>
      constructor
      · rintro ⟨⟩
      · rintro ⟨_, ⟨⟩, -⟩

/-- A traversal fails with the first element that fails; what comes behind it does not count. -/
theorem mapM_eq_error_iff {f : α → Except ε β} {values : List α} {cause : ε} :
    values.mapM f = .error cause ↔ ∃ before value after, values = before ++ value :: after ∧
      (∀ other ∈ before, ∃ result, f other = .ok result) ∧ f value = .error cause := by
  induction values with
  | nil =>
      constructor
      · rintro ⟨⟩
      · rintro ⟨before, value, after, split, -⟩
        cases before <;> cases split
  | cons first rest ih =>
      rw [List.mapM_cons, bind_eq_error_iff]
      constructor
      · rintro (failed | ⟨result, succeeded, later⟩)
        · exact ⟨[], first, rest, rfl, nofun, failed⟩
        · rcases bind_eq_error_iff.mp later with failed | ⟨results, -, ⟨⟩⟩
          obtain ⟨before, value, after, rfl, earlier, fails⟩ := ih.mp failed
          refine ⟨first :: before, value, after, rfl, ?_, fails⟩
          intro other member
          rcases List.mem_cons.mp member with rfl | inBefore
          · exact ⟨result, succeeded⟩
          · exact earlier other inBefore
      · rintro ⟨before, value, after, split, earlier, fails⟩
        cases before with
        | nil =>
            cases split
            exact .inl fails
        | cons _ before =>
            cases split
            obtain ⟨result, succeeded⟩ := earlier first List.mem_cons_self
            have failed := ih.mpr ⟨before, value, after, rfl,
              fun other member => earlier other (List.mem_cons_of_mem _ member), fails⟩
            exact .inr ⟨result, succeeded, bind_eq_error_iff.mpr (.inl failed)⟩

theorem mapM_eq_ok_iff {f : α → Except ε β} {values : List α} {results : List β} :
    values.mapM f = .ok results ↔
      List.Forall₂ (fun value result => f value = .ok result) values results := by
  induction values generalizing results with
  | nil =>
      rw [List.forall₂_nil_left_iff]
      constructor
      · rintro ⟨⟩
        rfl
      · rintro rfl
        rfl
  | cons first rest ih =>
      rw [List.mapM_cons, bind_eq_ok_iff, List.forall₂_cons_left_iff]
      constructor
      · rintro ⟨result, succeeded, later⟩
        obtain ⟨others, gathered, ⟨⟩⟩ := bind_eq_ok_iff.mp later
        exact ⟨result, others, succeeded, ih.mp gathered, rfl⟩
      · rintro ⟨result, others, succeeded, gathered, rfl⟩
        exact ⟨result, succeeded, bind_eq_ok_iff.mpr ⟨others, ih.mpr gathered, rfl⟩⟩

theorem mapM_append_eq_ok_iff {f : α → Except ε β} {first rest : List α} {results : List β} :
    (first ++ rest).mapM f = .ok results ↔ ∃ before after, first.mapM f = .ok before ∧
      rest.mapM f = .ok after ∧ results = before ++ after := by
  simp only [List.mapM_append, bind_eq_ok_iff]
  constructor
  · rintro ⟨before, ranFirst, after, ranRest, ⟨⟩⟩
    exact ⟨before, after, ranFirst, ranRest, rfl⟩
  · rintro ⟨before, after, ranFirst, ranRest, rfl⟩
    exact ⟨before, ranFirst, after, ranRest, rfl⟩

theorem length_of_mapM {f : α → Except ε β} {values : List α} {results : List β}
    (made : values.mapM f = .ok results) : results.length = values.length :=
  (mapM_eq_ok_iff.mp made).length_eq.symm

theorem toOption_eq_some_iff {computation : Except ε α} {result : α} :
    computation.toOption = some result ↔ computation = .ok result := by
  cases computation <;> simp [Except.toOption]

end Throughput
