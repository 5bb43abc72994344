import Mathlib.Data.List.Forall2
import SqlStore.Error

/-! # Results

What follows for the parts of a computation when the whole has succeeded, and what a computation
ends with when its parts are known.
-/

namespace SqlStore.Result

variable {α β ε ε' : Type}

theorem ok_bind (value : α) (next : α → Except ε β) : (Except.ok value >>= next) = next value := rfl

theorem bind_eq_ok_iff {first : Except ε α} {next : α → Except ε β} {result : β} :
    (first >>= next) = .ok result ↔ ∃ value, first = .ok value ∧ next value = .ok result := by
  cases first with
  | error cause =>
    apply iff_of_false (by rintro ⟨⟩)
    rintro ⟨_, same, _⟩
    cases same
  | ok value =>
    rw [ok_bind]
    constructor
    · intro done
      exact ⟨value, rfl, done⟩
    · rintro ⟨_, same, done⟩
      cases same
      exact done

theorem map_eq_ok_iff {f : α → β} {result : Except ε α} {image : β} :
    f <$> result = .ok image ↔ ∃ value, result = .ok value ∧ f value = image := by
  cases result with
  | error cause =>
    apply iff_of_false (by rintro ⟨⟩)
    rintro ⟨_, same, _⟩
    cases same
  | ok value =>
    constructor
    · intro same
      exact ⟨value, rfl, Except.ok.inj same⟩
    · rintro ⟨_, same, rfl⟩
      cases same
      rfl

theorem bind_eq_error_iff {first : Except ε α} {next : α → Except ε β} {cause : ε} :
    (first >>= next) = .error cause ↔
      first = .error cause ∨ ∃ value, first = .ok value ∧ next value = .error cause := by
  cases first with
  | error other =>
    constructor
    · rintro ⟨⟩
      exact .inl rfl
    · rintro (⟨⟨⟩⟩ | ⟨_, same, _⟩)
      · rfl
      · cases same
  | ok value =>
    rw [ok_bind]
    constructor
    · intro failed
      exact .inr ⟨value, rfl, failed⟩
    · rintro (same | ⟨_, same, failed⟩)
      · cases same
      · cases same
        exact failed

/-- What gives no value gives an error. -/
theorem exists_eq_error {result : Except ε α} (failed : ∀ value, result ≠ .ok value) :
    ∃ cause, result = .error cause := by
  cases result with
  | error cause => exact ⟨cause, rfl⟩
  | ok value => exact absurd rfl (failed value)

theorem all_isOk_iff {results : List (Except ε α)} :
    results.all Except.isOk = true ↔ ∀ result ∈ results, ∃ value, result = .ok value := by
  rw [List.all_eq_true]
  refine forall₂_congr fun result _ => ?_
  cases result <;> simp [Except.isOk, Except.toBool]

theorem not_all_isOk_iff {results : List (Except ε α)} :
    ¬ results.all Except.isOk = true ↔ ∃ cause, .error cause ∈ results := by
  rw [Bool.not_eq_true, List.all_eq_false]
  constructor
  · rintro ⟨result, member, failed⟩
    cases result with
    | ok value => exact absurd rfl failed
    | error cause => exact ⟨cause, member⟩
  · rintro ⟨cause, member⟩
    exact ⟨.error cause, member, nofun⟩

theorem mapError_ok (value : α) (wrap : ε → ε') :
    (Except.ok value).mapError wrap = .ok value := rfl

theorem isOk_mapError (result : Except ε α) (wrap : ε → ε') :
    (result.mapError wrap).isOk = result.isOk := by
  cases result <;> rfl

/-- A traversal succeeds with what the items give, one after the other. -/
theorem mapM_eq_ok_iff {f : α → Except ε β} {items : List α} {results : List β} :
    items.mapM f = .ok results ↔
      List.Forall₂ (fun item result => f item = .ok result) items results := by
  induction items generalizing results with
  | nil =>
    rw [List.forall₂_nil_left_iff, List.mapM_nil]
    exact ⟨fun same => (Except.ok.inj same).symm, fun same => same ▸ rfl⟩
  | cons item rest ih =>
    rw [List.mapM_cons, bind_eq_ok_iff, List.forall₂_cons_left_iff]
    constructor
    · rintro ⟨result, here, later⟩
      obtain ⟨others, collected, same⟩ := bind_eq_ok_iff.mp later
      exact ⟨result, others, here, ih.mp collected, (Except.ok.inj same).symm⟩
    · rintro ⟨result, others, here, collected, rfl⟩
      exact ⟨result, here, bind_eq_ok_iff.mpr ⟨others, ih.mpr collected, rfl⟩⟩

/-- A traversal in which no item fails collects what the items give. -/
theorem mapM_eq_ok_of_map_eq {f : α → Except ε β} {items : List α} {results : List β}
    (good : items.map f = results.map .ok) : items.mapM f = .ok results := by
  have pairs : List.Forall₂ (· = ·) (items.map f) (results.map .ok) := by
    rw [List.forall₂_eq_eq_eq]
    exact good
  exact mapM_eq_ok_iff.mpr (List.forall₂_map_right_iff.mp (List.forall₂_map_left_iff.mp pairs))

theorem exists_mapM_eq_ok {f : α → Except ε β} {items : List α}
    (each : ∀ item ∈ items, ∃ result, f item = .ok result) :
    ∃ results, items.mapM f = .ok results := by
  induction items with
  | nil => exact ⟨[], rfl⟩
  | cons item rest ih =>
    obtain ⟨⟨result, here⟩, later⟩ := List.forall_mem_cons.mp each
    obtain ⟨results, collected⟩ := ih later
    refine ⟨result :: results, ?_⟩
    rw [List.mapM_cons, here, collected]
    rfl

section Fold

variable {f : β → α → Except ε β} {start : β} {cause : ε}

/-- A fold that fails does so at an item, with what the items before it gave. -/
theorem exists_of_foldlM_eq_error {items : List α} (failed : items.foldlM f start = .error cause) :
    ∃ front item rest reached, items = front ++ item :: rest ∧
      front.foldlM f start = .ok reached ∧ f reached item = .error cause := by
  induction items generalizing start with
  | nil => cases failed
  | cons item rest ih =>
    rw [List.foldlM_cons] at failed
    rcases bind_eq_error_iff.mp failed with here | ⟨next, here, later⟩
    · exact ⟨[], item, rest, start, rfl, rfl, here⟩
    · obtain ⟨front, other, behind, reached, rfl, before, there⟩ := ih later
      refine ⟨item :: front, other, behind, reached, rfl, ?_, there⟩
      rw [List.foldlM_cons, here, ok_bind, before]

end Fold

end SqlStore.Result
