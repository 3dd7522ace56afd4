import Mathlib.Data.List.Forall2

/-!
# Successful readings

A reading either succeeds with a value or fails with an error.  The lemmas of this
module take a successful reading apart into the successes of its steps, so that no
later proof unfolds the sequencing of steps.

Main results:

- `bind_eq_ok`, `guard_eq_ok`, `map_eq_ok`: the steps of a successful reading.
- `exists_error_of_ne_ok`: a reading without a value fails.
- `map_bind_except`: a function of the value acts on the last step.
- `mapM_eq_ok_iff`: a list is read successfully when each of its entries is.
- `exists_of_mapM_eq_error`: a list fails to be read with an error of an entry.
- `mapM_map_eq_ok`, `foldlM_map_eq_pure`, `filterMapM_map_eq_ok`, `filterM_map_eq_ok`: runs over
  the images of values.
-/

namespace Wardley

variable {ε α β γ δ : Type}

/-- A sequence of two computations succeeds exactly when both do. -/
theorem bind_eq_ok {x : Except ε α} {f : α → Except ε β} {b : β} :
    (x >>= f) = .ok b ↔ ∃ a, x = .ok a ∧ f a = .ok b := by
  cases x <;> simp [bind, Except.bind]

@[simp]
theorem ok_bind (a : α) (f : α → Except ε β) : (.ok a >>= f) = f a := rfl

@[simp]
theorem pure_eq (a : α) : (pure a : Except ε α) = .ok a := rfl

theorem pure_eq_ok {a b : α} : (pure a : Except ε α) = .ok b ↔ a = b := by
  simp [pure, Except.pure]

theorem throw_ne_ok {e : ε} {b : α} : ¬ (throw e : Except ε α) = .ok b := by
  simp [throw, throwThe, MonadExceptOf.throw]

/-- A mapped computation succeeds exactly when the computation does. -/
theorem map_eq_ok {x : Except ε α} {f : α → β} {b : β} :
    x.map f = .ok b ↔ ∃ a, x = .ok a ∧ f a = b := by
  cases x <;> simp [Except.map]

/-- The value left when errors are forgotten is the value of a success. -/
theorem toOption_eq_some_iff {x : Except ε α} {a : α} : x.toOption = some a ↔ x = .ok a := by
  cases x <;> simp [Except.toOption]

/-- A computation that does not succeed fails with some error. -/
theorem exists_error_of_ne_ok {x : Except ε α} (h : ∀ a, x ≠ .ok a) : ∃ e, x = .error e := by
  cases x with
  | error e => exact ⟨e, rfl⟩
  | ok a => exact absurd rfl (h a)

/-- A function of the value of a reading is one of the value of its last step. -/
theorem map_bind_except (f : β → γ) (x : Except ε α) (next : α → Except ε β) :
    (x >>= next).map f = x >>= fun a => (next a).map f := by
  cases x <;> rfl

/-- A reading that fails under a condition succeeds only without it. -/
theorem guard_eq_ok {c : Prop} [Decidable c] {e : ε} {f : α → Except ε β} {x : Except ε β}
    {b : β} : (if c then (throw e >>= f) else x) = .ok b ↔ ¬ c ∧ x = .ok b := by
  by_cases hc : c
  · simp [hc, bind_eq_ok, throw_ne_ok]
  · simp [hc]

/-- A list is read successfully when each of its entries is. -/
theorem mapM_eq_ok_iff {read : α → Except ε β} {items : List α} {values : List β} :
    items.mapM read = .ok values ↔
      List.Forall₂ (fun item value => read item = .ok value) items values := by
  induction items generalizing values with
  | nil =>
      rw [List.mapM_nil, pure_eq_ok]
      constructor
      · rintro rfl
        exact .nil
      · rintro ⟨⟩
        rfl
  | cons item rest ih =>
      rw [List.mapM_cons, bind_eq_ok]
      constructor
      · rintro ⟨value, hvalue, hrest⟩
        rcases bind_eq_ok.1 hrest with ⟨others, hothers, hall⟩
        rcases pure_eq_ok.1 hall with rfl
        exact .cons hvalue (ih.1 hothers)
      · rintro (_ | ⟨hvalue, hrest⟩)
        exact ⟨_, hvalue, bind_eq_ok.2 ⟨_, ih.2 hrest, rfl⟩⟩

/-- A reading that follows another one on each entry follows it on a list. -/
theorem mapM_map_of_ok {read : α → Except ε β} {take : α → Except ε γ} {f : β → γ}
    (h : ∀ {item value}, read item = .ok value → take item = .ok (f value)) {items : List α}
    {values : List β} (hread : items.mapM read = .ok values) :
    items.mapM take = .ok (values.map f) := by
  rw [mapM_eq_ok_iff] at hread ⊢
  exact List.forall₂_map_right_iff.2 (hread.imp fun _ _ => h)

/-- A list of values is read successfully if each value is. -/
theorem mapM_map_eq_ok {read : β → Except ε γ} {write : α → β} {f : α → γ}
    (h : ∀ value, read (write value) = .ok (f value)) (values : List α) :
    (values.map write).mapM read = .ok (values.map f) := by
  rw [mapM_eq_ok_iff, List.forall₂_map_left_iff, List.forall₂_map_right_iff]
  exact List.forall₂_same.2 fun value _ => h value

/-- Steps that succeed on the images of states and values succeed one after the other. -/
theorem foldlM_map_eq_pure {m : Type → Type} [Monad m] [LawfulMonad m] {step : γ → β → m γ}
    {next : δ → α → δ} {state : δ → γ} {write : α → β}
    (h : ∀ s value, step (state s) (write value) = pure (state (next s value)))
    (values : List α) (s : δ) :
    (values.map write).foldlM step (state s) = pure (state (values.foldl next s)) := by
  induction values generalizing s with
  | nil => rfl
  | cons value rest ih => rw [List.map_cons, List.foldlM_cons, h, pure_bind, ih, List.foldl_cons]

/-- What is kept of a list by successful choices. -/
theorem filterMapM_map_eq_ok {choose : β → Except ε (Option γ)} {write : α → β}
    {chosen : α → Option γ} (h : ∀ value, choose (write value) = .ok (chosen value))
    (values : List α) : (values.map write).filterMapM choose = .ok (values.filterMap chosen) := by
  induction values with
  | nil => rfl
  | cons value rest ih =>
    rw [List.map_cons, List.filterMapM_cons, h, ok_bind, ih, List.filterMap_cons]
    cases chosen value <;> rfl

/-- What is kept of a list by successful tests. -/
theorem filterM_map_eq_ok {test : β → Except ε Bool} {write : α → β} {passes : α → Bool}
    (h : ∀ value, test (write value) = .ok (passes value)) (values : List α) :
    (values.map write).filterM test = .ok ((values.filter passes).map write) := by
  -- the tests are made with what was kept so far, in reverse
  have hkept (kept : List β) : (values.map write).filterAuxM test kept =
      .ok (((values.filter passes).map write).reverse ++ kept) := by
    induction values generalizing kept with
    | nil => rfl
    | cons value rest ih =>
      rw [List.map_cons, List.filterAuxM, h, ok_bind, ih]
      cases hpass : passes value <;> simp [hpass]
  rw [List.filterM, hkept, ok_bind, List.append_nil, List.reverse_reverse]
  rfl

/-- Each value of a list that is read comes from an entry. -/
theorem mem_of_mapM_eq_ok {read : α → Except ε β} {items : List α} {values : List β}
    (h : items.mapM read = .ok values) {value : β} (hvalue : value ∈ values) :
    ∃ item ∈ items, read item = .ok value := by
  induction mapM_eq_ok_iff.1 h with
  | nil => cases hvalue
  | cons hread hrest ih =>
      rcases List.mem_cons.1 hvalue with rfl | hvalue
      · exact ⟨_, List.mem_cons_self, hread⟩
      · rcases ih (mapM_eq_ok_iff.2 hrest) hvalue with ⟨item, hitem, heq⟩
        exact ⟨item, List.mem_cons_of_mem _ hitem, heq⟩

/-- A list fails to be read with the error of an entry. -/
theorem exists_of_mapM_eq_error {read : α → Except ε β} {items : List α} {error : ε}
    (h : items.mapM read = .error error) : ∃ item ∈ items, read item = .error error := by
  induction items with
  | nil => cases h
  | cons item rest ih =>
      rw [List.mapM_cons] at h
      cases hitem : read item with
      | error found =>
          rw [hitem] at h
          cases h
          exact ⟨item, List.mem_cons_self, hitem⟩
      | ok value =>
          rw [hitem, ok_bind] at h
          cases hrest : rest.mapM read with
          | ok values =>
              rw [hrest] at h
              cases h
          | error found =>
              rw [hrest] at h
              cases h
              rcases ih hrest with ⟨other, hother, hread⟩
              exact ⟨other, List.mem_cons_of_mem _ hother, hread⟩

end Wardley
