/-!
# Outcomes

When a computation that may fail gives a result, and when it gives an error.
-/

namespace PluginHost.Outcome

variable {ε δ α β : Type}

theorem bind_eq_ok {first : Except ε α} {next : α → Except ε β} {result : β} :
    first >>= next = .ok result ↔ ∃ middle, first = .ok middle ∧ next middle = .ok result := by
  cases first with
  | error error => simp [bind, Except.bind]
  | ok middle => simp [bind, Except.bind]

theorem bind_eq_error {first : Except ε α} {next : α → Except ε β} {error : ε} :
    first >>= next = .error error ↔
      first = .error error ∨ ∃ middle, first = .ok middle ∧ next middle = .error error := by
  cases first with
  | error other => simp [bind, Except.bind]
  | ok middle => simp [bind, Except.bind]

theorem map_eq_ok {change : α → β} {outcome : Except ε α} {result : β} :
    outcome.map change = .ok result ↔ ∃ before, outcome = .ok before ∧ change before = result := by
  cases outcome with
  | error error => simp [Except.map]
  | ok before => simp [Except.map]

theorem map_eq_error {change : α → β} {outcome : Except ε α} {error : ε} :
    outcome.map change = .error error ↔ outcome = .error error := by
  cases outcome with
  | error other => simp [Except.map]
  | ok before => simp [Except.map]

theorem mapError_eq_ok {change : ε → δ} {outcome : Except ε α} {result : α} :
    outcome.mapError change = .ok result ↔ outcome = .ok result := by
  cases outcome with
  | error error => exact ⟨nofun, nofun⟩
  | ok before =>
      constructor
      · rintro ⟨⟩
        rfl
      · rintro ⟨⟩
        rfl

theorem mapError_eq_error {change : ε → δ} {outcome : Except ε α} {error : δ} :
    outcome.mapError change = .error error ↔
      ∃ cause, outcome = .error cause ∧ change cause = error := by
  cases outcome with
  | error cause =>
      constructor
      · rintro ⟨⟩
        exact ⟨cause, rfl, rfl⟩
      · rintro ⟨_, ⟨⟩, rfl⟩
        rfl
  | ok before => exact ⟨nofun, nofun⟩

theorem mapError_bind {change : ε → δ} {first : Except ε α} {next : α → Except ε β} :
    (first >>= next).mapError change =
      first.mapError change >>= fun middle => (next middle).mapError change := by
  cases first with
  | error error => rfl
  | ok middle => rfl

theorem exists_error_iff {outcome : Except ε α} :
    (∃ error, outcome = .error error) ↔ ∀ result, outcome ≠ .ok result := by
  cases outcome with
  | error error => simp
  | ok result => simp

/-- The first step that fails ends a fold, and its error is that of the fold. -/
theorem foldlM_eq_error_iff {step : α → β → Except ε α} {items : List β} {start : α} {error : ε} :
    items.foldlM step start = .error error ↔
      ∃ earlier item later, items = earlier ++ item :: later ∧
        ∃ middle, earlier.foldlM step start = .ok middle ∧ step middle item = .error error := by
  constructor
  · intro fails
    induction items generalizing start with
    | nil => cases fails
    | cons first rest ih =>
        rw [List.foldlM_cons, bind_eq_error] at fails
        rcases fails with now | ⟨next, done, later⟩
        · exact ⟨[], first, rest, rfl, start, rfl, now⟩
        · obtain ⟨earlier, item, others, rfl, middle, before, failure⟩ := ih later
          refine ⟨first :: earlier, item, others, rfl, middle, ?_, failure⟩
          rw [List.foldlM_cons, bind_eq_ok]
          exact ⟨next, done, before⟩
  · rintro ⟨earlier, item, later, rfl, middle, before, failure⟩
    rw [List.foldlM_append, bind_eq_error]
    refine .inr ⟨middle, before, ?_⟩
    rw [List.foldlM_cons, bind_eq_error]
    exact .inl failure

/-- What each step keeps holds after all of them, if none fails. -/
theorem foldlM_keeps (Holds : α → Prop) {step : α → β → Except ε α} {items : List β}
    (keeps : ∀ before item after, item ∈ items → Holds before → step before item = .ok after →
      Holds after)
    {start last : α} (holds : Holds start) (done : items.foldlM step start = .ok last) :
    Holds last := by
  induction items generalizing start with
  | nil =>
      cases done
      exact holds
  | cons item rest ih =>
      rw [List.foldlM_cons, bind_eq_ok] at done
      obtain ⟨middle, first, later⟩ := done
      have keepsRest := fun before item after (member : item ∈ rest) =>
        keeps before item after (List.mem_cons_of_mem _ member)
      exact ih keepsRest (keeps start item middle List.mem_cons_self holds first) later

end PluginHost.Outcome
