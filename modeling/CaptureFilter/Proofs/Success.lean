/-!
# Steps that succeed

A sequence of steps succeeds exactly if each of them does.
-/

namespace CaptureFilter

variable {ε δ α β : Type}

/-- A step and what follows it succeed exactly if both do. -/
theorem bind_eq_ok_iff {x : Except ε α} {f : α → Except ε β} {b : β} :
    (x >>= f) = .ok b ↔ ∃ a, x = .ok a ∧ f a = .ok b := by
  cases x with
  | error e => simp [bind, Except.bind]
  | ok a => simp [bind, Except.bind]

/-- A step and what follows it fail exactly if the one or the other does. -/
theorem bind_eq_error_iff {x : Except ε α} {f : α → Except ε β} {e : ε} :
    (x >>= f) = .error e ↔ x = .error e ∨ ∃ a, x = .ok a ∧ f a = .error e := by
  cases x with
  | error e' => simp [bind, Except.bind]
  | ok a => simp [bind, Except.bind]

/-- A result that is looked at through a function is one of the function. -/
theorem map_eq_ok_iff {x : Except ε α} {f : α → β} {b : β} :
    x.map f = .ok b ↔ ∃ a, x = .ok a ∧ f a = b := by
  cases x with
  | error e => simp [Except.map]
  | ok a => simp [Except.map]

/-- Each result of steps over a list is that of one of them. -/
theorem exists_mem_of_mapM_eq_ok {f : α → Except ε β} {xs : List α} {ys : List β}
    (h : xs.mapM f = .ok ys) {y : β} (hy : y ∈ ys) : ∃ x ∈ xs, f x = .ok y := by
  induction xs generalizing ys with
  | nil =>
    rw [List.mapM_nil] at h
    cases h
    exact absurd hy List.not_mem_nil
  | cons x rest ih =>
    rw [List.mapM_cons] at h
    obtain ⟨b, hb, h⟩ := bind_eq_ok_iff.mp h
    obtain ⟨bs, hbs, h⟩ := bind_eq_ok_iff.mp h
    cases h
    rcases List.mem_cons.mp hy with rfl | hm
    · exact ⟨x, List.mem_cons_self, hb⟩
    · obtain ⟨x', hx', he⟩ := ih hbs hm
      exact ⟨x', List.mem_cons_of_mem x hx', he⟩

/-- Steps over a list that succeed have a result for each of its members. -/
theorem exists_result_of_mapM_eq_ok {f : α → Except ε β} {xs : List α} {ys : List β}
    (h : xs.mapM f = .ok ys) {x : α} (hx : x ∈ xs) : ∃ y ∈ ys, f x = .ok y := by
  induction xs generalizing ys with
  | nil => exact absurd hx List.not_mem_nil
  | cons x' rest ih =>
    rw [List.mapM_cons] at h
    obtain ⟨b, hb, h⟩ := bind_eq_ok_iff.mp h
    obtain ⟨bs, hbs, h⟩ := bind_eq_ok_iff.mp h
    cases h
    rcases List.mem_cons.mp hx with rfl | hm
    · exact ⟨b, List.mem_cons_self, hb⟩
    · obtain ⟨y, hy, he⟩ := ih hbs hm
      exact ⟨y, List.mem_cons_of_mem b hy, he⟩

/-- Steps that agree on the members of a list agree over it. -/
theorem mapM_congr {f g : α → Except ε β} {xs : List α} (h : ∀ x ∈ xs, f x = g x) :
    xs.mapM f = xs.mapM g := by
  induction xs with
  | nil => rfl
  | cons x rest ih =>
    rw [List.mapM_cons, List.mapM_cons, h x List.mem_cons_self,
      ih fun y hy ↦ h y (List.mem_cons_of_mem x hy)]

/-- Faults that are looked at through a function are one of the function over a list as well. -/
theorem mapM_mapError {f : α → Except ε β} (g : ε → δ) (xs : List α) :
    xs.mapM (fun x ↦ (f x).mapError g) = (xs.mapM f).mapError g := by
  induction xs with
  | nil => rfl
  | cons x rest ih =>
    rw [List.mapM_cons, List.mapM_cons, ih]
    cases f x with
    | error e => rfl
    | ok b => cases rest.mapM f <;> rfl

/-- Steps over a list fail exactly if one of them fails behind steps that succeed. -/
theorem mapM_eq_error_iff {f : α → Except ε β} {xs : List α} {e : ε} :
    xs.mapM f = .error e ↔
      ∃ before x after, xs = before ++ x :: after ∧ (∃ ys, before.mapM f = .ok ys) ∧
        f x = .error e := by
  constructor
  · intro h
    induction xs with
    | nil =>
      rw [List.mapM_nil] at h
      cases h
    | cons x rest ih =>
      cases hx : f x with
      | error e' =>
        rw [List.mapM_cons, hx] at h
        cases h
        exact ⟨[], x, rest, rfl, ⟨[], rfl⟩, hx⟩
      | ok b =>
        have hrest : rest.mapM f = .error e := by
          rw [List.mapM_cons, hx] at h
          cases hr : rest.mapM f with
          | error e' =>
            rw [hr] at h
            exact h
          | ok bs =>
            rw [hr] at h
            cases h
        obtain ⟨before, x', after, rfl, ⟨ys, hys⟩, he⟩ := ih hrest
        refine ⟨x :: before, x', after, rfl, ⟨b :: ys, ?_⟩, he⟩
        rw [List.mapM_cons, hx, hys]
        rfl
  · rintro ⟨before, x, after, rfl, ⟨ys, hys⟩, he⟩
    rw [List.mapM_append, hys, List.mapM_cons, he]
    rfl

/-- A fault of steps over a list is that of one of them. -/
theorem exists_mem_of_mapM_eq_error {f : α → Except ε β} {xs : List α} {e : ε}
    (h : xs.mapM f = .error e) : ∃ x ∈ xs, f x = .error e := by
  obtain ⟨before, x, after, rfl, -, he⟩ := mapM_eq_error_iff.mp h
  exact ⟨x, List.mem_append_right before List.mem_cons_self, he⟩

/-- Steps over a list leave nothing only if there are none. -/
theorem mapM_eq_ok_nil_iff {f : α → Except ε β} {xs : List α} : xs.mapM f = .ok [] ↔ xs = [] := by
  cases xs with
  | nil => simp [pure, Except.pure]
  | cons x rest =>
    refine iff_of_false ?_ (List.cons_ne_nil x rest)
    intro h
    rw [List.mapM_cons] at h
    obtain ⟨b, -, h⟩ := bind_eq_ok_iff.mp h
    obtain ⟨bs, -, h⟩ := bind_eq_ok_iff.mp h
    cases h

/-- Steps that carry a value on, and fail whatever it is, fail with the first fault there is. -/
theorem foldlM_eq_error_iff {f : β → α → Except ε β} {fault? : α → Option ε}
    (h : ∀ b x e, f b x = .error e ↔ fault? x = some e) {xs : List α} {b : β} {e : ε} :
    xs.foldlM f b = .error e ↔ xs.findSome? fault? = some e := by
  induction xs generalizing b with
  | nil => exact iff_of_false nofun nofun
  | cons x rest ih =>
    rw [List.foldlM_cons, List.findSome?_cons]
    cases hx : f b x with
    | error e' =>
      rw [(h b x e').mp hx]
      simp [bind, Except.bind]
    | ok b' =>
      have hno : fault? x = none := by
        refine Option.eq_none_iff_forall_ne_some.mpr fun e' he ↦ ?_
        rw [(h b x e').mpr he] at hx
        cases hx
      rw [hno]
      exact ih

end CaptureFilter
