import Mathlib.Data.List.Basic

/-!
# Computations

Laws of the two kinds of computations that everything here is made of, whatever they compute.

A computation that may fail comes to an end just when each of its steps does (`bind_eq_ok_iff`),
and fails in the first step that does not (`bind_eq_error_iff`). So `mapM` and `filterM` come to
an end just when they do for every element, and fail for one of them.

What a computation does to a state is said by what it **leads** to (`Leads`): from states with a
property, what is so when it comes to an end, with which value, and what is so when it fails, with
which fault. Where the property stays the same throughout, the computation **keeps** it (`Keeps`).
-/

namespace ProviderRegistry

/-! ### Computations that may fail -/

section Outcomes

variable {ε α β : Type} {x : Except ε α} {f : α → Except ε β}

theorem bind_of_eq_ok {a : α} (h : x = .ok a) : x >>= f = f a := by
  rw [h]
  rfl

/-- A computation in two steps comes to an end when both of them do. -/
theorem bind_eq_ok_iff {b : β} : x >>= f = .ok b ↔ ∃ a, x = .ok a ∧ f a = .ok b := by
  cases x with
  | ok a => exact ⟨fun h => ⟨a, rfl, h⟩, fun ⟨a', ha, h⟩ => Except.ok.inj ha ▸ h⟩
  | error e => exact iff_of_false (by rintro ⟨⟩) (by rintro ⟨a, ⟨⟩, -⟩)

/-- A computation in two steps fails in the first of them, or after it in the second. -/
theorem bind_eq_error_iff {e : ε} :
    x >>= f = .error e ↔ x = .error e ∨ ∃ a, x = .ok a ∧ f a = .error e := by
  cases x with
  | ok a => exact ⟨fun h => Or.inr ⟨a, rfl, h⟩, by rintro (⟨⟨⟩⟩ | ⟨a', ⟨⟩, h⟩); exact h⟩
  | error e' =>
    refine ⟨fun h => Or.inl (congrArg _ (Except.error.inj h)), ?_⟩
    rintro (h | ⟨a, ⟨⟩, -⟩)
    exact congrArg _ (Except.error.inj h)

variable {as : List α}

/-- What comes of all elements of a list is what comes of each of them. -/
theorem exists_of_mapM_eq_ok [Inhabited β] {bs : List β} (h : as.mapM f = .ok bs) :
    ∃ g : α → β, (∀ a ∈ as, f a = .ok (g a)) ∧ bs = as.map g := by
  refine ⟨fun a => (f a).toOption.getD default, ?_⟩
  induction as generalizing bs with
  | nil => exact ⟨fun a ha => absurd ha List.not_mem_nil, (Except.ok.inj h).symm⟩
  | cons a as ih =>
    rw [List.mapM_cons] at h
    obtain ⟨b, hfirst, h⟩ := bind_eq_ok_iff.mp h
    obtain ⟨rest, hrest, h⟩ := bind_eq_ok_iff.mp h
    obtain ⟨hall, rfl⟩ := ih hrest
    obtain rfl := Except.ok.inj h
    have hvalue : (f a).toOption.getD default = b := by
      rw [hfirst]
      rfl
    simp only [List.forall_mem_cons, List.map_cons, hvalue]
    exact ⟨⟨hfirst, hall⟩, trivial⟩

/-- Doing something for all elements of a list fails only where it fails for one of them. -/
theorem exists_of_mapM_eq_error {e : ε} (h : as.mapM f = .error e) : ∃ a ∈ as, f a = .error e := by
  induction as with
  | nil => cases h
  | cons a as ih =>
    rw [List.mapM_cons] at h
    rcases bind_eq_error_iff.mp h with hfirst | ⟨b, -, h⟩
    · exact ⟨a, List.mem_cons_self, hfirst⟩
    · rcases bind_eq_error_iff.mp h with hrest | ⟨bs, -, h⟩
      · obtain ⟨a', ha', hfails⟩ := ih hrest
        exact ⟨a', List.mem_cons_of_mem a ha', hfails⟩
      · cases h

end Outcomes

/-! ### Choosing with a test that may fail -/

section FilterM

variable {ε α : Type} {p : α → Except ε Bool} {as bs : List α} {a : α}

private theorem mem_of_filterAuxM_eq_ok {acc : List α} (h : as.filterAuxM p acc = .ok bs) :
    a ∈ bs ↔ a ∈ acc ∨ (a ∈ as ∧ p a = .ok true) := by
  induction as generalizing acc with
  | nil =>
    obtain rfl := Except.ok.inj h
    simp
  | cons first as ih =>
    obtain ⟨chosen, hfirst, hrest⟩ := bind_eq_ok_iff.mp h
    rw [ih hrest]
    cases chosen with
    | true =>
      constructor
      · rintro (hmem | hmem)
        · rcases List.mem_cons.mp hmem with rfl | hmem
          · exact Or.inr ⟨List.mem_cons_self, hfirst⟩
          · exact Or.inl hmem
        · exact Or.inr ⟨List.mem_cons_of_mem first hmem.1, hmem.2⟩
      · rintro (hmem | ⟨hmem, ha⟩)
        · exact Or.inl (List.mem_cons_of_mem first hmem)
        · rcases List.mem_cons.mp hmem with rfl | hmem
          · exact Or.inl List.mem_cons_self
          · exact Or.inr ⟨hmem, ha⟩
    | false =>
      refine or_congr_right (and_congr_left fun ha => ?_)
      have hne : a ≠ first := by
        rintro rfl
        exact Bool.false_ne_true (Except.ok.inj (hfirst.symm.trans ha))
      simp [hne]

/-- What is chosen is what passes the test. -/
theorem mem_of_filterM_eq_ok (h : as.filterM p = .ok bs) : a ∈ bs ↔ a ∈ as ∧ p a = .ok true := by
  obtain ⟨chosen, hchosen, hbs⟩ := bind_eq_ok_iff.mp h
  obtain rfl := Except.ok.inj hbs
  rw [List.mem_reverse, mem_of_filterAuxM_eq_ok hchosen, or_iff_right List.not_mem_nil]

private theorem exists_of_filterAuxM_eq_ok {acc : List α} (h : as.filterAuxM p acc = .ok bs) :
    ∃ chosen : List α, chosen.Sublist as ∧ bs = chosen.reverse ++ acc := by
  induction as generalizing acc with
  | nil => exact ⟨[], List.Sublist.refl [], (Except.ok.inj h).symm⟩
  | cons first as ih =>
    obtain ⟨isChosen, -, hrest⟩ := bind_eq_ok_iff.mp h
    obtain ⟨chosen, hchosen, rfl⟩ := ih hrest
    cases isChosen with
    | true => exact ⟨first :: chosen, hchosen.cons_cons first, by simp⟩
    | false => exact ⟨chosen, hchosen.cons first, rfl⟩

/-- What is chosen keeps its order. -/
theorem sublist_of_filterM_eq_ok (h : as.filterM p = .ok bs) : bs.Sublist as := by
  obtain ⟨reversed, hreversed, hbs⟩ := bind_eq_ok_iff.mp h
  obtain ⟨chosen, hchosen, rfl⟩ := exists_of_filterAuxM_eq_ok hreversed
  obtain rfl := Except.ok.inj hbs
  simpa using hchosen

private theorem exists_filterAuxM_eq_ok_iff (acc : List α) :
    (∃ bs, as.filterAuxM p acc = .ok bs) ↔ ∀ a ∈ as, ∃ chosen, p a = .ok chosen := by
  induction as generalizing acc with
  | nil => exact iff_of_true ⟨acc, rfl⟩ fun a ha => absurd ha List.not_mem_nil
  | cons first as ih =>
    rw [List.forall_mem_cons]
    constructor
    · rintro ⟨bs, hbs⟩
      obtain ⟨chosen, hfirst, hrest⟩ := bind_eq_ok_iff.mp hbs
      exact ⟨⟨chosen, hfirst⟩, (ih _).mp ⟨bs, hrest⟩⟩
    · rintro ⟨⟨chosen, hfirst⟩, hrest⟩
      obtain ⟨bs, hbs⟩ := (ih (bif chosen then first :: acc else acc)).mpr hrest
      exact ⟨bs, bind_eq_ok_iff.mpr ⟨chosen, hfirst, hbs⟩⟩

/-- Choosing comes to an end when every test does. -/
theorem exists_filterM_eq_ok_iff :
    (∃ bs, as.filterM p = .ok bs) ↔ ∀ a ∈ as, ∃ chosen, p a = .ok chosen := by
  rw [← exists_filterAuxM_eq_ok_iff []]
  constructor
  · rintro ⟨bs, hbs⟩
    obtain ⟨chosen, hchosen, -⟩ := bind_eq_ok_iff.mp hbs
    exact ⟨chosen, hchosen⟩
  · rintro ⟨chosen, hchosen⟩
    exact ⟨chosen.reverse, bind_eq_ok_iff.mpr ⟨chosen, hchosen, rfl⟩⟩

private theorem exists_of_filterAuxM_eq_error {e : ε} {acc : List α}
    (h : as.filterAuxM p acc = .error e) : ∃ a ∈ as, p a = .error e := by
  induction as generalizing acc with
  | nil => cases h
  | cons first as ih =>
    rcases bind_eq_error_iff.mp h with hfirst | ⟨chosen, -, hrest⟩
    · exact ⟨first, List.mem_cons_self, hfirst⟩
    · obtain ⟨a, ha, htest⟩ := ih hrest
      exact ⟨a, List.mem_cons_of_mem first ha, htest⟩

/-- Choosing fails only where a test does. -/
theorem exists_of_filterM_eq_error {e : ε} (h : as.filterM p = .error e) :
    ∃ a ∈ as, p a = .error e := by
  rcases bind_eq_error_iff.mp h with haux | ⟨chosen, -, hreverse⟩
  · exact exists_of_filterAuxM_eq_error haux
  · cases hreverse

end FilterM

/-! ### Computations from a state -/

section Steps

variable {ε S α β : Type}

theorem bind_apply (x : EStateM ε S α) (k : α → EStateM ε S β) (s : S) :
    (x >>= k) s = match x s with
      | .ok a s => k a s
      | .error e s => .error e s :=
  EStateM.run_bind x k

theorem pure_apply (a : α) (s : S) : (pure a : EStateM ε S α) s = .ok a s := rfl

theorem get_apply (s : S) : (get : EStateM ε S S) s = .ok s s := rfl

theorem modify_apply (f : S → S) (s : S) : (modify f : EStateM ε S PUnit) s = .ok ⟨⟩ (f s) := rfl

theorem throw_apply (e : ε) (s : S) : (throw e : EStateM ε S α) s = .error e s := rfl

variable {step : EStateM ε S α} {k : α → EStateM ε S β} {s s' : S}

/-- A step that comes to an end hands over to what follows. -/
theorem bind_of_ok {a : α} (h : step s = .ok a s') : (step >>= k) s = k a s' := by
  rw [bind_apply, h]

/-- A step that fails leaves nothing to what follows. -/
theorem bind_of_error {e : ε} (h : step s = .error e s') : (step >>= k) s = .error e s' := by
  rw [bind_apply, h]

/-- What comes to an end came to an end in each of its steps. -/
theorem bind_eq_ok {b : β} (h : (step >>= k) s = .ok b s') :
    ∃ a between, step s = .ok a between ∧ k a between = .ok b s' := by
  rw [bind_apply] at h
  cases hrun : step s with
  | ok a between =>
    rw [hrun] at h
    exact ⟨a, between, rfl, h⟩
  | error e failed =>
    rw [hrun] at h
    cases h

/-- What fails fails in one of its steps. -/
theorem bind_eq_error {e : ε} (h : (step >>= k) s = .error e s') :
    step s = .error e s' ∨ ∃ a between, step s = .ok a between ∧ k a between = .error e s' := by
  rw [bind_apply] at h
  cases hrun : step s with
  | ok a between =>
    rw [hrun] at h
    exact Or.inr ⟨a, between, rfl, h⟩
  | error e' failed =>
    rw [hrun] at h
    obtain ⟨rfl, rfl⟩ := EStateM.Result.error.inj h
    exact Or.inl rfl

end Steps

/-! ### What a computation leads to -/

section Leads

variable {ε S α β : Type} {P P' : S → Prop} {Q Q' : α → S → Prop} {E E' : ε → S → Prop}
  {step : EStateM ε S α}

/-- From states with a property, a step **leads** to others: of those that it leaves with a value
`Q` holds, and of those that it leaves with a fault `E`. -/
def Leads (P : S → Prop) (step : EStateM ε S α) (Q : α → S → Prop) (E : ε → S → Prop) : Prop :=
  ∀ s, P s → match step s with
    | .ok value done => Q value done
    | .error fault failed => E fault failed

/-- A step **keeps** a property of states, also when it fails. -/
abbrev Keeps (P : S → Prop) (step : EStateM ε S α) : Prop :=
  Leads P step (fun _ => P) fun _ => P

theorem leads_pure {value : α} (h : ∀ s, P s → Q value s) :
    Leads P (pure value : EStateM ε S α) Q E :=
  h

theorem leads_throw {fault : ε} (h : ∀ s, P s → E fault s) :
    Leads P (throw fault : EStateM ε S α) Q E :=
  h

theorem leads_get : Leads P (get : EStateM ε S S) (fun s done => P done ∧ P s) E :=
  fun _ hs => ⟨hs, hs⟩

/-- **Two steps** lead where the second leads from what the first leads to. -/
theorem Leads.bind {k : α → EStateM ε S β} {R : β → S → Prop} (h : Leads P step Q E)
    (hk : ∀ value, Leads (Q value) (k value) R E) : Leads P (step >>= k) R E := by
  intro s hs
  have hstep := h s hs
  rw [bind_apply]
  cases hrun : step s with
  | ok value done =>
    rw [hrun] at hstep
    exact hk value done hstep
  | error fault failed =>
    rw [hrun] at hstep
    exact hstep

/-- A step may start from more than it needs, and lead to less than it could. -/
theorem Leads.imp (h : Leads P step Q E) (hP : ∀ s, P' s → P s)
    (hQ : ∀ value s, Q value s → Q' value s) (hE : ∀ fault s, E fault s → E' fault s) :
    Leads P' step Q' E' := by
  intro s hs
  have hstep := h s (hP s hs)
  cases hrun : step s with
  | ok value done =>
    rw [hrun] at hstep
    exact hQ value done hstep
  | error fault failed =>
    rw [hrun] at hstep
    exact hE fault failed hstep

/-- What does not depend on the state may be taken for granted. -/
theorem leads_of_and {p : Prop} (h : p → Leads P step Q E) : Leads (fun s => P s ∧ p) step Q E :=
  fun s hs => h hs.2 s hs.1

/-- Doing something for all elements of a list leads where it leads for each of them. -/
theorem leads_mapM {f : α → EStateM ε S β} {as : List α}
    (h : ∀ a ∈ as, Leads P (f a) (fun _ => P) E) : Leads P (as.mapM f) (fun _ => P) E := by
  induction as with
  | nil => exact leads_pure fun _ => id
  | cons a as ih =>
    rw [List.mapM_cons]
    refine (h a List.mem_cons_self).bind fun _ => ?_
    exact (ih fun b hb => h b (List.mem_cons_of_mem a hb)).bind fun _ => leads_pure fun _ => id

theorem leads_forM {f : α → EStateM ε S Unit} {as : List α}
    (h : ∀ a ∈ as, Leads P (f a) (fun _ => P) E) : Leads P (as.forM f) (fun _ => P) E := by
  induction as with
  | nil => exact leads_pure fun _ => id
  | cons a as ih =>
    exact (h a List.mem_cons_self).bind fun _ => ih fun b hb => h b (List.mem_cons_of_mem a hb)

end Leads

end ProviderRegistry
