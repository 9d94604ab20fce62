import TokenSplit.Logged

/-!
# Results of steps

Steps one after another give a result exactly if each of them does, and a fault is the fault of
one of them.  What is recorded on the way has no part in that.
-/

namespace TokenSplit

@[simp] theorem throw_eq_error {ε α : Type} (e : ε) :
    (throw e : Except ε α) = .error e := rfl

@[simp] theorem error_bind {ε α β : Type} (e : ε) (f : α → Except ε β) :
    (Except.error e >>= f) = .error e := rfl

theorem ok_bind {ε α β : Type} (a : α) (f : α → Except ε β) :
    (Except.ok a >>= f) = f a := rfl

theorem bind_eq_ok_iff {ε α β : Type} {x : Except ε α} {f : α → Except ε β}
    {b : β} : x >>= f = .ok b ↔ ∃ a, x = .ok a ∧ f a = .ok b := by
  constructor
  · intro h
    cases x with
    | error fault => cases h
    | ok a => exact ⟨a, rfl, h⟩
  · rintro ⟨a, rfl, h⟩
    exact h

/-- Where a result is only made into something else, that comes of it. -/
theorem bind_ok_eq_ok_iff {ε α β : Type} {x : Except ε α} {f : α → β}
    {b : β} : (x >>= fun a => .ok (f a)) = .ok b ↔ ∃ a, b = f a ∧ x = .ok a := by
  rw [bind_eq_ok_iff]
  constructor
  · rintro ⟨a, ha, hb⟩
    exact ⟨a, (Except.ok.inj hb).symm, ha⟩
  · rintro ⟨a, rfl, ha⟩
    exact ⟨a, ha, rfl⟩

theorem bind_eq_error_iff {ε α β : Type} {x : Except ε α}
    {f : α → Except ε β} {fault : ε} :
    x >>= f = .error fault ↔
      x = .error fault ∨ ∃ a, x = .ok a ∧ f a = .error fault := by
  cases x with
  | error cause => simp
  | ok a =>
      constructor
      · intro h
        exact .inr ⟨a, rfl, h⟩
      · rintro (h | ⟨_, ha, h⟩)
        · cases h
        · cases ha
          exact h

theorem map_eq_error_iff {ε α β : Type} {f : α → β} {x : Except ε α}
    {fault : ε} : x.map f = .error fault ↔ x = .error fault := by
  cases x with
  | error cause => simp [Except.map]
  | ok a => simp [Except.map]

theorem exists_map_eq_ok_iff {ε α β : Type} {f : α → β} {x : Except ε α} :
    (∃ b, x.map f = .ok b) ↔ ∃ a, x = .ok a := by
  cases x with
  | error cause => simp [Except.map]
  | ok a => simp [Except.map]

/-- What holds of everything that a step can give holds of what the steps over a list give. -/
theorem forall_mem_of_mapM {ε α β : Type} {f : α → Except ε β}
    {P : β → Prop} (hstep : ∀ a b, f a = .ok b → P b) {as : List α}
    {bs : List β} (h : as.mapM f = .ok bs) : ∀ b ∈ bs, P b := by
  induction as generalizing bs with
  | nil =>
      cases h
      simp
  | cons a as ih =>
      rw [List.mapM_cons] at h
      obtain ⟨b, hb, h⟩ := bind_eq_ok_iff.mp h
      obtain ⟨rest, hrest, h⟩ := bind_eq_ok_iff.mp h
      cases h
      intro c hc
      rcases List.mem_cons.mp hc with rfl | hc
      · exact hstep a c hb
      · exact ih hrest c hc

/-- Steps that all give results give all of them. -/
theorem mapM_eq_ok {ε α β : Type} {f : α → Except ε β} {g : α → β}
    {as : List α} (h : ∀ a ∈ as, f a = .ok (g a)) :
    as.mapM f = .ok (as.map g) := by
  induction as with
  | nil => rfl
  | cons a as ih =>
      have hrest := ih fun b hb => h b (List.mem_cons_of_mem a hb)
      rw [List.mapM_cons, h a List.mem_cons_self, hrest]
      rfl

/-- Steps that keep an invariant and never fail under it do not fail one after another. -/
theorem exists_foldlM_eq_ok {ε α β : Type} {f : β → α → Except ε β}
    {P : β → Prop} {as : List α}
    (hstep : ∀ a ∈ as, ∀ b, P b → ∃ c, f b a = .ok c ∧ P c) {b : β}
    (hb : P b) : ∃ c, as.foldlM f b = .ok c ∧ P c := by
  induction as generalizing b with
  | nil => exact ⟨b, rfl, hb⟩
  | cons a as ih =>
      obtain ⟨c, hc, hinvariant⟩ := hstep a List.mem_cons_self b hb
      rw [List.foldlM_cons, hc]
      exact ih (fun d hd => hstep d (List.mem_cons_of_mem a hd)) hinvariant

/-- Every fault of a step belongs to one family. -/
def FailsAs {α : Type} (family : Family) (x : Except Fault α) : Prop :=
  ∀ fault, x = .error fault → fault.family = family

namespace FailsAs

variable {α β : Type} {family : Family}

theorem ok (a : α) : FailsAs family (.ok a) := by
  intro fault h
  cases h

theorem error {fault : Fault} (hfault : fault.family = family) :
    FailsAs family (.error fault : Except Fault α) := by
  intro other h
  cases h
  exact hfault

theorem bind {x : Except Fault α} {f : α → Except Fault β}
    (hx : FailsAs family x) (hf : ∀ a, FailsAs family (f a)) :
    FailsAs family (x >>= f) := by
  cases x with
  | error fault => exact error (hx fault rfl)
  | ok a => exact hf a

end FailsAs

namespace Logged

@[simp] theorem result_bind {α β : Type} (x : Logged α) (f : α → Logged β) :
    (x >>= f).result = x.result >>= fun a => (f a).result := by
  cases x with
  | mk result log => cases result <;> rfl

@[simp] theorem result_pure {α : Type} (a : α) :
    (pure a : Logged α).result = .ok a := rfl

@[simp] theorem result_liftM {α : Type} (result : Except Fault α) :
    (liftM result : Logged α).result = result := rfl

@[simp] theorem liftM_ok_bind {α β : Type} (a : α) (f : α → Logged β) :
    (liftM (Except.ok a : Except Fault α) : Logged α) >>= f = f a := rfl

/-- What a result is followed by is recorded behind what led to it. -/
theorem ok_bind {α β : Type} (a : α) (log : List Event)
    (f : α → Logged β) :
    (⟨.ok a, log⟩ : Logged α) >>= f = ⟨(f a).result, log ++ (f a).log⟩ := rfl

/-- Nothing follows a fault. -/
theorem error_bind {α β : Type} (fault : Fault) (log : List Event)
    (f : α → Logged β) :
    (⟨.error fault, log⟩ : Logged α) >>= f = ⟨.error fault, log⟩ := rfl

/-- What a step gives, if it gives anything, has a property. -/
def Gives {α : Type} (P : α → Prop) (x : Logged α) : Prop :=
  ∀ a, x.result = .ok a → P a

namespace Gives

variable {α β : Type} {P : β → Prop} {Q : α → Prop}

theorem pure {b : β} (hb : P b) : (Pure.pure b : Logged β).Gives P := by
  rintro _ ⟨⟩
  exact hb

theorem throw (fault : Fault) :
    (MonadExcept.throw fault : Logged β).Gives P := by
  rintro _ ⟨⟩

theorem lift {x : Except Fault β} (hx : ∀ b, x = .ok b → P b) :
    (liftM x : Logged β).Gives P := hx

theorem bind {x : Logged α} {f : α → Logged β} (hx : x.Gives Q)
    (hf : ∀ a, Q a → (f a).Gives P) : (x >>= f).Gives P := by
  intro b hb
  rw [result_bind] at hb
  obtain ⟨a, ha, hb⟩ := bind_eq_ok_iff.mp hb
  exact hf a (hx a ha) b hb

/-- Nothing has to be known of a step that has no part in what comes of it. -/
theorem andThen {x : Logged α} {f : α → Logged β}
    (hf : ∀ a, (f a).Gives P) : (x >>= f).Gives P := by
  have hx : x.Gives fun _ => True := fun _ _ => trivial
  exact hx.bind fun a _ => hf a

end Gives

end Logged

end TokenSplit
