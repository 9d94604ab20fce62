import TokenSplit.Fault
import TokenSplit.Yaml.Token.Scan

/-!
# Why texts are refused as tokens

A reader either gives a result, finds its text malformed, or refuses it for a cause.  The causes
are accounted for: each is one of value, or one of the few that are of another family.  This
holds of every reader because it passes from steps to what is put together from them, so that
each reader needs no more than the steps it names.
-/

namespace TokenSplit

/-- Causes that concern what a document holds and yet are of no family of
value. -/
def Fault.IsStray : Fault → Bool
  | numeralEmpty => true
  | flagUnknown _ => true
  | notMoment => true
  | momentNotText => true
  | codeTooLarge false => true
  | integerTooLarge => true
  | endless => true
  | foreign .key _ => true
  | _ => false

namespace Yaml

/-- Every cause for which a reading is refused is one of value or stray. -/
def Accounted {α : Type} (x : Reading α) : Prop :=
  ∀ fault, x = .error (.refused fault) →
    fault.family = .value ∨ fault.IsStray

namespace Accounted

variable {α β : Type}

@[simp] theorem ok (a : α) : Accounted (.ok a) := by
  intro fault h
  cases h

@[simp] theorem pure (a : α) : Accounted (pure a) :=
  ok a

@[simp] theorem malformed : Accounted (malformed : Reading α) := by
  intro fault h
  cases h

@[simp] theorem malformed_ne_ok {a : α} :
    (Yaml.malformed : Reading α) ≠ .ok a := by
  intro h
  cases h

@[simp] theorem brokenOff : Accounted (.error .brokenOff : Reading α) := by
  intro fault h
  cases h

@[simp] theorem refused_iff {fault : Fault} :
    Accounted (.error (.refused fault) : Reading α) ↔
      fault.family = .value ∨ fault.IsStray := by
  constructor
  · intro h
    exact h fault rfl
  · intro hfault other h
    cases h
    exact hfault

@[simp] theorem bind_iff {x : Reading α} {f : α → Reading β} :
    Accounted (x >>= f) ↔
      Accounted x ∧ ∀ a, x = .ok a → Accounted (f a) := by
  cases x with
  | error problem =>
      constructor
      · intro h
        refine ⟨?_, by simp⟩
        intro fault hfault
        cases hfault
        exact h fault rfl
      · rintro ⟨h, -⟩ fault hfault
        cases hfault
        exact h fault rfl
  | ok a =>
      constructor
      · intro h
        refine ⟨ok a, ?_⟩
        rintro b hb
        cases hb
        exact h
      · rintro ⟨-, h⟩
        exact h a rfl

theorem bind {x : Reading α} {f : α → Reading β} (hx : Accounted x)
    (hf : ∀ a, Accounted (f a)) : Accounted (x >>= f) :=
  bind_iff.mpr ⟨hx, fun a _ => hf a⟩

@[simp] theorem map_iff {x : Reading α} {f : α → β} :
    Accounted (f <$> x) ↔ Accounted x := by
  rw [map_eq_pure_bind, bind_iff]
  simp

@[simp] theorem ite_iff {p : Prop} [Decidable p] {x y : Reading α} :
    Accounted (if p then x else y) ↔
      (p → Accounted x) ∧ (¬p → Accounted y) := by
  split <;> simp [*]

/-- A problem is accounted for whatever the reading was to give. -/
theorem error {problem : Problem}
    (h : Accounted (.error problem : Reading α)) :
    Accounted (.error problem : Reading β) := by
  rintro fault ⟨rfl⟩
  exact h fault rfl

theorem mapM {f : α → Reading β} (hf : ∀ a, Accounted (f a))
    (items : List α) : Accounted (items.mapM f) := by
  induction items with
  | nil => simp
  | cons a rest ih => simp [hf a, ih]

theorem foldlM {f : β → α → Reading β} (hf : ∀ b a, Accounted (f b a))
    (start : β) (items : List α) : Accounted (items.foldlM f start) := by
  induction items generalizing start with
  | nil => simp
  | cons a rest ih => simp [hf start a, ih]

end Accounted

/-! ## Names, blocks and quoted texts -/

section Readers

variable (c : Cursor)

@[simp] theorem accounted_readAnchor : Accounted (readAnchor c) := by
  simp [readAnchor]

@[simp] theorem accounted_unescapeTag (fuel : Nat) (s : List Char)
    (run : List UInt8) : Accounted (unescapeTag fuel s run) := by
  fun_induction unescapeTag fuel s run <;> simp_all

@[simp] theorem accounted_readTagBody : Accounted (readTagBody c) := by
  simp [readTagBody]

@[simp] theorem accounted_readHandle : Accounted (readHandle c) := by
  unfold readHandle
  split <;> simp

@[simp] theorem accounted_readTag : Accounted (readTag c) := by
  simp only [readTag]
  split <;> simp

@[simp] theorem accounted_endLine : Accounted (endLine c) := by
  simp [endLine]

@[simp] theorem accounted_readVersionNumber :
    Accounted (readVersionNumber c) := by
  simp [readVersionNumber, Fault.family]

@[simp] theorem accounted_readDirective : Accounted (readDirective c) := by
  simp [readDirective]

@[simp] theorem accounted_readIncrement : Accounted (readIncrement c) := by
  unfold readIncrement
  split <;> simp

@[simp] theorem accounted_readBlockHeader :
    Accounted (readBlockHeader c) := by
  simp [readBlockHeader]

@[simp] theorem accounted_readBlock (folded : Bool) (margin : Nat) :
    Accounted (readBlock folded margin c) := by
  simp [readBlock]

/-- Codes beyond the last character are refused in two ways, and only one of
them is a refusal of a value. -/
@[simp] theorem accounted_checkCode (code : Nat) :
    Accounted (checkCode code) := by
  simp [checkCode, Fault.family, Fault.IsStray]

@[simp] theorem accounted_readCode (length : Nat) :
    Accounted (readCode length c) := by
  simp [readCode]

@[simp] theorem accounted_quotedBreaks (fuel : Nat) :
    Accounted (quotedBreaks fuel c) := by
  induction fuel generalizing c with
  | zero => simp [quotedBreaks]
  | succ fuel ih =>
      simp only [quotedBreaks]
      split
      · simp
      split <;> simp [ih]

@[simp] theorem accounted_quotedGap : Accounted (quotedGap c) := by
  simp only [quotedGap]
  split <;> simp

@[simp] theorem accounted_readEscape : Accounted (readEscape c) := by
  unfold readEscape
  repeat' split
  all_goals simp

@[simp] theorem accounted_readQuotedFrom (quote : Char) (fuel : Nat) :
    Accounted (readQuotedFrom quote fuel c) := by
  induction fuel generalizing c with
  | zero => simp [readQuotedFrom]
  | succ fuel ih =>
      simp only [readQuotedFrom]
      split <;> simp [ih]

@[simp] theorem accounted_readQuoted (quote : Char) :
    Accounted (readQuoted quote c) := by
  simp [readQuoted]

end Readers

/-! ## Scanning -/

/-- Where cutting breaks off, the problem is accounted for. -/
def Cut.Accounted (cut : Cut) : Prop :=
  Yaml.Accounted (.error (cut.problem.getD .malformed) : Reading Unit)

namespace Scanner

variable (s : Scanner)

@[simp] theorem accounted_dropStale : Accounted s.dropStale := by
  simp [dropStale]

@[simp] theorem accounted_dropCandidate : Accounted s.dropCandidate := by
  unfold dropCandidate
  split <;> simp

@[simp] theorem accounted_addCandidate : Accounted s.addCandidate := by
  simp [addCandidate]

@[simp] theorem accounted_leaveBlocks : Accounted s.leaveBlocks := by
  simp [leaveBlocks]

@[simp] theorem accounted_openFlow (t : Token) : Accounted (s.openFlow t) := by
  simp [openFlow]

@[simp] theorem accounted_closeFlow (t : Token) :
    Accounted (s.closeFlow t) := by
  simp [closeFlow]

@[simp] theorem accounted_readComma : Accounted s.readComma := by
  simp [readComma]

@[simp] theorem accounted_beginBlock (t : Token) :
    Accounted (s.beginBlock t) := by
  simp only [beginBlock]
  split
  · simp
  split
  · simp
  split <;> simp

@[simp] theorem accounted_readEntry : Accounted s.readEntry := by
  simp [readEntry]

@[simp] theorem accounted_readKey : Accounted s.readKey := by
  simp [readKey]

@[simp] theorem accounted_readValue : Accounted s.readValue := by
  unfold readValue
  split <;> simp

@[simp] theorem accounted_pushName (t : Token) (after : Cursor) :
    Accounted (s.pushName t after) := by
  simp [pushName]

@[simp] theorem accounted_pushBlock (folded : Bool) :
    Accounted (s.pushBlock folded) := by
  simp [pushBlock]

@[simp] theorem accounted_pushQuoted (quote : Char) :
    Accounted (s.pushQuoted quote) := by
  simp [pushQuoted]

@[simp] theorem accounted_pushPlain : Accounted s.pushPlain := by
  simp [pushPlain]

@[simp] theorem accounted_readToken (c : Char) (rest : List Char) :
    Accounted (s.readToken c rest) := by
  simp [readToken]

@[simp] theorem accounted_step : Accounted s.step := by
  simp only [step]
  refine .bind (by simp) fun s => ?_
  split <;> simp

theorem accounted_run (fuel : Nat) : (s.run fuel).Accounted := by
  induction fuel generalizing s with
  | zero => exact Accounted.malformed
  | succ fuel ih =>
      have hstep := s.accounted_step
      unfold run
      split
      · exact Accounted.malformed
      · exact ih _
      next problem hproblem =>
        rw [hproblem] at hstep
        exact hstep.error

end Scanner

theorem accounted_tokens (s : List Char) : (tokens s).Accounted :=
  Scanner.accounted_run _ _

/-- Nesting that is too deep is one of the stray causes. -/
theorem Cut.Accounted.within {cut : Cut} (h : cut.Accounted) (limit : Nat) :
    (cut.within limit).Accounted := by
  unfold Cut.within
  split
  · exact h
  · simp [Cut.Accounted, Fault.IsStray]

end Yaml

end TokenSplit
