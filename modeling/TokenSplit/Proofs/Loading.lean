import TokenSplit.Proofs.Config
import TokenSplit.Proofs.Yaml.Refusal

/-!
# Which faults loading has

Callers are told that loading fails because the file is missing, because it is no text or no
document, or because a value is wrong.  Other families come from the disk, for a directory or a
name that is too long, and from the reader of documents, whose faults are handed on; they come from
nowhere else.  The reader of this library has such faults only where a scalar is refused for a stray
cause, or where a document is nested too deeply.
-/

namespace TokenSplit

/-- The families of faults that callers of loading are told about. -/
def Family.IsDocumented : Family → Bool
  | value => true
  | missingFile => true
  | document => true
  | encoding => true
  | _ => false

theorem Fault.not_documented_of_isStray {fault : Fault} (h : fault.IsStray) :
    fault.family.IsDocumented = false := by
  unfold IsStray at h
  split at h
  case h_9 => cases h
  all_goals rfl

namespace Config

/-- Every fault is of a documented family. -/
def Documented {α : Type} (x : Except Fault α) : Prop :=
  ∀ fault, x = .error fault → fault.family.IsDocumented

@[simp] theorem documented_error_iff {α : Type} {fault : Fault} :
    Documented (.error fault : Except Fault α) ↔
      fault.family.IsDocumented := by
  constructor
  · intro h
    exact h fault rfl
  · intro hfault other h
    cases h
    exact hfault

instance {α : Type} (x : Except Fault α) : Decidable (Documented x) :=
  match x with
  | .ok _ => .isTrue (by intro fault h; cases h)
  | .error _ => decidable_of_iff _ documented_error_iff.symm

theorem documented_ofValue (arrangement : Arrangement) (given : Value) :
    Documented (ofValue arrangement given) := by
  intro fault h
  rw [ofValue_failsAs given fault h]
  rfl

theorem documented_ofOctets_iff (host : Host) (path : String)
    (octets : List UInt8) :
    Documented (ofOctets host path octets) ↔
      ∀ fault, host.read octets = .error (.failed fault) →
        fault.family.IsDocumented := by
  unfold ofOctets
  cases host.read octets with
  | ok given => simp [documented_ofValue]
  | error refusal =>
      cases refusal with
      | malformed diagnostic => simp [Fault.family, Family.IsDocumented]
      | failed fault => simp

/-- Loading gives a configuration or a fault of a documented family, unless the path is too long or
leads to a directory, or the reader fails on the file with a fault that is of no documented family
itself. -/
theorem load_documented_iff (host : Host) (path : String) :
    Documented (load host path) ↔
      host.disk.find (Path.ofString path) ≠ .tooLong ∧
      host.disk.find (Path.ofString path) ≠ .found .directory ∧
      ∀ octets,
        host.disk.find (Path.ofString path) = .found (.file octets) →
        ∀ fault, host.read octets = .error (.failed fault) →
          fault.family.IsDocumented := by
  simp only [load]
  cases hfind : host.disk.find (Path.ofString path) with
  | missing => simp [Fault.family, Family.IsDocumented]
  | tooLong => simp [Fault.family, Family.IsDocumented]
  | found node =>
      cases node with
      | directory => simp [Fault.family, Family.IsDocumented]
      | file octets => simp [documented_ofOctets_iff]

theorem load_not_documented_empty_numeral :
    ¬Documented (load
      (Host.standard (Disk.empty.write "config.yaml"
        (.file "threshold: !!int ''".toUTF8.toList))) "config.yaml") := by
  decide +kernel

/-! ## The reader of this library -/

/-- What stands in a text is refused for a stray cause. -/
def StrayText (s : List Char) : Prop :=
  ∃ fault, Yaml.read s = .error (.refused fault) ∧ fault.IsStray

theorem documented_reader_iff (octets : List UInt8) :
    (∀ fault, Yaml.reader octets = .error (.failed fault) →
      fault.family.IsDocumented) ↔
      ∀ s, Text.decodeUtf8 octets = .ok s → ¬StrayText s := by
  unfold Yaml.reader StrayText
  cases Text.decodeUtf8 octets with
  | error fault => simp [Fault.family, Family.IsDocumented]
  | ok s =>
      have haccounted := Yaml.accounted_read s
      cases hread : Yaml.read s with
      | ok given => simp [hread]
      | error problem =>
          cases problem with
          | malformed => simp [hread]
          | brokenOff => simp [hread]
          | refused fault =>
              have hcause := haccounted fault hread
              simp only [Except.error.injEq, Refusal.failed.injEq,
                Except.ok.injEq, forall_eq', hread,
                Yaml.Problem.refused.injEq, exists_eq_left']
              constructor
              · intro hdocumented hstray
                rw [Fault.not_documented_of_isStray hstray] at hdocumented
                cases hdocumented
              · intro hnot
                rw [hcause.resolve_right hnot]
                rfl

/-- With the reader of this library, a path that is neither too long nor that of a directory leads
to an undocumented family just if the file is a text that is refused for a stray cause. -/
theorem load_standard_documented_iff (disk : Disk) (path : String) :
    Documented (load (Host.standard disk) path) ↔
      disk.find (Path.ofString path) ≠ .tooLong ∧
      disk.find (Path.ofString path) ≠ .found .directory ∧
      ∀ octets, disk.find (Path.ofString path) = .found (.file octets) →
        ∀ s, Text.decodeUtf8 octets = .ok s → ¬StrayText s := by
  have hreader (octets : List UInt8) := documented_reader_iff octets
  simp only [← hreader]
  exact load_documented_iff (Host.standard disk) path

end Config

end TokenSplit
