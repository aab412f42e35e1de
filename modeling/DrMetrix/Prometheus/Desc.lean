import Mathlib.Data.List.Sort
import Mathlib.Data.String.Basic

/-! # Metric descriptors

The part of the prometheus 0.13 client which the collectors rely on when they
build and register metrics: option builders, the full-name rule, descriptor
validation, and when two descriptors conflict in one registry.
-/

namespace DrMetrix.Prometheus

inductive Error where
  | alreadyReg
  | msg (text : String)
  deriving DecidableEq, Repr

/-- `Opts` with the builder methods the constructors use. `ns` is the namespace. -/
structure Opts where
  ns : String := ""
  subsystem : String := ""
  name : String
  help : String
  constLabels : List (String × String) := []
  variableLabels : List String := []

namespace Opts

def new (name help : String) : Opts := { name, help }

def withNamespace (ns : String) (opts : Opts) : Opts := { opts with ns }

def withSubsystem (subsystem : String) (opts : Opts) : Opts := { opts with subsystem }

def withVariableLabels (variableLabels : List String) (opts : Opts) : Opts :=
  { opts with variableLabels }

/-- `build_fq_name`: the nonempty parts joined by `_`. -/
def fqName (opts : Opts) : String :=
  if opts.name = "" then ""
  else if opts.ns ≠ "" ∧ opts.subsystem ≠ "" then
    opts.ns ++ "_" ++ opts.subsystem ++ "_" ++ opts.name
  else if opts.ns ≠ "" then opts.ns ++ "_" ++ opts.name
  else if opts.subsystem ≠ "" then opts.subsystem ++ "_" ++ opts.name
  else opts.name

end Opts

/-- A first character from the class, then characters from it or digits. -/
def isValidIdent (charset : Char → Bool) (input : String) : Bool :=
  match input.toList with
  | [] => false
  | c :: cs => charset c && cs.all fun d => charset d || d.isDigit

def isValidMetricName (name : String) : Bool :=
  isValidIdent (fun c => c.isAlpha || c == '_' || c == ':') name

def isValidLabelName (name : String) : Bool :=
  isValidIdent (fun c => c.isAlpha || c == '_') name

structure Desc where
  fqName : String
  help : String
  constLabels : List (String × String)
  variableLabels : List String
  deriving DecidableEq

namespace Desc

def new (fqName help : String) (variableLabels : List String)
    (constLabels : List (String × String)) : Except Error Desc :=
  if help = "" then .error (.msg "empty help string")
  else if ¬ isValidMetricName fqName then
    .error (.msg ("'" ++ fqName ++ "' is not a valid metric name"))
  else if ¬ ∀ label ∈ constLabels, isValidLabelName label.1 then
    .error (.msg "invalid const label name")
  else if ¬ ∀ label ∈ variableLabels, isValidLabelName label then
    .error (.msg "invalid variable label name")
  else if ¬ (constLabels.map Prod.fst).Nodup then .error (.msg "duplicate const label name")
  else if ¬ variableLabels.Nodup then .error (.msg "duplicate variable label name")
  else .ok { fqName, help, constLabels, variableLabels }

/-- The full name and the constant labels. -/
def identity (d : Desc) : String × List (String × String) := (d.fqName, d.constLabels)

/-- What identifies a descriptor in a registry: its name and its constant label values, the
    values in the order of their label names. -/
def id (d : Desc) : String × List String :=
  (d.fqName, (d.constLabels.insertionSort fun a b => a.1 ≤ b.1).map Prod.snd)

/-- What all descriptors of one name must share: the help and the label names. -/
def dims (d : Desc) : String × List String :=
  (d.help, (d.constLabels.map Prod.fst ++ d.variableLabels.map ("$" ++ ·)).insertionSort (· ≤ ·))

/-- `Registry::register` refuses a descriptor which conflicts with one it holds. -/
def Conflicts (d e : Desc) : Prop := d.id = e.id ∨ d.fqName = e.fqName ∧ d.dims ≠ e.dims

instance (d e : Desc) : Decidable (d.Conflicts e) :=
  inferInstanceAs (Decidable (d.id = e.id ∨ d.fqName = e.fqName ∧ d.dims ≠ e.dims))

theorem Conflicts.refl (d : Desc) : d.Conflicts d := .inl rfl

theorem Conflicts.symm {d e : Desc} (h : d.Conflicts e) : e.Conflicts d := by
  rcases h with same | ⟨name, differ⟩
  · exact .inl same.symm
  · exact .inr ⟨name.symm, differ.symm⟩

/-- Conflicting descriptors have one full name. -/
theorem Conflicts.fqName_eq {d e : Desc} (h : d.Conflicts e) : d.fqName = e.fqName := by
  rcases h with same | ⟨name, -⟩
  · exact congrArg Prod.fst same
  · exact name

theorem new_ok {fqName help variableLabels constLabels} {d : Desc}
    (h : new fqName help variableLabels constLabels = .ok d) :
    d = { fqName, help, constLabels, variableLabels } := by
  unfold new at h
  split_ifs at h
  exact (Except.ok.inj h).symm

end Desc

/-- `Describer::describe`. -/
def Opts.describe (opts : Opts) : Except Error Desc :=
  Desc.new opts.fqName opts.help opts.variableLabels opts.constLabels

theorem Opts.describe_ok {opts : Opts} {d : Desc} (h : opts.describe = .ok d) :
    d.fqName = opts.fqName ∧ d.help = opts.help ∧ d.constLabels = opts.constLabels ∧
      d.variableLabels = opts.variableLabels := by
  obtain rfl := Desc.new_ok h
  exact ⟨rfl, rfl, rfl, rfl⟩

end DrMetrix.Prometheus
