import MipTexture.Error

/-!
# Environments

An environment gives values to names. It is set up variable by variable; a null character cannot be set,
neither in a name nor in a value.

Main statements: setting what is missing leaves what is there (`setMissing_of_some`).
-/

namespace MipTexture

structure Binding where
  name : Text
  value : Text
  deriving Repr, DecidableEq

def Binding.WithoutNull (b : Binding) : Prop := '\x00' ∉ b.name ∧ '\x00' ∉ b.value

instance (b : Binding) : Decidable b.WithoutNull := inferInstanceAs (Decidable (_ ∧ _))

abbrev Environment := Text → Option Text

namespace Environment

def empty : Environment := fun _ => none

/-- The environment with a variable set, or why it cannot be set. -/
def set (env : Environment) (b : Binding) : Except Error Environment :=
  if ¬b.WithoutNull then .error (.refused .nullByte)
  else if '=' ∈ b.name then .error (.refused .variableName)
  else if b.name = [] then .error (.system (.device "[Errno 22] Invalid argument"))
  else .ok (fun name => if name = b.name then some b.value else env name)

def ofBindings (vars : List Binding) : Except Error Environment := vars.foldlM set empty

/-- The environment after the variables that it misses were set one by one. The first that cannot be set
ends it. -/
def setMissing (env : Environment) : List Binding → Environment
  | [] => env
  | b :: rest =>
    if (env b.name).isSome then env.setMissing rest
    else
      match env.set b with
      | .ok later => setMissing later rest
      | .error _ => env

theorem set_eq_ok {env later : Environment} {b : Binding} (h : env.set b = .ok later) :
    later = fun name => if name = b.name then some b.value else env name := by
  unfold set at h
  split at h
  · cases h
  · split at h
    · cases h
    · split at h
      · cases h
      · exact (Except.ok.inj h).symm

theorem setMissing_of_some {env : Environment} {name value : Text} (h : env name = some value)
    (vars : List Binding) : env.setMissing vars name = some value := by
  induction vars generalizing env with
  | nil => exact h
  | cons b rest ih =>
    unfold setMissing
    split
    · exact ih h
    · rename_i hmissing
      cases hset : env.set b with
      | error e => exact h
      | ok later =>
        apply ih
        have hname : name ≠ b.name := by
          rintro rfl
          simp [h] at hmissing
        rw [set_eq_ok hset]
        simp only [if_neg hname, h]

end Environment

end MipTexture
