import MipTexture.Error
import MipTexture.FilePath

/-!
# Home directories

A relative path whose first name starts with a tilde starts at a home directory: a tilde alone is the
home of the user, a tilde with a name that of another account. The accounts are those of the system.

Main statements: a path that does not start with a tilde stays what it is (`expandHome_of_not_tilde`).
-/

namespace MipTexture

/-- The home directories that the system has on record: that of the user, and those of accounts by their
names. -/
structure Accounts where
  own : Option Text
  home : Text → Option Text

namespace Accounts

/-- A home that is on record starts at the top. An empty one is the top itself. -/
def Absolute (accounts : Accounts) : Prop :=
  ∀ name home, accounts.home name = some home → home = [] ∨ home.head? = some '/'

/-- The home of an account. The user is the account without a name, and can say another home. -/
def homeOf (accounts : Accounts) (said : Option Text) (name : Text) : Option Text :=
  if name = [] then said.or accounts.own else accounts.home name

end Accounts

namespace FilePath

def StartsWithTilde (p : FilePath) : Prop :=
  p.anchor = .here ∧ ∃ user rest, p.parts = ('~' :: user) :: rest

/-- The text of the home directory without slashes at its end; nothing left is the top. -/
def homeText (home : Text) : Text :=
  let trimmed := (home.reverse.dropWhile (· = '/')).reverse
  if trimmed = [] then ['/'] else trimmed

/-- The home directory as a path. It has to be known, and cannot itself start with a tilde. -/
def ofHome : Option Text → Except Error FilePath
  | none => .error .noHome
  | some home =>
    if (homeText home).head? = some '~' then .error .noHome else .ok (ofText (homeText home))

def expandHome (accounts : Accounts) (home : Option Text) (p : FilePath) : Except Error FilePath :=
  match p.anchor, p.parts with
  | .here, ('~' :: name) :: rest =>
    (ofHome (accounts.homeOf home name)).map (fun base => ⟨base.anchor, base.parts ++ rest⟩)
  | _, _ => .ok p

theorem expandHome_of_not_tilde {accounts : Accounts} {home : Option Text} {p : FilePath}
    (h : ¬p.StartsWithTilde) : p.expandHome accounts home = .ok p := by
  unfold expandHome
  split
  · rename_i name rest hanchor hparts
    exact absurd ⟨hanchor, name, rest, hparts⟩ h
  · rfl

end FilePath

end MipTexture
