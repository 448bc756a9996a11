set_option autoImplicit false

/-! Named texts: the variables of a process, and the values of a settings file. -/

namespace SavingsSite

/-- A finite map from names to texts; the first entry of a name counts. -/
abbrev Environment := List (String × String)

inductive VariableFault where
  | zeroCharacter
  | equalsSign
  | noName
  deriving DecidableEq, Repr

def VariableFault.message : VariableFault → String
  | zeroCharacter => "embedded null byte"
  | equalsSign => "illegal environment variable name"
  | noName => "[Errno 22] Invalid argument"

namespace Environment

def get? (name : String) : Environment → Option String
  | [] => none
  | (other, value) :: rest => if other = name then some value else get? name rest

def erase (name : String) (env : Environment) : Environment :=
  env.filter fun entry => entry.1 ≠ name

def set (name value : String) (env : Environment) : Environment :=
  (name, value) :: erase name env

/-- What is wrong with a variable: neither part may hold the character zero, and the name is a
text without an equals sign that is not empty. -/
def fault? (name value : String) : Option VariableFault :=
  if name.toList.contains '\x00' || value.toList.contains '\x00' then some .zeroCharacter
  else if name.toList.contains '=' then some .equalsSign
  else if name = "" then some .noName
  else none

def ofEntries (entries : List (String × String)) : Except VariableFault Environment :=
  match entries.findSome? fun (name, value) => fault? name value with
  | some fault => .error fault
  | none => .ok entries

end Environment

end SavingsSite
